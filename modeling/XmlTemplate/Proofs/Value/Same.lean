import XmlTemplate.Options

/-!
# Equality of keys

Keys are compared with each other where dictionaries and the store of compiled templates look for
them. Being found in the place of another is symmetric and transitive for keys, and keys that are
found in each other's place are both true or both false, as their permission for continuations asks
(`Settings.permission_eq_of_same`). This rests on what marks are for: sequences with the same mark
are one and the same, so that one may stand for the other without being looked into
(`Value.MarkedAs`).
-/

set_option autoImplicit false

namespace XmlTemplate

namespace Value

mutual

/-- A key in which every sequence with a mark holds what the mark stands for. -/
def MarkedAs (contents : Nat → List Value) : Value → Prop
  | tuple mark items => (∀ id ∈ mark, items = contents id) ∧ AllMarkedAs contents items
  | format unit => MarkedAs contents unit
  | _ => True

/-- Keys in which every sequence with a mark holds what the mark stands for. -/
def AllMarkedAs (contents : Nat → List Value) : List Value → Prop
  | [] => True
  | v :: rest => MarkedAs contents v ∧ AllMarkedAs contents rest

end

/-- A value that can be a key, marked as the others are. -/
structure IsKeyOf (contents : Nat → List Value) (v : Value) : Prop where
  key : v.isKey = true
  marked : v.MarkedAs contents

variable {contents : Nat → List Value} {u v w : Value} {n : Nat}

theorem allKeysOf {vs : List Value} (hkeys : areKeys vs = true) (hmarked : AllMarkedAs contents vs) :
    ∀ v ∈ vs, v.IsKeyOf contents := by
  induction vs with
  | nil => exact List.forall_mem_nil _
  | cons v rest ih =>
    simp only [areKeys, Bool.and_eq_true] at hkeys
    exact List.forall_mem_cons.2 ⟨⟨hkeys.1, hmarked.1⟩, ih hkeys.2 hmarked.2⟩

theorem IsKeyOf.items {mark : Mark} {items : List Value}
    (h : (tuple mark items).IsKeyOf contents) : ∀ v ∈ items, v.IsKeyOf contents :=
  allKeysOf (by simpa only [isKey] using h.key) h.marked.2

theorem IsKeyOf.unit (h : (format u).IsKeyOf contents) : u.IsKeyOf contents :=
  ⟨by simpa only [isKey] using h.key, h.marked⟩

/-! ## One and the same -/

/-- Keys that are one and the same are equal. -/
theorem eq_of_identical (hv : v.IsKeyOf contents) (hw : w.IsKeyOf contents)
    (h : v.identical w = true) : v = w := by
  unfold identical at h
  split at h
  case h_7 mark xs mark' ys =>
    simp only [Bool.and_eq_true, beq_iff_eq] at h
    obtain ⟨hsome, rfl⟩ := h
    obtain ⟨id, rfl⟩ := Option.isSome_iff_exists.1 hsome
    rw [hv.marked.1 id rfl, hw.marked.1 id rfl]
  -- lists and dictionaries are no keys
  case h_6 => cases hv.key
  case h_8 => cases hv.key
  case h_9 => cases h
  all_goals simp_all

theorem identical_symm (h : v.identical w = true) : w.identical v = true := by
  unfold identical at h
  split at h
  case h_1 => rfl
  case h_6 | h_7 =>
    simp only [Bool.and_eq_true, beq_iff_eq] at h
    obtain ⟨hsome, rfl⟩ := h
    simp only [identical, hsome, beq_self_eq_true, Bool.and_self]
  case h_9 => cases h
  all_goals simp_all only [identical, beq_iff_eq, Bool.and_eq_true, and_self]

/-! ## Equal after one step

What comparing two keys comes to at first sight, where what is inside of them is compared in the
room that is left. -/

/-- Keys that are equal, if what they hold is the same in the given room. -/
inductive EqualsBy (n : Nat) : Value → Value → Prop
  | number {v w : Value} {a : Number} (hv : v.number? = some a) (hw : w.number? = some a) :
      EqualsBy n v w
  | nothing : EqualsBy n none none
  | text (m m' : Mark) (s : Text) : EqualsBy n (str m s) (str m' s)
  | tuple {m m' : Mark} {xs ys : List Value} (h : matchesAll n xs ys = .ok true) :
      EqualsBy n (tuple m xs) (tuple m' ys)
  | range {a b c a' b' c' : Int} (hlength : rangeLength a b c = rangeLength a' b' c')
      (hfirst : rangeLength a b c ≠ 0 → a = a')
      (hstep : rangeLength a b c ≠ 0 → rangeLength a b c ≠ 1 → c = c') :
      EqualsBy n (range a b c) (range a' b' c')
  | format {u v : Value} (h : u.sameWithin (n - comparedLayoutRoom) v = .ok true) :
      EqualsBy n (format u) (format v)
  | entriesMethod (i : Nat) (es fs : List (Value × Value)) :
      EqualsBy n (entriesMethod i es) (entriesMethod i fs)
  | iterator (i : Nat) : EqualsBy n (iterator i) (iterator i)
  | document (i : Nat) : EqualsBy n (document i) (document i)
  | builtin (b : Builtin) : EqualsBy n (builtin b) (builtin b)
  | textMethod (m : TextMethod) (mark : Mark) (s : Text) :
      EqualsBy n (textMethod m mark s) (textMethod m mark s)
  | documentMethod (m : DocumentMethod) (i : Nat) :
      EqualsBy n (documentMethod m i) (documentMethod m i)
  | formatMethod (m : FormatMethod) : EqualsBy n (formatMethod m) (formatMethod m)

theorem equalsBy_of_equalWithin (hv : v.isKey = true)
    (h : v.equalWithin (n + 1) w = .ok true) : EqualsBy n v w := by
  unfold equalWithin at h
  split at h
  case h_1 hn => cases hn
  case h_2 => exact .nothing
  case h_3 =>
    obtain rfl := eq_of_beq (Except.ok.inj h)
    exact .text _ _ _
  case h_5 hn =>
    cases hn
    exact .tuple h
  case h_8 =>
    simp only [Except.ok.injEq, Bool.and_eq_true, Bool.or_eq_true, beq_iff_eq] at h
    obtain ⟨hlength, hrest⟩ := h
    refine .range hlength (fun hfilled => ?_) fun hfilled hmore => ?_
    · exact (hrest.resolve_left hfilled).1
    · exact (hrest.resolve_left hfilled).2.resolve_left hmore
  case h_10 hn =>
    cases hn
    exact .format h
  case h_17 =>
    split at h
    · next hv hw =>
      obtain rfl := eq_of_beq (Except.ok.inj h)
      exact .number hv hw
    · cases h
  -- lists, dictionaries and their entries are no keys
  case h_4 | h_6 | h_7 => cases hv
  case h_9 =>
    obtain rfl := eq_of_beq (Except.ok.inj h)
    exact .iterator _
  case h_11 =>
    obtain rfl := eq_of_beq (Except.ok.inj h)
    exact .document _
  case h_12 =>
    obtain rfl := eq_of_beq (Except.ok.inj h)
    exact .builtin _
  case h_14 =>
    obtain rfl := eq_of_beq (Except.ok.inj h)
    exact .entriesMethod _ _ _
  case h_16 =>
    obtain rfl := eq_of_beq (Except.ok.inj h)
    exact .formatMethod _
  all_goals
    simp only [Except.ok.injEq, Bool.and_eq_true, beq_iff_eq] at h
  case h_13 =>
    obtain ⟨⟨rfl, rfl⟩, rfl⟩ := h
    exact .textMethod _ _ _
  case h_15 =>
    obtain ⟨rfl, rfl⟩ := h
    exact .documentMethod _ _

/-- Numbers are compared by what they count. -/
theorem equalWithin_number {a b : Number} (hv : v.number? = some a) (hw : w.number? = some b) :
    v.equalWithin (n + 1) w = .ok (a == b) := by
  unfold equalWithin
  split
  case h_1 hn => cases hn
  case h_17 => rw [hv, hw]
  all_goals cases hv

theorem equalWithin_of_equalsBy (h : EqualsBy n v w) : v.equalWithin (n + 1) w = .ok true := by
  cases h with
  | number hv hw => rw [equalWithin_number hv hw, beq_self_eq_true]
  | tuple h => rw [equalWithin, h]
  | format h => rwa [equalWithin]
  | range hlength hfirst hstep =>
    simp only [equalWithin, Except.ok.injEq, Bool.and_eq_true, Bool.or_eq_true, beq_iff_eq]
    refine ⟨hlength, Decidable.or_iff_not_imp_left.2 fun hfilled => ⟨hfirst hfilled, ?_⟩⟩
    exact Decidable.or_iff_not_imp_left.2 (hstep hfilled)
  | _ => simp only [equalWithin, beq_self_eq_true, Bool.and_self]

/-- Keys are equal if and only if they are at first sight and what they hold is. -/
theorem equalWithin_eq_true_iff (hv : v.isKey = true) :
    v.equalWithin (n + 1) w = .ok true ↔ EqualsBy n v w :=
  ⟨equalsBy_of_equalWithin hv, equalWithin_of_equalsBy⟩

theorem sameWithin_eq_true_iff :
    v.sameWithin n w = .ok true ↔ v.identical w = true ∨ v.equalWithin n w = .ok true := by
  rw [sameWithin]
  split
  · next h => exact iff_of_true rfl (.inl h)
  · next h => exact ⟨.inr, fun hor => hor.resolve_left h⟩

/-- Lists of the same length match place by place. -/
theorem matchesAll_cons {xs ys : List Value} :
    matchesAll n (v :: xs) (w :: ys) = .ok true ↔
      v.sameWithin n w = .ok true ∧ matchesAll n xs ys = .ok true := by
  rw [matchesAll, sameWithin]
  by_cases h : v.identical w = true
  · simp only [if_pos h, true_and]
  · rw [if_neg h, if_neg h]
    split
    · next heq => simp only [heq, true_and]
    · next answer hne =>
      constructor
      · intro h
        exact absurd h (hne ·)
      · rintro ⟨h, -⟩
        exact absurd h hne

/-! ## An equivalence of keys -/

/-- What lists hold matches the other way round, if that is so of each item. -/
theorem matchesAll_symm {xs ys : List Value}
    (h : ∀ x ∈ xs, ∀ y ∈ ys, x.sameWithin n y = .ok true → y.sameWithin n x = .ok true)
    (hmatches : matchesAll n xs ys = .ok true) : matchesAll n ys xs = .ok true := by
  induction xs generalizing ys with
  | nil =>
    cases ys with
    | nil => exact hmatches
    | cons y ys => cases hmatches
  | cons x xs ih =>
    cases ys with
    | nil => cases hmatches
    | cons y ys =>
      obtain ⟨hfirst, hrest⟩ := matchesAll_cons.1 hmatches
      refine matchesAll_cons.2 ⟨h x (.head xs) y (.head ys) hfirst, ih (fun a ha b hb => ?_) hrest⟩
      exact h a (.tail x ha) b (.tail y hb)

theorem matchesAll_trans {xs ys zs : List Value}
    (h : ∀ x ∈ xs, ∀ y ∈ ys, ∀ z ∈ zs, x.sameWithin n y = .ok true → y.sameWithin n z = .ok true →
      x.sameWithin n z = .ok true)
    (hxy : matchesAll n xs ys = .ok true) (hyz : matchesAll n ys zs = .ok true) :
    matchesAll n xs zs = .ok true := by
  induction xs generalizing ys zs with
  | nil =>
    cases ys with
    | nil => exact hyz
    | cons y ys => cases hxy
  | cons x xs ih =>
    cases ys with
    | nil => cases hxy
    | cons y ys =>
      cases zs with
      | nil => cases hyz
      | cons z zs =>
        obtain ⟨hfirst, hrest⟩ := matchesAll_cons.1 hxy
        obtain ⟨hfirst', hrest'⟩ := matchesAll_cons.1 hyz
        refine matchesAll_cons.2 ⟨h x (.head xs) y (.head ys) z (.head zs) hfirst hfirst',
          ih (fun a ha b hb c hc => ?_) hrest hrest'⟩
        exact h a (.tail x ha) b (.tail y hb) c (.tail z hc)

/-- Where a key is found that is the same as another, the other is found in its place. -/
theorem sameWithin_symm (n : Nat) : ∀ {v w : Value}, v.IsKeyOf contents → w.IsKeyOf contents →
    v.sameWithin n w = .ok true → w.sameWithin n v = .ok true := by
  induction n using Nat.strongRecOn with
  | _ n ih =>
    intro v w hv hw h
    obtain hid | hequal := sameWithin_eq_true_iff.1 h
    · exact sameWithin_eq_true_iff.2 (.inl (identical_symm hid))
    cases n with
    | zero =>
      rw [equalWithin] at hequal
      cases hequal
    | succ n =>
      refine sameWithin_eq_true_iff.2 (.inr (equalWithin_of_equalsBy ?_))
      cases equalsBy_of_equalWithin hv.key hequal with
      | number hfirst hsecond => exact .number hsecond hfirst
      | nothing => exact .nothing
      | text m m' s => exact .text m' m s
      | tuple hitems =>
        refine .tuple (matchesAll_symm (fun x hx y hy => ?_) hitems)
        exact ih n (Nat.lt_succ_self n) (hv.items x hx) (hw.items y hy)
      | range hlength hfirst hstep =>
        rw [hlength] at hfirst hstep
        exact .range hlength.symm (fun hfilled => (hfirst hfilled).symm)
          fun hfilled hmore => (hstep hfilled hmore).symm
      | format hunit => exact .format (ih _ (by omega) hv.unit hw.unit hunit)
      | entriesMethod i es fs => exact .entriesMethod i fs es
      | iterator i => exact .iterator i
      | document i => exact .document i
      | builtin b => exact .builtin b
      | textMethod m mark s => exact .textMethod m mark s
      | documentMethod m i => exact .documentMethod m i
      | formatMethod m => exact .formatMethod m

/-- Keys that are the same as a third one are the same. -/
theorem sameWithin_trans (n : Nat) : ∀ {u v w : Value}, u.IsKeyOf contents →
    v.IsKeyOf contents → w.IsKeyOf contents → u.sameWithin n v = .ok true →
      v.sameWithin n w = .ok true → u.sameWithin n w = .ok true := by
  induction n using Nat.strongRecOn with
  | _ n ih =>
    intro u v w hu hv hw huv hvw
    -- the third key may take the place of one that it is one and the same with
    obtain hid | huv := sameWithin_eq_true_iff.1 huv
    · rwa [eq_of_identical hu hv hid]
    obtain hid | hvw := sameWithin_eq_true_iff.1 hvw
    · rw [← eq_of_identical hv hw hid]
      exact sameWithin_eq_true_iff.2 (.inr huv)
    cases n with
    | zero =>
      rw [equalWithin] at huv
      cases huv
    | succ n =>
      refine sameWithin_eq_true_iff.2 (.inr (equalWithin_of_equalsBy ?_))
      have hvw := equalsBy_of_equalWithin hv.key hvw
      cases equalsBy_of_equalWithin hu.key huv with
      | number h h' =>
        cases hvw with
        | number k k' =>
          rw [h'] at k
          cases k
          exact .number h k'
        | _ => cases h'
      | nothing => exact hvw
      | text m m' s =>
        cases hvw with
        | text _ m'' _ => exact .text m m'' s
        | number k => cases k
      | tuple h =>
        cases hvw with
        | tuple k =>
          refine .tuple (matchesAll_trans (fun x hx y hy z hz => ?_) h k)
          exact ih n (Nat.lt_succ_self n) (hu.items x hx) (hv.items y hy) (hw.items z hz)
        | number k => cases k
      | range hlength hfirst hstep =>
        cases hvw with
        | range klength kfirst kstep =>
          rw [← hlength] at klength kfirst kstep
          exact .range klength (fun hfilled => (hfirst hfilled).trans (kfirst hfilled))
            fun hfilled hmore => (hstep hfilled hmore).trans (kstep hfilled hmore)
        | number k => cases k
      | format h =>
        cases hvw with
        | format k => exact .format (ih _ (by omega) hu.unit hv.unit hw.unit h k)
        | number k => cases k
      | entriesMethod i es fs =>
        cases hvw with
        | entriesMethod _ _ gs => exact .entriesMethod i es gs
        | number k => cases k
      | iterator | document | builtin | textMethod | documentMethod | formatMethod => exact hvw

theorem same_iff : v.same w = true ↔ v.sameWithin maxCompared w = .ok true := by
  rw [sameWithin_eq_true_iff, same, Bool.or_eq_true, equal]
  refine or_congr_right ?_
  cases v.equalWithin maxCompared w with
  | error e => exact iff_of_false nofun nofun
  | ok b => simp only [Except.toOption, beq_iff_eq, Option.some.injEq, Except.ok.injEq]

theorem same_symm (hv : v.IsKeyOf contents) (hw : w.IsKeyOf contents) (h : v.same w = true) :
    w.same v = true :=
  same_iff.2 (sameWithin_symm maxCompared hv hw (same_iff.1 h))

theorem same_trans (hu : u.IsKeyOf contents) (hv : v.IsKeyOf contents) (hw : w.IsKeyOf contents)
    (huv : u.same v = true) (hvw : v.same w = true) : u.same w = true :=
  same_iff.2 (sameWithin_trans maxCompared hu hv hw (same_iff.1 huv) (same_iff.1 hvw))

/-! ## Truth -/

theorem matchesAll_isEmpty {xs ys : List Value} (h : matchesAll n xs ys = .ok true) :
    xs.isEmpty = ys.isEmpty := by
  cases xs <;> cases ys <;> first | rfl | cases h

/-- A number counts as false if it counts nothing. -/
theorem isTrue_number {a : Number} (h : v.number? = some a) :
    v.isTrue = (a != .finite 0) := by
  cases v with
  | bool b =>
    cases h
    cases b <;> rfl
  | int i =>
    cases h
    have hzero : Number.finite i = .finite 0 ↔ i = 0 := by
      rw [Number.finite.injEq]
      exact Rat.intCast_inj
    rw [isTrue, bne, bne, Bool.eq_iff_iff.2 (beq_iff_eq.trans (hzero.symm.trans beq_iff_eq.symm))]
  | float s =>
    simp only [number?] at h
    simp only [isTrue, h, bne]
    rfl
  | _ => cases h

/-- Keys that are the same are both true or both false. -/
theorem isTrue_eq_of_same (hv : v.IsKeyOf contents) (hw : w.IsKeyOf contents)
    (h : v.same w = true) : v.isTrue = w.isTrue := by
  obtain hid | hequal := sameWithin_eq_true_iff.1 (same_iff.1 h)
  · rw [eq_of_identical hv hw hid]
  have hequal : v.equalWithin (9999 + 1) w = .ok true := hequal
  cases equalsBy_of_equalWithin hv.key hequal with
  | number hfirst hsecond => rw [isTrue_number hfirst, isTrue_number hsecond]
  | tuple hitems => simp only [isTrue, matchesAll_isEmpty hitems]
  | range hlength => simp only [isTrue, hlength]
  | _ => rfl

end Value

/-! ## Settings -/

namespace Settings

/-- Settings in which every sequence with a mark holds what the mark stands for. -/
def MarkedAs (contents : Nat → List Value) : Settings → Prop
  | options o => o.continuations.MarkedAs contents
  | value v => v.MarkedAs contents

/-- Settings that can be a key, marked as the others are. -/
def IsKeyOf (contents : Nat → List Value) : Settings → Prop
  | options o => o.continuations.IsKeyOf contents
  | value v => v.IsKeyOf contents

variable {contents : Nat → List Value} {s t u : Settings}

theorem MarkedAs.isKeyOf (hmarked : s.MarkedAs contents) (hkey : s.isKey = true) :
    s.IsKeyOf contents := by
  cases s with
  | options o => exact ⟨hkey, hmarked⟩
  | value v => exact ⟨hkey, hmarked⟩

theorem same_symm (hs : s.IsKeyOf contents) (ht : t.IsKeyOf contents) (h : s.same t = true) :
    t.same s = true := by
  cases s with
  | options o =>
    cases t with
    | value v => cases h
    | options p =>
      simp only [same, Options.same, Bool.and_eq_true, beq_iff_eq] at h ⊢
      exact ⟨h.1.symm, Value.same_symm hs ht h.2⟩
  | value v =>
    cases t with
    | value w => exact Value.same_symm hs ht h
    | options p => cases h

theorem same_trans (hs : s.IsKeyOf contents) (ht : t.IsKeyOf contents) (hu : u.IsKeyOf contents)
    (hst : s.same t = true) (htu : t.same u = true) : s.same u = true := by
  cases t with
  | options p =>
    cases s with
    | value v => cases hst
    | options o =>
      cases u with
      | value v => cases htu
      | options q =>
        simp only [same, Options.same, Bool.and_eq_true, beq_iff_eq] at hst htu ⊢
        exact ⟨hst.1.trans htu.1, Value.same_trans hs ht hu hst.2 htu.2⟩
  | value v =>
    cases s with
    | options o => cases hst
    | value w =>
      cases u with
      | options q => cases htu
      | value x => exact Value.same_trans hs ht hu hst htu

/-- Settings that are the same say the same about continuations. -/
theorem permission_eq_of_same (hs : s.IsKeyOf contents) (ht : t.IsKeyOf contents)
    (h : s.same t = true) : s.permission = t.permission := by
  cases s with
  | options o =>
    cases t with
    | value v => cases h
    | options p =>
      simp only [same, Options.same, Bool.and_eq_true] at h
      have hallowed : o.allowContinuations = p.allowContinuations :=
        Value.isTrue_eq_of_same hs ht h.2
      simp only [permission, hallowed]
  | value v =>
    cases t with
    | value w => rfl
    | options p => cases h

end Settings

end XmlTemplate
