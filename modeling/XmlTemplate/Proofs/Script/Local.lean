import XmlTemplate.Proofs.Script.Silent

/-!
# How far a token of a script looks

Words, numbers and marks of a script end before a blank, a comment, a string, a bracket and a
backslash at the latest, and what stands behind such a character makes no difference to them.
Characters that a token can go on with are told by `isInner`; a text that starts with none of them
stops every token (`Stops`). The readers of numbers look ahead in several ways: for the fraction
after a point, for the sign of a power of ten and for the words that may follow a number. None of
them looks beyond a stop (`readNumber_append`).
-/

set_option autoImplicit false

namespace XmlTemplate.Script

/-- Characters that a word, a number or a mark may go on with. -/
def isInner (c : Char) : Bool := !(isScriptBlank c || c = '\\' || bracketing.contains c)

/-- No token goes on with the text. -/
def Stops (v : Text) : Prop := ∀ c ∈ v.head?, isInner c = false

theorem stops_cons {c : Char} {v : Text} (hc : isInner c = false) : Stops (c :: v) := by
  rintro _ ⟨⟩
  exact hc

theorem isPlain_of_isInner {c : Char} (h : isInner c = true) : IsPlain c := by
  intro hc
  have hcontains : bracketing.contains c = true := List.contains_iff_mem.2 hc
  rw [isInner, hcontains, Bool.or_true] at h
  cases h

/-- A class of characters that has no blank, no backslash and none of the characters around strings,
comments and groups. -/
theorem isInner_of_apart {p : Char → Bool}
    (hp : ((' ' :: '\t' :: '\x0c' :: '\n' :: '\\' :: bracketing).all fun c => !p c) = true)
    {c : Char} (hc : p c = true) : isInner c = true := by
  have hno : ∀ d ∈ ' ' :: '\t' :: '\x0c' :: '\n' :: '\\' :: bracketing, c ≠ d := by
    rintro d hd rfl
    have := List.all_eq_true.1 hp c hd
    rw [hc] at this
    cases this
  simp only [List.forall_mem_cons] at hno
  obtain ⟨hspace, htab, hfeed, hline, hback, hrest⟩ := hno
  have hnot : c ∉ bracketing := fun hmem => hrest c hmem rfl
  simp [isInner, isScriptBlank, hspace, htab, hfeed, hline, hback, hnot]

theorem isInner_of_isWordPart {c : Char} (h : isWordPart c = true) : isInner c = true :=
  isInner_of_apart (by decide) h

theorem isInner_of_isDigit {c : Char} (h : c.isDigit = true) : isInner c = true :=
  isInner_of_apart (p := Char.isDigit) (by decide) h

theorem isInner_of_isDigitOf {base : Nat} {c : Char} (h : isDigitOf base c = true) :
    isInner c = true := by
  have hno : ((' ' :: '\t' :: '\x0c' :: '\n' :: '\\' :: bracketing).all fun d =>
      (digit? d).isNone) = true := by decide
  refine isInner_of_apart (p := isDigitOf base) (List.all_eq_true.2 fun d hd => ?_) h
  simp [isDigitOf, Option.isNone_iff_eq_none.1 (List.all_eq_true.1 hno d hd)]

section

variable {w v : Text}

/-- No character of a class of inner characters stands at the head of what stops tokens. -/
theorem Stops.notHead {p : Char → Bool} (hp : ∀ c, p c = true → isInner c = true) (hv : Stops v) :
    ∀ c ∈ v.head?, p c = false := by
  intro c hc
  rw [Bool.eq_false_iff]
  intro h
  have hno := hv c hc
  rw [hp c h] at hno
  cases hno

theorem Stops.head_ne {c : Char} (hv : Stops v) (hc : isInner c = true) : v.head? ≠ some c := by
  intro h
  have hno := hv c h
  rw [hc] at hno
  cases hno

/-! ## Runs of characters -/

theorem takeWhile_stop {p : Char → Bool} (hp : ∀ c, p c = true → isInner c = true)
    (hv : Stops v) (w : Text) : (w ++ v).takeWhile p = w.takeWhile p := by
  induction w with
  | nil =>
    cases v with
    | nil => rfl
    | cons c v =>
      have hc := hv.notHead hp c rfl
      rw [List.nil_append, List.takeWhile_cons, hc]
      rfl
  | cons c w ih =>
    rw [List.cons_append, List.takeWhile_cons, List.takeWhile_cons, ih]

theorem dropWhile_stop {p : Char → Bool} (hp : ∀ c, p c = true → isInner c = true)
    (hv : Stops v) (w : Text) : (w ++ v).dropWhile p = w.dropWhile p ++ v := by
  induction w with
  | nil =>
    cases v with
    | nil => rfl
    | cons c v =>
      have hc := hv.notHead hp c rfl
      rw [List.nil_append, List.dropWhile_cons, hc]
      rfl
  | cons c w ih =>
    rw [List.cons_append, List.dropWhile_cons, List.dropWhile_cons, ih]
    split <;> rfl

/-- A text of inner characters is found before a stop only if it ends before it. -/
theorem isPrefixOf_stop {k : Text} (hk : ∀ c ∈ k, isInner c = true) (hv : Stops v) (w : Text) :
    k.isPrefixOf (w ++ v) = k.isPrefixOf w := by
  induction k generalizing w with
  | nil => cases w <;> rfl
  | cons c k ih =>
    obtain ⟨hc, hk⟩ := List.forall_mem_cons.1 hk
    cases w with
    | nil =>
      cases v with
      | nil => rfl
      | cons d v =>
        have hcd : (c == d) = false := by
          rw [beq_eq_false_iff_ne]
          rintro rfl
          exact hv.head_ne hc rfl
        simp [List.isPrefixOf, hcd]
    | cons d w => rw [List.cons_append, List.isPrefixOf, List.isPrefixOf, ih hk]

/-! ## Numbers -/

theorem readDigits_append (base : Nat) (hv : Stops v) (w : Text) :
    readDigits base (w ++ v) = (readDigits base w).map fun r => (r.1, r.2 ++ v) := by
  have hpart : ∀ c, (isDigitOf base c || c == '_') = true → isInner c = true := by
    intro c hc
    rw [Bool.or_eq_true] at hc
    rcases hc with hc | hc
    · exact isInner_of_isDigitOf hc
    · rw [eq_of_beq hc]
      decide
  simp only [readDigits]
  rw [takeWhile_stop hpart hv, dropWhile_stop hpart hv]
  split <;> rfl

theorem mayFollowNumber_append (hv : Stops v) (w : Text) :
    mayFollowNumber (w ++ v) = mayFollowNumber w := by
  have hwords : (["and", "else", "for", "if", "in", "is", "not", "or"].all fun k =>
      k.toList.all isInner) = true := by decide
  rw [mayFollowNumber, mayFollowNumber, Bool.eq_iff_iff, List.any_eq_true, List.any_eq_true]
  refine exists_congr fun k => and_congr_right fun hk => ?_
  have hinner := List.all_eq_true.1 (List.all_eq_true.1 hwords k hk)
  rw [isPrefixOf_stop hinner hv]

theorem endsNumber_stop (hv : Stops v) : endsNumber v = true := by
  cases v with
  | nil => rfl
  | cons c v =>
    have hc := hv.notHead (p := isWordPart) (fun c => isInner_of_isWordPart) c rfl
    rw [endsNumber, hc]
    rfl

theorem endsNumber_append (hv : Stops v) (w : Text) : endsNumber (w ++ v) = endsNumber w := by
  cases w with
  | nil => exact endsNumber_stop hv
  | cons c w =>
    have hfollow := mayFollowNumber_append hv (c :: w)
    rw [List.cons_append] at hfollow ⊢
    rw [endsNumber, endsNumber, hfollow]

theorem readFraction_append (hv : Stops v) (hw : w.head? = some '.') :
    readFraction (w ++ v) = (readFraction w).map (· ++ v) := by
  rcases w with _ | ⟨c, _ | ⟨d, w⟩⟩
  · cases hw
  · cases hw
    cases v with
    | nil => rfl
    | cons d v =>
      have hd := hv.notHead (p := Char.isDigit) (fun c => isInner_of_isDigit) d rfl
      change (if d.isDigit = true then _ else _) = _
      rw [if_neg (by rw [hd]; exact Bool.false_ne_true)]
      rfl
  · cases hw
    change (if d.isDigit = true then (readDigits 10 (d :: w ++ v)).map Prod.snd else _) =
      Option.map _ (if d.isDigit = true then (readDigits 10 (d :: w)).map Prod.snd else _)
    split
    · rw [readDigits_append 10 hv, Option.map_map, Option.map_map]
      rfl
    · rfl

theorem readPower_append (hv : Stops v) (w : Text) :
    readPower (w ++ v) = (readPower w).map fun r => (r.1, r.2 ++ v) := by
  have hpower : ∀ e : Char, (e = 'e' || e = 'E') = true → isInner e = true := by
    intro e he
    simp only [Bool.or_eq_true, decide_eq_true_eq] at he
    rcases he with rfl | rfl <;> decide
  rcases w with _ | ⟨e, _ | ⟨d, w⟩⟩
  · cases v with
    | nil => rfl
    | cons e v =>
      have he := hv.notHead hpower e rfl
      rw [List.nil_append, readPower.eq_def]
      dsimp only
      rw [if_neg (by rw [he]; exact Bool.false_ne_true)]
      rfl
  · cases v with
    | nil => rw [List.append_nil]; cases readPower [e] <;> simp
    | cons d v =>
      -- neither a digit nor a sign stops a token
      have hd := hv.notHead (p := Char.isDigit) (fun c => isInner_of_isDigit) d rfl
      have hsign := hv.notHead (p := fun d => d = '+' || d = '-')
        (fun c => isInner_of_apart (p := fun d => d = '+' || d = '-') (by decide)) d rfl
      change readPower (e :: d :: v) = _
      rw [readPower.eq_def, readPower.eq_def]
      dsimp only
      split
      · rw [if_neg (by rw [hd]; exact Bool.false_ne_true),
          if_neg (by rw [hsign]; exact Bool.false_ne_true)]
        rfl
      · rfl
  · change readPower (e :: d :: (w ++ v)) = _
    have hdigits := readDigits_append 10 hv (d :: w)
    rw [List.cons_append] at hdigits
    rw [readPower.eq_def, readPower.eq_def]
    dsimp only
    split
    · split
      · rw [hdigits, Option.map_map, Option.map_map]
        rfl
      · split
        · rw [readDigits_append 10 hv, Option.map_map, Option.map_map]
          rfl
        · rfl
    · rfl

/-- What a number in base ten comes to behind its digits, fraction and power. -/
def decimalEnd (real : Bool) (digits : Text) : Text → Option (Tok × Text)
  | c :: after =>
    if c = 'j' || c = 'J' then if endsNumber after then some (.imaginary, after) else none
    else if !endsNumber (c :: after) then none
    else if real then some (.real, c :: after)
    else (wholeNumber? digits).map fun n => (.int n, c :: after)
  | [] => if real then some (.real, []) else (wholeNumber? digits).map fun n => (.int n, [])

theorem decimalEnd_append (hv : Stops v) (real : Bool) (digits w : Text) :
    decimalEnd real digits (w ++ v) =
      (decimalEnd real digits w).map fun r => (r.1, r.2 ++ v) := by
  cases w with
  | nil =>
    cases v with
    | nil => cases hend : decimalEnd real digits [] <;> simp [hend]
    | cons c v =>
      -- no letter of an imaginary number and nothing that would spoil the end
      have hj := hv.notHead (p := fun c => c = 'j' || c = 'J')
        (fun c => isInner_of_apart (p := fun c => c = 'j' || c = 'J') (by decide)) c rfl
      have hends := endsNumber_stop hv
      rw [List.nil_append, decimalEnd, if_neg (by rw [hj]; exact Bool.false_ne_true), hends,
        Bool.not_true, if_neg Bool.false_ne_true, decimalEnd]
      split
      · rfl
      · rw [Option.map_map]
        rfl
  | cons c w =>
    have hends := endsNumber_append hv (c :: w)
    rw [List.cons_append] at hends ⊢
    rw [decimalEnd, decimalEnd, endsNumber_append hv, hends]
    split
    · split <;> rfl
    · split
      · rfl
      · split
        · rfl
        · rw [Option.map_map]
          rfl

/-- A number in base ten, part after part. -/
theorem readDecimal_eq (s : Text) :
    readNumber.readDecimal s =
      (if s.head? = some '.' then some ([], s) else readDigits 10 s).bind fun d =>
        (if d.2.head? = some '.' then readFraction d.2 else some d.2).bind fun t =>
          (readPower t).bind fun p =>
            decimalEnd (decide (d.2.head? = some '.') || p.1) d.1 p.2 := by
  rw [readNumber.readDecimal]
  simp only [Option.bind_eq_bind, ite_bind]
  refine Option.bind_congr fun d _ => Option.bind_congr fun t _ => Option.bind_congr fun p _ => ?_
  cases p.2 <;> rw [decimalEnd]

theorem head_append (hv : Stops v) {c : Char} (hc : isInner c = true) (w : Text) :
    (w ++ v).head? = some c ↔ w.head? = some c := by
  cases w with
  | nil => exact ⟨fun h => absurd h (hv.head_ne hc), fun h => nomatch h⟩
  | cons d w => exact Iff.rfl

theorem readDecimal_append (hv : Stops v) (w : Text) :
    readNumber.readDecimal (w ++ v) =
      (readNumber.readDecimal w).map fun r => (r.1, r.2 ++ v) := by
  have hpoint : ∀ u : Text, ((u ++ v).head? = some '.') = (u.head? = some '.') := fun u =>
    propext (head_append hv (by decide) u)
  -- each part is read as without what comes after
  have hdigits : (if (w ++ v).head? = some '.' then some ([], w ++ v) else readDigits 10 (w ++ v)) =
      (if w.head? = some '.' then some ([], w) else readDigits 10 w).map
        fun d => (d.1, d.2 ++ v) := by
    simp only [hpoint, readDigits_append 10 hv]
    split <;> rfl
  have hfraction : ∀ u : Text,
      (if (u ++ v).head? = some '.' then readFraction (u ++ v) else some (u ++ v)) =
        (if u.head? = some '.' then readFraction u else some u).map (· ++ v) := by
    intro u
    simp only [hpoint]
    split
    · next hu => exact readFraction_append hv hu
    · rfl
  rw [readDecimal_eq, readDecimal_eq, hdigits, Option.bind_map, Option.map_bind]
  refine Option.bind_congr fun d _ => ?_
  simp only [Function.comp_apply, hfraction, Option.bind_map, Option.map_bind]
  refine Option.bind_congr fun t _ => ?_
  simp only [Function.comp_apply, readPower_append hv, Option.bind_map, Option.map_bind]
  refine Option.bind_congr fun p _ => ?_
  simp only [decimalEnd_append hv, hpoint, Function.comp_apply]

theorem readNumber_of_head_ne {s : Text} (hs : s.head? ≠ some '0') :
    readNumber s = readNumber.readDecimal s := by
  rw [readNumber.eq_def]
  split
  · exact absurd rfl hs
  · rfl

theorem readNumber_of_baseOf? {c : Char} (hc : baseOf? c = none) (s : Text) :
    readNumber ('0' :: c :: s) = readNumber.readDecimal ('0' :: c :: s) := by
  rw [readNumber, hc]

/-- A number is read as if nothing came after what stops it. -/
theorem readNumber_append (hv : Stops v) (w : Text) :
    readNumber (w ++ v) = (readNumber w).map fun r => (r.1, r.2 ++ v) := by
  have hdecimal := readDecimal_append hv w
  by_cases hzero : w.head? = some '0'
  · rcases w with _ | ⟨z, _ | ⟨c, w⟩⟩
    · cases hzero
    · cases hzero
      -- what stops the number chooses no base
      have hread : readNumber (['0'] ++ v) = readNumber.readDecimal (['0'] ++ v) := by
        cases v with
        | nil => rfl
        | cons c v =>
          refine readNumber_of_baseOf? ?_ v
          have hbase := hv.notHead (p := fun c => (baseOf? c).isSome)
            (fun c => isInner_of_apart (p := fun c => (baseOf? c).isSome) (by decide)) c rfl
          rwa [Option.isSome_eq_false_iff, Option.isNone_iff_eq_none] at hbase
      rw [hread, hdecimal]
      rfl
    · cases hzero
      have hunder : (if (w ++ v).head? = some '_' then (w ++ v).tail else w ++ v) =
          (if w.head? = some '_' then w.tail else w) ++ v := by
        simp only [head_append hv (c := '_') (by decide) w]
        split
        · cases w with
          | nil => contradiction
          | cons d w => rfl
        · rfl
      cases hbase : baseOf? c with
      | none =>
        rw [readNumber_of_baseOf? hbase]
        exact (readNumber_of_baseOf? hbase (w ++ v)).trans hdecimal
      | some base =>
        change readNumber ('0' :: c :: (w ++ v)) = _
        rw [readNumber, readNumber, hbase]
        dsimp only
        rw [hunder, readDigits_append base hv]
        cases readDigits base (if w.head? = some '_' then w.tail else w) with
        | none => rfl
        | some r =>
          dsimp only [Option.map_some]
          rw [endsNumber_append hv]
          split <;> rfl
  · have hzero' : (w ++ v).head? ≠ some '0' := fun h => hzero ((head_append hv (by decide) w).1 h)
    rw [readNumber_of_head_ne hzero, readNumber_of_head_ne hzero', hdecimal]

/-! ## Numbers have a digit -/

theorem Passes.length_le {s rest : Text} (h : Passes s rest) : rest.length ≤ s.length := by
  obtain ⟨a, rfl, -⟩ := h
  rw [List.length_append]
  exact Nat.le_add_left _ _

theorem length_readDigits {base : Nat} {s : Text} {r : Text × Text}
    (h : readDigits base s = some r) : r.2.length < s.length := by
  simp only [readDigits] at h
  split at h
  · next hrun =>
    cases h
    -- a run of digits is not empty
    have hfilled : s.takeWhile (fun c => isDigitOf base c || c == '_') ≠ [] := by
      intro hempty
      rw [hempty] at hrun
      cases hrun
    have hsplit := congrArg List.length
      (List.takeWhile_append_dropWhile (p := fun c => isDigitOf base c || c == '_') (l := s))
    rw [List.length_append] at hsplit
    have := List.length_pos_iff.2 hfilled
    dsimp only
    omega
  · cases h

theorem length_readFraction {s rest : Text} (hs : s.head? = some '.')
    (h : readFraction s = some rest) : rest.length < s.length := by
  obtain ⟨u, rfl⟩ : ∃ u, s = '.' :: u := by
    cases s with
    | nil => cases hs
    | cons c u => exact ⟨u, by rw [Option.some.inj hs]⟩
  rcases u with _ | ⟨d, u⟩
  · cases h
    exact Nat.lt_succ_self 0
  · change (if d.isDigit = true then (readDigits 10 (d :: u)).map Prod.snd else some (d :: u)) =
      some rest at h
    split at h
    · obtain ⟨r, hr, rfl⟩ := Option.map_eq_some_iff.1 h
      exact Nat.lt_succ_of_lt (length_readDigits hr)
    · cases h
      exact Nat.lt_succ_self _

theorem passes_decimalEnd {real : Bool} {digits s : Text} {r : Tok × Text}
    (h : decimalEnd real digits s = some r) : Passes s r.2 := by
  refine @passes_numberEnd real digits s r ?_
  rw [← h]
  cases s <;> rfl

theorem length_readDecimal {s : Text} {r : Tok × Text} (h : readNumber.readDecimal s = some r) :
    r.2.length < s.length := by
  rw [readDecimal_eq] at h
  obtain ⟨⟨digits, t⟩, ht, h⟩ := Option.bind_eq_some_iff.1 h
  obtain ⟨u, hu, h⟩ := Option.bind_eq_some_iff.1 h
  obtain ⟨⟨powered, v⟩, hv, h⟩ := Option.bind_eq_some_iff.1 h
  have hpower := (passes_readPower hv).length_le
  have hend := (passes_decimalEnd h).length_le
  have hparts : u.length < s.length := by
    split at ht
    · next hpoint =>
      cases ht
      rw [if_pos hpoint] at hu
      exact length_readFraction hpoint hu
    · have hdigits := length_readDigits ht
      split at hu
      · next hpoint => exact Nat.lt_trans (length_readFraction hpoint hu) hdigits
      · cases hu
        exact hdigits
  dsimp only at *
  omega

theorem length_readNumber {s : Text} {r : Tok × Text} (h : readNumber s = some r) :
    r.2.length < s.length := by
  by_cases hzero : s.head? = some '0'
  · rcases s with _ | ⟨z, _ | ⟨c, rest⟩⟩
    · cases hzero
    · cases hzero
      exact length_readDecimal (s := ['0']) h
    · cases hzero
      cases hbase : baseOf? c with
      | none =>
        rw [readNumber_of_baseOf? hbase] at h
        exact length_readDecimal h
      | some base =>
        rw [readNumber, hbase] at h
        dsimp only at h
        split at h
        · next digits after hdigits =>
          split at h
          · cases h
            have hlength := length_readDigits hdigits
            have htail : (if rest.head? = some '_' then rest.tail else rest).length ≤
                rest.length := by
              split
              · exact List.length_tail ▸ Nat.sub_le _ _
              · exact Nat.le_refl _
            simp only [List.length_cons] at *
            omega
          · cases h
        · cases h
  · rw [readNumber_of_head_ne hzero] at h
    exact length_readDecimal h

/-! ## Tokens that are neither strings nor brackets -/

/-- The token at the head of a text that starts with an inner character and not with a string, and
what comes after it. -/
def readInner (s : Text) : Option (Tok × Text) :=
  if startsNumber s then readNumber s
  else if s.head?.any isWordPart then
    if isIdentifier (s.takeWhile isWordPart) then
      some (.ofWord (s.takeWhile isWordPart), s.dropWhile isWordPart)
    else none
  else if s.take 3 = ['.', '.', '.'] then some (.ellipsis, s.drop 3)
  else if doubleMarks.contains (s.take 2) then some (.mark (s.take 2), s.drop 2)
  else if s.head?.any singleMarks.contains then some (.mark (s.take 1), s.drop 1)
  else none

theorem notBracket_of_isInner {c : Char} (hc : isInner c = true) :
    closingBracket? c = none ∧ isClosingBracket c = false := by
  constructor
  · cases hclosing : closingBracket? c with
    | none => rfl
    | some closer =>
      obtain ⟨d, rfl, -⟩ := exists_opener hclosing
      exact absurd (isPlain_of_isInner hc) (not_isPlain_opener d)
  · rw [Bool.eq_false_iff]
    intro hclosing
    simp only [isClosingBracket, Bool.or_eq_true, beq_iff_eq] at hclosing
    rcases hclosing with (rfl | rfl) | rfl <;> exact absurd hc (by decide)

/-- One step over such a token. -/
theorem lexFrom_inner {n : Nat} {st : LexState} {c : Char} {rest : Text}
    (hst : st.lineStart = false) (hc : isInner c = true)
    (hliteral : Literal.startsAt (c :: rest) = false) :
    lexFrom (n + 1) st (c :: rest) =
      (readInner (c :: rest)).bind fun r => (lexFrom n st r.2).map (r.1 :: ·) := by
  have hno : isInner ' ' = false ∧ isInner '\t' = false ∧ isInner '\x0c' = false ∧
      isInner '\n' = false ∧ isInner '\\' = false ∧ isInner '#' = false := by decide
  have hne : ∀ {d : Char}, isInner d = false → c ≠ d := by
    rintro d hd rfl
    rw [hd] at hc
    cases hc
  obtain ⟨hspace, htab, hfeed, hline, hback, hsign⟩ := hno
  rw [lexFrom.eq_def]
  change (if st.lineStart = true then _ else _) = _
  rw [if_neg (by rw [hst]; exact Bool.false_ne_true)]
  change (if (c = ' ' || c = '\t' || c = '\x0c') = true then _ else _) = _
  rw [if_neg (by simp [hne hspace, hne htab, hne hfeed]), if_neg (hne hsign), if_neg (hne hline),
    if_neg (hne hback), if_neg (by rw [hliteral]; exact Bool.false_ne_true), readInner]
  -- the branches of the two agree one by one
  by_cases hnumber : startsNumber (c :: rest) = true
  · rw [if_pos hnumber, if_pos hnumber]
    cases readNumber (c :: rest) <;> rfl
  rw [if_neg hnumber, if_neg hnumber]
  by_cases hword : isWordPart c = true
  · rw [if_pos hword, if_pos (show (c :: rest).head?.any isWordPart = true from hword)]
    change (if isIdentifier _ = true then _ else _) = _
    split <;> rfl
  rw [if_neg hword, if_neg (show ¬(c :: rest).head?.any isWordPart = true from hword)]
  by_cases hpoints : (c :: rest).take 3 = ['.', '.', '.']
  · rw [if_pos hpoints, if_pos hpoints]
    rfl
  rw [if_neg hpoints, if_neg hpoints]
  by_cases hdouble : doubleMarks.contains ((c :: rest).take 2) = true
  · rw [if_pos hdouble, if_pos hdouble]
    rfl
  rw [if_neg hdouble, if_neg hdouble]
  by_cases hsingle : singleMarks.contains c = true
  · obtain ⟨hopen, hclose⟩ := notBracket_of_isInner hc
    rw [if_pos hsingle,
      if_pos (show (c :: rest).head?.any singleMarks.contains = true from hsingle), hopen]
    dsimp only
    rw [if_neg (by rw [hclose]; exact Bool.false_ne_true)]
    rfl
  · rw [if_neg hsingle,
      if_neg (show ¬(c :: rest).head?.any singleMarks.contains = true from hsingle)]
    rfl

theorem take_stop {k : Text} (hk : ∀ c ∈ k, isInner c = true) (hv : Stops v) (w : Text) :
    (w ++ v).take k.length = k ↔ w.take k.length = k := by
  have hstart : ∀ u : Text, u.take k.length = k ↔ k.isPrefixOf u = true := by
    intro u
    rw [List.isPrefixOf_iff_prefix, List.prefix_iff_eq_take]
    exact eq_comm
  rw [hstart, hstart, isPrefixOf_stop hk hv]

/-- The rest of a text that starts with `k`, with something after it. -/
theorem drop_append_of_take {k w : Text} (h : w.take k.length = k) :
    (w ++ v).drop k.length = w.drop k.length ++ v := by
  have hlength := congrArg List.length h
  rw [List.length_take] at hlength
  exact List.drop_append_of_le_length (by omega)

theorem startsNumber_append (hv : Stops v) {w : Text} (hw : w ≠ []) :
    startsNumber (w ++ v) = startsNumber w := by
  rcases w with _ | ⟨c, _ | ⟨d, w⟩⟩
  · exact absurd rfl hw
  · cases v with
    | nil => rfl
    | cons d v =>
      -- a point alone would start a number only before a digit
      have hd := hv.notHead (p := Char.isDigit) (fun c => isInner_of_isDigit) d rfl
      by_cases hc : c = '.'
      · subst hc
        exact hd
      · change startsNumber (c :: d :: v) = startsNumber [c]
        rw [startsNumber, startsNumber]
        all_goals
          intros
          simp_all
  · by_cases hc : c = '.'
    · subst hc
      rfl
    · change startsNumber (c :: d :: (w ++ v)) = startsNumber (c :: d :: w)
      rw [startsNumber, startsNumber]
      all_goals
        intros
        simp_all

/-- A token is read as if nothing came after what stops it. -/
theorem readInner_append (hv : Stops v) {w : Text} (hw : w ≠ []) :
    readInner (w ++ v) = (readInner w).map fun r => (r.1, r.2 ++ v) := by
  have hhead : (w ++ v).head? = w.head? := by
    cases w with
    | nil => exact absurd rfl hw
    | cons c w => rfl
  have hpoint : ∀ c ∈ ['.', '.', '.'], isInner c = true := by
    intro c hc
    obtain rfl : c = '.' := by simpa using hc
    decide
  have hpoints := take_stop hpoint hv w
  have hdouble : doubleMarks.contains ((w ++ v).take 2) = doubleMarks.contains (w.take 2) := by
    have hmarks : (doubleMarks.all fun k => k.length == 2 && k.all isInner) = true := by decide
    rw [Bool.eq_iff_iff, List.contains_iff_mem, List.contains_iff_mem]
    -- either way one of the marks is what the text starts with
    have hmem : ∀ u : Text, u.take 2 ∈ doubleMarks ↔ ∃ k ∈ doubleMarks, u.take k.length = k := by
      intro u
      constructor
      · intro h
        have hk := List.all_eq_true.1 hmarks _ h
        rw [Bool.and_eq_true, beq_iff_eq] at hk
        exact ⟨_, h, by rw [hk.1]⟩
      · rintro ⟨k, h, hu⟩
        have hk := List.all_eq_true.1 hmarks k h
        rw [Bool.and_eq_true, beq_iff_eq] at hk
        rw [hk.1] at hu
        rwa [hu]
    rw [hmem, hmem]
    refine exists_congr fun k => and_congr_right fun h => ?_
    have hk := List.all_eq_true.1 hmarks k h
    rw [Bool.and_eq_true] at hk
    exact take_stop (List.all_eq_true.1 hk.2) hv w
  rw [readInner, readInner, startsNumber_append hv hw, hhead, hdouble,
    takeWhile_stop (fun c => isInner_of_isWordPart) hv,
    dropWhile_stop (fun c => isInner_of_isWordPart) hv]
  split
  · exact readNumber_append hv w
  · split
    · split <;> rfl
    · simp only [show (w ++ v).take 3 = ['.', '.', '.'] ↔ w.take 3 = ['.', '.', '.'] from hpoints]
      split
      · next h =>
        have hdrop : (w ++ v).drop 3 = w.drop 3 ++ v := drop_append_of_take (k := ['.', '.', '.']) h
        rw [hdrop]
        rfl
      · split
        · next h =>
          have hlength : (w.take 2).length = 2 := by
            have hmarks : (doubleMarks.all fun k => k.length == 2) = true := by decide
            exact eq_of_beq (List.all_eq_true.1 hmarks _ (List.contains_iff_mem.1 h))
          rw [List.length_take] at hlength
          rw [List.take_append_of_le_length (by omega), List.drop_append_of_le_length (by omega)]
          rfl
        · split
          · cases w with
            | nil => exact absurd rfl hw
            | cons c w => rfl
          · rfl

end

/-- The bracket that a token is. -/
def Tok.bracket? : Tok → Option Text
  | .mark [c] => if (closingBracket? c).isSome || isClosingBracket c then some [c] else none
  | _ => none

theorem bracket?_decimalEnd {real : Bool} {digits s : Text} {r : Tok × Text}
    (h : decimalEnd real digits s = some r) : r.1.bracket? = none := by
  cases s with
  | nil =>
    rw [decimalEnd] at h
    split at h
    · cases h
      rfl
    · obtain ⟨n, -, rfl⟩ := Option.map_eq_some_iff.1 h
      rfl
  | cons c after =>
    rw [decimalEnd] at h
    split at h
    · split at h
      · cases h
        rfl
      · cases h
    · split at h
      · cases h
      · split at h
        · cases h
          rfl
        · obtain ⟨n, -, rfl⟩ := Option.map_eq_some_iff.1 h
          rfl

theorem bracket?_readDecimal {s : Text} {r : Tok × Text} (h : readNumber.readDecimal s = some r) :
    r.1.bracket? = none := by
  rw [readDecimal_eq] at h
  obtain ⟨_, -, h⟩ := Option.bind_eq_some_iff.1 h
  obtain ⟨_, -, h⟩ := Option.bind_eq_some_iff.1 h
  obtain ⟨_, -, h⟩ := Option.bind_eq_some_iff.1 h
  exact bracket?_decimalEnd h

theorem bracket?_readNumber {s : Text} {r : Tok × Text} (h : readNumber s = some r) :
    r.1.bracket? = none := by
  unfold readNumber at h
  split at h
  · split at h
    · split at h
      · split at h
        · cases h
          rfl
        · cases h
      · cases h
    · exact bracket?_readDecimal h
  · exact bracket?_readDecimal h

/-- A token that starts with an inner character covers plain characters, at least one, and is no
bracket. -/
theorem readInner_covers {c : Char} {rest : Text} {r : Tok × Text} (hc : isInner c = true)
    (h : readInner (c :: rest) = some r) :
    (∃ a, c :: rest = a ++ r.2 ∧ a ≠ [] ∧ ∀ d ∈ a, IsPlain d) ∧ r.1.bracket? = none := by
  -- what is passed over is not empty where something less is left
  have hcovers : ∀ {t : Text}, Passes (c :: rest) t → t.length < (c :: rest).length →
      ∃ a, c :: rest = a ++ t ∧ a ≠ [] ∧ ∀ d ∈ a, IsPlain d := by
    rintro t ⟨a, ha, hplain⟩ hlt
    refine ⟨a, ha, ?_, hplain⟩
    rintro rfl
    rw [ha] at hlt
    exact absurd hlt (Nat.lt_irrefl _)
  have hlength : ∀ n, ((c :: rest).drop (n + 1)).length < (c :: rest).length := by
    intro n
    rw [List.length_drop, List.length_cons]
    omega
  rw [readInner] at h
  split at h
  · exact ⟨hcovers (passes_readNumber h) (length_readNumber h), bracket?_readNumber h⟩
  · split at h
    · next hword =>
      split at h
      · cases h
        refine ⟨hcovers (passes_dropWhile (fun _ => isPlain_of_isWordPart) _) ?_, ?_⟩
        · have hhead : isWordPart c = true := hword
          rw [List.dropWhile_cons_of_pos hhead]
          exact Nat.lt_succ_of_le (List.dropWhile_sublist _).length_le
        · rw [Tok.ofWord]
          split <;> rfl
      · cases h
    · split at h
      · next hpoints =>
        cases h
        have hplain : ∀ d ∈ ['.', '.', '.'], IsPlain d := by
          intro d hd
          obtain rfl : d = '.' := by simpa using hd
          decide
        exact ⟨hcovers ⟨_, (List.take_append_drop 3 _).symm, hpoints ▸ hplain⟩ (hlength 2), rfl⟩
      · split at h
        · next hdouble =>
          cases h
          refine ⟨hcovers (passes_doubleMark hdouble) (hlength 1), ?_⟩
          have hmarks : (doubleMarks.all fun k => (Tok.mark k).bracket?.isNone) = true := by decide
          exact Option.isNone_iff_eq_none.1
            (List.all_eq_true.1 hmarks _ (List.contains_iff_mem.1 hdouble))
        · split at h
          · cases h
            refine ⟨hcovers (.cons (isPlain_of_isInner hc) (.refl _)) (hlength 0), ?_⟩
            obtain ⟨hopen, hclose⟩ := notBracket_of_isInner hc
            change (if ((closingBracket? c).isSome || isClosingBracket c) = true then _ else _) = _
            rw [hopen, hclose]
            rfl
          · cases h

end XmlTemplate.Script
