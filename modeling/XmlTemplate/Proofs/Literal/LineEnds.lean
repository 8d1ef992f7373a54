import XmlTemplate.Script.Lexer
import XmlTemplate.Proofs.Token.Shows

/-!
# Strings and the ends of lines

Scripts see a line feed at the end of every line, whichever way it is written, and so they do in
strings. A long string ends where it did, only that its lines end otherwise
(`longEnd_unifyLineEnds`). A short string with a carriage return in it does not end for a script,
unless a backslash stands before it; where it ends, it ends where it did
(`length_of_shortEnd_unifyLineEnds`).
-/

set_option autoImplicit false

namespace XmlTemplate

open Script (unifyLineEnds)

variable {q c : Char} {s t : Text}

theorem unifyLineEnds_cons (hc : c ≠ '\r') (s : Text) :
    unifyLineEnds (c :: s) = c :: unifyLineEnds s := by
  rw [Script.unifyLineEnds.eq_def]
  split
  · next heq => exact absurd (List.cons.inj heq).1 hc
  · next d t _ heq =>
    obtain ⟨rfl, rfl⟩ := List.cons.inj heq
    rw [if_neg hc]
  · next heq => cases heq

theorem unifyLineEnds_return (hs : s.head? ≠ some '\n') :
    unifyLineEnds ('\r' :: s) = '\n' :: unifyLineEnds s := by
  rw [Script.unifyLineEnds.eq_def]
  split
  · next t heq =>
    obtain ⟨-, rfl⟩ := List.cons.inj heq
    exact absurd rfl hs
  · next d t _ heq =>
    obtain ⟨rfl, rfl⟩ := List.cons.inj heq
    rw [if_pos rfl]
  · next heq => cases heq

theorem unifyLineEnds_pair (s : Text) :
    unifyLineEnds ('\r' :: '\n' :: s) = '\n' :: unifyLineEnds s := by
  rw [unifyLineEnds]

/-- Two texts one after the other, unless they part a line end in the middle. -/
theorem unifyLineEnds_append (h : s.getLast? = some '\r' → t.head? ≠ some '\n') :
    unifyLineEnds (s ++ t) = unifyLineEnds s ++ unifyLineEnds t := by
  have hlast : ∀ {d : Char} {u : Text}, u.getLast? = some '\r' → (d :: u).getLast? = some '\r' := by
    intro d u hu
    rw [List.getLast?_cons, hu]
    rfl
  fun_induction unifyLineEnds s with
  | case1 s ih =>
    rw [List.cons_append, List.cons_append, unifyLineEnds_pair, List.cons_append,
      ih fun hs => h (hlast (hlast hs))]
  | case2 c s hpair ih =>
    rw [List.cons_append]
    have hrest := ih fun hs => h (hlast hs)
    by_cases hc : c = '\r'
    · subst hc
      have hhead : (s ++ t).head? ≠ some '\n' := by
        cases s with
        | nil => exact h rfl
        | cons d s =>
          intro hd
          exact hpair s rfl (by rw [Option.some.inj hd])
      rw [unifyLineEnds_return hhead, hrest, if_pos rfl]
      rfl
    · rw [unifyLineEnds_cons hc, hrest, if_neg hc]
      rfl
  | case3 => rfl

/-- What a text is made of for a script that looks for the end of a string in it: ends of lines,
backslashes with what they take with them, and other characters. -/
theorem lineEnd_induction {motive : Text → Prop} (nil : motive []) (backslash : motive ['\\'])
    (escapedPair : ∀ s, motive s → motive ('\\' :: '\r' :: '\n' :: s))
    (escapedReturn : ∀ s, s.head? ≠ some '\n' → motive s → motive ('\\' :: '\r' :: s))
    (escaped : ∀ c s, c ≠ '\r' → motive s → motive ('\\' :: c :: s))
    (pair : ∀ s, motive s → motive ('\r' :: '\n' :: s))
    (carriageReturn : ∀ s, s.head? ≠ some '\n' → motive s → motive ('\r' :: s))
    (plain : ∀ c s, c ≠ '\\' → c ≠ '\r' → motive s → motive (c :: s)) (s : Text) : motive s := by
  induction hn : s.length using Nat.strongRecOn generalizing s with
  | _ n ih =>
    have hshorter : ∀ t : Text, t.length < n → motive t := fun t ht => ih t.length ht t rfl
    rcases s with _ | ⟨c, s⟩
    · exact nil
    · rw [List.length_cons] at hn
      by_cases hb : c = '\\'
      · subst hb
        rcases s with _ | ⟨d, s⟩
        · exact backslash
        · rw [List.length_cons] at hn
          by_cases hd : d = '\r'
          · subst hd
            by_cases hs : s.head? = some '\n'
            · obtain ⟨t, rfl⟩ : ∃ t, s = '\n' :: t := List.head?_eq_some_iff.1 hs
              rw [List.length_cons] at hn
              exact escapedPair t (hshorter t (by omega))
            · exact escapedReturn s hs (hshorter s (by omega))
          · exact escaped d s hd (hshorter s (by omega))
      · by_cases hr : c = '\r'
        · subst hr
          by_cases hs : s.head? = some '\n'
          · obtain ⟨t, rfl⟩ : ∃ t, s = '\n' :: t := List.head?_eq_some_iff.1 hs
            rw [List.length_cons] at hn
            exact pair t (hshorter t (by omega))
          · exact carriageReturn s hs (hshorter s (by omega))
        · exact plain c s hb hr (hshorter s (by omega))

/-! ## Long strings -/

theorem head_unifyLineEnds {d : Char} (hr : d ≠ '\r') (hn : d ≠ '\n') :
    (unifyLineEnds s).head? = some d ↔ s.head? = some d := by
  cases s with
  | nil => exact Iff.rfl
  | cons c s =>
    by_cases hc : c = '\r'
    · subst hc
      have hhead : (unifyLineEnds ('\r' :: s)).head? = some '\n' := by
        by_cases hs : s.head? = some '\n'
        · obtain ⟨t, rfl⟩ := List.head?_eq_some_iff.1 hs
          rw [unifyLineEnds_pair]
          rfl
        · rw [unifyLineEnds_return hs]
          rfl
      rw [hhead]
      exact ⟨fun h => absurd (Option.some.inj h).symm hn,
        fun h => absurd (Option.some.inj h).symm hr⟩
    · rw [unifyLineEnds_cons hc]
      exact Iff.rfl

theorem ne_lineEnd_of_isQuote (hq : isQuote q = true) : q ≠ '\r' ∧ q ≠ '\n' := by
  rcases isQuote_iff.1 hq with rfl | rfl <;> decide

/-- Two quotes at the head of a text stay there, and no others get there. -/
theorem take_two_unifyLineEnds (hq : isQuote q = true) :
    (unifyLineEnds s).take 2 = [q, q] ↔ s.take 2 = [q, q] := by
  have hne := ne_lineEnd_of_isQuote hq
  have htwo : ∀ u : Text, u.take 2 = [q, q] ↔ ∃ v, u = q :: v ∧ v.head? = some q := by
    intro u
    rcases u with _ | ⟨c, _ | ⟨d, u⟩⟩
    · simp
    · simp
    · simp only [List.take_succ_cons, List.take_zero, List.cons.injEq, and_true]
      constructor
      · rintro ⟨rfl, rfl⟩
        exact ⟨_, ⟨rfl, rfl⟩, rfl⟩
      · rintro ⟨v, ⟨rfl, rfl⟩, hv⟩
        exact ⟨rfl, Option.some.inj hv⟩
  rw [htwo, htwo]
  constructor
  · rintro ⟨v, hu, hv⟩
    have hhead : s.head? = some q := by
      rw [← head_unifyLineEnds hne.1 hne.2, hu]
      rfl
    obtain ⟨u, rfl⟩ := List.head?_eq_some_iff.1 hhead
    rw [unifyLineEnds_cons hne.1] at hu
    obtain ⟨-, rfl⟩ := List.cons.inj hu
    exact ⟨u, rfl, (head_unifyLineEnds hne.1 hne.2).1 hv⟩
  · rintro ⟨u, rfl, hu⟩
    exact ⟨unifyLineEnds u, unifyLineEnds_cons hne.1 u, (head_unifyLineEnds hne.1 hne.2).2 hu⟩

theorem head_take_ne {n : Nat} (hs : s.head? ≠ some c) : (s.take n).head? ≠ some c := by
  rw [List.head?_take]
  split
  · exact fun h => nomatch h
  · exact hs

/-- Where a long string ends in a text, it ends when the lines of the text have come to end alike;
it becomes shorter by the carriage returns that go away. -/
theorem longEnd_unifyLineEnds (hq : isQuote q = true) (s : Text) :
    longEnd q (unifyLineEnds s) =
      (longEnd q s).map fun n => (unifyLineEnds (s.take n)).length := by
  have hb := ne_backslash_of_isQuote hq
  have hne := (ne_lineEnd_of_isQuote hq).imp Ne.symm Ne.symm
  -- what comes in front of a text makes both ends longer, each by its own length
  have hadd : ∀ {u v w : Text} (k j : Nat),
      longEnd q v = (longEnd q u).map (· + k) →
      longEnd q w = (longEnd q (unifyLineEnds u)).map (· + j) →
      (∀ n, (unifyLineEnds (v.take (n + k))).length = (unifyLineEnds (u.take n)).length + j) →
      longEnd q (unifyLineEnds u) =
        ((longEnd q u).map fun n => (unifyLineEnds (u.take n)).length) →
      longEnd q w = (longEnd q v).map fun n => (unifyLineEnds (v.take n)).length := by
    intro u v w k j hv hw htake ih
    rw [hw, ih, hv, Option.map_map, Option.map_map]
    exact congrArg (Option.map · (longEnd q u)) (funext fun n => (htake n).symm)
  induction s using lineEnd_induction with
  | nil => rfl
  | backslash =>
    have hunify : unifyLineEnds ['\\'] = ['\\'] := unifyLineEnds_cons (by decide) []
    rw [hunify, show longEnd q ['\\'] = none from calm_backslash hb]
    rfl
  | escapedPair s ih =>
    have hunify : ∀ u, unifyLineEnds ('\\' :: '\r' :: '\n' :: u) =
        '\\' :: '\n' :: unifyLineEnds u := by
      intro u
      rw [unifyLineEnds_cons (by decide), unifyLineEnds_pair]
    rw [hunify]
    refine hadd (u := s) 3 2 ?_ (longEnd_escaped hb _ _) (fun n => ?_) ih
    · rw [longEnd_escaped hb, longEnd_plain hne.2 (by decide), Option.map_map]
      rfl
    · change (unifyLineEnds ('\\' :: '\r' :: '\n' :: s.take n)).length = _
      rw [hunify]
      rfl
  | escapedReturn s hs ih =>
    have hunify : ∀ u : Text, u.head? ≠ some '\n' →
        unifyLineEnds ('\\' :: '\r' :: u) = '\\' :: '\n' :: unifyLineEnds u := by
      intro u hu
      rw [unifyLineEnds_cons (by decide), unifyLineEnds_return hu]
    rw [hunify s hs]
    refine hadd (u := s) 2 2 (longEnd_escaped hb _ _) (longEnd_escaped hb _ _) (fun n => ?_) ih
    change (unifyLineEnds ('\\' :: '\r' :: s.take n)).length = _
    rw [hunify _ (head_take_ne hs)]
    rfl
  | escaped c s hc ih =>
    have hunify : ∀ u, unifyLineEnds ('\\' :: c :: u) = '\\' :: c :: unifyLineEnds u := by
      intro u
      rw [unifyLineEnds_cons (by decide), unifyLineEnds_cons hc]
    rw [hunify]
    refine hadd (u := s) 2 2 (longEnd_escaped hb _ _) (longEnd_escaped hb _ _) (fun n => ?_) ih
    change (unifyLineEnds ('\\' :: c :: s.take n)).length = _
    rw [hunify]
    rfl
  | pair s ih =>
    rw [unifyLineEnds_pair]
    refine hadd (u := s) 2 1 ?_ (longEnd_plain hne.2 (by decide) _) (fun n => ?_) ih
    · rw [longEnd_plain hne.1 (by decide), longEnd_plain hne.2 (by decide), Option.map_map]
      rfl
    · change (unifyLineEnds ('\r' :: '\n' :: s.take n)).length = _
      rw [unifyLineEnds_pair]
      rfl
  | carriageReturn s hs ih =>
    rw [unifyLineEnds_return hs]
    refine hadd (u := s) 1 1 (longEnd_plain hne.1 (by decide) _) (longEnd_plain hne.2 (by decide) _)
      (fun n => ?_) ih
    change (unifyLineEnds ('\r' :: s.take n)).length = _
    rw [unifyLineEnds_return (head_take_ne hs)]
    rfl
  | plain c s hc hr ih =>
    have htake : ∀ n, (unifyLineEnds ((c :: s).take (n + 1))).length =
        (unifyLineEnds (s.take n)).length + 1 := by
      intro n
      rw [List.take_succ_cons, unifyLineEnds_cons hr]
      rfl
    rw [unifyLineEnds_cons hr]
    by_cases hcq : c = q
    · subst hcq
      -- three quotes in a row stay three, and nothing between them goes away
      by_cases htwo : s.take 2 = [c, c]
      · have hend : unifyLineEnds [c, c, c] = [c, c, c] := by
          rw [unifyLineEnds_cons hr, unifyLineEnds_cons hr, unifyLineEnds_cons hr]
          rfl
        rw [longEnd_quote hb, longEnd_quote hb, if_pos htwo,
          if_pos ((take_two_unifyLineEnds hq).2 htwo), Option.map_some, List.take_succ_cons, htwo,
          hend]
        rfl
      · refine hadd (u := s) 1 1 ?_ ?_ htake ih
        · rw [longEnd_quote hb, if_neg htwo]
        · rw [longEnd_quote hb, if_neg fun h => htwo ((take_two_unifyLineEnds hq).1 h)]
    · exact hadd (u := s) 1 1 (longEnd_plain hcq hc _) (longEnd_plain hcq hc _) htake ih

/-- No long string comes to end in a text when its lines do. -/
theorem Calm.unifyLineEnds (hq : isQuote q = true) (h : Calm q s) :
    Calm q (Script.unifyLineEnds s) := by
  rw [Calm, longEnd_unifyLineEnds hq, show longEnd q s = none from h]
  rfl

/-! ## Short strings -/

/-- Where a short string ends in a text, a script sees it end there or not at all. -/
theorem length_of_shortEnd_unifyLineEnds (hq : isQuote q = true) {n m : Nat}
    (h : shortEnd q s = some n) (h' : shortEnd q (unifyLineEnds s ++ t) = some m) :
    m = (unifyLineEnds (s.take n)).length := by
  have hb := ne_backslash_of_isQuote hq
  have hne := (ne_lineEnd_of_isQuote hq).imp Ne.symm Ne.symm
  have hline : ∀ u : Text, shortEnd q ('\n' :: u) = none := by
    intro u
    rw [shortEnd.eq_def]
    simp only [if_neg hne.2, if_true]
  induction s using lineEnd_induction generalizing n m with
  | nil => cases h
  | backslash =>
    rw [shortEnd.eq_def] at h
    simp [hb.symm] at h
  | escapedPair s _ =>
    -- the backslash takes the carriage return with it, and the line feed stands there
    rw [shortEnd_escaped hb.symm, hline] at h
    cases h
  | escapedReturn s hs ih =>
    rw [unifyLineEnds_cons (by decide), unifyLineEnds_return hs, List.cons_append, List.cons_append,
      shortEnd_escaped hb.symm] at h'
    rw [shortEnd_escaped hb.symm] at h
    obtain ⟨n, hn, rfl⟩ := Option.map_eq_some_iff.1 h
    obtain ⟨m, hm, rfl⟩ := Option.map_eq_some_iff.1 h'
    change _ = (unifyLineEnds ('\\' :: '\r' :: s.take n)).length
    rw [unifyLineEnds_cons (by decide), unifyLineEnds_return (head_take_ne hs), ih hn hm]
    rfl
  | escaped c s hc ih =>
    rw [unifyLineEnds_cons (by decide), unifyLineEnds_cons hc, List.cons_append, List.cons_append,
      shortEnd_escaped hb.symm] at h'
    rw [shortEnd_escaped hb.symm] at h
    obtain ⟨n, hn, rfl⟩ := Option.map_eq_some_iff.1 h
    obtain ⟨m, hm, rfl⟩ := Option.map_eq_some_iff.1 h'
    change _ = (unifyLineEnds ('\\' :: c :: s.take n)).length
    rw [unifyLineEnds_cons (by decide), unifyLineEnds_cons hc, ih hn hm]
    rfl
  -- a line feed without a backslash before it leaves the string open
  | pair s _ =>
    rw [unifyLineEnds_pair, List.cons_append, hline] at h'
    cases h'
  | carriageReturn s hs _ =>
    rw [unifyLineEnds_return hs, List.cons_append, hline] at h'
    cases h'
  | plain c s hc hr ih =>
    rw [unifyLineEnds_cons hr, List.cons_append] at h'
    by_cases hcq : c = q
    · rw [shortEnd.eq_def] at h h'
      simp only [if_pos hcq] at h h'
      cases h
      cases h'
      rw [List.take_succ_cons, unifyLineEnds_cons hr]
      rfl
    · by_cases hcn : c = '\n'
      · rw [hcn, hline] at h
        cases h
      · rw [shortEnd_plain hcq hcn hc] at h h'
        obtain ⟨n, hn, rfl⟩ := Option.map_eq_some_iff.1 h
        obtain ⟨m, hm, rfl⟩ := Option.map_eq_some_iff.1 h'
        rw [List.take_succ_cons, unifyLineEnds_cons hr, ih hn hm]
        rfl

/-! ## Strings as scripts read them -/

/-- If a script reads a string whose first quote stands before `b ++ t`, it ends with `b`, and
before any other text as well that goes on with a quote only where `t` does. -/
def IsUnit (q : Char) (b t : Text) : Prop :=
  ∀ v n, Literal.body? q (b ++ t) = some (v, n) → n = b.length ∧
    ∀ t' : Text, (t'.head? = some q → t.head? = some q) → Literal.body? q (b ++ t') = some (v, n)

/-- An empty string, unless a long one might start with it. -/
theorem isUnit_quote (hq : isQuote q = true) (ht : t.head? = some q → Calm q t.tail) :
    IsUnit q [q] t := by
  have hb := ne_backslash_of_isQuote hq
  have htwo : ∀ u : Text, ([q] ++ u).take 2 = [q, q] ↔ u.head? = some q := by
    intro u
    cases u <;> simp
  have hshort : ∀ u : Text, u.head? ≠ some q → Literal.body? q ([q] ++ u) = some ([], 1) := by
    intro u hu
    have hend : shortEnd q ([q] ++ u) = some 1 := by
      rw [List.singleton_append, shortEnd.eq_def]
      simp
    rw [Literal.body?, if_neg fun h => hu ((htwo u).1 h), hend]
    rfl
  intro v n h
  by_cases hhead : t.head? = some q
  · -- three quotes in a row, and no three after them
    obtain ⟨u, rfl⟩ := List.head?_eq_some_iff.1 hhead
    have hcalm : longEnd q u = none := ht hhead
    rw [Literal.body?, if_pos ((htwo _).2 hhead)] at h
    change (longEnd q u).map _ = _ at h
    rw [hcalm] at h
    cases h
  · rw [hshort t hhead] at h
    cases h
    exact ⟨rfl, fun t' ht' => hshort t' fun h => hhead (ht' h)⟩

theorem isUnit_long {b : Text} (hq : isQuote q = true) (h : longEnd q b = some b.length)
    (t : Text) : IsUnit q (q :: q :: b) t := by
  have hb := ne_backslash_of_isQuote hq
  have hbody : ∀ u : Text, Literal.body? q (q :: q :: b ++ u) =
      some (b.take (b.length - 3), b.length + 2) := by
    intro u
    have hend : longEnd q (b ++ u) = some b.length :=
      (longEnd_append_iff hb (Nat.le_refl _)).2 h
    rw [Literal.body?, if_pos (show (q :: q :: b ++ u).take 2 = [q, q] from rfl)]
    change (longEnd q (b ++ u)).map (fun n => ((b ++ u).take (n - 3), n + 2)) = _
    rw [hend, Option.map_some, List.take_append_of_le_length (Nat.sub_le _ _)]
  intro v n hv
  rw [hbody] at hv
  cases hv
  exact ⟨rfl, fun t' _ => hbody t'⟩

theorem isUnit_short {b : Text} (hq : isQuote q = true) (hhead : b.head? ≠ some q) (hb : b ≠ [])
    (hend : ∀ n, shortEnd q (b ++ t) = some n → n = b.length) : IsUnit q b t := by
  have hback := ne_backslash_of_isQuote hq
  have htwo : ∀ u : Text, (b ++ u).take 2 ≠ [q, q] := by
    intro u h
    cases b with
    | nil => exact hb rfl
    | cons c b => exact hhead (by rw [(List.cons.inj h).1]; rfl)
  have hbody : ∀ u : Text, Literal.body? q (b ++ u) =
      (shortEnd q (b ++ u)).map fun n => ((b ++ u).take (n - 1), n) := by
    intro u
    rw [Literal.body?, if_neg (htwo u)]
  intro v n hv
  rw [hbody] at hv
  obtain ⟨m, hm, heq⟩ := Option.map_eq_some_iff.1 hv
  obtain ⟨rfl, rfl⟩ := Prod.mk.inj heq
  have hlength := hend m hm
  refine ⟨hlength, fun t' _ => ?_⟩
  have hm' : shortEnd q (b ++ t') = some m :=
    (shortEnd_append_iff hback (Nat.le_of_eq hlength)).2
      ((shortEnd_append_iff hback (Nat.le_of_eq hlength)).1 hm)
  have htake : ∀ u : Text, (b ++ u).take (m - 1) = b.take (m - 1) := fun u =>
    List.take_append_of_le_length (Nat.le_trans (Nat.sub_le m 1) (Nat.le_of_eq hlength))
  rw [hbody, hm', Option.map_some, htake, htake]

/-- A string that ends in a text is a unit for a script, once the lines end alike and a bracket
comes after the text. -/
theorem isUnit_unifyLineEnds {b u : Text} (hq : isQuote q = true)
    (h : quotedEnd q (b ++ u) = some b.length) :
    IsUnit q (unifyLineEnds b) (unifyLineEnds u ++ [')']) := by
  have hb := ne_backslash_of_isQuote hq
  have hne : q ≠ '\r' ∧ q ≠ '\n' ∧ ')' ≠ q := by
    rcases isQuote_iff.1 hq with rfl | rfl <;> decide
  have hkeep : ∀ w, unifyLineEnds (q :: w) = q :: unifyLineEnds w := unifyLineEnds_cons hne.1
  rcases b with _ | ⟨c, _ | ⟨d, b⟩⟩
  · exact absurd (quotedEnd_bounds q _ _ h).1 (Nat.lt_irrefl 0)
  · -- a string of two quotes
    obtain ⟨b', r, heq, hlength⟩ := exists_of_quotedEnd hq h
    obtain rfl : b' = [] := List.length_eq_zero_iff.1 (Nat.succ.inj hlength).symm
    obtain ⟨rfl, -⟩ := List.cons.inj heq
    rw [hkeep]
    refine isUnit_quote hq fun hhead => ?_
    have hu : u.head? = some c := by
      cases hu : unifyLineEnds u with
      | nil =>
        rw [hu] at hhead
        exact absurd (Option.some.inj hhead) hne.2.2
      | cons d w =>
        rw [← head_unifyLineEnds hne.1 hne.2.1, hu]
        rwa [hu] at hhead
    obtain ⟨u, rfl⟩ := List.head?_eq_some_iff.1 hu
    have hcalm : Calm c u := by
      rw [List.singleton_append, quotedEnd_of_take rfl] at h
      cases hlong : longEnd c u with
      | none => exact hlong
      | some n =>
        rw [show (c :: c :: u).drop 2 = u from rfl, hlong] at h
        simp at h
    rw [hkeep]
    exact (calm_append_cons hb hne.2.2 (by decide) _ []).2 ⟨hcalm.unifyLineEnds hq, calm_nil c⟩
  · by_cases htake : [c, d] = [q, q]
    · -- a long string
      obtain ⟨rfl, hd⟩ := List.cons.inj htake
      obtain ⟨rfl, -⟩ := List.cons.inj hd
      have hlong : longEnd d b = some b.length := by
        rw [List.cons_append, List.cons_append, quotedEnd_of_take rfl] at h
        change ((longEnd d (b ++ u)).map (· + 2)).or (some 1) = _ at h
        rw [← longEnd_append_iff (t := u) hb (Nat.le_refl _)]
        cases hlong : longEnd d (b ++ u) with
        | none => simp [hlong] at h
        | some n =>
          rw [hlong] at h
          simpa using h
      rw [hkeep, hkeep]
      refine isUnit_long hq ?_ _
      rw [longEnd_unifyLineEnds hq, hlong, Option.map_some, List.take_length]
    · -- a short string with something in it
      have hcons : ∀ w, ¬(c :: d :: b ++ w).take 2 = [q, q] := fun w => htake
      rw [quotedEnd, if_neg (hcons u)] at h
      have hshort := (shortEnd_append_iff hb (Nat.le_refl _)).1 h
      have hcq : c ≠ q := by
        rintro rfl
        rw [shortEnd.eq_def] at hshort
        simp at hshort
      refine isUnit_short hq ?_ ?_ ?_
      · rw [Ne, head_unifyLineEnds hne.1 hne.2.1]
        exact fun h => hcq (Option.some.inj h)
      · intro hempty
        have hhead : (unifyLineEnds (c :: d :: b)).length ≠ 0 := by
          rw [Script.unifyLineEnds.eq_def]
          split <;> simp_all
        exact hhead (by rw [hempty]; rfl)
      · intro n hn
        rw [length_of_shortEnd_unifyLineEnds hq hshort hn, List.take_length]

end XmlTemplate
