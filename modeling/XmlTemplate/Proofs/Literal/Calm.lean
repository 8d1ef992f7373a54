import XmlTemplate.Proofs.Literal.Quote

/-!
# Texts in which no long string ends

Three quotes in a row open a long string only if three more follow somewhere in the rest of the
source. What a source shows at one place can thus depend on what comes much later. A text is *calm*
for a kind of quotes if no long string can end in it; the facts here say how calmness goes over to
parts of a text and comes from them. A character that is neither a quote nor a backslash parts a
text in two that can be looked at on their own (`calm_append_cons`).
-/

set_option autoImplicit false

namespace XmlTemplate

/-- No long string between three quotes of the kind ends in the text. -/
def Calm (quote : Char) (s : Text) : Prop := longEnd quote s = none

variable {q x : Char} {s t : Text}

theorem calm_nil (q : Char) : Calm q [] := rfl

theorem longEnd_plain (hq : x ≠ q) (hb : x ≠ '\\') (s : Text) :
    longEnd q (x :: s) = (longEnd q s).map (· + 1) := by
  rw [longEnd.eq_def]
  simp [hq, hb]

theorem longEnd_escaped (hq : q ≠ '\\') (x : Char) (s : Text) :
    longEnd q ('\\' :: x :: s) = (longEnd q s).map (· + 2) := by
  rw [longEnd.eq_def]
  simp [hq.symm]

theorem longEnd_quote (hq : q ≠ '\\') (s : Text) :
    longEnd q (q :: s) = if s.take 2 = [q, q] then some 3 else (longEnd q s).map (· + 1) := by
  rw [longEnd.eq_def]
  simp [hq]

theorem calm_cons_of_plain (hq : x ≠ q) (hb : x ≠ '\\') : Calm q (x :: s) ↔ Calm q s := by
  rw [Calm, longEnd_plain hq hb, Option.map_eq_none_iff, Calm]

theorem calm_cons_of_escaped (hq : q ≠ '\\') : Calm q ('\\' :: x :: s) ↔ Calm q s := by
  rw [Calm, longEnd_escaped hq, Option.map_eq_none_iff, Calm]

theorem calm_cons_quote (hq : q ≠ '\\') : Calm q (q :: s) ↔ s.take 2 ≠ [q, q] ∧ Calm q s := by
  rw [Calm, longEnd_quote hq]
  split
  · next h => simp [h]
  · next h => simp [h, Calm]

theorem calm_backslash (hq : q ≠ '\\') : Calm q ['\\'] := by
  rw [Calm, longEnd.eq_def]
  simp [hq.symm]

/-- What a text is made of, as a search for the end of a long string sees it: a backslash takes the
next character with it. -/
theorem calm_induction {motive : Text → Prop} (nil : motive []) (backslash : motive ['\\'])
    (escaped : ∀ c s, motive s → motive ('\\' :: c :: s))
    (plain : ∀ c s, c ≠ '\\' → motive s → motive (c :: s)) (s : Text) : motive s := by
  induction hn : s.length using Nat.strongRecOn generalizing s with
  | _ n ih =>
    cases s with
    | nil => exact nil
    | cons c s =>
      rw [List.length_cons] at hn
      by_cases hc : c = '\\'
      · subst hc
        cases s with
        | nil => exact backslash
        | cons d s =>
          rw [List.length_cons] at hn
          exact escaped d s (ih s.length (by omega) s rfl)
      · exact plain c s hc (ih s.length (by omega) s rfl)

theorem take_two_append_cons (hx : x ≠ q) : (s ++ x :: t).take 2 = [q, q] ↔ s.take 2 = [q, q] := by
  rcases s with _ | ⟨c, _ | ⟨d, s⟩⟩
  · simp [hx]
  · simp [hx]
  · simp

/-- A character that is neither a quote nor a backslash parts a text. -/
theorem calm_append_cons (hq : q ≠ '\\') (hx : x ≠ q) (hb : x ≠ '\\') (s t : Text) :
    Calm q (s ++ x :: t) ↔ Calm q s ∧ Calm q t := by
  induction s using calm_induction with
  | nil => simp [calm_cons_of_plain hx hb, calm_nil]
  | backslash =>
    show Calm q ('\\' :: x :: t) ↔ _
    rw [calm_cons_of_escaped hq]
    simp [calm_backslash hq]
  | escaped c s ih =>
    rw [List.cons_append, List.cons_append, calm_cons_of_escaped hq, calm_cons_of_escaped hq, ih]
  | plain c s hc ih =>
    rw [List.cons_append]
    by_cases hcq : c = q
    · subst hcq
      rw [calm_cons_quote hq, calm_cons_quote hq, ih, Ne, take_two_append_cons hx, and_assoc]
    · rw [calm_cons_of_plain hcq hc, calm_cons_of_plain hcq hc, ih]

/-- The start of a calm text is calm. -/
theorem Calm.of_append (hq : q ≠ '\\') (h : Calm q (s ++ t)) : Calm q s := by
  induction s using calm_induction with
  | nil => exact calm_nil q
  | backslash => exact calm_backslash hq
  | escaped c s ih => exact (calm_cons_of_escaped hq).2 (ih ((calm_cons_of_escaped hq).1 h))
  | plain c s hc ih =>
    rw [List.cons_append] at h
    by_cases hcq : c = q
    · subst hcq
      obtain ⟨htake, h⟩ := (calm_cons_quote hq).1 h
      refine (calm_cons_quote hq).2 ⟨fun hs => htake ?_, ih h⟩
      have hlength : 2 ≤ s.length := by
        have := congrArg List.length hs
        simp only [List.length_take, List.length_cons, List.length_nil] at this
        omega
      rw [List.take_append_of_le_length hlength, hs]
    · exact (calm_cons_of_plain hcq hc).2 (ih ((calm_cons_of_plain hcq hc).1 h))

/-- The end of a calm text is calm, unless it starts with an escaped character. -/
theorem Calm.of_append_right (hq : q ≠ '\\') (hs : s.getLast? ≠ some '\\') (h : Calm q (s ++ t)) :
    Calm q t := by
  induction s using calm_induction with
  | nil => exact h
  | backslash => exact absurd rfl hs
  | escaped c s ih =>
    cases s with
    | nil => exact (calm_cons_of_escaped hq).1 h
    | cons d s => exact ih (by simpa using hs) ((calm_cons_of_escaped hq).1 h)
  | plain c s hc ih =>
    have hrest : Calm q (s ++ t) := by
      by_cases hcq : c = q
      · subst hcq
        exact ((calm_cons_quote hq).1 h).2
      · exact (calm_cons_of_plain hcq hc).1 h
    cases s with
    | nil => exact hrest
    | cons d s => exact ih (by simpa using hs) hrest

/-! ## Strings that end within a text -/

/-- Whether and where a short string ends within a text does not depend on what comes after it. -/
theorem shortEnd_append_iff (hq : q ≠ '\\') {n : Nat} (hn : n ≤ s.length) :
    shortEnd q (s ++ t) = some n ↔ shortEnd q s = some n := by
  induction s using calm_induction generalizing n with
  | nil =>
    have hno : ∀ {u : Text}, shortEnd q u ≠ some n := by
      intro u h
      have := (shortEnd_bounds q u n h).1
      simp only [List.length_nil] at hn
      omega
    exact ⟨fun h => absurd h hno, fun h => absurd h hno⟩
  | backslash =>
    have hno : ∀ {u : Text}, shortEnd q ('\\' :: u) ≠ some n := by
      intro u h
      cases u with
      | nil =>
        rw [shortEnd.eq_def] at h
        simp [hq.symm] at h
      | cons c u =>
        rw [shortEnd_escaped hq.symm] at h
        obtain ⟨m, -, rfl⟩ := Option.map_eq_some_iff.1 h
        simp at hn
    exact ⟨fun h => absurd h hno, fun h => absurd h hno⟩
  | escaped c s ih =>
    simp only [List.length_cons] at hn
    rw [List.cons_append, List.cons_append, shortEnd_escaped hq.symm, shortEnd_escaped hq.symm,
      Option.map_eq_some_iff, Option.map_eq_some_iff]
    refine exists_congr fun m => and_congr_left fun hm => ih ?_
    omega
  | plain c s hc ih =>
    simp only [List.length_cons] at hn
    rw [List.cons_append]
    by_cases hcq : c = q
    · rw [shortEnd.eq_def, shortEnd.eq_def q (c :: s)]
      simp only [if_pos hcq]
    · by_cases hcn : c = '\n'
      · rw [shortEnd.eq_def, shortEnd.eq_def q (c :: s)]
        simp only [if_neg hcq, if_pos hcn]
      · rw [shortEnd_plain hcq hcn hc, shortEnd_plain hcq hcn hc, Option.map_eq_some_iff,
          Option.map_eq_some_iff]
        refine exists_congr fun m => and_congr_left fun hm => ih ?_
        omega

theorem three_le_longEnd (hq : q ≠ '\\') {n : Nat}
    (h : longEnd q s = some n) : 3 ≤ n := by
  induction s using calm_induction generalizing n with
  | nil => cases h
  | backslash =>
    rw [show longEnd q ['\\'] = none from calm_backslash hq] at h
    cases h
  | escaped c s ih =>
    rw [longEnd_escaped hq] at h
    obtain ⟨m, hm, rfl⟩ := Option.map_eq_some_iff.1 h
    exact Nat.le_add_right_of_le (ih hm)
  | plain c s hc ih =>
    have hrest : ∀ {m}, (longEnd q s).map (· + 1) = some m → 3 ≤ m := by
      intro m hm
      obtain ⟨k, hk, rfl⟩ := Option.map_eq_some_iff.1 hm
      exact Nat.le_add_right_of_le (ih hk)
    by_cases hcq : c = q
    · subst hcq
      rw [longEnd_quote hq] at h
      split at h
      · cases h
        exact Nat.le_refl 3
      · exact hrest h
    · rw [longEnd_plain hcq hc] at h
      exact hrest h

theorem longEnd_append_iff (hq : q ≠ '\\') {n : Nat} (hn : n ≤ s.length) :
    longEnd q (s ++ t) = some n ↔ longEnd q s = some n := by
  induction s using calm_induction generalizing n with
  | nil =>
    have hno : ∀ {u : Text}, longEnd q u ≠ some n := by
      intro u h
      have := (longEnd_bounds q u n h).1
      simp only [List.length_nil] at hn
      omega
    exact ⟨fun h => absurd h hno, fun h => absurd h hno⟩
  | backslash =>
    have hno : ∀ {u : Text}, longEnd q ('\\' :: u) ≠ some n := by
      intro u h
      cases u with
      | nil =>
        rw [show longEnd q ['\\'] = none from calm_backslash hq] at h
        cases h
      | cons c u =>
        rw [longEnd_escaped hq] at h
        obtain ⟨m, -, rfl⟩ := Option.map_eq_some_iff.1 h
        simp at hn
    exact ⟨fun h => absurd h hno, fun h => absurd h hno⟩
  | escaped c s ih =>
    simp only [List.length_cons] at hn
    rw [List.cons_append, List.cons_append, longEnd_escaped hq, longEnd_escaped hq,
      Option.map_eq_some_iff, Option.map_eq_some_iff]
    refine exists_congr fun m => and_congr_left fun hm => ih ?_
    omega
  | plain c s hc ih =>
    simp only [List.length_cons] at hn
    have hrest : ∀ m, m + 1 = n → (longEnd q (s ++ t) = some m ↔ longEnd q s = some m) :=
      fun m hm => ih (by omega)
    rw [List.cons_append]
    by_cases hcq : c = q
    · subst hcq
      -- an end takes three quotes, and where `n` has room for them they are within `s`
      by_cases hlt : n < 3
      · have hno : ∀ {u : Text}, longEnd c u ≠ some n := fun h =>
          absurd (three_le_longEnd hq h) (Nat.not_le.2 hlt)
        exact ⟨fun h => absurd h hno, fun h => absurd h hno⟩
      · have htake : (s ++ t).take 2 = s.take 2 := List.take_append_of_le_length (by omega)
        rw [longEnd_quote hq, longEnd_quote hq, htake]
        by_cases h : s.take 2 = [c, c]
        · rw [if_pos h, if_pos h]
        · rw [if_neg h, if_neg h, Option.map_eq_some_iff, Option.map_eq_some_iff]
          exact exists_congr fun m => and_congr_left fun hm => hrest m hm
    · rw [longEnd_plain hcq hc, longEnd_plain hcq hc, Option.map_eq_some_iff,
        Option.map_eq_some_iff]
      exact exists_congr fun m => and_congr_left fun hm => hrest m hm

/-- A short string ends with a quote. -/
theorem exists_of_shortEnd (hq : q ≠ '\\') {n : Nat} (h : shortEnd q s = some n) :
    ∃ b r, s = b ++ q :: r ∧ n = b.length + 1 := by
  induction s using calm_induction generalizing n with
  | nil => cases h
  | backslash =>
    rw [shortEnd.eq_def] at h
    simp [hq.symm] at h
  | escaped c s ih =>
    rw [shortEnd_escaped hq.symm] at h
    obtain ⟨m, hm, rfl⟩ := Option.map_eq_some_iff.1 h
    obtain ⟨b, r, rfl, rfl⟩ := ih hm
    exact ⟨'\\' :: c :: b, r, rfl, rfl⟩
  | plain c s hc ih =>
    by_cases hcq : c = q
    · rw [shortEnd.eq_def] at h
      simp only [if_pos hcq] at h
      cases h
      exact ⟨[], s, by rw [hcq]; rfl, rfl⟩
    · by_cases hcn : c = '\n'
      · rw [shortEnd.eq_def] at h
        simp only [if_neg hcq, if_pos hcn] at h
        cases h
      · rw [shortEnd_plain hcq hcn hc] at h
        obtain ⟨m, hm, rfl⟩ := Option.map_eq_some_iff.1 h
        obtain ⟨b, r, rfl, rfl⟩ := ih hm
        exact ⟨c :: b, r, rfl, rfl⟩

/-- A long string ends with a quote, in fact with three. -/
theorem exists_of_longEnd (hq : q ≠ '\\') {n : Nat} (h : longEnd q s = some n) :
    ∃ b r, s = b ++ q :: r ∧ n = b.length + 1 := by
  induction s using calm_induction generalizing n with
  | nil => cases h
  | backslash =>
    rw [show longEnd q ['\\'] = none from calm_backslash hq] at h
    cases h
  | escaped c s ih =>
    rw [longEnd_escaped hq] at h
    obtain ⟨m, hm, rfl⟩ := Option.map_eq_some_iff.1 h
    obtain ⟨b, r, rfl, rfl⟩ := ih hm
    exact ⟨'\\' :: c :: b, r, rfl, rfl⟩
  | plain c s hc ih =>
    have hrest : ∀ {m}, (longEnd q s).map (· + 1) = some m →
        ∃ b r, c :: s = b ++ q :: r ∧ m = b.length + 1 := by
      intro m hm
      obtain ⟨k, hk, rfl⟩ := Option.map_eq_some_iff.1 hm
      obtain ⟨b, r, rfl, rfl⟩ := ih hk
      exact ⟨c :: b, r, rfl, rfl⟩
    by_cases hcq : c = q
    · subst hcq
      rw [longEnd_quote hq] at h
      split at h
      · next htake =>
        cases h
        refine ⟨[c, c], s.drop 2, ?_, rfl⟩
        rw [← List.take_append_drop 2 s, htake]
        simp
      · exact hrest h
    · rw [longEnd_plain hcq hc] at h
      exact hrest h

/-! ## Literals and blanks -/

theorem ne_backslash_of_isQuote (h : isQuote q = true) : q ≠ '\\' := by
  rintro rfl
  exact absurd h (by decide)

open Literal in
theorem calm_escape (hq : isQuote q = true) (c : Char) : Calm q (escape c ++ s) ↔ Calm q s := by
  have hb := ne_backslash_of_isQuote hq
  rcases escape_cases c with ⟨he, -⟩ | ⟨he, -⟩ | ⟨he, -⟩ | ⟨he, -⟩ | ⟨he, h⟩
  · rw [he]
    exact calm_cons_of_escaped hb
  · rw [he]
    exact calm_cons_of_escaped hb
  · rw [he]
    exact calm_cons_of_escaped hb
  · rw [he]
    have hzero : '0' ≠ q := by
      rintro rfl
      exact absurd hq (by decide)
    refine (calm_cons_of_escaped (s := '0' :: '0' :: s) hb).trans ?_
    rw [calm_cons_of_plain hzero (by decide), calm_cons_of_plain hzero (by decide)]
  · rw [he]
    have hc : c ≠ q := by
      rintro rfl
      simp [isQuote, h] at hq
    exact calm_cons_of_plain hc h.1

open Literal in
/-- No long string ends in a literal between double quotes, since the quotes in it are escaped. -/
theorem calm_quote (hq : isQuote q = true) (ht : t.head? ≠ some '"') (h : Calm q t) :
    Calm q (quote s ++ t) := by
  have hb := ne_backslash_of_isQuote hq
  have hclose : Calm q ('"' :: t) := by
    by_cases hd : '"' = q
    · subst hd
      refine (calm_cons_quote hb).2 ⟨fun htake => ht ?_, h⟩
      cases t with
      | nil => cases htake
      | cons d t =>
        cases t <;> simp_all
    · exact (calm_cons_of_plain hd (by decide)).2 h
  have hbody : Calm q (quoteBody s ++ '"' :: t) := by
    induction s with
    | nil => exact hclose
    | cons c s ih =>
      rw [quoteBody, List.flatMap_cons, List.append_assoc]
      exact (calm_escape hq c).2 ih
  rw [quote, List.cons_append, List.append_assoc]
  by_cases hd : '"' = q
  · subst hd
    exact (calm_cons_quote hb).2 ⟨(isBody_quoteBody s).take_two (.inr ht), hbody⟩
  · exact (calm_cons_of_plain hd (by decide)).2 hbody

/-- Characters that are neither quotes nor backslashes at the start of a text make no difference. -/
theorem calm_append_of_plain (hs : ∀ c ∈ s, c ≠ q ∧ c ≠ '\\') : Calm q (s ++ t) ↔ Calm q t := by
  induction s with
  | nil => exact Iff.rfl
  | cons c s ih =>
    obtain ⟨⟨hq, hb⟩, hs⟩ := List.forall_mem_cons.1 hs
    rw [List.cons_append, calm_cons_of_plain hq hb, ih hs]

end XmlTemplate
