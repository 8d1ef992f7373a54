import XmlTemplate.Proofs.Literal.Calm
import XmlTemplate.Proofs.Token.Moved

/-!
# What comes after a stretch of source

The tokens of a stretch depend on what comes after it in two ways: on the next character, with which
the last token might go on, and, through three quotes in a row, on whether a long string could end
later. A stretch keeps its tokens when what comes after it is exchanged for something that starts as
well with a character that no token goes on with (`IsStop`) and that is calm where the old one was
(`Calmer`). The places of the tokens change by the same amount (`Shifted`).
-/

set_option autoImplicit false

namespace XmlTemplate

/-- Characters that neither go on with a token nor close a string. -/
structure IsStop (c : Char) : Prop where
  notWord : isWord c = false
  notQuote : isQuote c = false
  notPoint : c ≠ '.'
  notBackslash : c ≠ '\\'

theorem IsStop.ne_of_isQuote {x q : Char} (hx : IsStop x) (hq : isQuote q = true) : x ≠ q := by
  rintro rfl
  rw [hx.notQuote] at hq
  cases hq

theorem isStop_of_mark {c : Char} (h : inRanges markRanges c.toNat = true)
    (hno : ['\'', '"', '.', '\\'].contains c = false) : IsStop c := by
  simp only [List.contains_cons, List.contains_nil, Bool.or_false, Bool.or_eq_false_iff,
    beq_eq_false_iff_ne] at hno
  refine ⟨isWord_of_mark h, ?_, hno.2.2.1, hno.2.2.2⟩
  simp [isQuote, hno.1, hno.2.1]

theorem Delimiter.isStop_closer (d : Delimiter) : IsStop d.closer := by
  cases d <;> exact isStop_of_mark (by decide) (by decide)

/-- Calm for both kinds of quotes, if the other text is. -/
def Calmer (s t : Text) : Prop := ∀ q, isQuote q = true → Calm q t → Calm q s

theorem Calmer.trans {s t u : Text} (h : Calmer s t) (h' : Calmer t u) : Calmer s u :=
  fun q hq hu => h q hq (h' q hq hu)

/-- The same text before both keeps them calm. -/
theorem Calmer.append_cons {x x' : Char} (hx : IsStop x) (hx' : IsStop x') {r r' : Text}
    (h : Calmer r' r) (t : Text) : Calmer (t ++ x' :: r') (t ++ x :: r) := by
  intro q hq hcalm
  have hb := ne_backslash_of_isQuote hq
  obtain ⟨ht, hr⟩ := (calm_append_cons hb (hx.ne_of_isQuote hq) hx.notBackslash t r).1 hcalm
  exact (calm_append_cons hb (hx'.ne_of_isQuote hq) hx'.notBackslash t r').2 ⟨ht, h q hq hr⟩

/-! ## Strings -/

/-- Two quotes in a row stand in the text before a stop. -/
theorem eq_cons_of_take_two {q x c : Char} {t r : Text} (hx : x ≠ q)
    (h : (c :: (t ++ x :: r)).take 2 = [q, q]) : c = q ∧ ∃ t', t = q :: t' := by
  cases t with
  | nil =>
    simp only [List.nil_append, List.take_succ_cons, List.take_zero, List.cons.injEq] at h
    exact absurd h.2.1 hx
  | cons d t =>
    simp only [List.cons_append, List.take_succ_cons, List.take_zero, List.cons.injEq] at h
    exact ⟨h.1, t, by rw [h.2.1]⟩

theorem quotedEnd_of_take {q : Char} {s : Text} (h : s.take 2 = [q, q]) :
    quotedEnd q s = ((longEnd q (s.drop 2)).map (· + 2)).or (some 1) := by
  obtain ⟨t, rfl⟩ : ∃ t, s = q :: q :: t := by
    rcases s with _ | ⟨c, _ | ⟨d, t⟩⟩
    · cases h
    · cases h
    · simp only [List.take_succ_cons, List.take_zero, List.cons.injEq, and_true] at h
      exact ⟨t, by rw [h.1, h.2]⟩
  have hshort : shortEnd q (q :: q :: t) = some 1 := by
    rw [shortEnd.eq_def]
    simp
  rw [quotedEnd, if_pos h, hshort]
  cases longEnd q ((q :: q :: t).drop 2) <;> rfl

/-- A string keeps its end. The case to look at is that of two quotes that are taken for an empty
string, because no long string ends after them. -/
theorem quotedEnd_swap {q x x' : Char} (hq : isQuote q = true) (hx : IsStop x) (hx' : IsStop x')
    {b t r r' : Text} (hr : Calmer r' r)
    (h : quotedEnd q (b ++ (t ++ x :: r)) = some b.length) :
    quotedEnd q (b ++ (t ++ x' :: r')) = some b.length := by
  have hb := ne_backslash_of_isQuote hq
  have hshort : shortEnd q (b ++ (t ++ x :: r)) = some b.length →
      shortEnd q (b ++ (t ++ x' :: r')) = some b.length := fun h =>
    (shortEnd_append_iff hb (Nat.le_refl _)).2 ((shortEnd_append_iff hb (Nat.le_refl _)).1 h)
  rcases b with _ | ⟨c, _ | ⟨d, b⟩⟩
  · exact absurd (quotedEnd_bounds q _ _ h).1 (Nat.lt_irrefl 0)
  · by_cases htake : (c :: (t ++ x :: r)).take 2 = [q, q]
    · obtain ⟨rfl, t, rfl⟩ := eq_cons_of_take_two (hx.ne_of_isQuote hq) htake
      have hcalm : Calm c (t ++ x :: r) := by
        rw [show [c] ++ (c :: t ++ x :: r) = c :: c :: (t ++ x :: r) from rfl,
          quotedEnd_of_take rfl] at h
        cases hlong : longEnd c (t ++ x :: r) with
        | none => exact hlong
        | some n =>
          rw [show (c :: c :: (t ++ x :: r)).drop 2 = t ++ x :: r from rfl, hlong] at h
          simp at h
      have hcalm' : longEnd c (t ++ x' :: r') = none := hr.append_cons hx hx' t c hq hcalm
      rw [show [c] ++ (c :: t ++ x' :: r') = c :: c :: (t ++ x' :: r') from rfl,
        quotedEnd_of_take rfl, show (c :: c :: (t ++ x' :: r')).drop 2 = t ++ x' :: r' from rfl,
        hcalm']
      rfl
    · have htake' : ¬(c :: (t ++ x' :: r')).take 2 = [q, q] := by
        intro h'
        obtain ⟨rfl, t, rfl⟩ := eq_cons_of_take_two (hx'.ne_of_isQuote hq) h'
        exact htake rfl
      rw [quotedEnd] at h ⊢
      rw [List.singleton_append] at *
      rw [if_neg htake] at h
      rw [if_neg htake']
      exact hshort h
  · by_cases htake : [c, d] = [q, q]
    · have hcons : ∀ u, (c :: d :: b ++ u).take 2 = [q, q] := fun u => htake
      have hdrop : ∀ u, (c :: d :: b ++ u).drop 2 = b ++ u := fun u => rfl
      rw [quotedEnd_of_take (hcons _), hdrop] at h ⊢
      have hlong : longEnd q (b ++ (t ++ x :: r)) = some b.length := by
        cases hlong : longEnd q (b ++ (t ++ x :: r)) with
        | none => simp [hlong] at h
        | some n =>
          rw [hlong] at h
          simpa using h
      rw [(longEnd_append_iff hb (Nat.le_refl _)).2
        ((longEnd_append_iff hb (Nat.le_refl _)).1 hlong)]
      rfl
    · have hcons : ∀ u, ¬(c :: d :: b ++ u).take 2 = [q, q] := fun u => htake
      rw [quotedEnd, if_neg (hcons _)] at h ⊢
      exact hshort h

/-- The letters before the quote of a string. -/
theorem stringMarks_append {marks s : Text} {q : Char} (hmarks : ∀ c ∈ marks, isStringMark c = true)
    (hlength : marks.length ≤ 2) (hq : isQuote q = true) :
    stringMarks (marks ++ q :: s) = marks.length := by
  have hno : isStringMark q = false := isStringMark_of_notWord (isWord_of_isQuote hq)
  rcases marks with _ | ⟨c, _ | ⟨d, _ | ⟨e, marks⟩⟩⟩
  · exact stringMarks_of_notMark hno s
  · cases s <;> simp [stringMarks, hmarks, hq, hno]
  · simp [stringMarks, hmarks, hq]
  · simp only [List.length_cons] at hlength
    omega

theorem stringLength_append {marks s : Text} {q : Char}
    (hmarks : ∀ c ∈ marks, isStringMark c = true) (hlength : marks.length ≤ 2)
    (hq : isQuote q = true) :
    stringLength (marks ++ q :: s) = (quotedEnd q s).map (· + (marks.length + 1)) := by
  rw [stringLength, stringMarks_append hmarks hlength hq, List.drop_left]
  simp only [hq, if_true]

/-- A string without letters before its quote. -/
theorem stringLength_of_isQuote {q : Char} (hq : isQuote q = true) (s : Text) :
    stringLength (q :: s) = (quotedEnd q s).map (· + 1) :=
  stringLength_append (fun _ h => absurd h List.not_mem_nil) (Nat.zero_le 2) hq

theorem stringMarks_spec (s : Text) :
    (∀ c ∈ s.take (stringMarks s), isStringMark c = true) ∧ stringMarks s ≤ 2 := by
  rcases s with _ | ⟨c, _ | ⟨d, _ | ⟨e, s⟩⟩⟩
  · simp [stringMarks]
  · simp [stringMarks]
  · rw [stringMarks]
    split
    · next h => simp_all
    · simp
  · rw [stringMarks]
    split
    · next h => simp_all
    · split
      · next h => simp_all
      · simp

/-- A string is made of at most two letters, a quote, and what reaches up to the closing quotes. -/
theorem stringLength_eq_some {s : Text} {n : Nat} (h : stringLength s = some n) :
    ∃ marks q rest k, s = marks ++ q :: rest ∧ (∀ c ∈ marks, isStringMark c = true) ∧
      marks.length ≤ 2 ∧ isQuote q = true ∧ quotedEnd q rest = some k ∧
        n = k + (marks.length + 1) := by
  obtain ⟨hmarks, hle⟩ := stringMarks_spec s
  rw [stringLength] at h
  split at h
  · cases h
  · next q rest hdrop =>
    split at h
    · next hq =>
      obtain ⟨k, hk, rfl⟩ := Option.map_eq_some_iff.1 h
      have hlength : (s.take (stringMarks s)).length = stringMarks s := by
        have := congrArg List.length hdrop
        simp only [List.length_drop, List.length_cons] at this
        rw [List.length_take]
        omega
      refine ⟨s.take (stringMarks s), q, rest, k, ?_, hmarks, by omega, hq, hk, by rw [hlength]⟩
      rw [← hdrop, List.take_append_drop]
    · cases h

/-! ## Words and numbers -/

theorem isStringMark_of_isDecimal {c : Char} (h : isDecimal c = true) : isStringMark c = false := by
  rw [Bool.eq_false_iff]
  intro hm
  simp only [isStringMark, Bool.or_eq_true, beq_iff_eq] at hm
  rcases hm with ((((((hm | hm) | hm) | hm) | hm) | hm) | hm) | hm <;> subst hm <;>
    exact Bool.eq_false_iff.1 (isDecimal_of_letter (by decide)) h

theorem isQuote_of_isWord {c : Char} (h : isWord c = true) : isQuote c = false := by
  rw [Bool.eq_false_iff]
  intro hq
  rw [isWord_of_isQuote hq] at h
  cases h


theorem wordLength_append {w v : Text} (hw : ∀ c ∈ w, isWord c = true)
    (hv : ∀ c ∈ v.head?, isWord c = false) : wordLength (w ++ v) = w.length := by
  rw [wordLength, List.takeWhile_append_of_pos hw]
  cases v with
  | nil => simp
  | cons c v => simp [hv c rfl]

theorem head_swap {x x' : Char} {t r r' : Text} {p : Char → Prop} (hx' : p x')
    (h : ∀ c ∈ (t ++ x :: r).head?, p c) : ∀ c ∈ (t ++ x' :: r').head?, p c := by
  cases t with
  | nil =>
    rintro _ ⟨⟩
    exact hx'
  | cons d t => exact h

/-- Whether a fraction with a decimal digit stands at the head of the text. -/
def startsFraction : Text → Bool
  | '.' :: d :: _ => isDecimal d
  | _ => false

theorem startsFraction_cons_of_ne {c : Char} (h : c ≠ '.') (s : Text) :
    startsFraction (c :: s) = false := by
  unfold startsFraction
  split
  · next heq => exact absurd (List.cons.inj heq).1 h
  · rfl

/-- The length of a number without a fraction. -/
theorem numberLength_whole {w v : Text} (hw : ∀ c ∈ w, isWord c = true)
    (hv : ∀ c ∈ v.head?, isWord c = false) (hf : startsFraction v = false) :
    numberLength (w ++ v) = w.length := by
  rw [numberLength, wordLength_append hw hv, List.drop_left]
  split
  · next d t =>
    rw [if_neg]
    simpa [startsFraction] using hf
  · rfl

/-- The length of a number with a fraction. -/
theorem numberLength_fraction {w v : Text} {d : Char} {u : Text} (hw : ∀ c ∈ w, isWord c = true)
    (hd : isDecimal d = true) (hu : ∀ c ∈ u, isWord c = true)
    (hv : ∀ c ∈ v.head?, isWord c = false) :
    numberLength (w ++ '.' :: d :: (u ++ v)) = w.length + 1 + (u.length + 1) := by
  have hpoint : ∀ c ∈ ('.' :: d :: (u ++ v)).head?, isWord c = false := by
    rintro _ ⟨⟩
    exact isWord_of_mark (by decide)
  have hdu : ∀ c ∈ d :: u, isWord c = true := List.forall_mem_cons.2 ⟨isWord_of_isDecimal hd, hu⟩
  rw [numberLength, wordLength_append hw hpoint, List.drop_left]
  simp only [hd, if_true]
  rw [← List.cons_append, wordLength_append hdu hv, List.length_cons]

/-- A number is a word, with or without a fraction. -/
theorem numberLength_cases {w v : Text} (h : numberLength (w ++ v) = w.length) :
    (∀ c ∈ v.head?, isWord c = false) ∧
      (((∀ c ∈ w, isWord c = true) ∧ startsFraction v = false) ∨
        ∃ w₁ d u, w = w₁ ++ '.' :: d :: u ∧ (∀ c ∈ w₁, isWord c = true) ∧ isDecimal d = true ∧
          ∀ c ∈ u, isWord c = true) := by
  -- the word in front, and what of the number is left for a fraction
  obtain ⟨w₁, w₂, rfl, hw₁⟩ : ∃ w₁ w₂, w = w₁ ++ w₂ ∧ wordLength (w₁ ++ (w₂ ++ v)) = w₁.length := by
    have hle : wordLength (w ++ v) ≤ w.length := h ▸ wordLength_le_numberLength _
    refine ⟨w.take (wordLength (w ++ v)), w.drop (wordLength (w ++ v)),
      (List.take_append_drop _ _).symm, ?_⟩
    rw [← List.append_assoc, List.take_append_drop, List.length_take]
    omega
  obtain ⟨hwords, hnext⟩ := takeWhile_cut hw₁
  rw [List.append_assoc] at h
  by_cases hf : startsFraction (w₂ ++ v) = true
  · obtain ⟨d, t, ht, hd⟩ : ∃ d t, w₂ ++ v = '.' :: d :: t ∧ isDecimal d = true := by
      unfold startsFraction at hf
      split at hf
      · next d t heq => exact ⟨d, t, heq, hf⟩
      · cases hf
    have hlength : w₂.length = wordLength (d :: t) + 1 := by
      rw [numberLength, hw₁, List.drop_left, ht, List.length_append] at h
      simp only [hd, if_true] at h
      omega
    have hpos := wordLength_pos (isWord_of_isDecimal hd) t
    rcases w₂ with _ | ⟨c, _ | ⟨e, u⟩⟩
    · simp at hlength
    · simp only [List.length_singleton] at hlength
      omega
    · obtain ⟨rfl, htail⟩ := List.cons.inj ht
      obtain ⟨rfl, rfl⟩ := List.cons.inj htail
      simp only [List.length_cons] at hlength
      have hcut : ((e :: u ++ v).takeWhile isWord).length = (e :: u).length := by
        rw [List.length_cons]
        exact (Nat.succ.inj hlength).symm
      obtain ⟨hu, hv⟩ := takeWhile_cut hcut
      exact ⟨hv, .inr ⟨w₁, e, u, rfl, hwords, hd, (List.forall_mem_cons.1 hu).2⟩⟩
  · rw [Bool.not_eq_true] at hf
    rw [numberLength_whole hwords hnext hf, List.length_append] at h
    obtain rfl : w₂ = [] := List.length_eq_zero_iff.1 (by omega)
    rw [List.append_nil]
    exact ⟨hnext, .inl ⟨hwords, hf⟩⟩

/-- A string that starts with a whole word has the word for its letters. -/
theorem stringLength_word_quote {w v : Text} {n : Nat} (hw : ∀ c ∈ w, isWord c = true)
    (hv : ∀ c ∈ v.head?, isWord c = false) (h : stringLength (w ++ v) = some n) :
    ∃ q u, v = q :: u ∧ isQuote q = true ∧
      ∀ s, stringLength (w ++ q :: s) = (quotedEnd q s).map (· + (w.length + 1)) := by
  obtain ⟨marks, q, rest, k, heq, hmarks, hlength, hq, -, -⟩ := stringLength_eq_some h
  have hqw := isWord_of_isQuote hq
  -- the word is all that stands before the quote
  have hsame : w = marks ∧ v = q :: rest := by
    rcases List.append_eq_append_iff.1 heq with ⟨m, hm, hv'⟩ | ⟨m, hm, hrest⟩
    · cases m with
      | nil => exact ⟨by simpa using hm.symm, by simpa using hv'⟩
      | cons c m =>
        have hc : isWord c = true := by
          refine isWord_of_isStringMark (hmarks c ?_)
          rw [hm]
          simp
        rw [hv c (by rw [hv']; rfl)] at hc
        cases hc
    · cases m with
      | nil => exact ⟨by simpa using hm, by simpa using hrest.symm⟩
      | cons c m =>
        obtain ⟨rfl, -⟩ := List.cons.inj hrest
        rw [hw q (by rw [hm]; simp)] at hqw
        cases hqw
  obtain ⟨rfl, rfl⟩ := hsame
  exact ⟨q, rest, rfl, hq, fun s => stringLength_append hmarks hlength hq⟩

section Swap

variable {x x' : Char} {r r' : Text} (hx : IsStop x) (hx' : IsStop x') (hr : Calmer r' r)

include hx hx'

include hr in
theorem stringLength_swap {w t : Text} (h : stringLength (w ++ (t ++ x :: r)) = some w.length) :
    stringLength (w ++ (t ++ x' :: r')) = some w.length := by
  obtain ⟨marks, q, rest, k, heq, hmarks, hlength, hq, hk, hw⟩ := stringLength_eq_some h
  -- the string is the lexeme as a whole
  obtain ⟨b, rfl, rfl⟩ : ∃ b, w = marks ++ q :: b ∧ rest = b ++ (t ++ x :: r) := by
    have hsplit : marks ++ q :: rest = (marks ++ [q]) ++ rest := by simp
    rw [hsplit] at heq
    obtain ⟨b, hb⟩ := List.prefix_of_prefix_length_le (List.prefix_append (marks ++ [q]) rest)
      (heq ▸ List.prefix_append w _) (by simp only [List.length_append, List.length_singleton]; omega)
    refine ⟨b, by rw [← hb]; simp, ?_⟩
    rw [← hb, List.append_assoc] at heq
    exact (List.append_cancel_left heq).symm
  have hb : k = b.length := by
    simp only [List.length_append, List.length_cons] at hw
    omega
  rw [hb] at hk
  rw [List.append_assoc, List.cons_append, stringLength_append hmarks hlength hq,
    quotedEnd_swap hq hx hx' hr hk]
  simp only [Option.map_some, List.length_append, List.length_cons, Option.some.injEq]
  omega

omit hx in
/-- A word that no string starts with starts none with something else to come, unless a quote
follows it that no string starts with. -/
theorem stringLength_none_swap {w t : Text} (hw : ∀ c ∈ w, isWord c = true)
    (ht : ∀ c ∈ t.head?, isWord c = false)
    (hnext : ∀ q u, t = q :: u → isQuote q = true → stringLength (t ++ x :: r) ≠ none)
    (h : stringLength (w ++ (t ++ x :: r)) = none) :
    stringLength (w ++ (t ++ x' :: r')) = none := by
  cases hs : stringLength (w ++ (t ++ x' :: r')) with
  | none => rfl
  | some n =>
    have hstop : ∀ c ∈ (t ++ x' :: r').head?, isWord c = false := by
      intro c hc
      cases t with
      | nil =>
        cases hc
        exact hx'.notWord
      | cons d t => exact ht c hc
    obtain ⟨q, rest, hrest, hq, hlength⟩ := stringLength_word_quote hw hstop hs
    cases t with
    | nil =>
      cases hrest
      exact absurd rfl (hx'.ne_of_isQuote hq)
    | cons d u =>
      obtain ⟨rfl, -⟩ := List.cons.inj hrest
      have hsome := hnext _ _ rfl hq
      have hnone : quotedEnd d (u ++ x :: r) = none := by
        rw [List.cons_append, hlength] at h
        simpa using h
      rw [List.cons_append, stringLength_of_isQuote hq, hnone] at hsome
      exact absurd rfl hsome

omit hx in
theorem numberLength_swap {w t : Text} (h : numberLength (w ++ (t ++ x :: r)) = w.length) :
    numberLength (w ++ (t ++ x' :: r')) = w.length := by
  obtain ⟨hnext, ⟨hw, hf⟩ | ⟨w₁, d, u, rfl, hw₁, hd, hu⟩⟩ := numberLength_cases h
  · refine numberLength_whole hw (head_swap hx'.notWord hnext) ?_
    rcases t with _ | ⟨c, _ | ⟨d, t⟩⟩
    · exact startsFraction_cons_of_ne hx'.notPoint r'
    · by_cases hc : c = '.'
      · rw [hc]
        exact isDecimal_of_notWord hx'.notWord
      · exact startsFraction_cons_of_ne hc _
    · by_cases hc : c = '.'
      · rw [hc] at hf ⊢
        exact hf
      · exact startsFraction_cons_of_ne hc _
  · have hv : ∀ c ∈ (t ++ x' :: r').head?, isWord c = false := head_swap hx'.notWord hnext
    rw [List.append_assoc, List.cons_append, List.cons_append, numberLength_fraction hw₁ hd hu hv]
    simp only [List.length_append, List.length_cons]
    omega

include hr in
/-- A token keeps its end. What comes after it must not start with a quote that no string starts
with; a number sign is looked at elsewhere. -/
theorem lexeme_leaf_swap {grouped : Bool} {c : Char} {s t : Text} {kind : Kind} (hc : c ≠ '#')
    (hnext : ∀ q u, t = q :: u → isQuote q = true → stringLength (t ++ x :: r) ≠ none)
    (here : lexeme grouped c (s ++ (t ++ x :: r)) = (.leaf kind, s.length + 1)) :
    lexeme grouped c (s ++ (t ++ x' :: r')) = (.leaf kind, s.length + 1) := by
  rw [lexeme_eq_iff] at here ⊢
  generalize hn : s.length + 1 = n at here ⊢
  generalize hk : Lexeme.leaf kind = k at here ⊢
  cases here with
  | blanks | comment | openQuote | opening | closing => cases hk
  | sign h => exact absurd h hc
  | string h =>
    have hstring : stringLength (c :: s ++ (t ++ x' :: r')) = some (c :: s).length :=
      stringLength_swap hx hx' hr (h.trans (congrArg some hn.symm))
    rw [← hn]
    exact .string hstring
  | number hd h =>
    have hlength : numberLength (c :: s ++ (t ++ x' :: r')) = s.length + 1 :=
      numberLength_swap hx' hn.symm
    have hnone := stringLength_of_notMark (isStringMark_of_isDecimal hd)
      (isQuote_of_isWord (isWord_of_isDecimal hd)) (s ++ (t ++ x' :: r'))
    have hnumber : IsLexeme grouped c (s ++ (t ++ x' :: r')) (.leaf .number)
        (numberLength (c :: s ++ (t ++ x' :: r'))) := .number hd hnone
    rwa [hlength, hn] at hnumber
  | identifier hw hd h =>
    obtain ⟨hwords, hstop⟩ := takeWhile_cut (s := c :: s) hn.symm
    have hlength : wordLength (c :: s ++ (t ++ x' :: r')) = s.length + 1 :=
      wordLength_append hwords (head_swap hx'.notWord hstop)
    have hnone : stringLength (c :: s ++ (t ++ x' :: r')) = none := by
      refine stringLength_none_swap hx' hwords ?_ hnext h
      intro d hd
      cases t with
      | nil => cases hd
      | cons e t => exact hstop d hd
    have hidentifier : IsLexeme grouped c (s ++ (t ++ x' :: r')) (.leaf .identifier)
        (wordLength (c :: s ++ (t ++ x' :: r'))) := .identifier hw hd hnone
    rwa [hlength, hn] at hidentifier
  | punctuation hl ho hd =>
    exact .punctuation hl ho hd

end Swap

/-! ## Stretches -/

mutual

/-- The same token in another place: `i` is the old offset of something and `j` the new one. -/
inductive Shifted (i j : Nat) : Token → Token → Prop
  | leaf {kind : Kind} {s : Text} {p p' : Span} (start : p.start + j = p'.start + i)
      (stop : p.stop + j = p'.stop + i) : Shifted i j (.leaf kind s p) (.leaf kind s p')
  | group {d : Delimiter} {s : Text} {p p' : Span} {ts ts' : List Token}
      (start : p.start + j = p'.start + i) (stop : p.stop + j = p'.stop + i)
      (inside : ShiftedAll i j ts ts') : Shifted i j (.group d s p ts) (.group d s p' ts')

/-- The same tokens in other places. -/
inductive ShiftedAll (i j : Nat) : List Token → List Token → Prop
  | nil : ShiftedAll i j [] []
  | cons {t t' : Token} {ts ts' : List Token} (first : Shifted i j t t')
      (rest : ShiftedAll i j ts ts') : ShiftedAll i j (t :: ts) (t' :: ts')

end

mutual

theorem Token.shifted_moved {i j : Nat} {pos pos' : Position}
    (h : pos.offset + j = pos'.offset + i) : ∀ t : Token, Shifted i j (t.moved pos) (t.moved pos')
  | .leaf kind text p => by
    rw [Token.moved, Token.moved]
    refine .leaf ?_ ?_ <;> simp only [Span.moved] <;> omega
  | .group d text p children => by
    rw [Token.moved, Token.moved]
    refine .group ?_ ?_ (Token.shiftedAll_movedAll h children) <;> simp only [Span.moved] <;> omega

theorem Token.shiftedAll_movedAll {i j : Nat} {pos pos' : Position}
    (h : pos.offset + j = pos'.offset + i) :
    ∀ ts : List Token, ShiftedAll i j (Token.movedAll pos ts) (Token.movedAll pos' ts)
  | [] => .nil
  | t :: ts => .cons (Token.shifted_moved h t) (Token.shiftedAll_movedAll h ts)

end

/-- A stretch has the same tokens in another place. -/
theorem Lexes.shifted {grouped : Bool} {shown rest : Text} {pos pos' : Position} {ts : List Token}
    (h : Lexes grouped shown rest pos ts) {i j : Nat} (hpos : pos.offset + j = pos'.offset + i) :
    ∃ ts', Lexes grouped shown rest pos' ts' ∧ ShiftedAll i j ts ts' := by
  obtain ⟨us, rfl, hus⟩ := h.moved
  exact ⟨_, hus pos', Token.shiftedAll_movedAll hpos us⟩

/-- No stretch starts with a quote that no string starts with. -/
theorem Lexes.stringLength_ne_none {grouped : Bool} {q : Char} {u rest : Text} {pos : Position}
    {ts : List Token} (h : Lexes grouped (q :: u) rest pos ts) (hq : isQuote q = true) :
    stringLength (q :: u ++ rest) ≠ none := by
  -- a quote starts a string or, without an end to it, nothing that a stretch may contain
  have hbad : ∀ {k : Lexeme} {s : Text} {n : Nat}, IsLexeme grouped q s k n → k ≠ .openQuote →
      stringLength (q :: s) ≠ none := by
    intro k s n h hk
    cases h with
    | string h => simp [h]
    | openQuote => exact absurd rfl hk
    | blanks hc =>
      rw [isBlank_of_isQuote hq] at hc
      cases hc
    | comment hc => exact absurd hc (ne_sign_of_isQuote hq)
    | sign hc => exact absurd hc (ne_sign_of_isQuote hq)
    | number hc =>
      rw [isQuote_of_isWord (isWord_of_isDecimal hc)] at hq
      cases hq
    | identifier hc =>
      rw [isQuote_of_isWord hc] at hq
      cases hq
    | opening d hc =>
      rw [hc, d.isLone_opener.notQuote] at hq
      cases hq
    | closing d hc =>
      rw [hc, d.isLone_closer.notQuote] at hq
      cases hq
    | punctuation hc =>
      rw [hc.notQuote] at hq
      cases hq
  generalize hshown : q :: u = shown at h
  cases h with
  | nil => cases hshown
  | skip hk here =>
    obtain ⟨rfl, rfl⟩ := List.cons.inj hshown
    rw [← hshown, List.cons_append, List.append_assoc]
    exact hbad (lexeme_eq_iff.1 here) (by rcases hk with rfl | rfl <;> exact Lexeme.noConfusion)
  | leaf here =>
    obtain ⟨rfl, rfl⟩ := List.cons.inj hshown
    rw [← hshown, List.cons_append, List.append_assoc]
    exact hbad (lexeme_eq_iff.1 here) Lexeme.noConfusion
  | group d =>
    obtain ⟨rfl, -⟩ := List.cons.inj hshown
    rw [d.isLone_opener.notQuote] at hq
    cases hq

theorem takeWhile_swap {p : Char → Bool} {s v v' : Text} (hv : v'.head? = v.head?)
    (h : ((s ++ v).takeWhile p).length = s.length) :
    ((s ++ v').takeWhile p).length = s.length := by
  obtain ⟨hs, hnext⟩ := takeWhile_cut h
  rw [← hv] at hnext
  rw [List.takeWhile_append_of_pos hs]
  cases v' with
  | nil => simp
  | cons d v' => simp [hnext d rfl]

/-- Blanks and comments keep their end, if what comes after them starts with the same character and
the number sign of a comment is none before it as well. -/
theorem lexeme_skip_swap {grouped : Bool} {c : Char} {s v v' : Text} {k : Lexeme}
    (hk : k = .blanks ∨ k = .comment) (hv : v'.head? = v.head?)
    (hsign : k = .comment →
      (grouped || !opensDirective (s ++ v)) = (grouped || !opensDirective (s ++ v')))
    (here : lexeme grouped c (s ++ v) = (k, s.length + 1)) :
    lexeme grouped c (s ++ v') = (k, s.length + 1) := by
  rw [lexeme_eq_iff] at here ⊢
  rcases hk with rfl | rfl
  · generalize hn : s.length + 1 = n at here
    cases here with
    | blanks hc =>
      rw [← hn, ← takeWhile_swap hv (Nat.succ.inj hn).symm]
      exact .blanks hc
  · generalize hn : s.length + 1 = n at here
    cases here with
    | comment hc h =>
      rw [← hn, ← takeWhile_swap hv (Nat.succ.inj hn).symm]
      exact .comment hc (hsign rfl ▸ h)

/-- The content of a group keeps its tokens, if what comes after the group is exchanged for something
calmer. -/
theorem Lexes.keep {shown rest : Text} {pos : Position} {ts : List Token}
    (h : Lexes true shown rest pos ts) {x : Char} {r r' : Text} (hrest : rest = x :: r)
    (hx : IsStop x) (hr : Calmer r' r) : Lexes true shown (x :: r') pos ts := by
  generalize hg : true = grouped at h
  induction h generalizing x r r' with
  | nil => exact hg ▸ .nil true _ _
  | @skip grouped c s t rest pos ts k hk here after ih =>
    subst hg hrest
    -- inside of a group every number sign starts a comment
    refine .skip hk (lexeme_skip_swap hk ?_ (by simp) here) (ih rfl hx hr rfl)
    cases t <;> rfl
  | @leaf grouped c s t rest pos ts kind here after ih =>
    subst hg hrest
    have hc : c ≠ '#' := by
      rintro rfl
      rw [lexeme_eq_iff.2 (.comment rfl rfl)] at here
      cases here
    refine .leaf (lexeme_leaf_swap hx hx hr hc ?_ here) (ih rfl hx hr rfl)
    rintro q u rfl hq
    exact after.stringLength_ne_none hq
  | @group grouped d inner t rest pos children ts inside after ihInside ihAfter =>
    subst hg hrest
    have hinside := ihInside rfl d.isStop_closer (hr.append_cons hx hx t) rfl
    exact .group d hinside (ihAfter rfl hx hr rfl)

/-- The content of a group keeps its tokens wherever it stands, if what comes after the group is
exchanged for something calmer. -/
theorem Lexes.swap {shown rest : Text} {pos : Position} {ts : List Token}
    (h : Lexes true shown rest pos ts) {x : Char} {r r' : Text} (hrest : rest = x :: r)
    (hx : IsStop x) (hr : Calmer r' r) {i j : Nat} {pos' : Position}
    (hpos : pos.offset + j = pos'.offset + i) :
    ∃ ts', Lexes true shown (x :: r') pos' ts' ∧ ShiftedAll i j ts ts' :=
  (h.keep hrest hx hr).shifted hpos

end XmlTemplate
