import XmlTemplate.Token.Lexeme

/-!
# One lexeme at a time

`IsLexeme` lists what can start at a place and under which condition, one rule for each kind of
lexeme; the rules exclude one another, so that `lexeme` answers what the rules allow and nothing
else (`lexeme_eq_iff`). Delimiters, punctuation, quotes and blanks are told by their first
character alone.
-/

set_option autoImplicit false

namespace XmlTemplate

/-! ## Classes of characters -/

/-- Characters that make up a lexeme of their own wherever they stand. -/
structure IsLone (c : Char) : Prop where
  notBlank : isBlank c = false
  notSign : c ≠ '#'
  notQuote : isQuote c = false
  notWord : isWord c = false

theorem isQuote_iff {c : Char} : isQuote c = true ↔ c = '\'' ∨ c = '"' := by
  simp [isQuote]

/-- Code points of the letters `A` to `Z` and `a` to `z`. -/
def letterRanges : List (Nat × Nat) := [(0x41, 0x5A), (0x61, 0x7A)]

/-- Code points of the other characters that are neither digits nor the underscore, among the first
128. -/
def markRanges : List (Nat × Nat) := [(0, 0x2F), (0x3A, 0x40), (0x5B, 0x5E), (0x60, 0x60), (0x7B, 0x7F)]

theorem isWord_of_letter {c : Char} (h : inRanges letterRanges c.toNat = true) : isWord c = true :=
  inRanges_of_within (by decide +kernel) h

theorem isDecimal_of_letter {c : Char} (h : inRanges letterRanges c.toNat = true) :
    isDecimal c = false :=
  not_inRanges_of_apart (by decide +kernel) h

theorem isWord_of_mark {c : Char} (h : inRanges markRanges c.toNat = true) : isWord c = false :=
  not_inRanges_of_apart (by decide +kernel) h

theorem isWord_of_isStringMark {c : Char} (h : isStringMark c = true) : isWord c = true := by
  simp only [isStringMark, Bool.or_eq_true, beq_iff_eq] at h
  rcases h with ((((((h | h) | h) | h) | h) | h) | h) | h <;> subst h <;>
    exact isWord_of_letter (by decide)

theorem isBlank_of_isWord {c : Char} (h : isWord c = true) : isBlank c = false :=
  not_inRanges_of_apart (by decide +kernel) h

theorem isWord_of_isQuote {c : Char} (h : isQuote c = true) : isWord c = false := by
  rcases isQuote_iff.1 h with h | h <;> subst h <;> exact isWord_of_mark (by decide)

theorem isBlank_of_isQuote {c : Char} (h : isQuote c = true) : isBlank c = false := by
  rcases isQuote_iff.1 h with h | h <;> subst h <;> decide

theorem ne_sign_of_isWord {c : Char} (h : isWord c = true) : c ≠ '#' := by
  rintro rfl
  have hn : isWord '#' = false := isWord_of_mark (by decide)
  rw [hn] at h
  exact Bool.noConfusion h

theorem ne_sign_of_isQuote {c : Char} (h : isQuote c = true) : c ≠ '#' := by
  rintro rfl
  exact absurd h (by decide)

theorem isDecimal_of_notWord {c : Char} (h : isWord c = false) : isDecimal c = false := by
  rw [Bool.eq_false_iff]
  intro hd
  rw [isWord_of_isDecimal hd] at h
  exact Bool.noConfusion h

namespace Delimiter

theorem ofOpener?_opener (d : Delimiter) : ofOpener? d.opener = some d := by
  cases d <;> rfl

theorem ofCloser?_closer (d : Delimiter) : ofCloser? d.closer = some d := by
  cases d <;> rfl

theorem ofOpener?_closer (d : Delimiter) : ofOpener? d.closer = none := by
  cases d <;> rfl

theorem ofOpener?_eq_some {c : Char} {d : Delimiter} (h : ofOpener? c = some d) : c = d.opener := by
  unfold ofOpener? at h
  split at h
  · next hc => cases h; exact hc
  · split at h
    · next hc => cases h; exact hc
    · split at h
      · next hc => cases h; exact hc
      · cases h

theorem ofCloser?_eq_some {c : Char} {d : Delimiter} (h : ofCloser? c = some d) : c = d.closer := by
  unfold ofCloser? at h
  split at h
  · next hc => cases h; exact hc
  · split at h
    · next hc => cases h; exact hc
    · split at h
      · next hc => cases h; exact hc
      · cases h

theorem isLone_opener (d : Delimiter) : IsLone d.opener := by
  cases d <;> exact ⟨by decide, by decide, by decide, isWord_of_mark (by decide)⟩

theorem isLone_closer (d : Delimiter) : IsLone d.closer := by
  cases d <;> exact ⟨by decide, by decide, by decide, isWord_of_mark (by decide)⟩

end Delimiter

/-! ## Strings start with a quote or a mark -/

theorem stringMarks_of_notMark {c : Char} (h : isStringMark c = false) (s : Text) :
    stringMarks (c :: s) = 0 := by
  rcases s with _ | ⟨d, _ | ⟨e, t⟩⟩ <;> simp [stringMarks, h]

theorem stringLength_of_notMark {c : Char} (hm : isStringMark c = false) (hq : isQuote c = false)
    (s : Text) : stringLength (c :: s) = none := by
  simp [stringLength, stringMarks_of_notMark hm, hq]

theorem isStringMark_of_notWord {c : Char} (h : isWord c = false) : isStringMark c = false := by
  rw [Bool.eq_false_iff]
  intro hm
  rw [isWord_of_isStringMark hm] at h
  exact Bool.noConfusion h

theorem quote_or_word_of_stringLength {c : Char} {s : Text} {n : Nat}
    (h : stringLength (c :: s) = some n) : isQuote c = true ∨ isWord c = true := by
  by_cases hq : isQuote c = true
  · exact .inl hq
  · by_cases hw : isWord c = true
    · exact .inr hw
    · rw [Bool.not_eq_true] at hq hw
      rw [stringLength_of_notMark (isStringMark_of_notWord hw) hq] at h
      cases h

/-! ## What can start at a place -/

/-- What starts at the head of a nonempty text, and how many characters it covers. -/
inductive IsLexeme (grouped : Bool) (c : Char) (s : Text) : Lexeme → Nat → Prop
  | blanks (hc : isBlank c = true) :
      IsLexeme grouped c s .blanks ((s.takeWhile isBlank).length + 1)
  | comment (hc : c = '#') (h : (grouped || !opensDirective s) = true) :
      IsLexeme grouped c s .comment ((s.takeWhile (· != '\n')).length + 1)
  | sign (hc : c = '#') (hg : grouped = false) (h : opensDirective s = true) :
      IsLexeme grouped c s (.leaf .punctuation) 1
  | string {n : Nat} (h : stringLength (c :: s) = some n) : IsLexeme grouped c s (.leaf .string) n
  | openQuote (hc : isQuote c = true) (h : stringLength (c :: s) = none) :
      IsLexeme grouped c s .openQuote 1
  | number (hc : isDecimal c = true) (h : stringLength (c :: s) = none) :
      IsLexeme grouped c s (.leaf .number) (numberLength (c :: s))
  | identifier (hc : isWord c = true) (hd : isDecimal c = false) (h : stringLength (c :: s) = none) :
      IsLexeme grouped c s (.leaf .identifier) (wordLength (c :: s))
  | opening (d : Delimiter) (hc : c = d.opener) : IsLexeme grouped c s (.opening d) 1
  | closing (d : Delimiter) (hc : c = d.closer) : IsLexeme grouped c s (.closing d) 1
  | punctuation (hc : IsLone c) (ho : Delimiter.ofOpener? c = none)
      (hd : Delimiter.ofCloser? c = none) : IsLexeme grouped c s (.leaf .punctuation) 1

/-- What `lexeme` answers follows one of the rules. -/
theorem isLexeme_lexeme (grouped : Bool) (c : Char) (s : Text) :
    IsLexeme grouped c s (lexeme grouped c s).1 (lexeme grouped c s).2 := by
  unfold lexeme
  split
  · next hc => exact .blanks hc
  · next hb =>
    split
    · next hc =>
      simp only [Bool.and_eq_true, decide_eq_true_eq] at hc
      exact .comment hc.1 hc.2
    · next hc =>
      split
      · next n h => exact .string h
      · next h =>
        split
        · next hd => exact .number hd h
        · next hd =>
          rw [Bool.not_eq_true] at hd
          split
          · next hw => exact .identifier hw hd h
          · next hw =>
            split
            · next d ho => exact .opening d (Delimiter.ofOpener?_eq_some ho)
            · next d _ hd => exact .closing d (Delimiter.ofCloser?_eq_some hd)
            · next ho hd =>
              split
              · next hq => exact .openQuote hq h
              · next hq =>
                rw [Bool.not_eq_true] at hb hw hq
                by_cases hsign : c = '#'
                · simp only [hsign, decide_true, Bool.true_and, Bool.not_eq_true,
                    Bool.or_eq_false_iff, Bool.not_eq_false'] at hc
                  exact .sign hsign hc.1 hc.2
                · exact .punctuation ⟨hb, hsign, hq, hw⟩ ho hd

/-- What a lone character is does not depend on what comes after it. -/
theorem lexeme_of_isLone {c : Char} (h : IsLone c) (grouped : Bool) (s : Text) :
    lexeme grouped c s =
      (match Delimiter.ofOpener? c, Delimiter.ofCloser? c with
      | some d, _ => (.opening d, 1)
      | none, some d => (.closing d, 1)
      | none, none => (.leaf .punctuation, 1)) := by
  have hstring := stringLength_of_notMark (isStringMark_of_notWord h.notWord) h.notQuote s
  unfold lexeme
  rw [if_neg (by simp [h.notBlank]), if_neg (by simp [h.notSign]), hstring,
    if_neg (by simp [isDecimal_of_notWord h.notWord]), if_neg (by simp [h.notWord]), h.notQuote]
  rfl

theorem lexeme_opener (grouped : Bool) (d : Delimiter) (s : Text) :
    lexeme grouped d.opener s = (.opening d, 1) := by
  rw [lexeme_of_isLone d.isLone_opener, d.ofOpener?_opener]

theorem lexeme_closer (grouped : Bool) (d : Delimiter) (s : Text) :
    lexeme grouped d.closer s = (.closing d, 1) := by
  rw [lexeme_of_isLone d.isLone_closer, d.ofOpener?_closer, d.ofCloser?_closer]

/-- The rules decide what starts at a place. -/
theorem lexeme_eq_iff {grouped : Bool} {c : Char} {s : Text} {k : Lexeme} {n : Nat} :
    lexeme grouped c s = (k, n) ↔ IsLexeme grouped c s k n := by
  constructor
  · intro h
    have hl := isLexeme_lexeme grouped c s
    rw [h] at hl
    exact hl
  · intro h
    cases h with
    | blanks hc => simp [lexeme, hc]
    | comment hc h =>
      subst hc
      have hb : isBlank '#' = false := by decide
      simp only [lexeme, hb, h, decide_true, Bool.and_self, Bool.false_eq_true, if_true, if_false]
    | sign hc hg h =>
      subst hc hg
      have hb : isBlank '#' = false := by decide
      have hw : isWord '#' = false := isWord_of_mark (by decide)
      have hq : isQuote '#' = false := by decide
      have hs := stringLength_of_notMark (isStringMark_of_notWord hw) hq s
      simp [lexeme, hb, h, hs, isDecimal_of_notWord hw, hw, hq, Delimiter.ofOpener?,
        Delimiter.ofCloser?]
    | string h =>
      rcases quote_or_word_of_stringLength h with hc | hc
      · simp [lexeme, isBlank_of_isQuote hc, ne_sign_of_isQuote hc, h]
      · simp [lexeme, isBlank_of_isWord hc, ne_sign_of_isWord hc, h]
    | openQuote hc h =>
      have hw := isWord_of_isQuote hc
      have hl : Delimiter.ofOpener? c = none ∧ Delimiter.ofCloser? c = none := by
        rcases isQuote_iff.1 hc with hc | hc <;> subst hc <;> decide
      simp [lexeme, isBlank_of_isQuote hc, ne_sign_of_isQuote hc, h, isDecimal_of_notWord hw, hw,
        hl.1, hl.2, hc]
    | number hc h =>
      have hw := isWord_of_isDecimal hc
      simp [lexeme, isBlank_of_isWord hw, ne_sign_of_isWord hw, h, hc]
    | identifier hc hd h =>
      simp [lexeme, isBlank_of_isWord hc, ne_sign_of_isWord hc, h, hc, hd]
    | opening d hc => rw [hc, lexeme_opener]
    | closing d hc => rw [hc, lexeme_closer]
    | punctuation hc ho hd => rw [lexeme_of_isLone hc, ho, hd]

/-! ## Inversion -/

/-- Where a longest run ends: its characters are in the class, and the next one is not. -/
theorem takeWhile_cut {p : Char → Bool} {s t : Text}
    (h : ((s ++ t).takeWhile p).length = s.length) :
    (∀ c ∈ s, p c = true) ∧ ∀ c ∈ t.head?, p c = false := by
  have hparts := List.append_inj ((s ++ t).takeWhile_append_dropWhile (p := p)) h
  constructor
  · intro c hc
    rw [← hparts.1] at hc
    exact List.all_eq_true.1 List.all_takeWhile c hc
  · intro c hc
    rw [← hparts.2] at hc
    have hnot := List.head?_dropWhile_not p (s ++ t)
    rw [Option.mem_def.1 hc] at hnot
    exact hnot

theorem lexeme_eq_blanks {grouped : Bool} {c : Char} {s : Text} {n : Nat}
    (h : lexeme grouped c s = (.blanks, n)) :
    isBlank c = true ∧ n = (s.takeWhile isBlank).length + 1 := by
  cases lexeme_eq_iff.1 h with
  | blanks hc => exact ⟨hc, rfl⟩

theorem lexeme_eq_comment {grouped : Bool} {c : Char} {s : Text} {n : Nat}
    (h : lexeme grouped c s = (.comment, n)) :
    c = '#' ∧ n = (s.takeWhile (· != '\n')).length + 1 := by
  cases lexeme_eq_iff.1 h with
  | comment hc => exact ⟨hc, rfl⟩

theorem lexeme_eq_opening {grouped : Bool} {c : Char} {s : Text} {d : Delimiter} {n : Nat}
    (h : lexeme grouped c s = (.opening d, n)) : c = d.opener ∧ n = 1 := by
  cases lexeme_eq_iff.1 h with
  | opening d hc => exact ⟨hc, rfl⟩

theorem lexeme_eq_closing {grouped : Bool} {c : Char} {s : Text} {d : Delimiter} {n : Nat}
    (h : lexeme grouped c s = (.closing d, n)) : c = d.closer ∧ n = 1 := by
  cases lexeme_eq_iff.1 h with
  | closing d hc => exact ⟨hc, rfl⟩

end XmlTemplate
