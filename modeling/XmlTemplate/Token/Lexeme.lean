import XmlTemplate.Text.Blank
import XmlTemplate.Text.Word
import XmlTemplate.Literal.Extent
import XmlTemplate.Token.Basic

/-!
# Lexemes

A lexeme is what the source text shows at one place: blanks, a comment, a leaf, a delimiter, or a
quote that no string starts with. `lexeme` answers what starts at a place and how many characters
it covers. A lexeme is never empty and never longer than the text (`lexeme_length_pos`,
`lexeme_length_le`), so that reading lexeme after lexeme loses nothing.

Three quotes in a row start a string up to the next three; where none follow, the first two are an
empty string of their own. Outside of groups a number sign before a square bracket is a mark, else
it starts a comment.
-/

set_option autoImplicit false

namespace XmlTemplate

/-- What the source text shows at one place. -/
inductive Lexeme where
  | blanks
  | comment
  | leaf (kind : Kind)
  | opening (delimiter : Delimiter)
  | closing (delimiter : Delimiter)
  | openQuote
  deriving DecidableEq, Repr

/-- The length of the string after its opening quote: a long one if it can be, else a short one. -/
def quotedEnd (quote : Char) (s : Text) : Option Nat :=
  if s.take 2 = [quote, quote] then
    match longEnd quote (s.drop 2) with
    | some n => some (n + 2)
    | none => shortEnd quote s
  else shortEnd quote s

/-- The length of the string at the head of the text. -/
def stringLength (s : Text) : Option Nat :=
  match s.drop (stringMarks s) with
  | [] => none
  | c :: body =>
    if isQuote c then (quotedEnd c body).map (· + (stringMarks s + 1)) else none

/-- The length of the run of word characters at the head of the text. -/
def wordLength (s : Text) : Nat := (s.takeWhile isWord).length

/-- The length of the number at the head of the text: a run of word characters, and a full stop with
a second run where that starts with a decimal digit. -/
def numberLength (s : Text) : Nat :=
  match s.drop (wordLength s) with
  | '.' :: d :: t => if isDecimal d then wordLength s + 1 + wordLength (d :: t) else wordLength s
  | _ => wordLength s

/-- Whether a square bracket follows on the same line with spaces and tabs alone before it. -/
def opensDirective (s : Text) : Bool :=
  match s.dropWhile fun c => c == ' ' || c == '\t' with
  | '[' :: _ => true
  | _ => false

/-- What starts at the head of a nonempty text, and how many characters it covers. -/
def lexeme (grouped : Bool) (c : Char) (s : Text) : Lexeme × Nat :=
  if isBlank c then (.blanks, (s.takeWhile isBlank).length + 1)
  else if c = '#' && (grouped || !opensDirective s) then
    (.comment, (s.takeWhile (· != '\n')).length + 1)
  else match stringLength (c :: s) with
    | some n => (.leaf .string, n)
    | none =>
      if isDecimal c then (.leaf .number, numberLength (c :: s))
      else if isWord c then (.leaf .identifier, wordLength (c :: s))
      else match Delimiter.ofOpener? c, Delimiter.ofCloser? c with
        | some d, _ => (.opening d, 1)
        | none, some d => (.closing d, 1)
        | none, none => if isQuote c then (.openQuote, 1) else (.leaf .punctuation, 1)

/-! ## Lengths of lexemes -/

theorem quotedEnd_bounds (quote : Char) (s : Text) (n : Nat) (h : quotedEnd quote s = some n) :
    0 < n ∧ n ≤ s.length := by
  unfold quotedEnd at h
  split at h
  · split at h
    · next m hm =>
      have := longEnd_bounds quote _ m hm
      simp only [Option.some.injEq, List.length_drop] at *
      omega
    · exact shortEnd_bounds quote s n h
  · exact shortEnd_bounds quote s n h

theorem stringLength_bounds (s : Text) (n : Nat) (h : stringLength s = some n) :
    0 < n ∧ n ≤ s.length := by
  unfold stringLength at h
  split at h
  · simp at h
  · next c body hs =>
    split at h
    · obtain ⟨m, hm, rfl⟩ := Option.map_eq_some_iff.1 h
      have := quotedEnd_bounds c body m hm
      have hl : (s.drop (stringMarks s)).length = body.length + 1 := by rw [hs]; rfl
      simp only [List.length_drop] at hl
      omega
    · simp at h

theorem wordLength_le (s : Text) : wordLength s ≤ s.length := by
  unfold wordLength
  exact (List.takeWhile_sublist _).length_le

theorem numberLength_le (s : Text) : numberLength s ≤ s.length := by
  unfold numberLength
  have hw := wordLength_le s
  split
  · next d t hs =>
    split
    · have hl : (s.drop (wordLength s)).length = (d :: t).length + 1 := by rw [hs]; rfl
      have := wordLength_le (d :: t)
      simp only [List.length_drop] at hl
      omega
    · exact hw
  · exact hw

theorem lexeme_length_le (grouped : Bool) (c : Char) (s : Text) :
    (lexeme grouped c s).2 ≤ s.length + 1 := by
  unfold lexeme
  have blank := (List.takeWhile_sublist (l := s) isBlank).length_le
  have line := (List.takeWhile_sublist (l := s) (· != '\n')).length_le
  have word := wordLength_le (c :: s)
  have number := numberLength_le (c :: s)
  simp only [List.length_cons] at word number
  split
  · simpa using blank
  · split
    · simpa using line
    · split
      · next n hn => simpa using (stringLength_bounds (c :: s) n hn).2
      · split
        · exact number
        · split
          · exact word
          · split
            · simp
            · simp
            · split <;> simp

theorem wordLength_pos {c : Char} (h : isWord c = true) (s : Text) : 0 < wordLength (c :: s) := by
  simp [wordLength, h]

theorem wordLength_le_numberLength (s : Text) : wordLength s ≤ numberLength s := by
  unfold numberLength
  split
  · split <;> omega
  · omega

/-- Every lexeme covers a character: a number does because decimal digits are word characters. -/
theorem lexeme_length_pos (grouped : Bool) (c : Char) (s : Text) : 0 < (lexeme grouped c s).2 := by
  unfold lexeme
  split
  · simp
  · split
    · simp
    · split
      · next n hn => exact (stringLength_bounds (c :: s) n hn).1
      · split
        · next hd =>
          have := wordLength_pos (isWord_of_isDecimal hd) s
          have := wordLength_le_numberLength (c :: s)
          exact Nat.lt_of_lt_of_le ‹_› ‹_›
        · split
          · next hw => exact wordLength_pos hw s
          · split
            · simp
            · simp
            · split <;> simp

end XmlTemplate
