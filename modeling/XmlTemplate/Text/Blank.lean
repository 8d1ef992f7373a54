import XmlTemplate.Text.Basic

/-!
# Blank characters

Blanks separate the tokens of a template and make up an indentation unit: the characters with the
`White_Space` property of the character database and the four information separators `U+001C` to
`U+001F`. The main fact is that a blank of the language core is a blank here
(`isBlank_of_isWhitespace`).
-/

set_option autoImplicit false

namespace XmlTemplate

/-- Code points of the blanks. -/
def blankRanges : List (Nat × Nat) :=
  [(0x09, 0x0D), (0x1C, 0x20), (0x85, 0x85), (0xA0, 0xA0), (0x1680, 0x1680), (0x2000, 0x200A),
   (0x2028, 0x2029), (0x202F, 0x202F), (0x205F, 0x205F), (0x3000, 0x3000)]

/-- Blank characters. -/
def isBlank (c : Char) : Bool := inRanges blankRanges c.toNat

/-- Every whitespace character of the core library is blank. -/
theorem isBlank_of_isWhitespace (c : Char) (h : c.isWhitespace = true) : isBlank c = true := by
  simp only [Char.isWhitespace, Bool.or_eq_true, decide_eq_true_eq] at h
  rcases h with ((h | h) | h) | h <;> subst h <;> decide

namespace Text

/-- The text without the blanks at both ends. -/
def trim (s : Text) : Text := trimWhile isBlank s

/-- The text without the blanks at its end. -/
def trimEnd (s : Text) : Text := dropWhileEnd isBlank s

/-- Texts of blanks alone, the empty one included. -/
def allBlank (s : Text) : Bool := s.all isBlank

end Text

end XmlTemplate
