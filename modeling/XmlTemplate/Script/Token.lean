import XmlTemplate.Text.NormalForm

/-!
# Tokens of embedded scripts

A word of a script is a keyword or a name. Keywords are told by their very spelling, and only then
is a name replaced by its normal form, so that no name is ever a keyword.
-/

set_option autoImplicit false

namespace XmlTemplate.Script

/-- Tokens of a script. -/
inductive Tok where
  | keyword (x : Text)
  | name (x : Text)
  | int (n : Nat)
  | real
  | imaginary
  | str (s : Text)
  | bytes
  | ellipsis
  | mark (s : Text)
  | lineEnd
  | indent
  | dedent
  deriving DecidableEq, Repr

/-- The words of the language, which are no names. -/
def keywords : List Text :=
  ["False", "None", "True", "and", "as", "assert", "async", "await", "break", "class", "continue",
   "def", "del", "elif", "else", "except", "finally", "for", "from", "global", "if", "import", "in",
   "is", "lambda", "nonlocal", "not", "or", "pass", "raise", "return", "try", "while", "with",
   "yield"].map String.toList

/-- The token that an identifier is. -/
def Tok.ofWord (word : Text) : Tok :=
  if keywords.contains word then .keyword word else .name word.normalized

end XmlTemplate.Script
