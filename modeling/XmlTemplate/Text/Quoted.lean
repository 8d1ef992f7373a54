import XmlTemplate.Text.Printable

/-!
# Quoted text

The quoted form of a text shows it between quotes on one line: a single quote on each side, or
double quotes where the text has single ones and no double ones. The backslash, the quote in use and
the characters that are not printable are escaped, by the shortest of `\xNN`, `\uNNNN` and
`\UNNNNNNNN` that holds the code point, and tab, line feed and carriage return by their letters.
-/

set_option autoImplicit false

namespace XmlTemplate.Text

/-- The quote that goes around a text. -/
def quoteFor (s : Text) : Char := if s.contains '\'' && !s.contains '"' then '"' else '\''

/-- How a character stands in a text quoted by `quote`. -/
def quotedChar (quote c : Char) : Text :=
  if c = quote || c = '\\' then ['\\', c]
  else if c = '\t' then ['\\', 't']
  else if c = '\n' then ['\\', 'n']
  else if c = '\r' then ['\\', 'r']
  else if isPrintable c then [c]
  else if c.toNat < 0x100 then '\\' :: 'x' :: ofHex 2 c.toNat
  else if c.toNat < 0x10000 then '\\' :: 'u' :: ofHex 4 c.toNat
  else '\\' :: 'U' :: ofHex 8 c.toNat

/-- The text between quotes, on one line. -/
def quoted (s : Text) : Text :=
  let quote := quoteFor s
  quote :: s.flatMap (quotedChar quote) ++ [quote]

end XmlTemplate.Text
