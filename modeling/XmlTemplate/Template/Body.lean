import XmlTemplate.Text.Lines

/-!
# Bodies of continuations

The source of a continuation body need not start at the left margin. What stands on the line of the
argument starts at column zero, and the rows below it lose their shared margin; where the first line
ends with a colon, they become its block.
-/

set_option autoImplicit false

namespace XmlTemplate

/-- The indentation of a block below the first line. -/
def blockMargin : Text := [' ', ' ', ' ', ' ']

/-- The program text of a continuation body. -/
def bodySource (s : Text) : Text :=
  let first := Text.trim (s.takeWhile (· != '\n'))
  let below := ((Text.unindent (s.dropWhile (· != '\n')).tail).trimWhile (· == '\n')).trimEnd
  if first.isEmpty then below
  else if below.isEmpty then first
  else if first.getLast? = some ':' then first ++ '\n' :: Text.indentLines blockMargin below
  else first ++ '\n' :: below

end XmlTemplate
