import XmlTemplate.Template.Cursor
import XmlTemplate.Text.Word
import XmlTemplate.Xml.Name

/-!
# Names of elements and attributes

A name may hold colons, hyphens and full stops, which are tokens of their own. Word characters that
stand together are always one token, so that two word tokens in a row must have had a blank between
them; the second one does not belong to the name. Any name can also be given as a string.
-/

set_option autoImplicit false

namespace XmlTemplate

/-- Identifiers, and numbers that start with a decimal digit. -/
def Token.isNameWord : Token → Bool
  | .leaf .identifier _ _ => true
  | .leaf .number (c :: _) _ => isDecimal c
  | _ => false

/-- Punctuation that can stand in a name. -/
def Token.isNameMark : Token → Bool
  | .leaf .punctuation s _ => s == [':'] || s == ['-'] || s == ['.']
  | _ => false

/-- The tokens of the name at the head of the list, and those after it. A word may come next where
`wordNext` holds: at the start, and after punctuation. -/
def nameRun (wordNext : Bool) : List Token → List Token × List Token
  | [] => ([], [])
  | t :: rest =>
    if t.isNameWord && wordNext then
      let (run, left) := nameRun false rest
      (t :: run, left)
    else if t.isNameMark then
      let (run, left) := nameRun true rest
      (t :: run, left)
    else ([], t :: rest)

/-- No token is lost or moved. -/
theorem nameRun_append (wordNext : Bool) (ts : List Token) :
    (nameRun wordNext ts).1 ++ (nameRun wordNext ts).2 = ts := by
  fun_induction nameRun wordNext ts with
  | case1 => rfl
  | case2 _ _ _ _ _ _ h ih => rw [h] at ih; rw [← ih]; rfl
  | case3 _ _ _ _ _ _ _ h ih => rw [h] at ih; rw [← ih]; rfl
  | case4 => rfl

namespace Parse

/-- Check a name that begins at the given place. -/
def checkName (name : Text) (span : Span) : Parse Text :=
  if isName name then return name else fail (.invalidName name) span

/-- Take a name. -/
def readName : Parse Text := do
  let first ← peek
  if first.isKind .string then
    checkName (← takeString) first.span
  else
    let c ← get
    let (run, left) := nameRun true c.tokens
    if run.isEmpty then fail (.expectedName first.shown) first.span
    else
      set { c with tokens := left }
      checkName (run.flatMap Token.text) first.span

end Parse

end XmlTemplate
