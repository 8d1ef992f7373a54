import XmlTemplate.Error
import XmlTemplate.Script.Constant
import XmlTemplate.Token.Basic

/-!
# Reading tokens

A cursor stands before a token of a list, at the top level or inside a group. Readers take tokens
from it or fail with an error; what a failing reader has taken stays taken. Where the tokens run
out, the error carries the span of the group that they stand in.
-/

set_option autoImplicit false

namespace XmlTemplate

/-- The tokens that are left, and the span of the group they stand in. -/
structure Cursor where
  tokens : List Token
  enclosing : Option Span

/-- The error of a cursor with no token left. -/
def Cursor.endOfInput (c : Cursor) : ParseError := ⟨.endOfInput, c.enclosing⟩

/-- A cursor over the tokens in a group. -/
def Cursor.ofGroup (group : Token) : Cursor := ⟨group.children, some group.span⟩

/-- Readers of tokens. -/
abbrev Parse := EStateM ParseError Cursor

namespace Parse

/-- Fail at a place. -/
def fail {α : Type} (cause : ParseCause) (span : Span) : Parse α := throw ⟨cause, some span⟩

/-- Fail because the tokens have run out. -/
def endOfInput {α : Type} : Parse α := do throw (← get).endOfInput

/-- The token at the cursor, which stays. -/
def peek : Parse Token := do
  match (← get).tokens with
  | t :: _ => return t
  | [] => endOfInput

/-- The token after the one at the cursor; both stay. -/
def peekSecond : Parse Token := do
  match (← get).tokens with
  | _ :: t :: _ => return t
  | _ => endOfInput

/-- Whether no token is left. -/
def isDone : Parse Bool := do return (← get).tokens.isEmpty

/-- How many tokens are left. -/
def remaining : Parse Nat := do return (← get).tokens.length

/-- Take the token at the cursor. -/
def take : Parse Token := do
  match (← get).tokens with
  | t :: rest =>
    modify fun c => { c with tokens := rest }
    return t
  | [] => endOfInput

/-- Take a token, which has to be the punctuation. -/
def takePunctuation (s : Text) : Parse Token := do
  let t ← take
  if t.isPunctuation s then return t else fail (.expectedPunctuation s t.shown) t.span

/-- Take a token, which has to be an identifier. -/
def takeIdentifier : Parse Token := do
  let t ← take
  if t.isKind .identifier then return t else fail (.expectedIdentifier t.shown) t.span

/-- The text that a token stands for, which has to be a string without formatting. -/
def stringValue (t : Token) : Parse Text :=
  match t with
  | .leaf .string s span =>
    if (s.takeWhile isStringMark).any fun c => c == 'f' || c == 'F' then fail .expectedString span
    else match Script.readConstant s with
      | .ok (.text value) => return value
      | .ok .other => fail .expectedString span
      | .error .malformed => fail .invalidString span
      | .error .changeableKey => fail .changeableKey span
      | .error .tooLarge => fail .tooLarge span
  | t => fail .expectedString t.span

/-- Take a token, which has to be a string, for the text it stands for. -/
def takeString : Parse Text := do stringValue (← take)

/-- Take a token, which has to be a group opened by the text. -/
def takeGroup (opener : Text) : Parse Token := do
  let t ← take
  if t.isGroup opener then return t else fail (.expectedGroup opener t.shown) t.span

/-- Check that no token is left. -/
def noMore : Parse Unit := do
  match (← get).tokens with
  | [] => return ()
  | t :: _ => fail (.extraToken t.shown) t.span

/-- Read the tokens of a group from its first one on; the cursor itself stays. -/
def within {α : Type} (group : Token) (p : Parse α) : Parse α := fun c =>
  match p (Cursor.ofGroup group) with
  | .ok a _ => .ok a c
  | .error e _ => .error e c

end Parse

end XmlTemplate
