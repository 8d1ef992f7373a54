import XmlTemplate.Script.Token
import XmlTemplate.Text.Digits

/-!
# Numbers of embedded scripts

A number is whole, in base ten or, after a zero and a letter, in base sixteen, eight or two; or it
has a point or a power of ten and is real; or it ends in `j` and is imaginary. Single underscores
may stand between digits. Real and imaginary numbers are told apart and not evaluated, since scripts
have no use for them.
-/

set_option autoImplicit false

namespace XmlTemplate.Script

/-- Characters of a name before its characters are checked: the basic letters, digits and the
underscore, and everything outside of the basic alphabet. -/
def isWordPart (c : Char) : Bool := c.isAlphanum || c == '_' || c.toNat ≥ 128

/-- Words that may follow a number without a blank between. -/
def mayFollowNumber (s : Text) : Bool :=
  ["and", "else", "for", "if", "in", "is", "not", "or"].any fun w => w.toList.isPrefixOf s

/-- Whether a number may end before the text. -/
def endsNumber (s : Text) : Bool :=
  match s with
  | [] => true
  | c :: _ => !isWordPart c || mayFollowNumber s

/-- Digits with single underscores between them; `fresh` holds where a digit has to come next. -/
def isDigitRun (fresh : Bool) : Text → Bool
  | [] => !fresh
  | c :: s => if c = '_' then !fresh && isDigitRun true s else isDigitRun false s

/-- The digits of the base at the head of the text, without the underscores, and the text after
them. -/
def readDigits (base : Nat) (s : Text) : Option (Text × Text) :=
  let isPart (c : Char) : Bool := isDigitOf base c || c == '_'
  let run := s.takeWhile isPart
  if isDigitRun true run then some (run.filter (isDigitOf base), s.dropWhile isPart) else none

/-- The base that the letter after a zero chooses. -/
def baseOf? (c : Char) : Option Nat :=
  if c = 'x' || c = 'X' then some 16
  else if c = 'o' || c = 'O' then some 8
  else if c = 'b' || c = 'B' then some 2
  else none

/-- The most digits that a whole number other than zero may have in base ten. -/
def maxDigits : Nat := 4300

/-- The whole number with the given digits in base ten; only zero may start with a zero. -/
def wholeNumber? (digits : Text) : Option Nat :=
  let value := digitsValue 10 digits
  if value ≠ 0 && (digits.head? = some '0' || digits.length > maxDigits) then none else some value

/-- The text after a fraction, for a text that starts with a point. -/
def readFraction : Text → Option Text
  | '.' :: d :: s =>
    if d.isDigit then (readDigits 10 (d :: s)).map Prod.snd else some (d :: s)
  | s => some s.tail

/-- The text after a power of ten, and whether there is one. A letter that neither a digit nor a
sign follows belongs to what comes after the number. -/
def readPower : Text → Option (Bool × Text)
  | e :: s =>
    if e = 'e' || e = 'E' then
      match s with
      | [] => some (false, [e])
      | d :: s' =>
        if d.isDigit then (readDigits 10 s).map fun r => (true, r.2)
        else if d = '+' || d = '-' then (readDigits 10 s').map fun r => (true, r.2)
        else some (false, e :: s)
    else some (false, e :: s)
  | [] => some (false, [])

/-- The number at the head of a text that starts with a digit, or with a point and a digit, and the
text after it. -/
def readNumber (s : Text) : Option (Tok × Text) :=
  match s with
  | '0' :: c :: rest =>
    match baseOf? c with
    | some base =>
      match readDigits base (if rest.head? = some '_' then rest.tail else rest) with
      | some (digits, after) =>
        if endsNumber after then some (.int (digitsValue base digits), after) else none
      | none => none
    | none => readDecimal s
  | s => readDecimal s
where
  /-- A number in base ten. -/
  readDecimal (s : Text) : Option (Tok × Text) := do
    let (digits, s) ← if s.head? = some '.' then some ([], s) else readDigits 10 s
    let pointed := s.head? = some '.'
    let s ← if pointed then readFraction s else some s
    let (powered, s) ← readPower s
    match s with
    | c :: after =>
      if c = 'j' || c = 'J' then if endsNumber after then some (.imaginary, after) else none
      else if !endsNumber s then none
      else if pointed || powered then some (.real, s)
      else (wholeNumber? digits).map fun n => (.int n, s)
    | [] =>
      if pointed || powered then some (.real, [])
      else (wholeNumber? digits).map fun n => (.int n, [])

end XmlTemplate.Script
