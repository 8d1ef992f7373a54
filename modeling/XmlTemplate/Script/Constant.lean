import XmlTemplate.Script.Parser

/-!
# Constants

A constant is a literal, a number with a sign, a sum or difference of a real and an imaginary
number, or a tuple, list, set or dictionary of constants. Template strings are read as constants:
most are one string literal from end to end, which `Literal.read` decides on its own. Other sources
are read as a `Display` first, which is then checked from left to right (`Display.isKey`): not every
display is a constant, and what is to be a key or the member of a set has to be fit for it.
-/

set_option autoImplicit false

namespace XmlTemplate.Script

/-- What may stand in the source of a constant. The word for sets is known alone, since calling it
makes the empty set. -/
inductive Display where
  | text (value : Text)
  | bytes
  | plain
  | int (n : Nat)
  | real
  | imaginary
  | setWord
  | emptySet
  | tuple (items : List Display)
  | list (items : List Display)
  | set (items : List Display)
  | dict (entries : List (Display × Display))
  | signed (e : Display)
  | sum (left right : Display)
  deriving Repr

/-- Why a source is no constant: it does not have the form of one, a key or member of a set can be
changed, or a whole number is too large to be made real. -/
inductive ConstantFault where
  | malformed
  | changeableKey
  | tooLarge
  deriving DecidableEq, Repr

namespace Display

/-! ## Reading -/

/-- Byte literals that stand next to each other are one. -/
def joinBytes : Nat → Reader Unit
  | 0 => return ()
  | fuel + 1 => do
    if (← peek) = some .bytes then
      skip
      joinBytes fuel

mutual

/-- Signed items with plus and minus between them. -/
def read : Nat → Reader Display
  | 0 => failure
  | fuel + 1 => do sumFrom fuel (← signedItem fuel)

/-- The rest of a sum. -/
def sumFrom : Nat → Display → Reader Display
  | 0, _ => failure
  | fuel + 1, left => do
    if (sumOp? (← peek)).isSome then
      skip
      sumFrom fuel (.sum left (← signedItem fuel))
    else return left

/-- An item with any number of signs before it. -/
def signedItem : Nat → Reader Display
  | 0 => failure
  | fuel + 1 => do
    if (sumOp? (← peek)).isSome then
      skip
      return .signed (← signedItem fuel)
    else
      match ← item fuel with
      | .setWord =>
        if ← atMark "(" then
          skip
          mark ")"
          return .emptySet
        else return .setWord
      | e => return e

/-- A literal, or displays in brackets. -/
def item : Nat → Reader Display
  | 0 => failure
  | fuel + 1 => do
    match ← peek with
    | some (.int n) => skip; return .int n
    | some .real => skip; return .real
    | some .imaginary => skip; return .imaginary
    | some .ellipsis => skip; return .plain
    | some (.str s) => skip; return .text (← joinStrings s fuel)
    | some .bytes => joinBytes fuel; return .bytes
    | some (.keyword x) =>
      if ["None", "True", "False"].any fun w => w.toList = x then skip; return .plain else failure
    | some (.name x) => if x = "set".toList then skip; return .setWord else failure
    | some (.mark ['(']) =>
      skip
      let (items, comma) ← items fuel ")"
      match items, comma with
      | [e], false => return e
      | items, _ => return .tuple items
    | some (.mark ['[']) =>
      skip
      return .list (← items fuel "]").1
    | some (.mark ['\x7b']) =>
      skip
      if ← atMark "\x7d" then
        skip
        return .dict []
      else
        let first ← read fuel
        if ← atMark ":" then
          skip
          let value ← read fuel
          if ← atMark "," then skip else if ← atMark "\x7d" then pure () else failure
          return .dict ((first, value) :: (← entries fuel))
        else
          if ← atMark "," then skip else if ← atMark "\x7d" then pure () else failure
          return .set (first :: (← items fuel "\x7d").1)
    | _ => failure

/-- Displays with commas between them up to and with the closing bracket, and whether a comma stands
after any of them. -/
def items : Nat → String → Reader (List Display × Bool)
  | 0, _ => failure
  | fuel + 1, closer => do
    if ← atMark closer then
      skip
      return ([], false)
    else
      let first ← read fuel
      if ← atMark "," then
        skip
        return (first :: (← items fuel closer).1, true)
      else
        mark closer
        return ([first], false)

/-- Keys and values with commas between them up to and with the closing bracket. -/
def entries : Nat → Reader (List (Display × Display))
  | 0 => failure
  | fuel + 1 => do
    if ← atMark "\x7d" then
      skip
      return []
    else
      let key ← read fuel
      mark ":"
      let value ← read fuel
      if ← atMark "," then skip else if ← atMark "\x7d" then pure () else failure
      return (key, value) :: (← entries fuel)

end

/-- Displays with commas between them up to a line end, and whether a comma stands after any. -/
def bareItems : Nat → Reader (List Display × Bool)
  | 0 => failure
  | fuel + 1 => do
    let first ← read fuel
    if ← atMark "," then
      skip
      match ← peek with
      | none | some .lineEnd => return ([first], true)
      | _ => return (first :: (← bareItems fuel).1, true)
    else return ([first], false)

/-- The display in a text that holds one, with line ends after it. -/
def ofText? (source : Text) : Option Display := do
  let toks ← lex source
  let ((items, comma), rest) ← (bareItems (fuelFor toks)).run toks
  if rest.all (· = .lineEnd) then
    match items, comma with
    | [e], false => some e
    | items, _ => some (.tuple items)
  else none

/-! ## Checking -/

/-- Whole numbers from here on cannot be made real: they are nearer to the next power of two after
the largest real number than to that number, or as near. -/
def wholeBound : Nat := Nat.pow 2 1024 - Nat.pow 2 970

/-- Numbers, which alone take a sign. -/
def isNumber : Display → Bool
  | int _ | real | imaginary => true
  | _ => false

/-- The number that a sign, or no sign, stands before. -/
def unsigned : Display → Display
  | signed e => e
  | e => e

mutual

/-- Whether the value of a constant is fit to be a key; a tuple is if all its items are. -/
def isKey : Display → Except ConstantFault Bool
  | text _ | bytes | plain | int _ | real | imaginary => .ok true
  | setWord => .error .malformed
  | emptySet => .ok false
  | tuple items => areKeys items
  | list items => (areKeys items).map fun _ => false
  | set items => do
    checkMembers items
    return false
  | dict entries => do
    checkEntries entries
    return false
  | signed e => if e.isNumber then .ok true else .error .malformed
  | sum left right =>
    match left.unsigned, right with
    | int n, imaginary => if n < wholeBound then .ok true else .error .tooLarge
    | real, imaginary => .ok true
    | _, _ => .error .malformed

/-- Whether all values are fit to be keys. -/
def areKeys : List Display → Except ConstantFault Bool
  | [] => .ok true
  | e :: rest => do
    let first ← e.isKey
    return first && (← areKeys rest)

/-- Check the members of a set. -/
def checkMembers : List Display → Except ConstantFault Unit
  | [] => .ok ()
  | e :: rest => do
    if ← e.isKey then checkMembers rest else .error .changeableKey

/-- Check the keys and values of a dictionary. -/
def checkEntries : List (Display × Display) → Except ConstantFault Unit
  | [] => .ok ()
  | (k, v) :: rest => do
    let key ← k.isKey
    discard v.isKey
    if key then checkEntries rest else .error .changeableKey

end

end Display

/-- What a constant is worth to a template, which has use for texts alone. -/
inductive Constant where
  | text (value : Text)
  | other
  deriving DecidableEq, Repr

/-- The constant that a display is. -/
def Display.constant (e : Display) : Except ConstantFault Constant :=
  match e with
  | .text s => .ok (.text s)
  | e => e.isKey.map fun _ => .other

/-- The constant that a literal means. -/
def Constant.ofMeaning : Literal.Meaning → Constant
  | .text s => .text s
  | .bytes => .other

/-- The constant in a text that may start with spaces and tabs. -/
def readConstant (source : Text) : Except ConstantFault Constant :=
  let s := (unifyLineEnds source).dropWhile fun c => c == ' ' || c == '\t'
  let whole : Except ConstantFault Constant :=
    match Display.ofText? s with
    | some e => e.constant
    | none => .error .malformed
  if s.contains '\x00' then .error .malformed
  else match Literal.read s with
    | some (m, n) => if n = s.length then .ok (.ofMeaning m) else whole
    | none => whole

end XmlTemplate.Script
