import XmlTemplate.Render.Call
import XmlTemplate.Value.Rounded

/-!
# Running scripts

Expressions are evaluated from left to right by recursion on their syntax, statements are run in
order. Both work on the state of the rendering and stop at the first fault.
-/

set_option autoImplicit false

namespace XmlTemplate

namespace Render

open Script (Expr Stmt ArithOp CompareOp)

/-! ## Operators -/

/-- Items in front of others, as often as the number says. -/
def repeatBefore {α : Type} (items : List α) : Nat → List α → List α
  | 0, rest => rest
  | n + 1, rest => repeatBefore items n (items ++ rest)

/-- The most items that a result of repetition is laid out with. -/
def maxItems : Int := Nat.pow 2 32

/-- Items repeated. The number has to be a size, whatever the items; what the size of the result
exceeds is given by `limit`, and its fault by `fault`. -/
def times {α : Type} (items : List α) (n : Int) (limit : Int) (fault : Fault) : Render (List α) :=
  if !isSize n then throw .sizeTooLarge
  else if items.isEmpty || n ≤ 0 then return []
  else if items.length * n > limit then throw fault
  else if items.length * n > maxItems then throw .outOfMemory
  else return repeatBefore items n.toNat []

/-- A text repeated; once, it is the same text. -/
def timesText (mark : Mark) (s : Text) (n : Int) : Render Value := do
  if n = 1 then return .str mark s else newText (← times s n maxSize .sizeTooLarge)

/-- The values of a list repeated. -/
def timesItems (vs : List Value) (n : Int) : Render (List Value) := times vs n maxSize .outOfMemory

/-- The items of a tuple repeated; once, it is the same tuple. -/
def timesTuple (mark : Mark) (vs : List Value) (n : Int) : Render Value := do
  if n = 1 then return .tuple mark vs else newTuple (← timesItems vs n)

/-- Two texts in a row. One that is empty leaves the other as it is. -/
def appendText (mark : Mark) (s : Text) (mark' : Mark) (t : Text) : Render Value :=
  if s.isEmpty then return .str mark' t
  else if t.isEmpty then return .str mark s
  else newText (s ++ t)

/-- Two tuples in a row. One that is empty leaves the other as it is. -/
def appendTuple (mark : Mark) (vs : List Value) (mark' : Mark) (ws : List Value) : Render Value :=
  if vs.isEmpty then return .tuple mark' ws
  else if ws.isEmpty then return .tuple mark vs
  else newTuple (vs ++ ws)

/-- The quotient of whole numbers, the floor of it, or the remainder of the sign of the divisor. -/
def divide (op : ArithOp) (a b : Int) : Render Value :=
  match op with
  | .quotient =>
    if b = 0 then throw (.divisionByZero .quotient)
    else
      match Rounded.ofRat (b < 0) ((a : Rat) / b) with
      | .finite negative size => return .float (Rounded.finite negative size).text
      | _ => throw .sizeTooLarge
  | .floorQuotient =>
    if b = 0 then throw (.divisionByZero .floorQuotient) else return .int (Int.fdiv a b)
  | _ => if b = 0 then throw (.divisionByZero .remainder) else return .int (Int.fmod a b)

/-- Whether a value is a rounded number. -/
def isRounded : Value → Bool
  | .float _ | .undefined _ => true
  | _ => false

/-- The rounded number that a number is. -/
def roundedOf (v : Value) : Render Rounded :=
  match v with
  | .undefined _ => return .undefined
  | .float s =>
    match Rounded.ofText? s with
    | some x => return x
    | none => throw .unsuitable
  | v =>
    match v.int? with
    | none => throw .unsuitable
    | some n =>
      match Rounded.ofInt? n with
      | some x => return x
      | none => throw .sizeTooLarge

/-- The value of a rounded number. -/
def ofRounded : Rounded → Render Value
  | .undefined => do return .undefined (← fresh)
  | x => return .float x.text

/-- Arithmetic on rounded numbers. -/
def arithRounded (op : ArithOp) (x y : Rounded) : Render Value :=
  match op with
  | .add => ofRounded (x.add y)
  | .sub => ofRounded (x.sub y)
  | .mul => ofRounded (x.mul y)
  | .quotient =>
    if y.isZero then throw (.divisionByZero .roundedQuotient) else ofRounded (x.quotient y)
  | .floorQuotient =>
    if y.isZero then throw (.divisionByZero .roundedFloorQuotient)
    else ofRounded (x.floorQuotient y)
  | .remainder =>
    if y.isZero then throw (.divisionByZero .roundedRemainder) else ofRounded (x.remainder y)

/-- The number with the other sign. -/
def negate (v : Value) : Render Value := do
  if isRounded v then ofRounded (← roundedOf v).negate else return .int (-(← wholeNumber v))

/-- Arithmetic on whole numbers; sums and repetitions of sequences. -/
def arithWhole (op : ArithOp) (v w : Value) : Render Value :=
  match op, v, w, v.int?, w.int? with
  | .add, _, _, some a, some b => return .int (a + b)
  | .sub, _, _, some a, some b => return .int (a - b)
  | .mul, _, _, some a, some b => return .int (a * b)
  | op, _, _, some a, some b => divide op a b
  | .add, .str m s, .str n t, _, _ => appendText m s n t
  | .add, .list _ xs, .list _ ys, _, _ => newList (xs ++ ys)
  | .add, .tuple m xs, .tuple n ys, _, _ => appendTuple m xs n ys
  | .mul, .str m s, _, _, some n => timesText m s n
  | .mul, _, .str m s, some n, _ => timesText m s n
  | .mul, .list _ xs, _, _, some n => do newList (← timesItems xs n)
  | .mul, _, .list _ xs, some n, _ => do newList (← timesItems xs n)
  | .mul, .tuple m xs, _, _, some n => timesTuple m xs n
  | .mul, _, .tuple m xs, some n, _ => timesTuple m xs n
  | _, _, _, _, _ => throw .unsuitable

/-- Arithmetic. One rounded number makes the result rounded. -/
def arith (op : ArithOp) (v w : Value) : Render Value := do
  if (isRounded v || isRounded w) && v.isNumeric && w.isNumeric then
    let x ← roundedOf v
    arithRounded op x (← roundedOf w)
  else arithWhole op v w

/-- Whether a value is one of the members of a range. -/
def isMember (v : Value) (first stop step : Int) : Bool :=
  match v.number? with
  | some (.finite q) => q.isInt && Value.inRange first stop step q.num
  | _ => false

/-- Whether a value is in another: part of a text, key or entry of a dictionary, or one of the
items. -/
def isIn (v w : Value) : Render Bool := do
  match w with
  | .str _ t =>
    match v with
    | .str _ s => return s.occursIn t
    | _ => throw .unsuitable
  | .dict _ es => if v.isKey then return (Value.lookup v es).isSome else throw .unsuitable
  | .entries es =>
    match v with
    | .tuple _ [k, x] =>
      if k.isKey then isAmong x (Value.lookup k es).toList else throw .unsuitable
    | _ => return false
  | .range first stop step => return isMember v first stop step
  | .list _ vs | .tuple _ vs => isAmong v vs
  | .iterator id => seek id v (← left id)
  | _ => throw .unsuitable

/-- Compare two values. -/
def compare (op : CompareOp) (v w : Value) : Render Value := do
  match op with
  | .equal => return .bool (← areEqual v w)
  | .notEqual => return .bool !(← areEqual v w)
  | .less => return .bool (← orFault (v.lessWithin (← room) w))
  | .greater => return .bool (← orFault (w.lessWithin (← room) v))
  | .isIn => return .bool (← isIn v w)
  | .notIn => return .bool !(← isIn v w)

/-- The place that a whole number points at among as many items, counted from the end where it is
negative. -/
def placeOf? (count : Nat) (i : Int) : Option Nat :=
  let place := if i < 0 then i + count else i
  if 0 ≤ place && place < count then some place.toNat else none

/-- The item of a sequence at a place. -/
def itemAt {α : Type} (kind : String) (items : List α) (key : Value) : Render α := do
  let i ← wholeNumber key
  if !isSize i then throw .placeTooLarge
  match (placeOf? items.length i).bind (items[·]?) with
  | some v => return v
  | none => throw (.indexOutOfRange kind)

/-- The item of a value under a key. -/
def index (v key : Value) : Render Value := do
  match v with
  | .list _ vs => itemAt "list" vs key
  | .tuple _ vs => itemAt "tuple" vs key
  | .str _ s => do cutText [← itemAt "string" s key]
  | .range first stop step =>
    match placeOf? (Value.rangeLength first stop step) (← wholeNumber key) with
    | some i => return Value.rangeItem first step i
    | none => throw (.indexOutOfRange "range object")
  | .dict _ es =>
    if key.isKey then
      match Value.lookup key es with
      | some w => return w
      | none => throw (.missingKey (← shown key))
    else throw .unsuitable
  | _ => throw .unsuitable

/-- The method of texts with a name. -/
def textMethodNamed? (x : Text) : Option TextMethod :=
  [TextMethod.upper, .lower, .strip].find? fun m => m.name = x

/-- The method or field of a value with a name. -/
def member (v : Value) (field : Text) : Render Value := do
  match v with
  | .str mark s =>
    match textMethodNamed? field with
    | some m => return .textMethod m mark s
    | none => throw .missingMember
  | .builtin .str =>
    match textMethodNamed? field with
    | some m => return .builtin (.textMethod m)
    | none => throw .missingMember
  | .dict id es =>
    if field = "items".toList then return .entriesMethod id es else throw .missingMember
  | .format unit =>
    if field = "indentation".toList then return unit
    else if field = "is_pretty".toList then return .bool !(unit.identical .none)
    else if field = "terse".toList then return .formatMethod .terse
    else if field = "pretty".toList then return .formatMethod .pretty
    else throw .missingMember
  | .builtin .format =>
    if field = "indentation".toList then return .none
    else if field = "is_pretty".toList then return .builtin .prettiness
    else if field = "terse".toList then return .formatMethod .terse
    else if field = "pretty".toList then return .formatMethod .pretty
    else throw .missingMember
  | .document id =>
    match DocumentMethod.ofName? field with
    | some m => return .documentMethod m id
    | none =>
      let d ← document id
      if field = "depth".toList then return .int d.depth
      else if field = "format".toList then
        return .format (match d.layout with
          | .terse => .none
          | .pretty unit => .str none unit)
      else throw .missingMember
  | _ => throw .missingMember

/-- How many entries of a dictionary are set together. -/
def entryGroup : Nat := 17

/-- How many of the entries that a dictionary is written with are set as soon as they are known. The
entries are taken in groups. Those of a group with room for one more at most are set one by one, and
those of a smaller group, which can only be the last, are set when the whole group is known. -/
def checkedEntries (count : Nat) : Nat := (count + 1) / entryGroup * entryGroup

/-! ## Expressions -/

mutual

/-- The value of an expression. -/
def eval (expand : Expander) : Expr → Render Value
  | .name x => valueOf x
  | .none => return .none
  | .bool b => return .bool b
  | .int n => return .int n
  | .str s => return .str none s
  | .tuple items => do newTuple (← evalAll expand items)
  | .list items => do newList (← evalAll expand items)
  | .dict entries => do makeDict (← evalEntries expand (checkedEntries entries.length) entries)
  | .member object field => do member (← eval expand object) field
  | .index object key => do
    let v ← eval expand object
    index v (← eval expand key)
  | .call f args named => do
    let v ← eval expand f
    let vs ← evalAll expand args
    call expand v vs (← evalNamed expand named)
  | .negate e => do negate (← eval expand e)
  | .not e => return .bool !(← eval expand e).isTrue
  | .arith op left right => do
    let v ← eval expand left
    arith op v (← eval expand right)
  | .compare op left right => do
    let v ← eval expand left
    compare op v (← eval expand right)
  | .and left right => do
    let v ← eval expand left
    if v.isTrue then eval expand right else return v
  | .or left right => do
    let v ← eval expand left
    if v.isTrue then return v else eval expand right
  | .choose condition yes no => do
    if (← eval expand condition).isTrue then eval expand yes else eval expand no
  | .bind x e => do
    let v ← eval expand e
    bindName x v
    return v

/-- The values of expressions, from left to right. -/
def evalAll (expand : Expander) : List Expr → Render (List Value)
  | [] => return []
  | e :: rest => do
    let v ← eval expand e
    return v :: (← evalAll expand rest)

/-- The keys and values of a dictionary, each key before its value. As many of the keys as the
number says are checked at once; to check the others is left to the dictionary. -/
def evalEntries (expand : Expander) (checked : Nat) :
    List (Expr × Expr) → Render (List (Value × Value))
  | [] => return []
  | (k, e) :: rest => do
    let key ← eval expand k
    let v ← eval expand e
    if checked ≠ 0 && !key.isKey then throw .unsuitable
    return (key, v) :: (← evalEntries expand (checked - 1) rest)

/-- The values of arguments given by name. -/
def evalNamed (expand : Expander) : List (Text × Expr) → Render (List (Text × Value))
  | [] => return []
  | (x, e) :: rest => do
    let v ← eval expand e
    return (x, v) :: (← evalNamed expand rest)

end

/-! ## Statements -/

mutual

/-- Run a statement. -/
def exec (expand : Expander) : Stmt → Render Unit
  | .pass => return ()
  | .run e => discard (eval expand e)
  | .assign x e => do bindName x (← eval expand e)
  | .loop x source body => do
    match (← eval expand source).iteration? with
    | none => throw .unsuitable
    | some items => forEach items fun v => do
      bindName x v
      execAll expand body
  | .branch condition yes no => do
    if (← eval expand condition).isTrue then execAll expand yes else execAll expand no

/-- Run statements in order. -/
def execAll (expand : Expander) : List Stmt → Render Unit
  | [] => return ()
  | s :: rest => do
    exec expand s
    execAll expand rest

end

end Render

end XmlTemplate
