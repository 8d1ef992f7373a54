import XmlTemplate.Fault
import XmlTemplate.Value.Number

/-!
# Values of scripts

Scripts compute with a fixed family of values: the plain ones, sequences and dictionaries, layouts,
references to documents and to one-shot iterators, and things to call. Dictionaries keep their
entries in the order of insertion.

Values that are made at different times can be told apart by their marks, even where they hold the
same. Two values can be equal (`Value.equal`), and a value can be found in another (`Value.same`).
The two differ on the undefined number, which equals nothing, but is found where it has been put.
Comparing and showing go no deeper into a value than there is room for.
-/

set_option autoImplicit false

namespace XmlTemplate

/-- Methods of texts. -/
inductive TextMethod where
  | upper
  | lower
  | strip
  deriving DecidableEq, Repr

/-- Functions and classes that scripts can call by name, the methods that the class of texts offers,
and the property that the class of layouts shows. -/
inductive Builtin where
  | len
  | str
  | range
  | expand
  | format
  | textMethod (m : TextMethod)
  | prettiness
  deriving DecidableEq, Repr

/-- Methods of documents. -/
inductive DocumentMethod where
  | beginTag
  | addAttribute
  | addAttributes
  | enterContent
  | endEmptyTag
  | endElement
  | addText
  | asText
  | complete
  deriving DecidableEq, Repr

/-- Constructors that the class of layouts offers. -/
inductive FormatMethod where
  | terse
  | pretty
  deriving DecidableEq, Repr

/-- What tells a value from an equal one that was made apart from it. A text without a mark is told
by its characters alone, and a sequence without one from all others. -/
abbrev Mark := Option Nat

/-- Values. A float is known by its text alone, and an undefined number and a dictionary always have
a mark. Documents and iterators are known by their place in the store, and the unit of a layout may
be any value until a document takes it. -/
inductive Value where
  | none
  | bool (b : Bool)
  | int (n : Int)
  | float (text : Text)
  | undefined (id : Nat)
  | str (mark : Mark) (s : Text)
  | list (mark : Mark) (items : List Value)
  | tuple (mark : Mark) (items : List Value)
  | dict (id : Nat) (entries : List (Value × Value))
  | entries (entries : List (Value × Value))
  | range (first stop step : Int)
  | iterator (id : Nat)
  | format (unit : Value)
  | document (id : Nat)
  | builtin (b : Builtin)
  | textMethod (m : TextMethod) (mark : Mark) (self : Text)
  | entriesMethod (id : Nat) (self : List (Value × Value))
  | documentMethod (m : DocumentMethod) (self : Nat)
  | formatMethod (m : FormatMethod)
  deriving Repr

namespace Value

/-- The names of the kinds of values, as messages show them. -/
def kind : Value → String
  | none => "NoneType"
  | bool _ => "bool"
  | int _ => "int"
  | float _ | undefined _ => "float"
  | str .. => "str"
  | list .. => "list"
  | tuple .. => "tuple"
  | dict .. => "dict"
  | entries _ => "dict_items"
  | range .. => "range"
  | iterator _ => "list_iterator"
  | format _ => "Format"
  | document _ => "Document"
  | builtin .len => "builtin_function_or_method"
  | builtin .expand => "function"
  | builtin (.textMethod _) => "method_descriptor"
  | builtin .prettiness => "property"
  | builtin _ => "type"
  | textMethod .. => "builtin_function_or_method"
  | entriesMethod .. => "builtin_function_or_method"
  | documentMethod .. => "method"
  | formatMethod _ => "method"

/-- The number of members of a range. -/
def rangeLength (first stop step : Int) : Nat :=
  if step > 0 then ((stop - first + step - 1) / step).toNat
  else if step < 0 then ((first - stop + -step - 1) / -step).toNat
  else 0

/-- The member of a range at a place. -/
def rangeItem (first step : Int) (i : Nat) : Value := .int (first + step * i)

/-- Whether a whole number is a member of a range. -/
def inRange (first stop step n : Int) : Bool :=
  if step > 0 then first ≤ n && n < stop && (n - first) % step == 0
  else if step < 0 then stop < n && n ≤ first && (first - n) % -step == 0
  else false

/-- The number that a value is, truth values included. -/
def number? : Value → Option Number
  | bool b => some (.finite (if b then 1 else 0))
  | int n => some (.finite n)
  | float s => Number.ofText? s
  | _ => Option.none

/-- The whole number that a value is, truth values included. -/
def int? : Value → Option Int
  | bool b => some (if b then 1 else 0)
  | int n => some n
  | _ => Option.none

/-- Zero, nothing and what is empty count as false. -/
def isTrue : Value → Bool
  | none => false
  | bool b => b
  | int n => n != 0
  | float s => Number.ofText? s != some (.finite 0)
  | str _ s => !s.isEmpty
  | list _ items | tuple _ items => !items.isEmpty
  | dict _ es => !es.isEmpty
  | entries es => !es.isEmpty
  | range first stop step => rangeLength first stop step != 0
  | _ => true

mutual

/-- Whether a value can be the key of a dictionary. -/
def isKey : Value → Bool
  | list .. | dict .. | entries _ => false
  | tuple _ items => areKeys items
  | format unit => unit.isKey
  | _ => true

/-- Whether all values can be keys. -/
def areKeys : List Value → Bool
  | [] => true
  | v :: rest => v.isKey && areKeys rest

end

/-- A new text with a mark of its own, unless it is empty: there is only one empty text. -/
def madeText (fresh : Nat) (s : Text) : Value :=
  str (if s.isEmpty then Option.none else some fresh) s

/-- A text cut out of another or read from outside. The first 256 characters have one text each. -/
def cutText (fresh : Nat) (s : Text) : Value :=
  match s with
  | [c] => str (if c.toNat < 256 then Option.none else some fresh) s
  | s => madeText fresh s

/-- Whether two values are one and the same, and not only equal. -/
def identical : Value → Value → Bool
  | none, none => true
  | bool a, bool b => a == b
  | int a, int b => a == b
  | undefined i, undefined j => i == j
  | str m s, str n t => m == n && s == t
  | list m _, list n _ | tuple m _, tuple n _ => m.isSome && m == n
  | dict i _, dict j _ => i == j
  | _, _ => false

/-- How deep values are compared where no rendering limits it. -/
def maxCompared : Nat := 10000

/-- The room that comparing two layouts takes from comparing their units. -/
def comparedLayoutRoom : Nat := 2

mutual

/-- Equality of values: numbers by what they count, sequences item by item, dictionaries whatever
their order, and layouts by their units. Identical items are not compared, and what is compared
inside of a value has less room. -/
def equalWithin : (room : Nat) → Value → Value → Except Fault Bool
  | 0, _, _ => .error .tooDeep
  | _ + 1, none, none => .ok true
  | _ + 1, str _ s, str _ t => .ok (s == t)
  | room + 1, list _ xs, list _ ys =>
    if xs.length == ys.length then matchesAll room xs ys else .ok false
  | room + 1, tuple _ xs, tuple _ ys => matchesAll room xs ys
  | room + 1, dict _ xs, dict _ ys =>
    if xs.length == ys.length then includedIn room xs ys else .ok false
  | room + 1, entries xs, entries ys =>
    if xs.length == ys.length then includedIn room xs ys else .ok false
  | _ + 1, range a b c, range a' b' c' =>
    let n := rangeLength a b c
    .ok (n == rangeLength a' b' c' && (n == 0 || (a == a' && (n == 1 || c == c'))))
  | _ + 1, iterator i, iterator j => .ok (i == j)
  | room + 1, format u, format v =>
    if u.identical v then .ok true else u.equalWithin (room - comparedLayoutRoom) v
  | _ + 1, document i, document j => .ok (i == j)
  | _ + 1, builtin b, builtin c => .ok (b == c)
  | _ + 1, textMethod m mark s, textMethod n mark' t => .ok (m == n && mark == mark' && s == t)
  | _ + 1, entriesMethod i _, entriesMethod j _ => .ok (i == j)
  | _ + 1, documentMethod m i, documentMethod n j => .ok (m == n && i == j)
  | _ + 1, formatMethod m, formatMethod n => .ok (m == n)
  | _ + 1, v, w =>
    match v.number?, w.number? with
    | some a, some b => .ok (a == b)
    | _, _ => .ok false

/-- Whether the values of one list are found in another, place by place. -/
def matchesAll (room : Nat) : List Value → List Value → Except Fault Bool
  | [], [] => .ok true
  | x :: xs, y :: ys =>
    if x.identical y then matchesAll room xs ys
    else
      match x.equalWithin room y with
      | .ok true => matchesAll room xs ys
      | answer => answer
  | _, _ => .ok false

/-- Whether every entry of the first list is found in the second. A key is looked for whatever the
room, which has to suffice for the key that is found. -/
def includedIn (room : Nat) : List (Value × Value) → List (Value × Value) → Except Fault Bool
  | [], _ => .ok true
  | (k, v) :: rest, ys =>
    match ys.find? fun y =>
      k.identical y.1 || (k.equalWithin maxCompared y.1).toOption == some true with
    | Option.none => .ok false
    | some (key, w) =>
      match if k.identical key then .ok true else k.equalWithin room key with
      | .ok true =>
        match if v.identical w then .ok true else v.equalWithin room w with
        | .ok true => includedIn room rest ys
        | answer => answer
      | answer => answer

end

/-- Whether two values are equal. -/
def equal (v w : Value) : Bool := (v.equalWithin maxCompared w).toOption == some true

/-- Whether a value is found where the other has been put: it is the other, or equal to it. -/
def same (v w : Value) : Bool := v.identical w || v.equal w

/-- Whether a value is found where the other has been put, compared in the given room. -/
def sameWithin (room : Nat) (v w : Value) : Except Fault Bool :=
  if v.identical w then .ok true else v.equalWithin room w

/-- Code points decide the order of texts. -/
def textLess : Text → Text → Bool
  | _, [] => false
  | [], _ :: _ => true
  | c :: s, d :: t => if c = d then textLess s t else c.toNat < d.toNat

/-- Whether a value is a number, be it undefined. -/
def isNumeric : Value → Bool
  | undefined _ => true
  | v => v.number?.isSome

mutual

/-- Whether a value comes before another, for values that have an order. An undefined number comes
before and after nothing, and entries come before others that hold them and more. -/
def lessWithin : (room : Nat) → Value → Value → Except Fault Bool
  | 0, _, _ => .error .tooDeep
  | _ + 1, str _ s, str _ t => .ok (textLess s t)
  | room + 1, list _ xs, list _ ys => lessAll room xs ys
  | room + 1, tuple _ xs, tuple _ ys => lessAll room xs ys
  | room + 1, entries xs, entries ys =>
    if xs.length < ys.length then includedIn room xs ys else .ok false
  | _ + 1, v, w =>
    match v.number?, w.number? with
    | some a, some b => .ok (a.less b)
    | _, _ => if v.isNumeric && w.isNumeric then .ok false else .error .unsuitable

/-- The first place where two lists differ decides their order. -/
def lessAll (room : Nat) : List Value → List Value → Except Fault Bool
  | _, [] => .ok false
  | [], _ :: _ => .ok true
  | x :: xs, y :: ys =>
    match x.sameWithin room y with
    | .ok true => lessAll room xs ys
    | .ok false => x.lessWithin room y
    | .error fault => .error fault

end

/-- The value of an entry with a key. -/
def lookup (key : Value) (es : List (Value × Value)) : Option Value :=
  (es.find? fun e => e.1.same key).map Prod.snd

/-- The entries with one set: a key that is there keeps its place. -/
def insert (key value : Value) : List (Value × Value) → List (Value × Value)
  | [] => [(key, value)]
  | (k, v) :: rest =>
    if k.same key then (k, value) :: rest else (k, v) :: insert key value rest

/-- The entries with some set, one after the other; nothing where a key cannot be one. -/
def insertAll? (es new : List (Value × Value)) : Option (List (Value × Value)) :=
  if new.all fun e => e.1.isKey then some (new.foldl (fun es e => insert e.1 e.2 es) es)
  else Option.none

/-- The least size of a whole number that is too long to be written. -/
def unwritableSize : Nat := Nat.pow 10 4300

/-- The room that a layout takes from showing its unit. -/
def shownLayoutRoom : Nat := 2

/-- The room that the entries of a dictionary take from showing what they hold. -/
def shownEntriesRoom : Nat := 2

mutual

/-- The first thing that keeps a value from being shown in the given room: a whole number that is
too long to be written, or values too deep inside. -/
def obstacle? : (room : Nat) → Value → Option Fault
  | 0, _ => some .tooDeep
  | _ + 1, int n => if n.natAbs ≥ unwritableSize then some (.badValue .longNumber) else Option.none
  | room + 1, list _ items | room + 1, tuple _ items => obstacleIn? room items
  | room + 1, dict _ es => obstacleInEntries? room es
  | room + 1, entries es => obstacleInEntries? (room - shownEntriesRoom) es
  | _ + 1, range first stop step =>
    if [first, stop, step].any fun n => n.natAbs ≥ unwritableSize then
      some (.badValue .longNumber)
    else Option.none
  | room + 1, format unit => unit.obstacle? (room - shownLayoutRoom)
  | _ + 1, _ => Option.none

/-- The first thing that keeps one of the values from being shown. -/
def obstacleIn? (room : Nat) : List Value → Option Fault
  | [] => Option.none
  | v :: rest => (v.obstacle? room).or (obstacleIn? room rest)

/-- The first thing that keeps a key or value of an entry from being shown. -/
def obstacleInEntries? (room : Nat) : List (Value × Value) → Option Fault
  | [] => Option.none
  | (k, v) :: rest =>
    (k.obstacle? room).or ((v.obstacle? room).or (obstacleInEntries? room rest))

end

end Value

end XmlTemplate
