import XmlTemplate.Render.Iteration
import XmlTemplate.Text.Case

/-!
# Calls

What functions and methods do with their arguments. Arguments are given by place or by name, and a
call that leaves a parameter without a value, gives one twice or gives too many is unsuitable. The
function that expands a template inside of a script is a parameter here, since expanding runs
scripts again.
-/

set_option autoImplicit false

namespace XmlTemplate

/-- Expands the template in a text, for scripts that ask for it. The names are asked for once the
template has been read. -/
abbrev Expander := Text → Render Scope → Settings → Render Value

/-- The arguments of a call in the order of the parameters, whose defaults are given. -/
def bindArguments : List (Text × Option Value) → List Value → List (Text × Value) →
    Option (List Value)
  | [], [], [] => some []
  | [], _, _ => none
  | (p, _) :: ps, v :: vs, named =>
    if (named.lookup p).isSome then none else (bindArguments ps vs named).map (v :: ·)
  | (p, initial) :: ps, [], named =>
    match named.lookup p, initial with
    | some v, _ => (bindArguments ps [] (named.eraseP fun e => e.1 == p)).map (v :: ·)
    | none, some v => (bindArguments ps [] named).map (v :: ·)
    | none, none => none

/-- Parameters without defaults. -/
def required (names : List String) : List (Text × Option Value) :=
  names.map fun x => (x.toList, none)

/-- The parameters of a method of documents. -/
def DocumentMethod.parameters : DocumentMethod → List (Text × Option Value)
  | .beginTag | .endElement => required ["name"]
  | .addAttribute => required ["name", "value"]
  | .addAttributes => required ["pairs"]
  | .addText => required ["value"]
  | .enterContent | .endEmptyTag | .asText | .complete => []

/-- The method of documents with a name. The last one has two. -/
def DocumentMethod.ofName? (x : Text) : Option DocumentMethod :=
  if x = "into_string".toList then some complete
  else [beginTag, addAttribute, addAttributes, enterContent, endEmptyTag, endElement, addText,
    asText, complete].find? fun m => m.name = x

namespace Render

/-- The answer of a call whose arguments do not fit is that it is unsuitable. -/
def argumentsOf (parameters : List (Text × Option Value)) (args : List Value)
    (named : List (Text × Value)) : Render (List Value) :=
  match bindArguments parameters args named with
  | some vs => return vs
  | none => throw .unsuitable

/-! ## Documents -/

/-- Whether the items are texts of one name character each. -/
def nameParts : List Value → Render Bool
  | [] => return true
  | .str _ [c] :: rest => if isNamePart c.toNat then nameParts rest else return false
  | _ :: _ => throw .unsuitable

/-- What is written for a name: a text, or no text for a sequence of characters that make one. Other
values that count as false, and sequences that make no name, are faulty names, and the rest is
unsuitable. -/
def nameOf (v : Value) : Render (Option Text) := do
  let faulty : Render (Option Text) := do throw (.violation (.invalidName (← display v)))
  match v with
  | .str _ s => if isName s then return some s else faulty
  | v =>
    if !v.isTrue then faulty
    else match v with
      | .list _ (.str _ [c] :: rest) | .tuple _ (.str _ [c] :: rest) =>
        if isNameStart c.toNat then
          if ← nameParts rest then return none else faulty
        else faulty
      | .dict _ es =>
        match Value.lookup (.int 0) es with
        | none => throw (.missingKey ['0'])
        | some (.str _ [c]) => if isNameStart c.toNat then throw .unsuitable else faulty
        | some _ => throw .unsuitable
      | _ => throw .unsuitable

/-- Write an attribute. The value is turned into text when its name is already written, which shows
where the value is the document itself. -/
def writeAttribute (id : Nat) (name : Option Text) (v : Value) : Render Unit := do
  changeDocument id fun d => .ok (d.beginAttribute name)
  let value ← display v
  changeDocument id fun d => .ok (d.endAttribute value)

/-- Leave an element of a document. A pretty document looks at the end of the latest piece for that,
which has to be a text. -/
def leaveElement (id : Nat) (f : Document → Except Violation Document) : Render Unit := do
  let d ← document id
  if d.depth ≠ 0 && d.layout ≠ .terse && d.latest.isNone then throw .missingMember
  changeDocument id f

/-- Write the pair as an attribute; its name is checked when it is written. -/
def writePair (id : Nat) (pair : Value) : Render Unit := do
  let (n, v) ← unpackPair pair
  let name ← display n
  writeAttribute id (some name) v
  if !isName name then throw (.invalidName name)

/-- Write every pair of a dictionary, or every item, as an attribute. -/
def writeAttributes (id : Nat) (v : Value) : Render Unit := do
  match v with
  | .dict _ es => forItems (writePair id) (pairs es)
  | v =>
    match v.iteration? with
    | some source => forEach source (writePair id)
    | none => throw .unsuitable

/-- Call a method of a document. -/
def callDocument (m : DocumentMethod) (id : Nat) (args : List Value) : Render Value := do
  match m, args with
  | .beginTag, [n] =>
    let name ← nameOf n
    changeDocument id fun d => .ok (d.openTag name)
    return .none
  | .addAttribute, [n, v] =>
    writeAttribute id (← nameOf n) v
    return .none
  | .addAttributes, [v] =>
    writeAttributes id v
    return .none
  | .enterContent, [] =>
    changeDocument id fun d => .ok d.enterContent
    return .none
  | .endEmptyTag, [] =>
    changeDocument id fun d => .ok d.endEmptyTag
    return .none
  | .endElement, [n] =>
    let name ← nameOf n
    let shown ← display n
    leaveElement id (·.closeTag name shown)
    return .none
  | .addText, [v] =>
    let value ← display v
    changeDocument id fun d => .ok (d.addText value)
    return .none
  | .asText, [] => newText (← readDocument id)
  | .complete, [] => newText (← readComplete id)
  | _, _ => throw .unsuitable

/-- The layout that a format describes: no unit, or a unit of text. -/
def layoutOf : Value → Render Layout
  | .none => return .terse
  | .str _ unit => return .pretty unit
  | _ => throw .unsuitable

/-- A new document with the given version, with a word on other documents unless that is nothing,
and with the given format, which is terse where it is nothing. -/
def newDocument (version standalone format : Value) : Render Nat := do
  let declared : Option Version :=
    match version with
    | .str _ s => Version.ofText? s
    | _ => none
  match declared with
  | none => throw (.badValue (.version (← shown version)))
  | some v =>
    let layout ← match format with
      | .none | .builtin .format => pure .terse
      | .format unit => layoutOf unit
      | _ => throw .missingMember
    addDocument (.start v (match standalone with
      | .none => none
      | w => some w.isTrue) layout)

/-! ## Functions -/

/-- The largest size. -/
def maxSize : Int := Nat.pow 2 63 - 1

/-- Whether a whole number can count or point at something. -/
def isSize (n : Int) : Bool := -maxSize - 1 ≤ n && n ≤ maxSize

/-- The number of items of a value. -/
def length (v : Value) : Render Value :=
  match v with
  | .str _ s => return .int s.length
  | .list _ vs | .tuple _ vs => return .int vs.length
  | .dict _ es | .entries es => return .int es.length
  | .range first stop step =>
    let n : Int := Value.rangeLength first stop step
    if isSize n then return .int n else throw .sizeTooLarge
  | _ => throw .unsuitable

/-- The whole number that a value is. -/
def wholeNumber (v : Value) : Render Int :=
  match v.int? with
  | some n => return n
  | none => throw .unsuitable

/-- A range from its one, two or three bounds. -/
def makeRange : List Value → Render Value
  | [stop] => do return .range 0 (← wholeNumber stop) 1
  | [first, stop] => do return .range (← wholeNumber first) (← wholeNumber stop) 1
  | [first, stop, step] => do
    let first ← wholeNumber first
    let stop ← wholeNumber stop
    let step ← wholeNumber step
    if step = 0 then throw (.badValue .zeroStep) else return .range first stop step
  | _ => throw .unsuitable

/-- The key and value that an item binds, which has to be a pair; `place` counts the items. -/
def bindingOf (place : Nat) (item : Value) : Render (Value × Value) := do
  match item.iteration? with
  | none => throw .unsuitable
  | some source =>
    match ← allItems source with
    | [k, v] => if k.isKey then return (k, v) else throw .unsuitable
    | vs => throw (.badValue (.bindingLength place vs.length))

/-- The keys and values that items bind, one after the other. -/
def bindingsOf (place : Nat) : List Value → Render (List (Value × Value))
  | [] => return []
  | item :: rest => do
    let binding ← bindingOf place item
    return binding :: (← bindingsOf (place + 1) rest)

/-- The keys and values that the items of an iterator bind, taken one by one in no more than the
given number of rounds. -/
def bindingsLeft (id place : Nat) : (rounds : Nat) → Render (List (Value × Value))
  | 0 => return []
  | rounds + 1 => do
    match ← next? id with
    | none => return []
    | some item =>
      let binding ← bindingOf place item
      return binding :: (← bindingsLeft id (place + 1) rounds)

/-- The names that a value binds: those of a dictionary, or of a sequence of pairs, or none. -/
def scopeOf (v : Value) : Render Scope := do
  let bindings ← match v with
    | .none => pure []
    | .dict _ es => pure es
    | v =>
      match v.iteration? with
      | some (.items vs) => bindingsOf 0 vs
      | some (.range _ _ count) => if count = 0 then pure [] else throw .unsuitable
      | some (.shared id) => bindingsLeft id 0 (← left id)
      | none => throw .unsuitable
  return bindings.foldl (fun scope binding =>
    match binding.1 with
    | .str _ x => scope.bind x binding.2
    | _ => scope) []

/-- The source text that a value is: a text, or something empty that can be a key. -/
def sourceOf (v : Value) : Render Text :=
  match v with
  | .str _ s => return s
  | .tuple _ [] => return []
  | .range first stop step =>
    let n := Value.rangeLength first stop step
    if n = 0 then return [] else if isSize n then throw .unsuitable else throw .sizeTooLarge
  | _ => throw .unsuitable

/-- The settings that a value makes. -/
def settingsOf : Option Value → Settings
  | none => .options .default
  | some v => if v.isTrue then .value v else .options .default

/-- Expand the template in a text. Names given one by one take precedence over those that a value
binds. -/
def callExpand (expand : Expander) (args : List Value) (named : List (Text × Value)) :
    Render Value := do
  let values := named.filter fun e => e.1 ≠ "options".toList
  let settings := settingsOf (named.lookup "options".toList)
  let run (source names : Value) : Render Value := do
    if settings.isKey then
      expand (← sourceOf source) (do return (← scopeOf names).bindAll values) settings
    else throw .unsuitable
  match args with
  | [source] => run source .none
  | [source, names] => run source names
  | _ => throw .unsuitable

/-- Check a value that says how to read bytes. -/
def checkReading (v : Value) : Render Unit :=
  match v with
  | .str _ s => if s.contains '\x00' then throw (.badValue .nullCharacter) else return ()
  | _ => throw .unsuitable

/-- A value as text. A text is its own, and there is one text for each truth value. -/
def textOf (v : Value) : Render Value := do
  match v with
  | .str mark s => return .str mark s
  | .bool _ => return .str none (← display v)
  | v => newText (← display v)

/-- The parameters of the class of texts. -/
def textParameters : List Text := ["object", "encoding", "errors"].map String.toList

/-- A value as text; without one the empty text. What else is given says how to read bytes: it has
to be text, and it does not go with a value, since none holds bytes. -/
def callText (args : List Value) (named : List (Text × Value)) : Render Value := do
  let bound ← argumentsOf (textParameters.map fun x => (x, some .none)) args named
  let given := textParameters.zipIdx.map fun (x, i) =>
    decide (i < args.length) || (named.lookup x).isSome
  match bound, given with
  | [v, encoding, errors], [valueGiven, encodingGiven, errorsGiven] =>
    if encodingGiven then checkReading encoding
    if errorsGiven then checkReading errors
    if !valueGiven then return .str none []
    else if encodingGiven || errorsGiven then throw .unsuitable
    else textOf v
  | _, _ => throw .unsuitable

/-- Call a method of texts. -/
def callTextMethod (m : TextMethod) (mark : Mark) (s : Text) (args : List Value)
    (named : List (Text × Value)) : Render Value :=
  let cut (t : Text) : Render Value := if t = s then return .str mark s else cutText t
  match m, args, named with
  | .upper, [], [] => newText s.upper
  | .lower, [], [] => newText s.lower
  | .strip, [], [] | .strip, [.none], [] => cut s.trim
  | .strip, [.str _ chars], [] => cut (s.trimWhile chars.contains)
  | _, _, _ => throw .unsuitable

/-- Call a value. -/
def call (expand : Expander) (f : Value) (args : List Value) (named : List (Text × Value)) :
    Render Value := do
  match f with
  | .builtin .len =>
    match args, named with
    | [v], [] => length v
    | _, _ => throw .unsuitable
  | .builtin .str => callText args named
  | .builtin .range => if named.isEmpty then makeRange args else throw .unsuitable
  | .builtin .expand => callExpand expand args named
  | .builtin (.textMethod m) =>
    match args with
    | .str mark s :: rest => callTextMethod m mark s rest named
    | _ => throw .unsuitable
  | .builtin .format =>
    match ← argumentsOf [("indentation".toList, some .none)] args named with
    | [unit] => return .format unit
    | _ => throw .unsuitable
  | .formatMethod .terse =>
    discard <| argumentsOf [] args named
    return .format .none
  | .formatMethod .pretty =>
    match ← argumentsOf [("indentation".toList, some (.str none [' ', ' ']))] args named with
    | [unit] => return .format unit
    | _ => throw .unsuitable
  | .textMethod m mark s => callTextMethod m mark s args named
  | .entriesMethod _ es =>
    discard <| argumentsOf [] args named
    return .entries es
  | .documentMethod m id => callDocument m id (← argumentsOf m.parameters args named)
  | _ => throw .unsuitable

end Render

end XmlTemplate
