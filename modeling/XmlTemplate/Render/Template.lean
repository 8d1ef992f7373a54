import XmlTemplate.Render.Eval

/-!
# Rendering templates

A template is rendered by the operations on documents that its parts call for, in the order of the
source, with the embedded scripts evaluated on the way. All expressions of one template see one
scope; a continuation runs in a copy of it with the document bound to its argument, and has to leave
the document as deep as it found it.

Scripts can expand further templates. What is nested needs room, elements as well as expansions, and
`expandWithin` goes by recursion on the room of the expansion: an expansion inside of it has the
room that is left to the script which asks for it.
-/

set_option autoImplicit false

namespace XmlTemplate

namespace Render

/-! ## Room -/

/-- The room that an element takes from the scripts in its start tag. -/
def attributeRoom : Nat := 2

/-- The room that an element takes from the expressions in its content. -/
def childRoom : Nat := 3

/-- The room that an element takes from the texts in its content. -/
def textRoom : Nat := 2

/-- The room that an element takes from its continuations. -/
def continuationRoom : Nat := 2

/-- The room that an expansion takes from its root element. -/
def rootRoom : Nat := 4

/-- The room that an expansion takes from the expression for its document. -/
def targetRoom : Nat := 5

/-- The room that an expansion takes from the expression for its layout. -/
def layoutRoom : Nat := 6

/-- The room that an expansion takes from reading its template. -/
def compileRoom : Nat := 1

/-! ## Parts of a template -/

/-- The value of an embedded expression. -/
def evalEmbedded (expand : Expander) (e : Embedded) : Render Value := eval expand e.code

/-- Write an attribute of a template. -/
def writeNamed (expand : Expander) (id : Nat) (name : Text) : AttributeValue → Render Unit
  | .literal s => changeDocument id (·.addAttribute name s)
  | .expression e => do
    let v ← takingRoom attributeRoom (evalEmbedded expand e)
    discard (callDocument .addAttribute id [.str none name, v])

/-- Write attributes and fills in order. -/
def writeItems (expand : Expander) (id : Nat) : List AttributeItem → Render Unit
  | [] => return ()
  | .named name value :: rest => do
    writeNamed expand id name value
    writeItems expand id rest
  | .fill e :: rest => do
    writeAttributes id (← takingRoom attributeRoom (evalEmbedded expand e))
    writeItems expand id rest

/-- Run a continuation in a scope of its own. -/
def runContinuation (expand : Expander) (id : Nat) (c : Continuation) : Render Unit := do
  let depth := (← document id).depth
  inScope (Scope.bind c.argument (.document id) (← get).scope) (execAll expand c.code)
  if (← document id).depth ≠ depth then throw (.violation (.unbalanced c.argument))

/-- Fail where the room does not suffice for an element of the given name. -/
def checkRoom (name : Text) : Render Unit := do
  if (← room) < nameRoom name then throw .tooDeep

mutual

/-- Write an element. -/
def writeElement (expand : Expander) (id : Nat) : Element → Render Unit
  | .empty name attributes => do
    checkRoom name
    changeDocument id (·.beginTag name)
    writeItems expand id attributes
    changeDocument id fun d => .ok d.endEmptyTag
  | .node name attributes children => do
    checkRoom name
    changeDocument id (·.beginTag name)
    writeItems expand id attributes
    changeDocument id fun d => .ok d.enterContent
    writeChildren expand id children
    leaveElement id (·.endElement name)

/-- Write a part of the content of an element. -/
def writeChild (expand : Expander) (id : Nat) : Child → Render Unit
  | .text s => changeDocument id fun d => .ok (d.addText s)
  | .expression e => do
    let v ← takingRoom childRoom (evalEmbedded expand e)
    takingRoom textRoom (discard (callDocument .addText id [v]))
  | .element e => takingRoom elementRoom (writeElement expand id e)
  | .continuation c => takingRoom continuationRoom (runContinuation expand id c)

/-- Write the content of an element in order. -/
def writeChildren (expand : Expander) (id : Nat) : List Child → Render Unit
  | [] => return ()
  | c :: rest => do
    writeChild expand id c
    writeChildren expand id rest

end

/-- The layout of a new document: by the directive of the template, else by the settings. -/
def layoutFor (expand : Expander) (settings : Settings) : Option LayoutDirective → Render Layout
  | none =>
    match settings.indentation? with
    | some unit => layoutOf unit
    | none => throw .missingMember
  | some (.unit unit) => return .pretty unit
  | some (.expression e) => do
    match ← takingRoom layoutRoom (evalEmbedded expand e) with
    | .format unit => layoutOf unit
    | v => throw (.notAFormat v.kind)

/-- The document that a template without a given one writes into. -/
def target (expand : Expander) (settings : Settings) (t : Template) : Render Nat := do
  match t.destination, t.prolog with
  | some e, _ =>
    match ← takingRoom targetRoom (evalEmbedded expand e) with
    | .document id => return id
    | v => throw (.notADocument e.source.trim v.kind)
  | none, some p =>
    let layout ← layoutFor expand settings t.layout
    addDocument (.start p.version p.standalone layout)
  | none, none => throw .unsuitable

/-- Render a template, into the given document if there is one, and answer the document. -/
def writeTemplate (expand : Expander) (settings : Settings) (t : Template) (given : Option Nat) :
    Render Nat := do
  let id ← match given with
    | some id => pure id
    | none => target expand settings t
  takingRoom rootRoom (writeElement expand id t.root)
  return id

/-! ## Expansions -/

/-- Expand the template in a text in the given room: the text of a new document, or nothing where
the template writes into an existing one. -/
def expandWithin (room : Nat) : Expander := fun source names settings => do
  let compiled ← compile (room - compileRoom) source settings
  let nested : Expander := fun source names settings => do
    let left := (← get).room
    if left < room then expandWithin left source names settings else throw .tooDeep
  inScope (← names) do
    let id ← writeTemplate nested settings compiled.template none
    if compiled.template.appends then return .none else newText (← readComplete id)
termination_by room

/-- Expand the template in a text in the room that is left. -/
def expand : Expander := fun source names settings => do
  expandWithin (← room) source names settings

/-- Render a template with the given names, and answer the document. -/
def render (t : Template) (scope : Scope) (given : Option Nat) (options : Options) : Render Nat :=
  inScope scope (writeTemplate expand (.options options) t given)

end Render

end XmlTemplate
