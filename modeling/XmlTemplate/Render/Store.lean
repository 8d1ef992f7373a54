import XmlTemplate.Template.Cache
import XmlTemplate.Value.Text

/-!
# The state of a rendering

A rendering works on a store: the documents under construction, the values that one-shot iterators
still have to give, the compiled templates, and the next mark for a value that needs one. Beside the
store there is one scope of names for the scripts of the template, and the room that is left for
what is nested. What a failing rendering has done to the store stays done.
-/

set_option autoImplicit false

namespace XmlTemplate

/-- Names and what they are bound to. -/
abbrev Scope := List (Text × Value)

/-- The scope with a name bound. -/
def Scope.bind (x : Text) (v : Value) : Scope → Scope
  | [] => [(x, v)]
  | (y, w) :: rest => if y = x then (y, v) :: rest else (y, w) :: Scope.bind x v rest

/-- The scope with names bound one after the other. -/
def Scope.bindAll (s : Scope) (names : List (Text × Value)) : Scope :=
  names.foldl (fun s entry => Scope.bind entry.1 entry.2 s) s

/-- A name means what it was bound to last; other names keep their meaning. -/
theorem Scope.lookup_bind (x y : Text) (v : Value) (s : Scope) :
    List.lookup x (Scope.bind y v s) = if x = y then some v else List.lookup x s := by
  induction s with
  | nil =>
    rw [Scope.bind, List.lookup_cons]
    by_cases h : x = y
    · rw [if_pos h, beq_iff_eq.2 h]
    · rw [if_neg h, beq_eq_false_iff_ne.2 h]
  | cons entry rest ih =>
    obtain ⟨z, w⟩ := entry
    rw [Scope.bind]
    by_cases hz : z = y
    · rw [if_pos hz, hz, List.lookup_cons, List.lookup_cons]
      by_cases h : x = y
      · rw [if_pos h, beq_iff_eq.2 h]
      · rw [if_neg h, beq_eq_false_iff_ne.2 h]
    · rw [if_neg hz, List.lookup_cons, List.lookup_cons, ih]
      by_cases hx : x = z
      · have h : x ≠ y := fun e => hz (hx.symm.trans e)
        rw [if_neg h, if_neg h]
      · rw [beq_eq_false_iff_ne.2 hx]

/-- Documents, iterators and compiled templates, and the next mark of a value. -/
structure Store where
  documents : List Document
  iterators : List (List Value)
  cache : Cache
  next : Nat

/-- A store with nothing in it. -/
def Store.empty : Store := ⟨[], [], .empty, 0⟩

/-- The store, the scope that scripts see, and the room for elements, expansions and values inside
of one another. -/
structure RenderState where
  store : Store
  scope : Scope
  room : Nat := maxRoom

/-- Renderings, which may fail and keep what they have done. -/
abbrev Render := EStateM Fault RenderState

namespace Render

/-! ## Room -/

/-- The room that is left. -/
def room : Render Nat := do return (← get).room

/-- Run with less room; the room outside is the same afterwards, however the run ends. -/
def takingRoom {α : Type} (taken : Nat) (p : Render α) : Render α := fun s =>
  match p { s with room := s.room - taken } with
  | .ok a s' => .ok a { s' with room := s.room }
  | .error e s' => .error e { s' with room := s.room }

/-! ## Names -/

/-- Run with another scope; the scope outside is the same afterwards, however the run ends. -/
def inScope {α : Type} (scope : Scope) (p : Render α) : Render α := fun s =>
  match p { s with scope } with
  | .ok a s' => .ok a { s' with scope := s.scope }
  | .error e s' => .error e { s' with scope := s.scope }

/-- Bind a name in the scope. -/
def bindName (x : Text) (v : Value) : Render Unit :=
  modify fun s => { s with scope := Scope.bind x v s.scope }

/-- What the names mean that no scope has to bind. -/
def builtinNamed? (x : Text) : Option Builtin :=
  if x = "len".toList then some .len
  else if x = "str".toList then some .str
  else if x = "range".toList then some .range
  else none

/-- The name under which a scope can hold a dictionary to take the place of the functions that no
scope has to bind. -/
def builtinsName : Text := "__builtins__".toList

/-- The value of a name: what the scope binds it to, or the function of that name. -/
def valueOf (x : Text) : Render Value := do
  let scope := (← get).scope
  match scope.lookup x, scope.lookup builtinsName with
  | some v, _ => return v
  | none, none =>
    match builtinNamed? x with
    | some b => return .builtin b
    | none => throw (.unboundName x)
  | none, some (.dict _ es) =>
    match Value.lookup (.str none x) es with
    | some v => return v
    | none => throw (.unboundName x)
  | none, some _ => throw .unsuitable

/-! ## Documents -/

/-- The documents of the store. -/
def documents : Render (List Document) := do return (← get).store.documents

/-- A document of the store. -/
def document (id : Nat) : Render Document := do
  match (← documents)[id]? with
  | some d => return d
  | none => throw .unsuitable

/-- Replace a document of the store. -/
def setDocument (id : Nat) (d : Document) : Render Unit :=
  modify fun s => { s with store.documents := s.store.documents.set id d }

/-- Add a document to the store. -/
def addDocument (d : Document) : Render Nat := do
  let id := (← documents).length
  modify fun s => { s with store.documents := s.store.documents ++ [d] }
  return id

/-- Answer of an operation on a document, a violation being a fault. -/
def orViolation {α : Type} : Except Violation α → Render α
  | .ok a => return a
  | .error v => throw (.violation v)

/-- Change a document by an operation that may be refused. -/
def changeDocument (id : Nat) (f : Document → Except Violation Document) : Render Unit := do
  setDocument id (← orViolation (f (← document id)))

/-- The text of a document, which has to be all text. -/
def readDocument (id : Nat) : Render Text := do
  let d ← document id
  if d.isText then return d.text else throw .unsuitable

/-- The text of a document that has to be complete. -/
def readComplete (id : Nat) : Render Text := do
  discard <| orViolation (← document id).complete
  readDocument id

/-! ## Values -/

/-- Check that nothing keeps a value from being shown. -/
def checkShown (v : Value) : Render Unit := do
  match v.obstacle? (← room) with
  | some fault => throw fault
  | none => return ()

/-- A value as it is written into a document. -/
def display (v : Value) : Render Text := do
  match v with
  | .str _ s => return s
  | .document id => readDocument id
  | v =>
    checkShown v
    return v.display (← documents)

/-- A value as it is shown in a message. -/
def shown (v : Value) : Render Text := do
  checkShown v
  return v.shown (← documents)

/-- A mark that no value has. -/
def fresh : Render Nat :=
  modifyGet fun s => (s.store.next, { s with store.next := s.store.next + 1 })

/-- A new text. -/
def newText (s : Text) : Render Value := do return .madeText (← fresh) s

/-- A text cut out of another. -/
def cutText (s : Text) : Render Value := do return .cutText (← fresh) s

/-- A new list. -/
def newList (items : List Value) : Render Value := do return .list (some (← fresh)) items

/-- A new tuple. -/
def newTuple (items : List Value) : Render Value := do return .tuple (some (← fresh)) items

/-- Answer of a comparison, which may be refused. -/
def orFault : Except Fault Bool → Render Bool
  | .ok b => return b
  | .error fault => throw fault

/-- Whether two values are equal. -/
def areEqual (v w : Value) : Render Bool := do orFault (v.equalWithin (← room) w)

/-- Whether a value is found where the other has been put. -/
def areSame (v w : Value) : Render Bool := do orFault (v.sameWithin (← room) w)

/-- Whether a value is found among others. -/
def isAmong (v : Value) : List Value → Render Bool
  | [] => return false
  | w :: rest => do
    if ← areSame w v then return true else isAmong v rest

/-- A new dictionary. -/
def newDict (entries : List (Value × Value)) : Render Value := do
  return .dict (← fresh) entries

/-- A new dictionary with entries set one after the other, whose keys have to be fit for it. -/
def makeDict (entries : List (Value × Value)) : Render Value :=
  match Value.insertAll? [] entries with
  | some es => newDict es
  | none => throw .unsuitable

/-! ## Iterators -/

/-- The next value of an iterator, if it has one. -/
def next? (id : Nat) : Render (Option Value) := do
  match (← get).store.iterators[id]? with
  | some (v :: rest) =>
    modify fun s => { s with store.iterators := s.store.iterators.set id rest }
    return some v
  | _ => return none

/-- How many values an iterator still has. -/
def left (id : Nat) : Render Nat := do
  return ((← get).store.iterators[id]?.getD []).length

/-! ## Compiled templates -/

/-- The template for a source and settings, read in the given room where it has to be read. -/
def compile (room : Nat) (source : Text) (settings : Settings) : Render Compiled := do
  let (answer, cache) := (← get).store.cache.compile room source settings
  modify fun s => { s with store.cache := cache }
  match answer with
  | .ok compiled => return compiled
  | .error fault => throw fault

end Render

end XmlTemplate
