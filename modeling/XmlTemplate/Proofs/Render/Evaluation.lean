import XmlTemplate.Proofs.Markup.Tree
import XmlTemplate.Proofs.Render.Run

/-!
# What the expressions of an element evaluate to

`Evaluates` relates an element of a template to the tree that is left of it once its expressions
have been evaluated, and the state before to the state after. It has one rule for each thing that an
element can be made of, and none for continuations. All that it asks of an expression is that it
gives the same value whatever has been written into the document and leaves the document as it is
(`Yields`); the document itself does not occur in it.

A fill has to give pairs whose first halves are shown as names. It may take them from a dictionary,
from a sequence, or one by one from an iterator.
-/

set_option autoImplicit false

namespace XmlTemplate

namespace Render

/-- A rendering gives a value in a state and ends in another, whatever has been written into the
document of the given number and shape, and it leaves the document and the room as they are. -/
structure Yields {α : Type} (id : Nat) (σ : Document.Shape) (p : Render α) (s : RenderState) (v : α)
    (s' : RenderState) : Prop where
  run : ∀ d : Document, d.shape = σ → p (s.put id d) = .ok v (s'.put id d)
  room_eq : s'.room = s.room
  present : id < s'.store.documents.length

/-- An item of a fill gives an attribute: it is a pair, and both halves can be shown. -/
structure YieldsAttribute (id : Nat) (σ : Document.Shape) (item : Value) (s : RenderState)
    (a : Text × Text) (s' : RenderState) : Prop where
  isName : XmlTemplate.isName a.1 = true
  halves : ∃ key value s₁ s₂, Yields id σ (unpackPair item) s (key, value) s₁ ∧
    Yields id σ (display key) s₁ a.1 s₂ ∧ Yields id σ (display value) s₂ a.2 s'

/-- Items give attributes, one after the other. -/
inductive YieldAttributes (id : Nat) (σ : Document.Shape) :
    List Value → RenderState → List (Text × Text) → RenderState → Prop
  | nil {s : RenderState} : YieldAttributes id σ [] s [] s
  | cons {item : Value} {rest : List Value} {s s₁ s' : RenderState} {a : Text × Text}
      {as : List (Text × Text)} (head : YieldsAttribute id σ item s a s₁)
      (tail : YieldAttributes id σ rest s₁ as s') :
      YieldAttributes id σ (item :: rest) s (a :: as) s'

/-- The items of an iterator give attributes, in no more than the given number of rounds. -/
inductive DrainsAttributes (id : Nat) (σ : Document.Shape) (iterator : Nat) :
    Nat → RenderState → List (Text × Text) → RenderState → Prop
  | done {s : RenderState} : DrainsAttributes id σ iterator 0 s [] s
  | stop {rounds : Nat} {s s' : RenderState} (none : Yields id σ (next? iterator) s none s') :
      DrainsAttributes id σ iterator (rounds + 1) s [] s'
  | more {rounds : Nat} {item : Value} {s s₁ s₂ s' : RenderState} {a : Text × Text}
      {as : List (Text × Text)} (next : Yields id σ (next? iterator) s (some item) s₁)
      (head : YieldsAttribute id σ item s₁ a s₂)
      (tail : DrainsAttributes id σ iterator rounds s₂ as s') :
      DrainsAttributes id σ iterator (rounds + 1) s (a :: as) s'

/-- The value of a fill gives attributes. A range holds no pairs, so only an empty one will do. -/
def FillYields (id : Nat) (σ : Document.Shape) (v : Value) (s : RenderState)
    (as : List (Text × Text)) (s' : RenderState) : Prop :=
  match v with
  | .dict _ es => YieldAttributes id σ (pairs es) s as s'
  | v =>
    match v.iteration? with
    | some (.items vs) => YieldAttributes id σ vs s as s'
    | some (.range _ _ count) => count = 0 ∧ as = [] ∧ s' = s
    | some (.shared iterator) =>
      DrainsAttributes id σ iterator (s.store.iterators[iterator]?.getD []).length s as s'
    | none => False

variable (expand : Expander) (id : Nat)

/-- Attributes and fills of a start tag give attributes. -/
inductive EvaluatesItems (σ : Document.Shape) :
    List AttributeItem → RenderState → List (Text × Text) → RenderState → Prop
  | nil {s : RenderState} : EvaluatesItems σ [] s [] s
  | literal {name value : Text} {rest : List AttributeItem} {s s' : RenderState}
      {as : List (Text × Text)} (isName : XmlTemplate.isName name = true)
      (tail : EvaluatesItems σ rest s as s') :
      EvaluatesItems σ (.named name (.literal value) :: rest) s ((name, value) :: as) s'
  | expression {name value : Text} {e : Embedded} {rest : List AttributeItem}
      {s s₁ s₂ s' : RenderState} {v : Value} {as : List (Text × Text)}
      (isName : XmlTemplate.isName name = true)
      (eval : Yields id σ (takingRoom attributeRoom (evalEmbedded expand e)) s v s₁)
      (shown : Yields id σ (display v) s₁ value s₂) (tail : EvaluatesItems σ rest s₂ as s') :
      EvaluatesItems σ (.named name (.expression e) :: rest) s ((name, value) :: as) s'
  | fill {e : Embedded} {rest : List AttributeItem} {s s₁ s₂ s' : RenderState} {v : Value}
      {as bs : List (Text × Text)}
      (eval : Yields id σ (takingRoom attributeRoom (evalEmbedded expand e)) s v s₁)
      (fill : FillYields id σ v s₁ as s₂) (tail : EvaluatesItems σ rest s₂ bs s') :
      EvaluatesItems σ (.fill e :: rest) s (as ++ bs) s'

mutual

/-- An element of a template gives a tree, in a document of the given shape. -/
inductive Evaluates : Document.Shape → Element → RenderState → Markup → RenderState → Prop
  | empty {σ : Document.Shape} {name : Text} {items : List AttributeItem} {s s' : RenderState}
      {as : List (Text × Text)} (isName : XmlTemplate.isName name = true)
      (attributes : EvaluatesItems expand id σ items s as s') :
      Evaluates σ (.empty name items) s (.empty name as) s'
  | node {σ : Document.Shape} {name : Text} {items : List AttributeItem} {children : List Child}
      {s s₁ s' : RenderState} {as : List (Text × Text)} {contents : List Content}
      (isName : XmlTemplate.isName name = true)
      (attributes : EvaluatesItems expand id σ items s as s₁)
      (content : EvaluatesAll σ.inner children s₁ contents s') :
      Evaluates σ (.node name items children) s (.node name as contents) s'

/-- A part of the content of an element gives a text or a tree. -/
inductive EvaluatesChild : Document.Shape → Child → RenderState → Content → RenderState → Prop
  | text {σ : Document.Shape} {value : Text} {s : RenderState} :
      EvaluatesChild σ (.text value) s (.text value) s
  | expression {σ : Document.Shape} {value : Text} {e : Embedded} {s s₁ s' : RenderState}
      {v : Value} (eval : Yields id σ (takingRoom childRoom (evalEmbedded expand e)) s v s₁)
      (shown : Yields id σ (takingRoom textRoom (display v)) s₁ value s') :
      EvaluatesChild σ (.expression e) s (.text value) s'
  | element {σ : Document.Shape} {e : Element} {m : Markup} {s s' : RenderState}
      (inside : Evaluates σ e { s with room := s.room - elementRoom } m s') :
      EvaluatesChild σ (.element e) s (.markup m) { s' with room := s.room }

/-- The parts of the content of an element give texts and trees, one after the other. -/
inductive EvaluatesAll :
    Document.Shape → List Child → RenderState → List Content → RenderState → Prop
  | nil {σ : Document.Shape} {s : RenderState} : EvaluatesAll σ [] s [] s
  | cons {σ : Document.Shape} {c : Child} {rest : List Child} {s s₁ s' : RenderState} {k : Content}
      {ks : List Content} (head : EvaluatesChild σ c s k s₁) (tail : EvaluatesAll σ rest s₁ ks s') :
      EvaluatesAll σ (c :: rest) s (k :: ks) s'

end

end Render

mutual

/-- Whether the room suffices for an element and all elements in it. -/
def Element.fits (room : Nat) : Element → Bool
  | .empty name _ => nameRoom name ≤ room
  | .node name _ children => nameRoom name ≤ room && Child.fitAll room children

/-- Whether the room of an element suffices for a part of its content. -/
def Child.fits (room : Nat) : Child → Bool
  | .element e => e.fits (room - elementRoom)
  | .text _ | .expression _ | .continuation _ => true

/-- Whether the room of an element suffices for its content. -/
def Child.fitAll (room : Nat) : List Child → Bool
  | [] => true
  | c :: rest => c.fits room && Child.fitAll room rest

end

end XmlTemplate
