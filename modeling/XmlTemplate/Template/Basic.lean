import XmlTemplate.Document
import XmlTemplate.Script.Syntax
import XmlTemplate.Span

/-!
# Templates

A template describes one element and where to write it: into an existing document, which an
expression names, or into a new one, which a declaration begins. Embedded scripts stand in it with
their source, the program read from it and their place.

Two templates are the same if they differ at most in places and in the programs read from equal
sources (`Template.same`). Comparing them fails where it would reach too deep (`Template.compare`).
-/

set_option autoImplicit false

namespace XmlTemplate

/-- An embedded expression: its source as written, the expression read from it, and its place. -/
structure Embedded where
  source : Text
  code : Script.Expr
  span : Option Span
  deriving Repr

/-- A part of an element's content that runs a script with the document bound to a name. -/
structure Continuation where
  argument : Text
  source : Text
  code : List Script.Stmt
  span : Option Span
  deriving Repr

/-- The value of an attribute. -/
inductive AttributeValue where
  | literal (value : Text)
  | expression (e : Embedded)
  deriving Repr

/-- What stands in a start tag after the name: an attribute, or an expression for any number of
them. -/
inductive AttributeItem where
  | named (name : Text) (value : AttributeValue)
  | fill (e : Embedded)
  deriving Repr

mutual

/-- An element, written as an empty tag or with a start tag, content and an end tag. -/
inductive Element where
  | empty (name : Text) (attributes : List AttributeItem)
  | node (name : Text) (attributes : List AttributeItem) (children : List Child)
  deriving Repr

/-- A part of the content of an element. -/
inductive Child where
  | text (value : Text)
  | expression (e : Embedded)
  | element (e : Element)
  | continuation (c : Continuation)
  deriving Repr

end

/-- The declaration of a new document. -/
structure Prolog where
  version : Version
  standalone : Option Bool
  deriving DecidableEq, Repr

/-- The layout of a new document: a unit of indentation, or an expression for a layout. -/
inductive LayoutDirective where
  | unit (indentation : Text)
  | expression (e : Embedded)
  deriving Repr

/-- A template: its root element, and the existing document it is written into, or the layout and
the declaration of a new one. -/
structure Template where
  root : Element
  destination : Option Embedded
  layout : Option LayoutDirective
  prolog : Option Prolog
  deriving Repr

/-- The name of an element. -/
def Element.name : Element → Text
  | empty name _ => name
  | node name _ _ => name

/-- Attributes and fills of an element, in order. -/
def Element.attributes : Element → List AttributeItem
  | empty _ items => items
  | node _ items _ => items

/-- The content of an element. -/
def Element.children : Element → List Child
  | empty .. => []
  | node _ _ cs => cs

/-- Whether a template writes into an existing document. -/
def Template.appends (t : Template) : Bool := t.destination.isSome

/-! ## Sameness up to places -/

/-- Whether two expressions have the same source. -/
def Embedded.same (e f : Embedded) : Bool := e.source == f.source

/-- Whether two values are the same up to places. -/
def AttributeValue.same : AttributeValue → AttributeValue → Bool
  | literal s, literal t => s == t
  | expression e, expression f => e.same f
  | _, _ => false

/-- Whether two items of a start tag are the same up to places. -/
def AttributeItem.same : AttributeItem → AttributeItem → Bool
  | named n v, named m w => n == m && v.same w
  | fill e, fill f => e.same f
  | _, _ => false

/-- Whether two lists of items are the same up to places. -/
def AttributeItem.sameAll : List AttributeItem → List AttributeItem → Bool
  | [], [] => true
  | a :: as, b :: bs => a.same b && sameAll as bs
  | _, _ => false

mutual

/-- Whether two elements are the same up to places. -/
def Element.same : Element → Element → Bool
  | .empty n as, .empty m bs => n == m && AttributeItem.sameAll as bs
  | .node n as cs, .node m bs ds => n == m && AttributeItem.sameAll as bs && Child.sameAll cs ds
  | _, _ => false

/-- Whether two parts of a content are the same up to places. -/
def Child.same : Child → Child → Bool
  | .text s, .text t => s == t
  | .expression e, .expression f => e.same f
  | .element e, .element f => e.same f
  | .continuation c, .continuation d => c.argument == d.argument && c.source == d.source
  | _, _ => false

/-- Whether two contents are the same up to places. -/
def Child.sameAll : List Child → List Child → Bool
  | [], [] => true
  | c :: cs, d :: ds => c.same d && Child.sameAll cs ds
  | _, _ => false

end

/-- Whether two directives are the same up to places. -/
def LayoutDirective.same : LayoutDirective → LayoutDirective → Bool
  | unit u, unit v => u == v
  | expression e, expression f => e.same f
  | _, _ => false

/-- Whether two optional parts agree in being there and, if so, are related. -/
def sameOption {α : Type} (same : α → α → Bool) : Option α → Option α → Bool
  | none, none => true
  | some a, some b => same a b
  | _, _ => false

/-- Whether two templates are the same up to places. -/
def Template.same (t u : Template) : Bool :=
  t.root.same u.root && sameOption Embedded.same t.destination u.destination
    && sameOption LayoutDirective.same t.layout u.layout && t.prolog == u.prolog

mutual

/-- How many elements inside of one another a comparison reaches that stops at the first
difference. -/
def Element.reach : Element → Element → Nat
  | .node n as cs, .node m bs ds =>
    if n == m && AttributeItem.sameAll as bs then Child.reachAll cs ds + 1 else 1
  | _, _ => 1

/-- How many elements inside of one another comparing two parts of a content reaches. -/
def Child.reach : Child → Child → Nat
  | .element e, .element f => e.reach f
  | _, _ => 0

/-- How many elements inside of one another comparing two contents reaches. -/
def Child.reachAll : List Child → List Child → Nat
  | c :: cs, d :: ds => if c.same d then max (c.reach d) (Child.reachAll cs ds) else c.reach d
  | _, _ => 0

end

/-- How many elements inside of one another can be compared. -/
def Template.maxReach : Nat := 246

/-- Whether two templates that were read apart are the same up to places. -/
def Template.compare (t u : Template) : Except Fault Bool :=
  if t.root.reach u.root > maxReach then .error .tooDeep else .ok (t.same u)

end XmlTemplate
