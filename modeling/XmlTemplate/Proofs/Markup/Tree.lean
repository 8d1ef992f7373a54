import XmlTemplate.Proofs.Document.Operations
import XmlTemplate.Template.Basic

/-!
# Element trees and their printed form

A `Markup` is an element all of whose attribute values and texts are known: what is left of an
element of a template once its expressions have been evaluated. `Markup.print` writes it down by
recursion on the tree, in a layout and at a nesting depth. A terse print holds nothing but tags and
escaped texts. In a pretty print every tag and text is followed by a line end and one unit for each
level of what comes next, so that an end tag stands below its start tag.

The printer looks ahead to what comes next; a document under construction cannot and has to take
indentation back. That both write the same is shown where elements are rendered.
-/

set_option autoImplicit false

namespace XmlTemplate

mutual

/-- An element, written as an empty tag or with content. -/
inductive Markup where
  | empty (name : Text) (attributes : List (Text × Text))
  | node (name : Text) (attributes : List (Text × Text)) (contents : List Content)

/-- A part of the content of an element. -/
inductive Content where
  | text (value : Text)
  | markup (m : Markup)

end

/-- The attributes of a start tag. -/
def printAttributes (attributes : List (Text × Text)) : Text :=
  attributes.flatMap fun a => Document.attributeText a.1 a.2

mutual

/-- The element at a depth from the first character of its start tag to the last of its end tag. -/
def Markup.body (layout : Layout) (depth : Nat) : Markup → Text
  | .empty name attributes => '<' :: name ++ printAttributes attributes ++ layout.emptyEnd
  | .node name attributes contents =>
    '<' :: name ++ printAttributes attributes ++ '>' :: Content.lines layout depth contents
      ++ layout.lineBreak depth ++ '<' :: '/' :: name ++ ['>']

/-- A part of the content of an element, at its own depth. -/
def Content.item (layout : Layout) (depth : Nat) : Content → Text
  | .text value => escape .content value
  | .markup m => m.body layout depth

/-- The content of an element at a depth, each part on a line of its own one level deeper. -/
def Content.lines (layout : Layout) (depth : Nat) : List Content → Text
  | [] => []
  | c :: rest =>
    layout.lineBreak (depth + 1) ++ c.item layout (depth + 1) ++ Content.lines layout depth rest

end

/-- The printed element, up to the place of whatever comes next at its depth. -/
def Markup.print (layout : Layout) (depth : Nat) (m : Markup) : Text :=
  m.body layout depth ++ layout.lineBreak depth

mutual

/-- Whether all names of elements and attributes are names. -/
def Markup.isNamed : Markup → Bool
  | .empty name attributes => isName name && attributes.all fun a => isName a.1
  | .node name attributes contents =>
    isName name && (attributes.all fun a => isName a.1) && Content.areNamed contents

/-- Whether all names in a part of a content are names. -/
def Content.isNamed : Content → Bool
  | .text _ => true
  | .markup m => m.isNamed

/-- Whether all names in a content are names. -/
def Content.areNamed : List Content → Bool
  | [] => true
  | c :: rest => c.isNamed && Content.areNamed rest

end

/-- The attributes as a template has them. -/
def literalItems (attributes : List (Text × Text)) : List AttributeItem :=
  attributes.map fun a => .named a.1 (.literal a.2)

mutual

/-- The element as a template has it, without any expression. -/
def Markup.toElement : Markup → Element
  | .empty name attributes => .empty name (literalItems attributes)
  | .node name attributes contents =>
    .node name (literalItems attributes) (Content.toChildren contents)

/-- A part of a content as a template has it. -/
def Content.toChild : Content → Child
  | .text value => .text value
  | .markup m => .element m.toElement

/-- A content as a template has it. -/
def Content.toChildren : List Content → List Child
  | [] => []
  | c :: rest => c.toChild :: Content.toChildren rest

end

/-- The name of an element. -/
def Markup.name : Markup → Text
  | .empty name _ => name
  | .node name .. => name

/-- The content of an element. -/
def Markup.contents : Markup → List Content
  | .empty .. => []
  | .node _ _ contents => contents

end XmlTemplate
