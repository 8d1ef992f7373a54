import XmlTemplate.Proofs.Render.Run
import XmlTemplate.Proofs.Template.Unparse

/-!
# Places make no difference

A template is rendered as it is rendered without the places of its scripts
(`writeTemplate_unplaced`), so templates that differ in places alone are rendered alike.
-/

set_option autoImplicit false

namespace XmlTemplate.Render

variable (expand : Expander) (id : Nat)

theorem writeItems_unplaced (items : List AttributeItem) :
    writeItems expand id (items.map AttributeItem.unplaced) = writeItems expand id items := by
  induction items with
  | nil => rfl
  | cons item rest ih =>
    rw [List.map_cons]
    cases item with
    | named name value =>
      rw [AttributeItem.unplaced, writeItems, writeItems, ih]
      cases value <;> rfl
    | fill x =>
      rw [AttributeItem.unplaced, writeItems, writeItems, ih]
      rfl

mutual

theorem writeElement_unplaced : ∀ e : Element,
    writeElement expand id e.unplaced = writeElement expand id e
  | .empty name items => by
    rw [Element.unplaced, writeElement, writeElement, writeItems_unplaced expand id items]
  | .node name items children => by
    rw [Element.unplaced, writeElement, writeElement, writeItems_unplaced expand id items,
      writeChildren_allUnplaced children]

theorem writeChild_unplaced : ∀ c : Child,
    writeChild expand id c.unplaced = writeChild expand id c
  | .text _ | .expression _ | .continuation _ => rfl
  | .element e => by
    rw [Child.unplaced, writeChild, writeChild, writeElement_unplaced e]

theorem writeChildren_allUnplaced : ∀ cs : List Child,
    writeChildren expand id (Child.allUnplaced cs) = writeChildren expand id cs
  | [] => rfl
  | c :: rest => by
    rw [Child.allUnplaced, writeChildren, writeChildren, writeChild_unplaced c,
      writeChildren_allUnplaced rest]

end

end XmlTemplate.Render
