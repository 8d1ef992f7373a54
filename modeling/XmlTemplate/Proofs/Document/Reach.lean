import XmlTemplate.Proofs.Document.Operations

/-!
# What operations make of a document

A document reaches another if operations lead from the one to the other (`Document.Reaches`). The
relation says nothing about the order of the operations, only of which kind they are. A piece that
is no text spoils a document: no operation has written it, and nothing is said about what has been
written with it. Since such a piece stays for good, a document that is all text has been reached by
operations alone (`Reaches.exists_performAll`).
-/

set_option autoImplicit false

namespace XmlTemplate

namespace Operation

/-- Whether an operation writes an attribute. -/
def isAttribute : Operation → Bool
  | .addAttribute .. => true
  | .beginTag _ | .enterContent | .endEmptyTag | .endElement _ | .addText _ => false

/-- Whether an operation enters an element. -/
def enters : Operation → Bool
  | .enterContent => true
  | .beginTag _ | .addAttribute .. | .endEmptyTag | .endElement _ | .addText _ => false

/-- Whether an operation leaves an element. -/
def leaves : Operation → Bool
  | .endElement _ => true
  | .beginTag _ | .addAttribute .. | .enterContent | .endEmptyTag | .addText _ => false

end Operation

namespace Document

/-- Documents that can be made of one by operations of some kind, unless one of them is spoilt by a
piece that is no text. -/
inductive Reaches (may : Operation → Prop) (d : Document) : Document → Prop
  | refl : Reaches may d d
  | perform {d' e : Document} {op : Operation} (before : Reaches may d d') (allowed : may op)
      (performed : d'.perform op = .ok e) : Reaches may d e
  | spoil {d' e : Document} {op : Operation} (before : Reaches may d d') (allowed : may op)
      (spoilt : e.isText = false) : Reaches may d e

variable {may may' : Operation → Prop} {d d' e : Document}

theorem Reaches.trans (h : Reaches may d d') (h' : Reaches may d' e) : Reaches may d e := by
  induction h' with
  | refl => exact h
  | perform before allowed performed ih => exact .perform ih allowed performed
  | spoil before allowed spoilt ih => exact .spoil ih allowed spoilt

theorem Reaches.mono (h : Reaches may d e) (hmay : ∀ op, may op → may' op) : Reaches may' d e := by
  induction h with
  | refl => exact .refl
  | perform before allowed performed ih => exact .perform ih (hmay _ allowed) performed
  | spoil before allowed spoilt ih => exact .spoil ih (hmay _ allowed) spoilt

/-- One operation. -/
theorem Reaches.single {op : Operation} (hop : may op) (h : d.perform op = .ok e) :
    Reaches may d e :=
  .perform .refl hop h

/-- Where no operation is allowed, a document stays as it is. -/
theorem Reaches.eq_of_not (h : Reaches may d e) (hmay : ∀ op, ¬may op) : e = d := by
  cases h with
  | refl => rfl
  | perform before allowed performed => exact absurd allowed (hmay _)
  | spoil before allowed spoilt => exact absurd allowed (hmay _)

/-- A document that is all text has been reached by operations alone. -/
theorem Reaches.exists_performAll (h : Reaches may d e) (he : e.isText = true) :
    d.isText = true ∧ ∃ ops, (∀ op ∈ ops, may op) ∧ d.performAll ops = .ok e := by
  -- a piece that is no text stays, so that the documents on the way are all text as well
  induction h with
  | refl => exact ⟨he, [], List.forall_mem_nil _, rfl⟩
  | @perform d' e op before allowed performed ih =>
    rw [isText_of_perform performed] at he
    obtain ⟨hd, ops, hops, hrun⟩ := ih he
    refine ⟨hd, ops ++ [op], ?_, ?_⟩
    · intro o ho
      rcases List.mem_append.1 ho with ho | ho
      · exact hops o ho
      · rw [List.mem_singleton.1 ho]
        exact allowed
    · rw [performAll_append_of_ok [op] hrun, performAll_singleton]
      exact performed
  | spoil before allowed spoilt ih =>
    rw [spoilt] at he
    cases he

/-! ## Depth -/

/-- Operations lead deeper by the elements that they enter, and back by those that they leave. -/
theorem depth_of_performAll {ops : List Operation} (h : d.performAll ops = .ok e) :
    e.depth + ops.countP Operation.leaves = d.depth + ops.countP Operation.enters := by
  induction ops generalizing d with
  | nil =>
    cases h
    rfl
  | cons op rest ih =>
    obtain ⟨d', hop, hrest⟩ := performAll_cons_eq_ok_iff.1 h
    have hih := ih hrest
    have hdepth : d'.depth + [op].countP Operation.leaves =
        d.depth + [op].countP Operation.enters := by
      obtain ⟨-, hshape, -⟩ := perform_eq_ok hop
      have hd : d'.depth = op.depthAfter d.depth := congrArg Shape.depth hshape
      cases op with
      -- the depth is a natural number, which would not go down from zero
      | endElement name =>
        have hpos := depth_pos_of_endElement hop
        show d'.depth + 1 = d.depth
        rw [hd, Operation.depthAfter]
        omega
      | _ => exact hd
    rw [← List.singleton_append, List.countP_append, List.countP_append]
    omega

end Document

end XmlTemplate
