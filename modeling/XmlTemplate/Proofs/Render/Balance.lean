import XmlTemplate.Proofs.Markup.Nesting
import XmlTemplate.Proofs.Render.Unfold

/-!
# Elements whose continuations are balanced

A continuation can perform operations that nest with nothing that comes after them. If it is
balanced, which means that its operations lead back to the tags that were there, it does no harm: an
element whose continuations all are unfolds to operations that nest (`nest_of_unfolds`). An element
without continuations (`Element.isPlain`) is one of those.
-/

set_option autoImplicit false

namespace XmlTemplate

/-- Operations that, performed inside of an element and outside of tags, lead back to where they
began without leaving the element on the way. -/
def IsBalanced (layout : Layout) (ops : List Operation) : Prop :=
  ∀ t : Tags, t.opened ≠ [] → t.unfinished = none → t.run? layout ops = some t

mutual

/-- Whether an element is without continuations. -/
def Element.isPlain : Element → Bool
  | .empty _ _ => true
  | .node _ _ children => Child.arePlain children

/-- Whether a part of a content is without continuations. -/
def Child.isPlain : Child → Bool
  | .text _ | .expression _ => true
  | .element e => e.isPlain
  | .continuation _ => false

/-- Whether a content is without continuations. -/
def Child.arePlain : List Child → Bool
  | [] => true
  | c :: rest => c.isPlain && Child.arePlain rest

end

mutual

/-- Without continuations it does not matter what they could perform. -/
theorem Element.Unfolds.of_isPlain {body body' : List Operation → Prop} :
    ∀ {e : Element} {ops : List Operation}, e.isPlain = true → e.Unfolds body ops →
      e.Unfolds body' ops
  | .empty _ _, _, _, .empty tag => .empty tag
  | .node _ _ _, _, hplain, .node tag inside => .node tag (.of_arePlain hplain inside)

theorem Child.Unfolds.of_isPlain {body body' : List Operation → Prop} :
    ∀ {c : Child} {ops : List Operation}, c.isPlain = true → c.Unfolds body ops →
      c.Unfolds body' ops
  | .text _, _, _, .text => .text
  | .expression _, _, _, .expression => .expression
  | .element _, _, hplain, .element inside => .element (.of_isPlain hplain inside)

theorem Child.UnfoldAll.of_arePlain {body body' : List Operation → Prop} :
    ∀ {cs : List Child} {ops : List Operation}, Child.arePlain cs = true →
      Child.UnfoldAll body cs ops → Child.UnfoldAll body' cs ops
  | [], _, _, .nil => .nil
  | _ :: _, _, hplain, .cons first others => by
    rw [Child.arePlain, Bool.and_eq_true] at hplain
    exact .cons (.of_isPlain hplain.1 first) (.of_arePlain hplain.2 others)

end

namespace Tags

variable {layout : Layout} {t t' : Tags}

theorem isClosed_of_ne_nil (h : t.opened ≠ []) : t.isClosed = false := by
  rw [isClosed, List.isEmpty_eq_false_iff.2 h, Bool.false_and]

theorem run?_cons {op : Operation} (hstep : t.step? layout op = some t')
    (hopen : t'.isClosed = false) (rest : List Operation) :
    t.run? layout (op :: rest) = t'.run? layout rest := by
  rw [run?, hstep, Option.bind_some, hopen, Bool.false_and, if_neg Bool.false_ne_true]

theorem run?_append {xs : List Operation} (h : t.run? layout xs = some t')
    (hopen : t'.isClosed = false) (ys : List Operation) :
    t.run? layout (xs ++ ys) = t'.run? layout ys := by
  induction xs generalizing t with
  | nil =>
    cases h
    rfl
  | cons op rest ih =>
    -- nothing closes the outermost element on the way, since it would have to be the last step
    rw [run?] at h
    obtain ⟨t₁, hstep, hrest⟩ := Option.bind_eq_some_iff.1 h
    have hopen₁ : t₁.isClosed = false := by
      cases rest with
      | nil =>
        rw [List.isEmpty_nil, Bool.not_true, Bool.and_false, if_neg Bool.false_ne_true] at hrest
        cases hrest
        exact hopen
      | cons op' rest =>
        rw [List.isEmpty_cons, Bool.not_false, Bool.and_true] at hrest
        split at hrest
        · cases hrest
        next hclosed => exact Bool.eq_false_iff.2 hclosed
    rw [hopen₁, Bool.false_and, if_neg Bool.false_ne_true] at hrest
    rw [List.cons_append, run?_cons hstep hopen₁]
    exact ih hrest

/-- Attributes go into the unfinished tag. -/
theorem run?_attributes (opened : List Text) (raw : Text) (depth : Nat)
    (attributes : List (Text × Text)) (rest : List Operation) :
    run? layout ⟨opened, some raw, depth⟩
        (attributes.map (fun a => .addAttribute a.1 a.2) ++ rest) =
      run? layout ⟨opened, some (raw ++ printAttributes attributes), depth⟩ rest := by
  induction attributes generalizing raw with
  | nil =>
    rw [printAttributes, List.flatMap_nil, List.append_nil]
    rfl
  | cons a as ih =>
    have hstep : step? layout ⟨opened, some raw, depth⟩ (.addAttribute a.1 a.2) =
      some ⟨opened, some (raw ++ Document.attributeText a.1 a.2), depth⟩ := rfl
    have hopen (raw : Text) : isClosed ⟨opened, some raw, depth⟩ = false := by
      rw [isClosed, Option.isNone_some, Bool.and_false]
    rw [List.map_cons, List.cons_append, run?_cons hstep (hopen _), ih, List.append_assoc]
    rfl

end Tags

/-- What stands in a start tag is written as attributes. -/
theorem AttributeItem.Unfold.attributes {items : List AttributeItem} {ops : List Operation}
    (h : AttributeItem.Unfold items ops) :
    ∃ as : List (Text × Text), ops = as.map fun a => .addAttribute a.1 a.2 := by
  have hfilled : ∀ {filled : List Operation}, (∀ op ∈ filled, op.isAttribute = true) →
      ∃ as : List (Text × Text), filled = as.map fun a => .addAttribute a.1 a.2 := by
    intro filled hf
    induction filled with
    | nil => exact ⟨[], rfl⟩
    | cons op rest ih =>
      obtain ⟨hop, hrest⟩ := List.forall_mem_cons.1 hf
      obtain ⟨as, rfl⟩ := ih hrest
      cases op with
      | addAttribute name value => exact ⟨(name, value) :: as, rfl⟩
      | _ => cases hop
  induction h with
  | nil => exact ⟨[], rfl⟩
  | @literal name value rest ops tail ih =>
    obtain ⟨as, rfl⟩ := ih
    exact ⟨(name, value) :: as, rfl⟩
  | @expression name value e rest ops tail ih =>
    obtain ⟨as, rfl⟩ := ih
    exact ⟨(name, value) :: as, rfl⟩
  | fill attributes tail ih =>
    obtain ⟨as, rfl⟩ := ih
    obtain ⟨bs, rfl⟩ := hfilled attributes
    exact ⟨bs ++ as, List.map_append.symm⟩

namespace Tags

variable {layout : Layout}

theorem run?_singleton (t : Tags) (op : Operation) : t.run? layout [op] = t.step? layout op := by
  rw [run?, List.isEmpty_nil, Bool.not_true]
  simp only [Bool.and_false, Bool.false_eq_true, if_false]
  exact Option.bind_fun_some _

/-- The end marks of a start tag and of an empty tag, and the end tag of an element. -/
theorem step?_enterContent {name : Text} (hname : isName name = true) {as : List (Text × Text)}
    (has : ∀ a ∈ as, isName a.1 = true) (opened : List Text) (depth : Nat) :
    step? layout ⟨opened, some (name ++ printAttributes as), depth⟩ .enterContent =
      some ⟨name :: opened, none, depth + 1⟩ := by
  rw [step?, finish?_of_some rfl, List.append_nil, Tag.read?_start hname has]
  rfl

theorem step?_endEmptyTag {name : Text} (hname : isName name = true) {as : List (Text × Text)}
    (has : ∀ a ∈ as, isName a.1 = true) (opened : List Text) (depth : Nat) :
    step? layout ⟨opened, some (name ++ printAttributes as), depth⟩ .endEmptyTag =
      some ⟨opened, none, depth⟩ := by
  rw [step?, finish?_of_some rfl, Tag.read?_empty hname has]
  rfl

theorem step?_endElement (name : Text) (opened : List Text) (depth : Nat) :
    step? layout ⟨name :: opened, none, depth⟩ (.endElement name) =
      some ⟨opened, none, depth - 1⟩ := by
  rw [step?, Option.isSome_none, if_neg Bool.false_ne_true, take?]
  exact if_pos rfl

theorem isName_of_forall_isNamed {as : List (Text × Text)}
    (h : ∀ op ∈ as.map fun a => Operation.addAttribute a.1 a.2, op.isNamed = true) :
    ∀ a ∈ as, isName a.1 = true :=
  fun _ ha => h _ (List.mem_map_of_mem ha)

/-- A text outside of tags changes nothing. -/
theorem isBalanced_addText (value : Text) : IsBalanced layout [.addText value] := by
  intro t _ hunfinished
  rw [run?_singleton, step?, addText_of_none hunfinished]

mutual

/-- The tags after the operations of an element are those before. -/
theorem run?_of_unfolds : ∀ {e : Element} {ops : List Operation},
    e.Unfolds (IsBalanced layout) ops → (∀ op ∈ ops, op.isNamed = true) →
      ∃ rest, ops = .beginTag e.name :: rest ∧ ∀ (opened : List Text) (depth : Nat),
        run? layout ⟨opened, some e.name, depth⟩ rest = some ⟨opened, none, depth⟩
  | .empty name items, _, .empty tag, hnamed => by
    obtain ⟨as, rfl⟩ := tag.attributes
    obtain ⟨hname, hrest⟩ := List.forall_mem_cons.1 hnamed
    have has := isName_of_forall_isNamed (List.forall_mem_append.1 hrest).1
    refine ⟨as.map (fun a => .addAttribute a.1 a.2) ++ [.endEmptyTag], rfl, fun opened depth => ?_⟩
    rw [Element.name, run?_attributes, run?_singleton]
    exact step?_endEmptyTag hname has opened depth
  | .node name items children, _, .node tag inside, hnamed => by
    obtain ⟨as, rfl⟩ := tag.attributes
    rw [List.append_assoc] at hnamed
    obtain ⟨hname, hrest⟩ := List.forall_mem_cons.1 hnamed
    obtain ⟨hattributes, htail⟩ := List.forall_mem_append.1 hrest
    obtain ⟨-, hcontent⟩ := List.forall_mem_cons.1 htail
    have has := isName_of_forall_isNamed hattributes
    have hinside := isBalanced_of_children inside (List.forall_mem_append.1 hcontent).1
    refine ⟨as.map (fun a => .addAttribute a.1 a.2) ++ (.enterContent :: _ ++ [.endElement name]),
      by rw [List.append_assoc]; rfl, fun opened depth => ?_⟩
    -- up to the end mark of the start tag, over the content, and over the end tag
    have henter : step? layout ⟨opened, some (name ++ printAttributes as), depth⟩ .enterContent =
      some ⟨name :: opened, none, depth + 1⟩ := step?_enterContent hname has opened depth
    have hrun := hinside ⟨name :: opened, none, depth + 1⟩ (List.cons_ne_nil _ _) rfl
    rw [Element.name, run?_attributes, List.cons_append,
      run?_cons henter (isClosed_of_ne_nil (List.cons_ne_nil _ _)),
      run?_append hrun (isClosed_of_ne_nil (List.cons_ne_nil _ _)), run?_singleton]
    exact step?_endElement name opened (depth + 1)

theorem isBalanced_of_child : ∀ {c : Child} {ops : List Operation},
    c.Unfolds (IsBalanced layout) ops → (∀ op ∈ ops, op.isNamed = true) → IsBalanced layout ops
  | .text value, _, .text, _ => isBalanced_addText value
  | .expression _, _, .expression, _ => isBalanced_addText _
  | .element e, _, .element inside, hnamed => by
    obtain ⟨rest, rfl, hrest⟩ := run?_of_unfolds inside hnamed
    rintro ⟨opened, _, depth⟩ hopened rfl
    have hbegin : step? layout ⟨opened, none, depth⟩ (.beginTag e.name) =
        some ⟨opened, some e.name, depth⟩ := rfl
    rw [run?_cons hbegin (isClosed_of_ne_nil hopened)]
    exact hrest opened depth
  | .continuation _, _, .continuation run, _ => run

theorem isBalanced_of_children : ∀ {cs : List Child} {ops : List Operation},
    Child.UnfoldAll (IsBalanced layout) cs ops → (∀ op ∈ ops, op.isNamed = true) →
      IsBalanced layout ops
  | [], _, .nil, _ => fun _ _ _ => rfl
  | c :: rest, _, .cons first others, hnamed => by
    obtain ⟨hhead, htail⟩ := List.forall_mem_append.1 hnamed
    intro t hopened hunfinished
    rw [run?_append (isBalanced_of_child first hhead t hopened hunfinished)
      (isClosed_of_ne_nil hopened)]
    exact isBalanced_of_children others htail t hopened hunfinished

end

end Tags

/-- An element whose continuations are balanced unfolds to operations that nest. -/
theorem nest_of_unfolds {layout : Layout} {e : Element} {ops : List Operation}
    (h : e.Unfolds (IsBalanced layout) ops) (hnamed : ∀ op ∈ ops, op.isNamed = true) :
    nest layout ops = true := by
  obtain ⟨rest, rfl, hrun⟩ := Tags.run?_of_unfolds h hnamed
  rw [nest, hrun]
  rfl

end XmlTemplate
