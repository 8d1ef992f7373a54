import XmlTemplate.Proofs.Render.Keeps.Template

/-!
# The operations that an element is written by

`Element.Unfolds` says which operations on the document writing an element amounts to. Names,
literal values and texts are those of the template, the values of expressions are any, and what a
continuation performs is any list of operations of which a given predicate holds.

`Performs A id p T` is for one document what `Keeps` is for all: it gives the operations in order.
The document is out of reach of the scripts in the state, so that only what is written into it by
the template and by continuations, which get hold of it, counts (`performs_writeElement`). All that
is known of a continuation is that it leaves as many elements as it enters.
-/

set_option autoImplicit false

namespace XmlTemplate

/-- As many elements are entered as left. -/
def IsLevel (ops : List Operation) : Prop :=
  ops.countP Operation.leaves = ops.countP Operation.enters

/-- The operations of what stands in a start tag after the name. -/
inductive AttributeItem.Unfold : List AttributeItem → List Operation → Prop
  | nil : Unfold [] []
  | literal {name value : Text} {rest : List AttributeItem} {ops : List Operation}
      (tail : Unfold rest ops) :
      Unfold (.named name (.literal value) :: rest) (.addAttribute name value :: ops)
  | expression {name value : Text} {e : Embedded} {rest : List AttributeItem}
      {ops : List Operation} (tail : Unfold rest ops) :
      Unfold (.named name (.expression e) :: rest) (.addAttribute name value :: ops)
  | fill {e : Embedded} {rest : List AttributeItem} {filled ops : List Operation}
      (attributes : ∀ op ∈ filled, op.isAttribute = true) (tail : Unfold rest ops) :
      Unfold (.fill e :: rest) (filled ++ ops)

mutual

/-- The operations of an element, its continuations performing operations of which `body` holds. -/
inductive Element.Unfolds (body : List Operation → Prop) : Element → List Operation → Prop
  | empty {name : Text} {items : List AttributeItem} {attributes : List Operation}
      (tag : AttributeItem.Unfold items attributes) :
      Element.Unfolds body (.empty name items) (.beginTag name :: attributes ++ [.endEmptyTag])
  | node {name : Text} {items : List AttributeItem} {children : List Child}
      {attributes content : List Operation} (tag : AttributeItem.Unfold items attributes)
      (inside : Child.UnfoldAll body children content) :
      Element.Unfolds body (.node name items children)
        (.beginTag name :: attributes ++ .enterContent :: content ++ [.endElement name])

/-- The operations of a part of a content. -/
inductive Child.Unfolds (body : List Operation → Prop) : Child → List Operation → Prop
  | text {value : Text} : Child.Unfolds body (.text value) [.addText value]
  | expression {e : Embedded} {value : Text} : Child.Unfolds body (.expression e) [.addText value]
  | element {e : Element} {ops : List Operation} (inside : Element.Unfolds body e ops) :
      Child.Unfolds body (.element e) ops
  | continuation {c : Continuation} {ops : List Operation} (run : body ops) :
      Child.Unfolds body (.continuation c) ops

/-- The operations of a content. -/
inductive Child.UnfoldAll (body : List Operation → Prop) : List Child → List Operation → Prop
  | nil : Child.UnfoldAll body [] []
  | cons {c : Child} {rest : List Child} {head tail : List Operation}
      (first : Child.Unfolds body c head) (others : Child.UnfoldAll body rest tail) :
      Child.UnfoldAll body (c :: rest) (head ++ tail)

end

/-- Operations of which one predicate holds, followed by operations of which another does. -/
def Followed (T U : List Operation → Prop) (ops : List Operation) : Prop :=
  ∃ xs ys, T xs ∧ U ys ∧ ops = xs ++ ys

namespace Render

variable {α β : Type} {A : Nat → Prop} {may : Nat → Operation → Prop} {id : Nat}
  {T U : List Operation → Prop}

/-- A rendering that succeeds in a state that refers to the documents in `A` alone leaves such a
state and performs operations on one document of which `T` holds, as far as that is text. -/
def Performs (A : Nat → Prop) (id : Nat) (p : Render α) (T : List Operation → Prop) : Prop :=
  ∀ s a s' d, s.Inside A → s.store.documents[id]? = some d → p s = .ok a s' →
    s'.Inside A ∧ ∃ d', s'.store.documents[id]? = some d' ∧
      (d'.isText = true → d.isText = true ∧ ∃ ops, T ops ∧ d.performAll ops = .ok d')

/-! ## Putting renderings together -/

theorem Performs.nothing (a : α) : Performs A id (pure a) (· = []) := by
  intro s b s' d hs hd hrun
  cases hrun
  exact ⟨hs, d, hd, fun ht => ⟨ht, [], rfl, rfl⟩⟩

theorem Performs.throw (e : Fault) : Performs A id (MonadExcept.throw e : Render α) T := by
  intro s a s' d _ _ hrun
  cases hrun

theorem Performs.bind {p : Render α} {q : Render β} (hp : Performs A id p T)
    (hq : Performs A id q U) : Performs A id (p >>= fun _ => q) (Followed T U) := by
  intro s b s' d hs hd hrun
  obtain ⟨a, s₁, hrun₁, hrun'⟩ := bind_eq_ok.1 hrun
  obtain ⟨hs₁, d₁, hd₁, hops₁⟩ := hp s a s₁ d hs hd hrun₁
  obtain ⟨hs', d', hd', hops'⟩ := hq s₁ b s' d₁ hs₁ hd₁ hrun'
  refine ⟨hs', d', hd', fun ht => ?_⟩
  obtain ⟨ht₁, ys, hys, hperform'⟩ := hops' ht
  obtain ⟨ht₀, xs, hxs, hperform₁⟩ := hops₁ ht₁
  refine ⟨ht₀, xs ++ ys, ⟨xs, ys, hxs, hys, rfl⟩, ?_⟩
  rw [Document.performAll_append_of_ok ys hperform₁]
  exact hperform'

theorem Performs.weaken {p : Render α} (hp : Performs A id p T) (hTU : ∀ ops, T ops → U ops) :
    Performs A id p U := by
  intro s a s' d hs hd hrun
  obtain ⟨hs', d', hd', hops⟩ := hp s a s' d hs hd hrun
  refine ⟨hs', d', hd', fun ht => ?_⟩
  obtain ⟨ht₀, ops, hT, hperform⟩ := hops ht
  exact ⟨ht₀, ops, hTU ops hT, hperform⟩

theorem Performs.discard {p : Render α} (hp : Performs A id p T) :
    Performs A id (Functor.discard p) T := by
  refine (hp.bind (Performs.nothing ())).weaken ?_
  rintro ops ⟨xs, ys, hxs, hys, rfl⟩
  rw [hys, List.append_nil]
  exact hxs

theorem Performs.takingRoom {taken : Nat} {p : Render α} (hp : Performs A id p T) :
    Performs A id (Render.takingRoom taken p) T := by
  intro s a s' d hs hd hrun
  obtain ⟨t, hrun', rfl⟩ := takingRoom_eq_ok.1 hrun
  obtain ⟨ht, hops⟩ :=
    hp { s with room := s.room - taken } a t d ⟨hs.scope, hs.iterators⟩ hd hrun'
  exact ⟨⟨ht.scope, ht.iterators⟩, hops⟩

/-- What cannot reach the document leaves it to what comes after. -/
theorem Performs.after {p : Render α} {f : α → Render β} {Q : α → Prop} (hid : ∀ op, ¬may id op)
    (hp : Keeps A may p Q) (hf : ∀ a, Q a → Performs A id (f a) T) :
    Performs A id (p >>= f) T := by
  intro s b s' d hs hd hrun
  obtain ⟨a, s₁, hrun₁, hrun'⟩ := bind_eq_ok.1 hrun
  obtain ⟨ha, hs₁, hevolves⟩ := hp s a s₁ hs hrun₁
  obtain ⟨d₁, hd₁, hreach⟩ := hevolves.documents id d hd
  obtain rfl := hreach.eq_of_not hid
  exact hf a ha s₁ b s' d₁ hs₁ hd₁ hrun'

theorem Unchanging.performs {p : Render α} {f : α → Render β} (hp : Unchanging p)
    (hf : ∀ a, Performs A id (f a) T) : Performs A id (p >>= f) T := by
  intro s b s' d hs hd hrun
  obtain ⟨a, s₁, hrun₁, hrun'⟩ := bind_eq_ok.1 hrun
  obtain rfl := hp s a s₁ hrun₁
  exact hf a s₁ b s' d hs hd hrun'

/-- What is allowed on the document is what is performed on it. -/
theorem Keeps.performs {p : Render α} {Q : α → Prop} (hp : Keeps A may p Q) :
    Performs A id p fun ops => ∀ op ∈ ops, may id op := by
  intro s a s' d hs hd hrun
  obtain ⟨-, hs', hevolves⟩ := hp s a s' hs hrun
  obtain ⟨d', hd', hreach⟩ := hevolves.documents id d hd
  exact ⟨hs', d', hd', hreach.exists_performAll⟩

theorem performs_changeDocument {f : Document → Except Violation Document} {op : Operation}
    (hf : ∀ d e, f d = .ok e → d.perform op = .ok e) :
    Performs A id (changeDocument id f) (· = [op]) := by
  intro s u s' d hs hd hrun
  obtain ⟨d₁, e, hd₁, he, rfl⟩ := changeDocument_eq_ok.1 hrun
  rw [hd] at hd₁
  cases hd₁
  obtain ⟨hid, -⟩ := List.getElem?_eq_some_iff.1 hd
  refine ⟨RenderState.inside_put hs, e, getElem?_put hid e, fun ht => ?_⟩
  have hperform := hf d e he
  refine ⟨(Document.isText_of_perform hperform).symm.trans ht, [op], rfl, ?_⟩
  rw [Document.performAll_singleton]
  exact hperform

/-! ## Start tags -/

/-- A text is a name, or the rendering of its name fails. -/
theorem nameOf_str_eq_ok {n : Text} {name : Option Text} {s s' : RenderState}
    (h : nameOf (.str none n) s = .ok name s') : name = some n ∧ isName n = true ∧ s' = s := by
  rw [nameOf] at h
  split at h
  next hname =>
    cases h
    exact ⟨rfl, hname, rfl⟩
  next =>
    obtain ⟨t, s₁, -, hthrow⟩ := bind_eq_ok.1 h
    cases hthrow

/-- All of an attribute that a template names is in the template, except for its value. -/
theorem performs_callAttribute (name : Text) (v : Value) :
    Performs A id (callDocument .addAttribute id [.str none name, v])
      fun ops => ∃ value, ops = [.addAttribute name value] := by
  intro s a s' d hs hd hrun
  obtain ⟨name', s₁, hname, hrest⟩ := bind_eq_ok.1 hrun
  obtain ⟨rfl, hisName, rfl⟩ := nameOf_str_eq_ok hname
  obtain ⟨u, s₂, hwrite, hpure⟩ := bind_eq_ok.1 hrest
  cases hpure
  obtain ⟨d₁, value, hd₁, rfl⟩ := writeAttribute_eq_ok hwrite
  rw [hd] at hd₁
  cases hd₁
  obtain ⟨hid, -⟩ := List.getElem?_eq_some_iff.1 hd
  have hperform : d.perform (.addAttribute name value) =
      .ok ((d.beginAttribute (some name)).endAttribute value) := if_pos hisName
  refine ⟨RenderState.inside_put hs, _, getElem?_put hid _, fun ht => ?_⟩
  refine ⟨(Document.isText_of_perform hperform).symm.trans ht, _, ⟨value, rfl⟩, ?_⟩
  rw [Document.performAll_singleton]
  exact hperform

variable {expand : Expander}

theorem performs_writeItems (h : Confines A (fun i _ => A i) expand) (hid : ¬A id)
    (items : List AttributeItem) :
    Performs A id (writeItems expand id items) (AttributeItem.Unfold items) := by
  have hnot : ∀ op : Operation, ¬(fun i (_ : Operation) => A i) id op := fun _ => hid
  induction items with
  | nil => exact (Performs.nothing ()).weaken fun ops hops => hops ▸ .nil
  | cons item rest ih =>
    cases item with
    | named name value =>
      cases value with
      | literal s =>
        have hadd : ∀ d e, Document.addAttribute d name s = .ok e →
            d.perform (.addAttribute name s) = .ok e := fun _ _ he => he
        refine ((performs_changeDocument hadd).bind ih).weaken ?_
        rintro ops ⟨xs, ys, rfl, hys, rfl⟩
        exact .literal hys
      | expression e =>
        have hcall : Performs A id (writeNamed expand id name (.expression e))
            fun ops => ∃ value, ops = [.addAttribute name value] :=
          .after hnot (keeps_evalEmbedded h e).takingRoom fun v _ =>
            (performs_callAttribute name v).discard
        refine (hcall.bind ih).weaken ?_
        rintro ops ⟨xs, ys, ⟨value, rfl⟩, hys, rfl⟩
        exact .expression hys
    -- a fill writes whatever attributes its value gives
    | fill e =>
      refine .after hnot (keeps_evalEmbedded h e).takingRoom fun v hv => ?_
      have hattributes : Keeps A (fun i op => i = id ∧ op.isAttribute = true)
          (writeAttributes id v) fun _ => True := keeps_writeAttributes (fun _ _ => ⟨rfl, rfl⟩) hv
      refine (hattributes.performs.bind ih).weaken ?_
      rintro ops ⟨xs, ys, hxs, hys, rfl⟩
      exact .fill (fun op hop => (hxs op hop).2) hys

/-! ## Contents -/

theorem performs_leaveElement {f : Document → Except Violation Document} {op : Operation}
    (hf : ∀ d e, f d = .ok e → d.perform op = .ok e) :
    Performs A id (leaveElement id f) (· = [op]) := by
  refine (unchanging_document id).performs fun d => ?_
  dsimp only
  split
  · exact (Unchanging.throw _).performs fun _ => performs_changeDocument hf
  · exact performs_changeDocument hf

theorem performs_addText (value : Text) :
    Performs A id (changeDocument id fun d => .ok (d.addText value)) (· = [.addText value]) :=
  performs_changeDocument fun _ _ he => he

theorem performs_callText (v : Value) :
    Performs A id (callDocument .addText id [v]) fun ops => ∃ value, ops = [.addText value] := by
  refine (unchanging_display v).performs fun value => ?_
  refine ((performs_addText value).bind (Performs.nothing _)).weaken ?_
  rintro ops ⟨xs, ys, rfl, rfl, rfl⟩
  exact ⟨value, rfl⟩

/-- A continuation does to the document what it likes, but leaves it as deep as before, and once it
has run the document is as much out of reach of the state as before. -/
theorem runContinuation_eq_ok
    (h : Confines (fun i => A i ∨ i = id) (fun i _ => A i ∨ i = id) expand) {c : Continuation}
    {s s' : RenderState} {d : Document} {u : Unit} (hs : s.Inside A)
    (hd : s.store.documents[id]? = some d) (hrun : runContinuation expand id c s = .ok u s') :
    s'.Inside A ∧ ∃ d', s'.store.documents[id]? = some d' ∧ d'.depth = d.depth ∧
      d.Reaches (fun _ => A id ∨ id = id) d' := by
  obtain ⟨d₀, s₀, hdocument, hrest⟩ := bind_eq_ok.1 hrun
  obtain ⟨hd₀, rfl⟩ := document_eq_ok.1 hdocument
  rw [hd] at hd₀
  cases hd₀
  obtain ⟨s₁, s₂, hget, hrest⟩ := bind_eq_ok.1 hrest
  cases hget
  obtain ⟨u₁, s₃, hscope, hrest⟩ := bind_eq_ok.1 hrest
  obtain ⟨t, hbody, rfl⟩ := inScope_eq_ok.1 hscope
  obtain ⟨d', s₄, hdocument', hcheck⟩ := bind_eq_ok.1 hrest
  obtain ⟨hd', rfl⟩ := document_eq_ok.1 hdocument'
  -- the document is in reach of the continuation, which has it as its argument
  have hinside := hs.mono (B := fun i => A i ∨ i = id) fun i hi => Or.inl hi
  obtain ⟨-, -, hevolves⟩ := keeps_execAll h c.code
    { s₀ with scope := Scope.bind c.argument (.document id) s₀.scope } u₁ t
    ⟨Scope.within_bind hinside.scope (Or.inr rfl), hinside.iterators⟩ hbody
  have hback : s₀.Evolves (fun i _ => A i ∨ i = id) { t with scope := s₀.scope } :=
    ⟨hevolves.documents, hevolves.iterators⟩
  obtain ⟨e, he, hreach⟩ := hback.documents id d hd
  rw [hd'] at he
  cases he
  split at hcheck
  · cases hcheck
  next hdepth =>
    cases hcheck
    exact ⟨hback.inside hs hs.scope, d', hd', Decidable.not_not.1 hdepth, hreach⟩

/-- A continuation performs what it likes, but leaves as many elements as it enters. -/
theorem performs_runContinuation
    (h : Confines (fun i => A i ∨ i = id) (fun i _ => A i ∨ i = id) expand) (c : Continuation) :
    Performs A id (runContinuation expand id c) IsLevel := by
  intro s u s' d hs hd hrun
  obtain ⟨hs', d', hd', hdepth, hreach⟩ := runContinuation_eq_ok h hs hd hrun
  refine ⟨hs', d', hd', fun ht => ?_⟩
  obtain ⟨ht₀, ops, -, hperform⟩ := hreach.exists_performAll ht
  refine ⟨ht₀, ops, ?_, hperform⟩
  -- the depths differ by the elements entered and left
  have hdepths := Document.depth_of_performAll hperform
  rw [hdepth] at hdepths
  exact Nat.add_left_cancel hdepths

/-! ## Elements -/

mutual

/-- Writing an element into a document that is out of reach performs what the element unfolds to. -/
theorem performs_writeElement (h : ∀ B : Nat → Prop, Confines B (fun i _ => B i) expand)
    (hid : ¬A id) : ∀ e : Element, Performs A id (writeElement expand id e) (e.Unfolds IsLevel)
  | .empty name items => by
    have hbegin : Performs A id (changeDocument id (·.beginTag name)) (· = [.beginTag name]) :=
      performs_changeDocument fun _ _ he => he
    have hend : Performs A id (changeDocument id fun d => .ok d.endEmptyTag) (· = [.endEmptyTag]) :=
      performs_changeDocument fun _ _ he => he
    refine (unchanging_checkRoom name).performs fun _ => ?_
    refine (hbegin.bind ((performs_writeItems (h A) hid items).bind hend)).weaken ?_
    rintro ops ⟨_, _, rfl, ⟨attributes, _, hattributes, rfl, rfl⟩, rfl⟩
    exact .empty hattributes
  | .node name items children => by
    have hbegin : Performs A id (changeDocument id (·.beginTag name)) (· = [.beginTag name]) :=
      performs_changeDocument fun _ _ he => he
    have henter : Performs A id (changeDocument id fun d => .ok d.enterContent)
        (· = [.enterContent]) := performs_changeDocument fun _ _ he => he
    have hleave : Performs A id (leaveElement id (·.endElement name)) (· = [.endElement name]) :=
      performs_leaveElement fun _ _ he => he
    have hcontent := henter.bind ((performs_writeChildren h hid children).bind hleave)
    refine (unchanging_checkRoom name).performs fun _ => ?_
    refine (hbegin.bind ((performs_writeItems (h A) hid items).bind hcontent)).weaken ?_
    rintro ops ⟨_, _, rfl, ⟨attributes, _, hattributes,
      ⟨_, _, rfl, ⟨content, _, hchildren, rfl, rfl⟩, rfl⟩, rfl⟩, rfl⟩
    have hops : Element.Unfolds IsLevel (.node name items children) _ :=
      .node hattributes hchildren
    rw [List.append_assoc] at hops
    exact hops

theorem performs_writeChild (h : ∀ B : Nat → Prop, Confines B (fun i _ => B i) expand)
    (hid : ¬A id) : ∀ c : Child, Performs A id (writeChild expand id c) (c.Unfolds IsLevel)
  | .text value => by
    refine (performs_addText value).weaken ?_
    rintro ops rfl
    exact .text
  | .expression e => by
    have hnot : ∀ op : Operation, ¬(fun i (_ : Operation) => A i) id op := fun _ => hid
    refine .after hnot (keeps_evalEmbedded (h A) e).takingRoom fun v _ => ?_
    refine (performs_callText v).discard.takingRoom.weaken ?_
    rintro ops ⟨value, rfl⟩
    exact .expression
  | .element e => ((performs_writeElement h hid e).weaken fun _ hops => .element hops).takingRoom
  | .continuation c => by
    refine ((performs_runContinuation (h _) c).weaken fun _ hops => ?_).takingRoom
    exact .continuation hops

theorem performs_writeChildren (h : ∀ B : Nat → Prop, Confines B (fun i _ => B i) expand)
    (hid : ¬A id) : ∀ cs : List Child,
    Performs A id (writeChildren expand id cs) (Child.UnfoldAll IsLevel cs)
  | [] => by
    refine (Performs.nothing ()).weaken ?_
    rintro ops rfl
    exact .nil
  | c :: rest => by
    refine ((performs_writeChild h hid c).bind (performs_writeChildren h hid rest)).weaken ?_
    rintro ops ⟨head, tail, hhead, htail, rfl⟩
    exact .cons hhead htail

end

end Render

end XmlTemplate
