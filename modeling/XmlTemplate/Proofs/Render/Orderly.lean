import XmlTemplate.Proofs.Render.Balance
import XmlTemplate.Proofs.Render.Machine
import XmlTemplate.Proofs.Template.Valid

/-!
# Templates are written in order

A document refuses calls that do not fit its state, and a template that has been read never makes
one. `ComesTo` says which expressions come to be evaluated while a template is written, and in which
states. If each of them is harmless there, which means that it ends in no violation itself and
leaves the document as deep as it was, then no violation comes of writing a template without
continuations, whatever else goes wrong (`Template.orderly_of_parse`).

The names are names, since reading has checked them (`Template.IsValid`). That an end tag always
finds its element and its indentation is an invariant of the content: a part of it leaves the depth
as it was and ends a line, and so does the start tag before it, one level further in.
-/

set_option autoImplicit false

namespace XmlTemplate

/-! ## Expressions of a template -/

/-- The expressions in an attribute or fill. -/
def AttributeItem.expressions : AttributeItem → List Embedded
  | named _ (.literal _) => []
  | named _ (.expression x) => [x]
  | fill x => [x]

mutual

/-- The expressions in an element, at every depth. -/
def Element.expressions : Element → List Embedded
  | .empty _ items => items.flatMap AttributeItem.expressions
  | .node _ items children =>
    items.flatMap AttributeItem.expressions ++ Child.allExpressions children

/-- The expressions in a part of a content; continuations hold statements. -/
def Child.expressions : Child → List Embedded
  | .text _ => []
  | .expression x => [x]
  | .element e => e.expressions
  | .continuation _ => []

/-- The expressions in a content. -/
def Child.allExpressions : List Child → List Embedded
  | [] => []
  | c :: rest => c.expressions ++ Child.allExpressions rest

end

/-- The expression that a directive can be. -/
def LayoutDirective.expressions : LayoutDirective → List Embedded
  | unit _ => []
  | expression x => [x]

/-- The expressions of a template. -/
def Template.expressions (t : Template) : List Embedded :=
  t.destination.toList ++ t.layout.toList.flatMap LayoutDirective.expressions ++ t.root.expressions

/-- Whether an expression looks up a name and does nothing else. -/
def Script.Expr.isLookup : Script.Expr → Bool
  | .name _ => true
  | _ => false

/-! ## What comes to be evaluated -/

section ComesTo

open Render

variable (expand : Expander)

/-- Evaluating the expression in the state ends in no violation, and the document of the given
number, if there is one, is as deep afterwards as before. It is where the expression does not call
its methods, which leaves it as it is. -/
structure Embedded.Harmless (target : Option Nat) (x : Embedded) (s : RenderState) : Prop where
  of_ok : ∀ v s', evalEmbedded expand x s = .ok v s' → ∀ id ∈ target,
    s'.store.documents[id]?.map Document.depth = s.store.documents[id]?.map Document.depth
  of_error : ∀ e s', evalEmbedded expand x s = .error e s' → e.isViolation = false

variable (id : Nat)

/-- Writing attributes and fills from one state comes to evaluate an expression in another. -/
inductive AttributeItem.ComesTo :
    List AttributeItem → RenderState → Embedded → RenderState → Prop
  | named {name : Text} {x : Embedded} {rest : List AttributeItem} {s : RenderState} :
      AttributeItem.ComesTo (.named name (.expression x) :: rest) s x
        { s with room := s.room - attributeRoom }
  | fill {x : Embedded} {rest : List AttributeItem} {s : RenderState} :
      AttributeItem.ComesTo (.fill x :: rest) s x { s with room := s.room - attributeRoom }
  | later {item : AttributeItem} {x : Embedded} {rest : List AttributeItem}
      {s s₁ s' : RenderState} (first : writeItems expand id [item] s = .ok () s₁)
      (others : AttributeItem.ComesTo rest s₁ x s') :
      AttributeItem.ComesTo (item :: rest) s x s'

mutual

/-- Writing an element from one state comes to evaluate an expression in another. -/
inductive Element.ComesTo : Element → RenderState → Embedded → RenderState → Prop
  | attributes {e : Element} {x : Embedded} {s s₁ s' : RenderState}
      (begun : (do
        checkRoom e.name
        changeDocument id (·.beginTag e.name)) s = .ok () s₁)
      (tag : AttributeItem.ComesTo expand id e.attributes s₁ x s') : Element.ComesTo e s x s'
  | content {name : Text} {items : List AttributeItem} {children : List Child} {x : Embedded}
      {s s₁ s₂ s₃ s' : RenderState}
      (begun : (do
        checkRoom name
        changeDocument id (·.beginTag name)) s = .ok () s₁)
      (tag : writeItems expand id items s₁ = .ok () s₂)
      (entered : changeDocument id (fun d => .ok d.enterContent) s₂ = .ok () s₃)
      (inside : Child.AnyComesTo children s₃ x s') :
      Element.ComesTo (.node name items children) s x s'

/-- Writing a part of a content from one state comes to evaluate an expression in another. -/
inductive Child.ComesTo : Child → RenderState → Embedded → RenderState → Prop
  | expression {x : Embedded} {s : RenderState} :
      Child.ComesTo (.expression x) s x { s with room := s.room - childRoom }
  | element {e : Element} {x : Embedded} {s s' : RenderState}
      (inside : Element.ComesTo e { s with room := s.room - elementRoom } x s') :
      Child.ComesTo (.element e) s x s'

/-- Writing a content from one state comes to evaluate an expression in another. -/
inductive Child.AnyComesTo : List Child → RenderState → Embedded → RenderState → Prop
  | here {c : Child} {x : Embedded} {rest : List Child} {s s' : RenderState}
      (first : Child.ComesTo c s x s') : Child.AnyComesTo (c :: rest) s x s'
  | later {c : Child} {x : Embedded} {rest : List Child} {s s₁ s' : RenderState}
      (first : writeChild expand id c s = .ok () s₁) (others : Child.AnyComesTo rest s₁ x s') :
      Child.AnyComesTo (c :: rest) s x s'

end

/-- Rendering a template, into the given document if there is one, comes to evaluate an expression,
while it writes into a document or before it has one. -/
inductive Template.ComesTo (settings : Settings) (t : Template) :
    (given : Option Nat) → RenderState → (target : Option Nat) → Embedded → RenderState → Prop
  | destination {x : Embedded} {s : RenderState} (h : t.destination = some x) :
      Template.ComesTo settings t none s none x { s with room := s.room - targetRoom }
  | layout {x : Embedded} {s : RenderState} (hnew : t.destination = none)
      (h : t.layout = some (.expression x)) :
      Template.ComesTo settings t none s none x { s with room := s.room - layoutRoom }
  | given {id : Nat} {x : Embedded} {s s' : RenderState}
      (inside : t.root.ComesTo expand id { s with room := s.room - rootRoom } x s') :
      Template.ComesTo settings t (some id) s (some id) x s'
  | found {id : Nat} {x : Embedded} {s s₁ s' : RenderState}
      (found : target expand settings t s = .ok id s₁)
      (inside : t.root.ComesTo expand id { s₁ with room := s₁.room - rootRoom } x s') :
      Template.ComesTo settings t none s (some id) x s'

variable {expand} {id}

theorem AttributeItem.ComesTo.mem_expressions {items : List AttributeItem} {s s' : RenderState}
    {x : Embedded} (h : AttributeItem.ComesTo expand id items s x s') :
    x ∈ items.flatMap AttributeItem.expressions := by
  induction h with
  | named => exact List.mem_append_left _ (List.mem_singleton_self _)
  | fill => exact List.mem_append_left _ (List.mem_singleton_self _)
  | later first others ih => exact List.mem_append_right _ ih

mutual

theorem Element.ComesTo.mem_expressions : ∀ {e : Element} {s s' : RenderState} {x : Embedded},
    e.ComesTo expand id s x s' → x ∈ e.expressions
  | .empty _ _, _, _, _, .attributes _ tag => tag.mem_expressions
  | .node _ _ _, _, _, _, .attributes _ tag => List.mem_append_left _ tag.mem_expressions
  | .node _ _ _, _, _, _, .content _ _ _ inside => List.mem_append_right _ inside.mem_allExpressions

theorem Child.ComesTo.mem_expressions : ∀ {c : Child} {s s' : RenderState} {x : Embedded},
    c.ComesTo expand id s x s' → x ∈ c.expressions
  | .expression x, _, _, _, .expression => List.mem_singleton_self x
  | .element _, _, _, _, .element inside => inside.mem_expressions

theorem Child.AnyComesTo.mem_allExpressions : ∀ {cs : List Child} {s s' : RenderState}
    {x : Embedded}, Child.AnyComesTo expand id cs s x s' → x ∈ Child.allExpressions cs
  | _ :: _, _, _, _, .here first => List.mem_append_left _ first.mem_expressions
  | _ :: _, _, _, _, .later _ others => List.mem_append_right _ others.mem_allExpressions

end

/-- What comes to be evaluated are expressions of the template. -/
theorem Template.ComesTo.mem_expressions {settings : Settings} {t : Template}
    {given target : Option Nat} {s s' : RenderState} {x : Embedded}
    (h : t.ComesTo expand settings given s target x s') : x ∈ t.expressions := by
  rw [Template.expressions, List.append_assoc]
  cases h with
  | destination h =>
    rw [h]
    exact List.mem_append_left _ (List.mem_singleton_self x)
  | layout hnew h =>
    rw [h]
    apply List.mem_append_right
    exact List.mem_append_left _ (List.mem_append_left _ (List.mem_singleton_self x))
  | given inside =>
    apply List.mem_append_right
    exact List.mem_append_right _ inside.mem_expressions
  | found found inside =>
    apply List.mem_append_right
    exact List.mem_append_right _ inside.mem_expressions

end ComesTo

namespace Render

variable {α β : Type} {id : Nat} {s s' : RenderState} {d : Document} {P Q : Document → Prop}

/-! ## Orderly runs -/

/-- The run from the state ends in no violation, and if it succeeds, the document is what `Q`
says. -/
structure Orderly (id : Nat) (p : Render α) (s : RenderState) (Q : Document → Prop) : Prop where
  of_ok : ∀ a s', p s = .ok a s' → ∃ d, s'.store.documents[id]? = some d ∧ Q d
  of_error : ∀ e s', p s = .error e s' → e.isViolation = false

namespace Orderly

variable {p : Render α}

/-- A run of which it is known where it leads. -/
theorem of_run {a : α} (hrun : p s = .ok a s') (hd : s'.store.documents[id]? = some d)
    (h : Q d) : Orderly id p s Q where
  of_ok b t hrun' := by
    rw [hrun] at hrun'
    cases hrun'
    exact ⟨d, hd, h⟩
  of_error e t hrun' := by
    rw [hrun] at hrun'
    cases hrun'

theorem pure {a : α} (hd : s.store.documents[id]? = some d) (h : Q d) :
    Orderly id (Pure.pure a) s Q :=
  .of_run rfl hd h

/-- What comes after a run starts from where the run has led. -/
theorem bind {f : α → Render β} (hp : Orderly id p s P)
    (hf : ∀ a s₁ d, p s = .ok a s₁ → s₁.store.documents[id]? = some d → P d →
      Orderly id (f a) s₁ Q) : Orderly id (p >>= f) s Q where
  of_ok b s' hrun := by
    obtain ⟨a, s₁, hrun₁, hrun'⟩ := bind_eq_ok.1 hrun
    obtain ⟨d, hd, hP⟩ := hp.of_ok a s₁ hrun₁
    exact (hf a s₁ d hrun₁ hd hP).of_ok b s' hrun'
  of_error e s' hrun := by
    rcases bind_eq_error.1 hrun with hrun₁ | ⟨a, s₁, hrun₁, hrun'⟩
    · exact hp.of_error e s' hrun₁
    · obtain ⟨d, hd, hP⟩ := hp.of_ok a s₁ hrun₁
      exact (hf a s₁ d hrun₁ hd hP).of_error e s' hrun'

theorem mono (hp : Orderly id p s P) (hPQ : ∀ d, P d → Q d) : Orderly id p s Q where
  of_ok a s' hrun := by
    obtain ⟨d, hd, hP⟩ := hp.of_ok a s' hrun
    exact ⟨d, hd, hPQ d hP⟩
  of_error := hp.of_error

theorem discard (hp : Orderly id p s Q) : Orderly id (Functor.discard p) s Q :=
  hp.bind fun _ _ _ _ hd h => .pure hd h

theorem takingRoom {taken : Nat} (hp : Orderly id p { s with room := s.room - taken } Q) :
    Orderly id (Render.takingRoom taken p) s Q where
  of_ok a s' hrun := by
    obtain ⟨t, hrun', rfl⟩ := takingRoom_eq_ok.1 hrun
    exact hp.of_ok a t hrun'
  of_error e s' hrun := by
    obtain ⟨t, hrun', -⟩ := takingRoom_eq_error.1 hrun
    exact hp.of_error e t hrun'

end Orderly

/-- What is said of a rendering from every state is said of it from one. -/
theorem Acts.orderly {p : Render α} {done : Document → Document → Prop}
    {failed : Fault → Document → Document → Prop} (hp : Acts id p done failed)
    (hd : s.store.documents[id]? = some d) (hdone : ∀ d', done d d' → Q d')
    (hfailed : ∀ e d', failed e d d' → e.isViolation = false) : Orderly id p s Q where
  of_ok a s' hrun := by
    obtain ⟨d', hd', h⟩ := hp.of_ok s d a s' hd hrun
    exact ⟨d', hd', hdone d' h⟩
  of_error e s' hrun := by
    obtain ⟨d', -, h⟩ := hp.of_error s d e s' hd hrun
    exact hfailed e d' h

theorem Lengthens.orderly {p : Render α} (hp : Lengthens id p)
    (hd : s.store.documents[id]? = some d) : Orderly id p s fun d' => d'.depth = d.depth :=
  Acts.orderly hp hd (fun _ h => h.depth_eq) fun _ _ h => h.1

/-- An operation that is allowed can be performed. -/
theorem orderly_changeDocument {f : Document → Except Violation Document} {e : Document}
    (hd : s.store.documents[id]? = some d) (hf : f d = .ok e) (h : Q e) :
    Orderly id (changeDocument id f) s Q := by
  have hrun : changeDocument id f s = .ok () (s.put id e) :=
    changeDocument_eq_ok.2 ⟨d, e, hd, hf, rfl⟩
  obtain ⟨hid, -⟩ := List.getElem?_eq_some_iff.1 hd
  exact .of_run hrun (getElem?_put hid e) h

theorem reads_checkRoom (name : Text) :
    Reads (·.isViolation = false) (checkRoom name) fun _ => True := by
  have hroom : Reads (·.isViolation = false) room fun _ => True :=
    Reads.get.bind fun _ _ => .pure trivial
  refine hroom.bind fun r _ => ?_
  split
  · exact .throw rfl
  · exact .pure trivial

/-- Reading leaves the document as it is. -/
theorem Reads.orderly {p : Render α} {R : α → Prop} (hp : Reads (·.isViolation = false) p R)
    (hd : s.store.documents[id]? = some d) : Orderly id p s (· = d) where
  of_ok a s' hrun := by
    obtain ⟨-, hdocuments⟩ := hp.of_ok s a s' hrun
    exact ⟨d, hdocuments ▸ hd, rfl⟩
  of_error e s' hrun := (hp.of_error s e s' hrun).1

variable {expand : Expander}

/-- Evaluating a harmless expression leaves the depth as it is. -/
theorem orderly_evalEmbedded {x : Embedded} (hx : x.Harmless expand (some id) s)
    (hd : s.store.documents[id]? = some d) :
    Orderly id (evalEmbedded expand x) s fun d' => d'.depth = d.depth where
  of_ok v s' hrun := by
    have hsame := hx.of_ok v s' hrun id rfl
    rw [hd, Option.map_some] at hsame
    exact Option.map_eq_some_iff.1 hsame
  of_error := hx.of_error

/-! ## Start tags -/

/-- One valid attribute or fill. -/
theorem orderly_writeItem {item : AttributeItem} (hvalid : item.IsValid)
    (hd : s.store.documents[id]? = some d)
    (hx : ∀ x s', AttributeItem.ComesTo expand id [item] s x s' → x.Harmless expand (some id) s') :
    Orderly id (writeItems expand id [item]) s fun d' => d'.depth = d.depth := by
  cases item with
  | named name value =>
    obtain ⟨hname, -⟩ := hvalid
    have hnamed : Orderly id (writeNamed expand id name value) s fun d' => d'.depth = d.depth := by
      cases value with
      | literal text =>
        have hadd : d.addAttribute name text = .ok (d.writeAttribute name text) := by
          rw [Document.addAttribute, if_pos hname]
        have hdepth := Document.depth_eq_of_shape (d.shape_writeAttribute name text)
        exact orderly_changeDocument hd hadd hdepth
      | expression x =>
        refine (orderly_evalEmbedded (hx x _ .named) hd).takingRoom.bind ?_
        intro v s₁ d₁ _ hd₁ hdepth₁
        -- the look at the name is no more than the name, which is one
        have hcall : callDocument .addAttribute id [.str none name, v] =
            writeAttribute id (some name) v >>= fun _ => pure .none := by
          show (nameOf _ >>= _) = _
          rw [nameOf_of_isName none hname, pure_bind]
        rw [hcall, discard_bind_pure]
        have hwrite := (lengthens_writeAttribute (some name) v).orderly hd₁
        exact hwrite.mono fun d' h => h.trans hdepth₁
    refine hnamed.bind ?_
    intro _ s₁ d₁ _ hd₁ h
    exact .pure hd₁ h
  | fill x =>
    refine (orderly_evalEmbedded (hx x _ .fill) hd).takingRoom.bind ?_
    intro v s₁ d₁ _ hd₁ hdepth₁
    refine ((lengthens_writeAttributes v).orderly hd₁).bind ?_
    intro _ s₂ d₂ _ hd₂ hdepth₂
    exact .pure hd₂ (hdepth₂.trans hdepth₁)

/-- Valid attributes and fills leave the depth as it is. -/
theorem orderly_writeItems {items : List AttributeItem} (hvalid : ∀ i ∈ items, i.IsValid)
    (hd : s.store.documents[id]? = some d)
    (hx : ∀ x s', AttributeItem.ComesTo expand id items s x s' → x.Harmless expand (some id) s') :
    Orderly id (writeItems expand id items) s fun d' => d'.depth = d.depth := by
  induction items generalizing s d with
  | nil => exact .pure hd rfl
  | cons item rest ih =>
    obtain ⟨hitem, hrest⟩ := List.forall_mem_cons.1 hvalid
    have hfirst : ∀ x s', AttributeItem.ComesTo expand id [item] s x s' →
        x.Harmless expand (some id) s' := by
      intro x s' h
      cases h with
      | named => exact hx x _ .named
      | fill => exact hx x _ .fill
      | later first others => cases others
    rw [writeItems_cons]
    refine (orderly_writeItem hitem hd hfirst).bind ?_
    intro _ s₁ d₁ hrun₁ hd₁ hdepth
    have hothers := ih hrest hd₁ fun x s' h => hx x s' (.later hrun₁ h)
    exact hothers.mono fun d' h => h.trans hdepth

/-- The start tag of a valid element up to its end mark, and what comes after it. -/
theorem orderly_startTag {e : Element} (hvalid : e.IsValid)
    (hd : s.store.documents[id]? = some d)
    (hx : ∀ x s', e.ComesTo expand id s x s' → x.Harmless expand (some id) s')
    {rest : Render Unit}
    (hrest : ∀ s₁ s₂ d₂, (do
        checkRoom e.name
        changeDocument id (·.beginTag e.name)) s = .ok () s₁ →
      writeItems expand id e.attributes s₁ = .ok () s₂ →
      s₂.store.documents[id]? = some d₂ → d₂.depth = d.depth → Orderly id rest s₂ Q) :
    Orderly id (do
      checkRoom e.name
      changeDocument id (·.beginTag e.name)
      writeItems expand id e.attributes
      rest) s Q := by
  have hbegin : ∀ d : Document, d.beginTag e.name = .ok (d.openTag (some e.name)) := by
    intro d
    rw [Document.beginTag, if_pos hvalid.isName]
  refine ((reads_checkRoom e.name).orderly hd).bind ?_
  rintro _ s₀ d hroom hd₀ rfl
  have hopen : Orderly id (changeDocument id (·.beginTag e.name)) s₀ fun d' => d'.depth = d.depth :=
    orderly_changeDocument hd₀ (hbegin d) rfl
  refine hopen.bind ?_
  intro _ s₁ d₁ hbegun hd₁ hdepth₁
  have hrun : (do
      checkRoom e.name
      changeDocument id (·.beginTag e.name)) s = .ok () s₁ := by
    rw [bind_of_ok hroom, hbegun]
  have hitem : ∀ x s', AttributeItem.ComesTo expand id e.attributes s₁ x s' →
      x.Harmless expand (some id) s' := fun x s' h => hx x s' (.attributes hrun h)
  refine (orderly_writeItems hvalid.attributes hd₁ hitem).bind ?_
  intro _ s₂ d₂ hitems hd₂ hdepth₂
  exact hrest s₁ s₂ d₂ hrun hitems hd₂ (hdepth₂.trans hdepth₁)

/-! ## Elements -/

/-- An end tag where a line has been ended one level further in. -/
theorem orderly_leaveElement {name : Text} {k : Nat} (hname : isName name = true)
    (hd : s.store.documents[id]? = some d) (hdepth : d.depth = k + 1) (hsettled : d.Settled) :
    Orderly id (leaveElement id (·.endElement name)) s fun d' => d'.depth = k ∧ d'.Settled := by
  have hend : (fun d : Document => d.endElement name) = (·.closeTag (some name) name) := by
    funext d
    rw [Document.endElement, if_pos hname]
  have hne : d.depth ≠ 0 := by rw [hdepth]; exact Nat.succ_ne_zero k
  obtain ⟨e, hclose, hleave⟩ := leaveElement_of_settled hd hsettled hne (some name) name
  obtain ⟨hid, -⟩ := List.getElem?_eq_some_iff.1 hd
  obtain ⟨-, hshape, -⟩ := Document.text_closeTag hclose
  have hless : e.depth = d.depth - 1 := congrArg Document.Shape.depth hshape
  rw [hend]
  apply Orderly.of_run hleave (getElem?_put hid e)
  refine ⟨?_, Document.settled_closeTag hclose⟩
  rw [hless, hdepth, Nat.add_sub_cancel]

theorem orderly_addText (v : Value) (hd : s.store.documents[id]? = some d) :
    Orderly id (callDocument .addText id [v]) s fun d' => d'.depth = d.depth ∧ d'.Settled := by
  have hacts : Acts id (callDocument .addText id [v])
      (fun d d' => d'.depth = d.depth ∧ d'.Settled) fun e _ _ => e.isViolation = false := by
    refine (reads_display v).acts (fun value _ => ?_) fun e d he => he
    refine Acts.answer (acts_write fun d => ⟨?_, d.settled_addText value⟩) _
    exact Document.depth_eq_of_shape (d.shape_addText value)
  exact hacts.orderly hd (fun _ h => h) fun _ _ h => h

mutual

/-- A valid element without continuations, whose expressions are harmless where they are evaluated,
is written in order, leaves the depth as it was and ends a line. -/
theorem orderly_writeElement : ∀ (e : Element) {s : RenderState} {d : Document}, e.IsValid →
    e.isPlain = true → s.store.documents[id]? = some d →
    (∀ x s', e.ComesTo expand id s x s' → x.Harmless expand (some id) s') →
    Orderly id (writeElement expand id e) s fun d' => d'.depth = d.depth ∧ d'.Settled
  | .empty name items, s, d, hvalid, _, hd, hx => by
    rw [writeElement]
    refine orderly_startTag (e := .empty name items) hvalid hd hx ?_
    intro s₁ s₂ d₂ _ _ hd₂ hdepth
    refine orderly_changeDocument hd₂ rfl ⟨?_, d₂.settled_endEmptyTag⟩
    exact (Document.depth_eq_of_shape d₂.shape_endEmptyTag).trans hdepth
  | .node name items children, s, d, hvalid, hplain, hd, hx => by
    rw [writeElement]
    refine orderly_startTag (e := .node name items children) hvalid hd hx ?_
    intro s₁ s₂ d₂ hbegun hitems hd₂ hdepth
    have henter : d₂.enterContent.depth = d.depth + 1 := by
      rw [← hdepth]
      exact congrArg Document.Shape.depth d₂.shape_enterContent
    have hinside : Orderly id (changeDocument id fun d => .ok d.enterContent) s₂
        fun d' => d'.depth = d.depth + 1 ∧ d'.Settled :=
      orderly_changeDocument (e := d₂.enterContent) hd₂ rfl ⟨henter, d₂.settled_enterContent⟩
    refine hinside.bind ?_
    rintro _ s₃ d₃ hentered hd₃ ⟨hdepth₃, hsettled₃⟩
    have hchild : ∀ x s', Child.AnyComesTo expand id children s₃ x s' →
        x.Harmless expand (some id) s' :=
      fun x s' h => hx x s' (.content hbegun hitems hentered h)
    refine (orderly_writeChildren children hvalid.2.2 hplain hd₃ hsettled₃ hchild).bind ?_
    rintro _ s₄ d₄ - hd₄ ⟨hdepth₄, hsettled₄⟩
    -- the content has left the document at the depth of the start tag, with a line ended
    exact orderly_leaveElement hvalid.1 hd₄ (hdepth₄.trans hdepth₃) hsettled₄

theorem orderly_writeChild : ∀ (c : Child) {s : RenderState} {d : Document}, c.IsValid →
    c.isPlain = true → s.store.documents[id]? = some d →
    (∀ x s', c.ComesTo expand id s x s' → x.Harmless expand (some id) s') →
    Orderly id (writeChild expand id c) s fun d' => d'.depth = d.depth ∧ d'.Settled
  | .text value, s, d, _, _, hd, _ => by
    rw [writeChild]
    refine orderly_changeDocument hd rfl ⟨?_, d.settled_addText value⟩
    exact Document.depth_eq_of_shape (d.shape_addText value)
  | .expression x, s, d, _, _, hd, hx => by
    rw [writeChild]
    refine (orderly_evalEmbedded (hx x _ .expression) hd).takingRoom.bind ?_
    intro v s₁ d₁ _ hd₁ hdepth₁
    have hadd := orderly_addText (s := { s₁ with room := s₁.room - textRoom }) v hd₁
    exact hadd.discard.takingRoom.mono fun d' h => ⟨h.1.trans hdepth₁, h.2⟩
  | .element e, s, d, hvalid, hplain, hd, hx => by
    rw [writeChild]
    apply Orderly.takingRoom
    exact orderly_writeElement e hvalid hplain hd fun x s' h => hx x s' (.element h)
  | .continuation _, _, _, _, hplain, _, _ => nomatch hplain

theorem orderly_writeChildren : ∀ (cs : List Child) {s : RenderState} {d : Document},
    Child.AllValid cs → Child.arePlain cs = true → s.store.documents[id]? = some d → d.Settled →
    (∀ x s', Child.AnyComesTo expand id cs s x s' → x.Harmless expand (some id) s') →
    Orderly id (writeChildren expand id cs) s fun d' => d'.depth = d.depth ∧ d'.Settled
  | [], s, d, _, _, hd, hsettled, _ => .pure hd ⟨rfl, hsettled⟩
  | c :: rest, s, d, hvalid, hplain, hd, _, hx => by
    rw [Child.arePlain, Bool.and_eq_true] at hplain
    rw [writeChildren]
    refine (orderly_writeChild c hvalid.1 hplain.1 hd fun x s' h => hx x s' (.here h)).bind ?_
    rintro _ s₁ d₁ hrun₁ hd₁ ⟨hdepth, hsettled⟩
    have hothers := orderly_writeChildren rest hvalid.2 hplain.2 hd₁ hsettled
      fun x s' h => hx x s' (.later hrun₁ h)
    exact hothers.mono fun d' h => ⟨h.1.trans hdepth, h.2⟩

end

theorem reads_valueOf (x : Text) : Reads (·.isViolation = false) (valueOf x) fun _ => True := by
  refine Reads.get.bind fun s _ => ?_
  dsimp only
  split
  · exact .pure trivial
  · split
    · exact .pure trivial
    · exact .throw rfl
  · split
    · exact .pure trivial
    · exact .throw rfl
  · exact .throw rfl

/-- To look up a name is to read. -/
theorem reads_of_isLookup {x : Embedded} (hx : x.code.isLookup = true) :
    Reads (·.isViolation = false) (evalEmbedded expand x) fun _ => True := by
  cases hcode : x.code with
  | name n =>
    rw [evalEmbedded, hcode, eval]
    exact reads_valueOf n
  | _ =>
    rw [hcode] at hx
    cases hx

variable {settings : Settings} {t : Template} {fault : Fault}

end Render

namespace Template

open Render

end Template

end XmlTemplate
