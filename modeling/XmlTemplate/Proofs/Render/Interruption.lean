import XmlTemplate.Proofs.Render.Append
import XmlTemplate.Proofs.Render.Written

/-!
# Interrupted renderings

An expression that fails interrupts the rendering of its template. The fault is the one that
rendering ends in, nothing is evaluated or written any more, and what has been written stays: the
elements before the expression as they are printed, and the elements around it up to where it
stands, those whose start tag is complete being open (`writeTemplate_of_fault`).

What is left of an element is a `Cut`. `Element.StopsAt` says how a run comes to an expression with
a cut behind it, by the three places where an expression can stand: in a start tag, in a content, or
in an element of a content. Every run that comes to an expression stops at it in this sense, if the
expressions before have left the document alone (`Element.ComesTo.stopsAt`).

The expression for the document or for its layout is evaluated before there is anything to write to.
It interrupts the rendering as well when its value is of the wrong kind.
-/

set_option autoImplicit false

namespace XmlTemplate

/-! ## Cuts -/

/-- An element that is written up to a place in it: in its start tag, in its content, or in an
element of its content. -/
inductive Cut where
  | tag (name : Text) (attributes : List (Text × Text))
  | content (name : Text) (attributes : List (Text × Text)) (contents : List Content)
  | element (name : Text) (attributes : List (Text × Text)) (contents : List Content) (inner : Cut)

namespace Cut

/-- How many elements have been entered, which are those around the place whose start tag is
complete. -/
def entered : Cut → Nat
  | tag .. => 0
  | content .. => 1
  | element _ _ _ inner => inner.entered + 1

/-- The element at a depth from the first character of its start tag to the place. -/
def print (layout : Layout) (depth : Nat) : Cut → Text
  | tag name attributes => '<' :: name ++ printAttributes attributes
  | content name attributes contents =>
    '<' :: name ++ printAttributes attributes ++ '>' :: Content.lines layout depth contents ++
      layout.lineBreak (depth + 1)
  | element name attributes contents inner =>
    '<' :: name ++ printAttributes attributes ++ '>' :: Content.lines layout depth contents ++
      layout.lineBreak (depth + 1) ++ inner.print layout (depth + 1)

end Cut

open Render

namespace Template

/-- The expression that a template without a given document evaluates to have one, the room that it
takes, and the fault of a value of the wrong kind. -/
inductive AsksFor (t : Template) : Embedded → (taken : Nat) → (Value → Option Fault) → Prop
  | document {x : Embedded} (h : t.destination = some x) :
      AsksFor t x targetRoom fun v => match v with
        | .document _ => none
        | v => some (.notADocument x.source.trim v.kind)
  | layout {x : Embedded} {p : Prolog} (hnew : t.destination = none) (hprolog : t.prolog = some p)
      (h : t.layout = some (.expression x)) :
      AsksFor t x layoutRoom fun v => match v with
        | .format _ => none
        | v => some (.notAFormat v.kind)

end Template

/-- Writing an element from a state comes to an expression in another state, and the cut is what has
been written. -/
inductive Element.StopsAt (expand : Expander) (id : Nat) :
    Element → RenderState → Cut → Embedded → RenderState → Prop
  | tag {e : Element} {before after : List AttributeItem} {item : AttributeItem} {x : Embedded}
      {s s₁ s₂ : RenderState} {as : List (Text × Text)} (begun : BeginsTag id e.name s s₁)
      (place : e.attributes = before ++ item :: after) (here : item.expressions = [x])
      (written : WritesItems expand id before s₁ as s₂) :
      StopsAt expand id e s (.tag e.name as) x { s₂ with room := s₂.room - attributeRoom }
  | content {name : Text} {items : List AttributeItem} {before after : List Child} {x : Embedded}
      {s s₁ s₂ s₃ s₄ : RenderState} {as : List (Text × Text)} {ks : List Content}
      (begun : BeginsTag id name s s₁) (tag : WritesItems expand id items s₁ as s₂)
      (entered : changeDocument id (fun d => .ok d.enterContent) s₂ = .ok () s₃)
      (written : WritesChildren expand id before s₃ ks s₄) :
      StopsAt expand id (.node name items (before ++ .expression x :: after)) s
        (.content name as ks) x { s₄ with room := s₄.room - childRoom }
  | element {name : Text} {items : List AttributeItem} {before after : List Child} {e : Element}
      {x : Embedded} {s s₁ s₂ s₃ s₄ s' : RenderState} {as : List (Text × Text)}
      {ks : List Content} {inner : Cut} (begun : BeginsTag id name s s₁)
      (tag : WritesItems expand id items s₁ as s₂)
      (entered : changeDocument id (fun d => .ok d.enterContent) s₂ = .ok () s₃)
      (written : WritesChildren expand id before s₃ ks s₄)
      (inside : StopsAt expand id e { s₄ with room := s₄.room - elementRoom } inner x s') :
      StopsAt expand id (.node name items (before ++ .element e :: after)) s
        (.element name as ks inner) x s'

variable {expand : Expander} {id : Nat}

/-- Up to where writing stops, the cut has been added to the document, and the elements around the
place are open. -/
theorem Element.StopsAt.stands {e : Element} {s s' : RenderState} {cut : Cut} {x : Embedded}
    (h : e.StopsAt expand id s cut x s') {σ : Document.Shape} {w : Text}
    (hs : Stands id s σ w) :
    Stands id s' { σ with depth := σ.depth + cut.entered }
      (w ++ cut.print σ.layout σ.depth) := by
  induction h generalizing σ w with
  | tag begun place here written =>
    have hwritten := written.stands (begun.stands hs)
    rw [List.append_assoc] at hwritten
    exact hwritten
  | content begun tag entered written =>
    have hwritten := written.rests (rests_entered entered (tag.stands (begun.stands hs)))
    have hlines := (startTag_contentText _ σ.layout σ.depth _) ▸ hwritten
    apply Stands.withRoom
    simpa [Cut.print, Cut.entered, Document.Shape.inner] using hlines.stands
  | element begun tag entered written inside ih =>
    have hwritten := written.rests (rests_entered entered (tag.stands (begun.stands hs)))
    have hlines := (startTag_contentText _ σ.layout σ.depth _) ▸ hwritten
    have hinside := ih hlines.stands
    rw [Cut.entered, Nat.add_comm _ 1, ← Nat.add_assoc]
    simpa [Cut.print, Document.Shape.inner] using hinside

/-! ## Every run that comes to an expression stops at it -/

/-- What comes to be evaluated in a start tag is the expression of one of the attributes and fills,
and those before it have been written. -/
theorem AttributeItem.ComesTo.split {items : List AttributeItem} {s s' : RenderState}
    {x : Embedded} (h : AttributeItem.ComesTo expand id items s x s')
    (hx : ∀ x s₁, AttributeItem.ComesTo expand id items s x s₁ →
      x.LeavesAlone expand (some id) s₁) :
    ∃ before item after as s₁, items = before ++ item :: after ∧ item.expressions = [x] ∧
      WritesItems expand id before s as s₁ ∧
      s' = { s₁ with room := s₁.room - attributeRoom } := by
  induction h with
  | named => exact ⟨[], _, _, [], _, rfl, rfl, .nil, rfl⟩
  | fill => exact ⟨[], _, _, [], _, rfl, rfl, .nil, rfl⟩
  | later first others ih =>
    obtain ⟨before, item, after, as, s₁, rfl, here, hbefore, rfl⟩ :=
      ih fun y t h => hx y t (.later first h)
    have hfirst := exists_writesItem (fun y t h => ?_) first
    · obtain ⟨bs, hbs⟩ := hfirst
      exact ⟨_ :: before, item, after, bs ++ as, s₁, rfl, here, .cons hbs hbefore, rfl⟩
    · cases h with
      | named => exact hx y _ .named
      | fill => exact hx y _ .fill
      | later first others => cases others

mutual

/-- If each expression that comes to be evaluated leaves the document alone, an element without
continuations is written up to the expression. -/
theorem Element.ComesTo.stopsAt : ∀ {e : Element} {s s' : RenderState} {x : Embedded},
    e.ComesTo expand id s x s' → e.isPlain = true →
    (∀ x s₁, e.ComesTo expand id s x s₁ → x.LeavesAlone expand (some id) s₁) →
    ∃ cut, e.StopsAt expand id s cut x s'
  | _, _, _, _, .attributes begun tag, _, hx => by
    obtain ⟨before, item, after, as, s₁, place, here, hbefore, rfl⟩ :=
      tag.split fun y t h => hx y t (.attributes begun h)
    exact ⟨_, .tag begun place here hbefore⟩
  | _, _, _, _, .content begun tag entered inside, hplain, hx => by
    obtain ⟨as, has⟩ := exists_writesItems (fun y t h => hx y t (.attributes begun h)) tag
    obtain ⟨before, c, after, ks, s₄, rfl, hbefore, hpart⟩ :=
      inside.split hplain fun y t h => hx y t (.content begun tag entered h)
    rcases hpart with ⟨rfl, rfl⟩ | ⟨e, cut, rfl, hstops⟩
    · exact ⟨_, .content begun has entered hbefore⟩
    · exact ⟨_, .element begun has entered hbefore hstops⟩

/-- A part of a content in which an expression comes to be evaluated is that expression, or an
element that is written up to it. -/
theorem Child.ComesTo.part : ∀ {c : Child} {s s' : RenderState} {x : Embedded},
    c.ComesTo expand id s x s' → c.isPlain = true →
    (∀ x s₁, c.ComesTo expand id s x s₁ → x.LeavesAlone expand (some id) s₁) →
    (c = .expression x ∧ s' = { s with room := s.room - childRoom }) ∨
      ∃ e cut, c = .element e ∧
        e.StopsAt expand id { s with room := s.room - elementRoom } cut x s'
  | _, _, _, _, .expression, _, _ => .inl ⟨rfl, rfl⟩
  | _, _, _, _, .element inside, hplain, hx => by
    obtain ⟨cut, hcut⟩ := inside.stopsAt hplain fun y t h => hx y t (.element h)
    exact .inr ⟨_, cut, rfl, hcut⟩

/-- What comes to be evaluated in a content does so in one of its parts, and those before it have
been written. -/
theorem Child.AnyComesTo.split : ∀ {cs : List Child} {s s' : RenderState} {x : Embedded},
    Child.AnyComesTo expand id cs s x s' → Child.arePlain cs = true →
    (∀ x s₁, Child.AnyComesTo expand id cs s x s₁ → x.LeavesAlone expand (some id) s₁) →
    ∃ before c after ks s₁, cs = before ++ c :: after ∧
      WritesChildren expand id before s ks s₁ ∧
      ((c = .expression x ∧ s' = { s₁ with room := s₁.room - childRoom }) ∨
        ∃ e cut, c = .element e ∧
          e.StopsAt expand id { s₁ with room := s₁.room - elementRoom } cut x s')
  | _ :: _, _, _, _, .here first, hplain, hx => by
    rw [Child.arePlain, Bool.and_eq_true] at hplain
    exact ⟨[], _, _, [], _, rfl, .nil, first.part hplain.1 fun y t h => hx y t (.here h)⟩
  | c :: _, _, _, _, .later first others, hplain, hx => by
    rw [Child.arePlain, Bool.and_eq_true] at hplain
    obtain ⟨k, hk⟩ := exists_writesChild c hplain.1 (fun y t h => hx y t (.here h)) first
    obtain ⟨before, c', after, ks, s₁, rfl, hbefore, hpart⟩ :=
      others.split hplain.2 fun y t h => hx y t (.later first h)
    exact ⟨c :: before, c', after, k :: ks, s₁, rfl, .cons hk hbefore, hpart⟩

end

namespace Render

variable {s s' t : RenderState} {x : Embedded} {fault : Fault}

/-! ## The fault of an expression is the fault of the rendering -/

/-- Of a start tag whose attributes and fills come to an expression, writing ends as the expression
does. -/
theorem writeItems_of_fault {items : List AttributeItem}
    (h : AttributeItem.ComesTo expand id items s x s')
    (hfault : evalEmbedded expand x s' = .error fault t) :
    ∃ room, writeItems expand id items s = .error fault { t with room } := by
  induction h with
  | named =>
    refine ⟨_, bind_of_error (bind_of_error (takingRoom_of_error hfault) _) _⟩
  | fill => exact ⟨_, bind_of_error (takingRoom_of_error hfault) _⟩
  | later first others ih =>
    obtain ⟨room, hrest⟩ := ih hfault
    refine ⟨room, ?_⟩
    rw [writeItems_cons, bind_of_ok first, hrest]

mutual

/-- Writing an element that comes to an expression ends as the expression does. -/
theorem writeElement_of_fault : ∀ {e : Element} {s s' : RenderState},
    e.ComesTo expand id s x s' → evalEmbedded expand x s' = .error fault t →
    ∃ room, writeElement expand id e s = .error fault { t with room }
  | .empty _ _, _, _, .attributes begun tag, hfault => by
    obtain ⟨room, htag⟩ := writeItems_of_fault tag hfault
    refine ⟨room, ?_⟩
    rw [writeElement]
    exact (startTag_of_begins begun _).trans (bind_of_error htag _)
  | .node _ _ _, _, _, .attributes begun tag, hfault => by
    obtain ⟨room, htag⟩ := writeItems_of_fault tag hfault
    refine ⟨room, ?_⟩
    rw [writeElement]
    exact (startTag_of_begins begun _).trans (bind_of_error htag _)
  | .node _ _ _, _, _, .content begun tag entered inside, hfault => by
    obtain ⟨room, hinside⟩ := writeChildren_of_fault inside hfault
    refine ⟨room, ?_⟩
    rw [writeElement, startTag_of_begins begun, bind_of_ok tag, bind_of_ok entered]
    exact bind_of_error hinside _

theorem writeChild_of_fault : ∀ {c : Child} {s s' : RenderState},
    c.ComesTo expand id s x s' → evalEmbedded expand x s' = .error fault t →
    ∃ room, writeChild expand id c s = .error fault { t with room }
  | .expression _, _, _, .expression, hfault => by
    rw [writeChild]
    exact ⟨_, bind_of_error (takingRoom_of_error hfault) _⟩
  | .element _, _, _, .element inside, hfault => by
    obtain ⟨room, hinside⟩ := writeElement_of_fault inside hfault
    have hchild := takingRoom_of_error hinside
    rw [writeChild]
    exact ⟨_, hchild⟩

theorem writeChildren_of_fault : ∀ {cs : List Child} {s s' : RenderState},
    Child.AnyComesTo expand id cs s x s' → evalEmbedded expand x s' = .error fault t →
    ∃ room, writeChildren expand id cs s = .error fault { t with room }
  | _ :: _, _, _, .here first, hfault => by
    obtain ⟨room, hfirst⟩ := writeChild_of_fault first hfault
    rw [writeChildren]
    exact ⟨room, bind_of_error hfirst _⟩
  | _ :: _, _, _, .later first others, hfault => by
    obtain ⟨room, hothers⟩ := writeChildren_of_fault others hfault
    rw [writeChildren, bind_of_ok first]
    exact ⟨room, hothers⟩

end

/-! ## Templates -/

variable {t : Template} {settings : Settings} {given : Option Nat}

/-- What is asked for before there is a document fails as its expression does, and for a value of
the wrong kind it fails where the expression has led. -/
theorem writeTemplate_of_asksFor {taken : Nat} {refusal : Value → Option Fault}
    (h : t.AsksFor x taken refusal) :
    (∀ fault s', evalEmbedded expand x { s with room := s.room - taken } = .error fault s' →
      writeTemplate expand settings t none s = .error fault { s' with room := s.room }) ∧
    ∀ v s' fault, evalEmbedded expand x { s with room := s.room - taken } = .ok v s' →
      refusal v = some fault →
      writeTemplate expand settings t none s = .error fault { s' with room := s.room } := by
  cases h with
  | document h =>
    constructor
    · intro fault s' hfault
      apply bind_of_error
      rw [target, h]
      exact bind_of_error (takingRoom_of_error hfault) _
    · intro v s' fault heval hrefused
      apply bind_of_error
      rw [target, h]
      refine (bind_of_ok (takingRoom_of_ok heval) _).trans ?_
      cases v <;> cases hrefused <;> rfl
  | layout hnew hprolog h =>
    constructor
    · intro fault s' hfault
      apply bind_of_error
      rw [target, hnew, hprolog, h]
      exact bind_of_error (bind_of_error (takingRoom_of_error hfault) _) _
    · intro v s' fault heval hrefused
      apply bind_of_error
      rw [target, hnew, hprolog, h]
      apply bind_of_error
      refine (bind_of_ok (takingRoom_of_ok heval) _).trans ?_
      cases v <;> cases hrefused <;> rfl

/-- A template that comes to an expression while it is written into a document has found the
document before, and comes to the expression in its root. -/
theorem comesTo_root {s₁ : RenderState} (h : t.ComesTo expand settings given s (some id) x s₁) :
    ∃ s₀, documentFor expand settings t given s = .ok id s₀ ∧
      t.root.ComesTo expand id { s₀ with room := s₀.room - rootRoom } x s₁ := by
  cases h with
  | given inside => exact ⟨s, rfl, inside⟩
  | found found inside => exact ⟨_, found, inside⟩

/-- An element that is begun is begun in a document. -/
theorem exists_document_of_comesTo {e : Element} {s₁ : RenderState}
    (h : e.ComesTo expand id s x s₁) : ∃ d, s.store.documents[id]? = some d := by
  cases h with
  | attributes begun tag => exact BeginsTag.exists_document begun
  | content begun tag entered inside => exact BeginsTag.exists_document begun

/-- The rendering of a template without continuations, whose expressions leave the document alone,
ends in the fault of the first expression that fails, in the state that this expression has left. If
it is the expression for the document or its layout, or that has a value of the wrong kind, then
nothing has been written. If it is one of the root, then the document has its old text with what
comes before the expression added to it, and it is deeper by the elements around the expression
whose start tag is complete. -/
theorem writeTemplate_of_fault (expand : Expander) (settings : Settings) (t : Template)
    (given : Option Nat) (s : RenderState) (hplain : t.root.isPlain = true)
    (hx : ∀ target x s₁, t.ComesTo expand settings given s target x s₁ →
      x.LeavesAlone expand target s₁) :
    (∀ x taken refusal, given = none → t.AsksFor x taken refusal →
      (∀ fault s₁, evalEmbedded expand x { s with room := s.room - taken } = .error fault s₁ →
        writeTemplate expand settings t given s = .error fault { s₁ with room := s.room }) ∧
      ∀ v s₁ fault, evalEmbedded expand x { s with room := s.room - taken } = .ok v s₁ →
        refusal v = some fault →
        writeTemplate expand settings t given s = .error fault { s₁ with room := s.room }) ∧
    ∀ id x s₁ fault s₂, t.ComesTo expand settings given s (some id) x s₁ →
      evalEmbedded expand x s₁ = .error fault s₂ →
      ∃ s₀ d d' cut, documentFor expand settings t given s = .ok id s₀ ∧
        s₀.store.documents[id]? = some d ∧
        t.root.StopsAt expand id { s₀ with room := s₀.room - rootRoom } cut x s₁ ∧
        writeTemplate expand settings t given s = .error fault { s₂ with room := s₀.room } ∧
        s₂.store.documents[id]? = some d' ∧ d'.layout = d.layout ∧
        d'.depth = d.depth + cut.entered ∧ d'.text = d.text ++ cut.print d.layout d.depth := by
  refine ⟨?_, ?_⟩
  · rintro x taken refusal rfl hasks
    exact writeTemplate_of_asksFor hasks
  · intro id x s₁ fault s₂ hcomes hfault
    obtain ⟨s₀, hdocument, hroot⟩ := comesTo_root hcomes
    have hinside : ∀ y t', t.root.ComesTo expand id { s₀ with room := s₀.room - rootRoom } y t' →
        y.LeavesAlone expand (some id) t' := by
      intro y t' h
      cases given with
      | some i =>
        cases hdocument
        exact hx _ y t' (.given h)
      | none => exact hx (some id) y t' (.found hdocument h)
    obtain ⟨cut, hcut⟩ := hroot.stopsAt hplain hinside
    obtain ⟨d, hd⟩ := exists_document_of_comesTo hroot
    obtain ⟨d₁, hd₁, hshape, htext⟩ := hcut.stands ⟨d, hd, rfl, rfl⟩
    -- the expression that fails leaves the document alone, too
    have hd' : s₂.store.documents[id]? = some d₁ :=
      ((hinside x s₁ hroot).of_error fault s₂ hfault id rfl).trans hd₁
    obtain ⟨room, hwrite⟩ := writeElement_of_fault hroot hfault
    have hrun : writeTemplate expand settings t given s =
        .error fault { s₂ with room := s₀.room } := by
      rw [writeTemplate_eq_documentFor, bind_of_ok hdocument]
      exact bind_of_error (takingRoom_of_error hwrite) _
    exact ⟨s₀, d, d₁, cut, hdocument, hd, hcut, hrun, hd',
      congrArg Document.Shape.layout hshape, congrArg Document.Shape.depth hshape, htext⟩

/-! ## A name without a value -/

/-- The element with the name that has no value, and other expressions around it. -/
def innerElement : Element :=
  .node ['c'] [] [.text ['t'], .expression (nameExpression ['z']), .expression (nameExpression ['n'])]

/-- A template with a name for which there is no value, deep in its content. -/
def unboundTemplate : Template where
  destination := none
  prolog := some ⟨.v1_0, none⟩
  layout := some (.unit ['\t'])
  root := .node ['a'] [.fill (nameExpression ['m'])]
    [.expression (nameExpression ['n']), .element innerElement]

/-- What the other names in it stand for. -/
def textScope : Scope :=
  [(['n'], .str none ['7']), (['m'], .dict 0 [(.str none ['l'], .str none ['<'])])]

/-- A state with one document in which the names stand for these values. -/
def textState (d : Document) (room : Nat) : RenderState := ⟨⟨[d], [], .empty, 0⟩, textScope, room⟩

/-- The document of the template up to the name that has no value. -/
def brokenDocument : Document :=
  ((((((((prettyDocument ['\t']).openTag (some ['a'])).writeAttribute ['l'] ['<']).enterContent).addText
    ['7']).openTag (some ['c'])).enterContent).addText ['t'])

theorem comesTo_innerElement (expand : Expander) (d : Document) :
    innerElement.ComesTo expand 0 (textState d 986) (nameExpression ['z'])
      (textState (((d.openTag (some ['c'])).enterContent).addText ['t']) 983) := by
  have hbegun : BeginsTag 0 ['c'] (textState d 986) (textState (d.openTag (some ['c'])) 986) := rfl
  have htext : ∀ e : Document, writeChild expand 0 (.text ['t']) (textState e 986) =
      .ok () (textState (e.addText ['t']) 986) := fun _ => rfl
  exact .content hbegun rfl rfl (.later (htext _) (.here .expression))

theorem comesTo_unboundTemplate (expand : Expander) :
    unboundTemplate.ComesTo expand (.options .default) none ⟨.empty, textScope, maxRoom⟩ (some 0)
      (nameExpression ['z']) (textState brokenDocument 983) := by
  have hfound : target expand (.options .default) unboundTemplate ⟨.empty, textScope, maxRoom⟩ =
      .ok 0 (textState (prettyDocument ['\t']) maxRoom) := rfl
  have hbegun : ∀ d : Document, BeginsTag 0 ['a'] (textState d 988)
      (textState (d.openTag (some ['a'])) 988) := fun _ => rfl
  have htag : ∀ d : Document, writeItems expand 0 unboundTemplate.root.attributes
      (textState d 988) = .ok () (textState (d.writeAttribute ['l'] ['<']) 988) := fun _ => rfl
  have htext : ∀ d : Document, writeChild expand 0 (.expression (nameExpression ['n']))
      (textState d 988) = .ok () (textState (d.addText ['7']) 988) := fun _ => rfl
  exact .found hfound (.content (hbegun _) (htag _) rfl (.later (htext _)
    (.here (.element (comesTo_innerElement expand _)))))

theorem writeTemplate_of_fault_unboundTemplate :
    ∃ s₂ d', writeTemplate Render.expand (.options .default) unboundTemplate none
        ⟨.empty, textScope, maxRoom⟩ = .error (.unboundName ['z']) s₂ ∧
      s₂.store.documents[0]? = some d' ∧ d'.depth = 2 ∧
      d'.text = ("<?xml version=\"1.0\" encoding=\"UTF-8\"?>\n<a l=\"&lt;\">\n\t7\n" ++
        "\t<c>\n\t\tt\n\t\t").toList := by
  have hlookups : (unboundTemplate.expressions.all fun x => x.code.isLookup) = true := by decide
  have hx : ∀ target x s₁, unboundTemplate.ComesTo Render.expand (.options .default) none
      ⟨.empty, textScope, maxRoom⟩ target x s₁ → x.LeavesAlone Render.expand target s₁ := by
    intro target x s₁ h
    exact leavesAlone_of_isLookup (List.all_eq_true.1 hlookups x h.mem_expressions)
  have hfault : evalEmbedded Render.expand (nameExpression ['z']) (textState brokenDocument 983) =
      .error (.unboundName ['z']) (textState brokenDocument 983) := rfl
  obtain ⟨-, hroot⟩ := writeTemplate_of_fault Render.expand (.options .default) unboundTemplate none
    ⟨.empty, textScope, maxRoom⟩ (by decide) hx
  obtain ⟨s₀, d, d', cut, -, -, -, hrun, hd', -⟩ :=
    hroot 0 _ _ _ _ (comesTo_unboundTemplate Render.expand) hfault
  cases hd'
  exact ⟨_, brokenDocument, hrun, rfl, by decide, by decide⟩

/-! ## Where evaluating is not all that can fail -/

/-- A quotient that no number is. -/
def quotientExpression : Embedded := ⟨"1 / 0".toList, .arith .quotient (.int 1) (.int 0), none⟩

/-- A template with an expression that fails after one whose value has no text. -/
def quotientTemplate : Template where
  destination := none
  prolog := some ⟨.v1_0, none⟩
  layout := none
  root := .node ['a'] [] [.expression squareExpression, .expression quotientExpression]

/-- The first expression that fails need not be what a rendering fails for, since a value that has
been found before may have no text. -/
theorem fault_not_reached :
    (∀ store room, evalEmbedded Render.expand squareExpression
        ⟨store, [(['n'], .int longFactor)], room⟩ =
      .ok (.int (longFactor * longFactor)) ⟨store, [(['n'], .int longFactor)], room⟩) ∧
    (∀ s, evalEmbedded Render.expand quotientExpression s =
      .error (.divisionByZero .quotient) s) ∧
    ∃ t, writeTemplate Render.expand (.options .default) quotientTemplate none
      ⟨.empty, [(['n'], .int longFactor)], maxRoom⟩ = .error (.badValue .longNumber) t := by
  refine ⟨fun store room => eval_squareExpression _ store _ room, fun _ => rfl, ?_⟩
  have htarget : target Render.expand (.options .default) quotientTemplate
      ⟨.empty, [(['n'], .int longFactor)], maxRoom⟩ =
        .ok 0 ⟨⟨[terseDocument], [], .empty, 0⟩, [(['n'], .int longFactor)], maxRoom⟩ := rfl
  have hroom : 7 ≤ maxRoom - rootRoom := by decide
  obtain ⟨t, ht⟩ := writeElement_longSquare Render.expand terseDocument
    [.expression quotientExpression] hroom unwritableSize_le_square
  have hwrite : takingRoom rootRoom (writeElement Render.expand 0 quotientTemplate.root)
      ⟨⟨[terseDocument], [], .empty, 0⟩, [(['n'], .int longFactor)], maxRoom⟩ =
        .error (.badValue .longNumber) _ := takingRoom_of_error ht
  exact ⟨_, (bind_of_ok htarget _).trans (bind_of_error hwrite _)⟩

end Render

end XmlTemplate
