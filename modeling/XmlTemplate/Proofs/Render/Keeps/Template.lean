import XmlTemplate.Proofs.Render.Keeps.Eval

/-!
# What templates can reach

Writing an element reaches the document that it is written into, and what its scripts reach. An
expansion adds a document of its own, which is out of reach when the expansion is over, since the
scope of the expansion is left behind and iterators are never given anything new
(`confines_expandWithin`).
-/

set_option autoImplicit false

namespace XmlTemplate

/-- The state with one more document. -/
def RenderState.add (s : RenderState) (d : Document) : RenderState :=
  { s with store.documents := s.store.documents ++ [d] }

namespace RenderState

variable {A : Nat → Prop} {may may' : Nat → Operation → Prop} {s s' : RenderState} {d : Document}

theorem getElem?_add (s : RenderState) (d : Document) :
    (s.add d).store.documents[s.store.documents.length]? = some d := by
  simp [add]

theorem Inside.add (h : s.Inside A) : (s.add d).Inside A := ⟨h.scope, h.iterators⟩

/-- What happens to a new document is of no account. -/
theorem Evolves.of_add (h : (s.add d).Evolves may' s')
    (hmay : ∀ i, i < s.store.documents.length → ∀ op, may' i op → may i op) :
    s.Evolves may s' where
  documents i e he := by
    obtain ⟨hi, -⟩ := List.getElem?_eq_some_iff.1 he
    have hadd : (s.add d).store.documents[i]? = some e := by
      rw [← he]
      exact List.getElem?_append_left hi
    obtain ⟨e', he', hreach⟩ := h.documents i e hadd
    exact ⟨e', he', hreach.mono (hmay i hi)⟩
  iterators := h.iterators

end RenderState

namespace Render

variable {A : Nat → Prop} {may : Nat → Operation → Prop} {expand : Expander} {id : Nat}

/-! ## Elements -/

theorem keeps_evalEmbedded (h : Confines A may expand) (e : Embedded) :
    Keeps A may (evalEmbedded expand e) (Value.Within A) :=
  keeps_eval h e.code

theorem reaches_addAttribute {P : Operation → Prop} (hmay : ∀ n value, P (.addAttribute n value))
    {name value : Text} (d e : Document) (he : d.addAttribute name value = .ok e) :
    d.Reaches P e :=
  .single (hmay name value) he

theorem keeps_writeNamed (h : Confines A may expand)
    (hattribute : ∀ n value, may id (.addAttribute n value)) (name : Text)
    (value : AttributeValue) : Keeps A may (writeNamed expand id name value) fun _ => True := by
  cases value with
  | literal s => exact keeps_changeDocument (reaches_addAttribute hattribute)
  | expression e =>
    refine (keeps_evalEmbedded h e).takingRoom.bind fun v hv => ?_
    have hmay : ∀ op, DocumentMethod.addAttribute.performs op = true → may id op := by
      intro op hop
      cases op with
      | addAttribute n value => exact hattribute n value
      | _ => cases hop
    have hname : (Value.str none name).Within A := trivial
    have hnil : ∀ w ∈ ([] : List Value), w.Within A := List.forall_mem_nil _
    exact (keeps_callDocument hmay
      (List.forall_mem_cons.2 ⟨hname, List.forall_mem_cons.2 ⟨hv, hnil⟩⟩)).discard

theorem keeps_writeItems (h : Confines A may expand)
    (hattribute : ∀ n value, may id (.addAttribute n value)) (items : List AttributeItem) :
    Keeps A may (writeItems expand id items) fun _ => True := by
  induction items with
  | nil => exact .pure trivial
  | cons item rest ih =>
    cases item with
    | named name value => exact (keeps_writeNamed h hattribute name value).bind fun _ _ => ih
    | fill e =>
      refine (keeps_evalEmbedded h e).takingRoom.bind fun v hv => ?_
      exact (keeps_writeAttributes hattribute hv).bind fun _ _ => ih

theorem keeps_runContinuation (h : Confines A may expand) (hid : A id) (c : Continuation) :
    Keeps A may (runContinuation expand id c) fun _ => True := by
  refine (unchanging_document id).keeps.bind fun d _ => ?_
  refine keeps_get.bind fun s hs => ?_
  have hscope : Scope.Within A (Scope.bind c.argument (.document id) s.scope) :=
    Scope.within_bind hs.scope hid
  have hbody : Keeps A may (inScope (Scope.bind c.argument (.document id) s.scope)
      (execAll expand c.code)) fun _ => True := by
    refine .inScope hscope fun s u s' hs hrun => ?_
    obtain ⟨-, -, hevolves⟩ := keeps_execAll h c.code s u s' hs hrun
    exact ⟨trivial, hevolves⟩
  refine hbody.bind fun _ _ => ?_
  refine (unchanging_document id).keeps.bind fun d' _ => ?_
  split
  · exact .throw _
  · exact .pure trivial

theorem unchanging_checkRoom (name : Text) : Unchanging (checkRoom name) := by
  refine Unchanging.room.bind fun room => ?_
  split
  · exact .throw _
  · exact .pure _

theorem keeps_beginTag (hmay : ∀ op, may id op) (name : Text) :
    Keeps A may (changeDocument id (·.beginTag name)) fun _ => True :=
  keeps_changeDocument fun _ _ he => .single (hmay (.beginTag name)) he

mutual

/-- Writing an element reaches the document and what its scripts reach. -/
theorem keeps_writeElement (h : Confines A may expand) (hid : A id) : ∀ e : Element,
    Keeps A may (writeElement expand id e) fun _ => True
  | .empty name items => by
    have hmay := fun op => h.allowed id op hid
    refine (unchanging_checkRoom name).keeps.bind fun _ _ => ?_
    refine (keeps_beginTag hmay name).bind fun _ _ => ?_
    refine (keeps_writeItems h (fun _ _ => hmay _) items).bind fun _ _ => ?_
    refine keeps_changeDocument fun d e he => ?_
    cases he
    exact .single (hmay .endEmptyTag) rfl
  | .node name items children => by
    have hmay := fun op => h.allowed id op hid
    refine (unchanging_checkRoom name).keeps.bind fun _ _ => ?_
    refine (keeps_beginTag hmay name).bind fun _ _ => ?_
    refine (keeps_writeItems h (fun _ _ => hmay _) items).bind fun _ _ => ?_
    refine Keeps.bind (keeps_changeDocument fun d e he => ?_) fun _ _ => ?_
    · cases he
      exact .single (hmay .enterContent) rfl
    · refine (keeps_writeChildren h hid children).bind fun _ _ => ?_
      exact keeps_leaveElement fun d e he => .single (hmay (.endElement name)) he

theorem keeps_writeChild (h : Confines A may expand) (hid : A id) : ∀ c : Child,
    Keeps A may (writeChild expand id c) fun _ => True
  | .text s => by
    refine keeps_changeDocument fun d e he => ?_
    cases he
    exact .single (h.allowed id (.addText s) hid) rfl
  | .expression e => by
    refine (keeps_evalEmbedded h e).takingRoom.bind fun v hv => ?_
    have hargs : ∀ w ∈ [v], w.Within A := by
      intro w hw
      rw [List.mem_singleton.1 hw]
      exact hv
    exact (keeps_callDocument (fun op _ => h.allowed id op hid) hargs).discard.takingRoom
  | .element e => (keeps_writeElement h hid e).takingRoom
  | .continuation c => (keeps_runContinuation h hid c).takingRoom

theorem keeps_writeChildren (h : Confines A may expand) (hid : A id) : ∀ cs : List Child,
    Keeps A may (writeChildren expand id cs) fun _ => True
  | [] => .pure trivial
  | c :: rest => (keeps_writeChild h hid c).bind fun _ _ => keeps_writeChildren h hid rest

end

/-! ## Templates -/

theorem keeps_layoutFor (h : Confines A may expand) (settings : Settings)
    (directive : Option LayoutDirective) :
    Keeps A may (layoutFor expand settings directive) fun _ => True := by
  rw [layoutFor.eq_def]
  split
  · split
    · exact (unchanging_layoutOf _).keeps
    · exact .throw _
  · exact .pure trivial
  next e =>
    refine (keeps_evalEmbedded h e).takingRoom.bind fun v _ => ?_
    split
    · exact (unchanging_layoutOf _).keeps
    · exact .throw _

/-- A template is written into a document that its scripts can reach anyway, or into a new one. -/
theorem target_eq_ok (h : Confines A may expand) {settings : Settings} {t : Template}
    {s s' : RenderState} (hs : s.Inside A) (hrun : target expand settings t s = .ok id s') :
    (t.destination.isSome = true ∧ A id ∧ s'.Inside A ∧ s.Evolves may s') ∨
      (t.destination = none ∧ ∃ p layout s₁, t.prolog = some p ∧ s₁.Inside A ∧
        s.Evolves may s₁ ∧ id = s₁.store.documents.length ∧
        s' = s₁.add (.start p.version p.standalone layout)) := by
  rw [target] at hrun
  cases hdestination : t.destination with
  | some e =>
    rw [hdestination] at hrun
    obtain ⟨v, s₁, heval, hrest⟩ := bind_eq_ok.1 hrun
    obtain ⟨hv, hs₁, hevolves⟩ := (keeps_evalEmbedded h e).takingRoom s v s₁ hs heval
    cases v with
    | document n =>
      cases hrest
      exact Or.inl ⟨rfl, hv, hs₁, hevolves⟩
    | _ => cases hrest
  | none =>
    rw [hdestination] at hrun
    cases hprolog : t.prolog with
    | some p =>
      rw [hprolog] at hrun
      obtain ⟨layout, s₁, hlayout, hadd⟩ := bind_eq_ok.1 hrun
      obtain ⟨-, hs₁, hevolves⟩ := keeps_layoutFor h settings t.layout s layout s₁ hs hlayout
      cases hadd
      exact Or.inr ⟨rfl, p, layout, s₁, rfl, hs₁, hevolves, rfl, rfl⟩
    | none =>
      rw [hprolog] at hrun
      cases hrun

/-- Writing a template reaches what its scripts reach, apart from a new document. -/
theorem evolves_writeTemplate (h : Confines A may expand)
    (hnew : ∀ n, Confines (fun i => A i ∨ i = n) (fun i op => may i op ∨ i = n) expand)
    {settings : Settings} {t : Template} {s s' : RenderState} (hs : s.Inside A)
    (hrun : writeTemplate expand settings t none s = .ok id s') :
    (∃ B, s'.Inside B) ∧ s.Evolves may s' := by
  obtain ⟨n, s₁, htarget, hrest⟩ := bind_eq_ok.1 hrun
  obtain ⟨u, s₂, hwrite, hpure⟩ := bind_eq_ok.1 hrest
  cases hpure
  rcases target_eq_ok h hs htarget with ⟨-, hn, hs₁, hevolves⟩ |
    ⟨-, p, layout, s₀, -, hs₀, hevolves, rfl, rfl⟩
  · obtain ⟨-, hs', hevolves'⟩ := (keeps_writeElement h hn t.root).takingRoom s₁ u _ hs₁ hwrite
    exact ⟨⟨_, hs'⟩, hevolves.trans hevolves'⟩
  -- the new document is in reach while it is written
  · have hadd := (hs₀.add (d := .start p.version p.standalone layout)).mono
      (B := fun i => A i ∨ i = s₀.store.documents.length) fun i hi => Or.inl hi
    obtain ⟨-, hs', hevolves'⟩ :=
      (keeps_writeElement (hnew s₀.store.documents.length) (Or.inr rfl) t.root).takingRoom
        _ u _ hadd hwrite
    refine ⟨⟨_, hs'⟩, hevolves.trans (hevolves'.of_add fun i hi op hop => ?_)⟩
    rcases hop with hop | rfl
    · exact hop
    · exact absurd hi (Nat.lt_irrefl _)

/-! ## Expansions -/

/-- An expansion asked for by a script is one in the room that is left. -/
theorem confines_nested {room : Nat} (hmay : ∀ i op, A i → may i op)
    (h : ∀ left, left < room → Confines A may (expandWithin left)) :
    Confines A may (fun source names settings => do
      let left := (← get).room
      if left < room then expandWithin left source names settings else throw .tooDeep) := by
  refine ⟨hmay, fun source names settings hnames => keeps_get.bind fun s _ => ?_⟩
  dsimp only
  split
  next hleft => exact (h s.room hleft).expands source names settings hnames
  next => exact .throw _

/-- The answer of an expansion refers to no document. -/
theorem keeps_answer (appends : Bool) (id : Nat) :
    Keeps A may (do if appends then return Value.none else newText (← readComplete id))
      fun v => ∀ B, v.Within B := by
  split
  · exact .pure fun _ => trivial
  · refine (unchanging_readComplete id).keeps.bind fun _ _ => ?_
    exact keeps_fresh.bind fun _ _ => .pure fun _ => trivial

/-- An expansion in whatever room reaches no other documents than the names that it is given. -/
theorem confines_expandWithin (room : Nat) : ∀ {A : Nat → Prop} {may : Nat → Operation → Prop},
    (∀ i op, A i → may i op) → Confines A may (expandWithin room) := by
  induction room using Nat.strongRecOn with
  | ind room ih =>
    intro A may hmay
    -- whatever may be done to a new document is allowed
    have hnew (n i : Nat) (op : Operation) (hi : A i ∨ i = n) : may i op ∨ i = n :=
      hi.imp_left (hmay i op)
    refine ⟨hmay, fun source names settings hnames => ?_⟩
    rw [expandWithin]
    refine (keeps_compile _ _ _).bind fun compiled _ => hnames.bind fun scope hscope => ?_
    refine .inScope hscope fun s a s' hs hrun => ?_
    obtain ⟨id, s₁, hwrite, hanswer⟩ := bind_eq_ok.1 hrun
    obtain ⟨⟨B, hs₁⟩, hevolves⟩ := evolves_writeTemplate
      (confines_nested hmay fun left hleft => ih left hleft hmay)
      (fun n => confines_nested (hnew n) fun left hleft => ih left hleft (hnew n)) hs hwrite
    obtain ⟨ha, -, hevolves'⟩ := keeps_answer _ id s₁ a s' hs₁ hanswer
    exact ⟨ha A, hevolves.trans hevolves'⟩

end Render

end XmlTemplate
