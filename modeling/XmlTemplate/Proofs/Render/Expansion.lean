import XmlTemplate.Proofs.Render.Balance

/-!
# What an expansion answers

The answer of an expansion into a new document is the text of that document. It is the declaration
followed by one element whose tags nest if and only if the operations nest that the template has
unfolded to (`expanded_isDocument_iff`). That is so if the continuations of the template are
balanced or if there are none. The guard on continuations asks for less, namely that they leave as
many elements as they enter, and lets others pass.
-/

set_option autoImplicit false

namespace XmlTemplate

/-- The scope and the iterators of a state refer to documents that are there. -/
def RenderState.Grounded (s : RenderState) : Prop := s.Inside (· < s.store.documents.length)

namespace Render

variable {id : Nat} {s s' : RenderState} {settings : Settings}

/-! ## Expansions -/

/-- Expansions leave a grounded state, and their answers refer to documents that are there. -/
theorem grounded_expand {source : Text} {scope : Scope} {v : Value} (hs : s.Grounded)
    (hscope : scope.Within (· < s.store.documents.length))
    (hrun : expand source (pure scope) settings s = .ok v s') :
    s'.Grounded ∧ v.Within (· < s'.store.documents.length) := by
  obtain ⟨r, s₀, hroom, hexpand⟩ := bind_eq_ok.1 hrun
  cases hroom
  have hconfines := confines_expandWithin s.room
    fun i (_ : Operation) (hi : i < s.store.documents.length) => hi
  obtain ⟨hv, hs', hevolves⟩ := hconfines.expands source _ settings (.pure hscope) s v s' hs hexpand
  have hlength (i : Nat) (hi : i < s.store.documents.length) : i < s'.store.documents.length :=
    Nat.lt_of_lt_of_le hi hevolves.length_le
  exact ⟨hs'.mono hlength, hv.mono hlength⟩

theorem compile_eq_ok {room : Nat} {source : Text} {compiled : Compiled}
    (h : compile room source settings s = .ok compiled s') :
    ∃ cache, s.store.cache.compile room source settings = (.ok compiled, cache) ∧
      s' = { s with store.cache := cache } := by
  obtain ⟨s₀, s₁, hget, hrest⟩ := bind_eq_ok.1 h
  cases hget
  rcases hcompile : s.store.cache.compile room source settings with ⟨answer, cache⟩
  rw [hcompile] at hrest
  obtain ⟨u, s₂, hmodify, hanswer⟩ := bind_eq_ok.1 hrest
  cases hmodify
  cases answer with
  | ok c =>
    cases hanswer
    exact ⟨cache, rfl, rfl⟩
  | error fault => cases hanswer

theorem newText_eq_ok {text : Text} {v : Value} (h : newText text s = .ok v s') :
    ∃ mark, v = .str mark text ∧ s'.store.documents = s.store.documents := by
  obtain ⟨n, s₁, hfresh, hpure⟩ := bind_eq_ok.1 h
  cases hfresh
  cases hpure
  exact ⟨_, rfl, rfl⟩

/-- What is answered at the end of an expansion is a text if the template has not been appended to a
document, and then it is that of the new one. -/
theorem answer_eq_ok {appends : Bool} {mark : Mark} {text : Text}
    (h : (do if appends then return Value.none else newText (← readComplete id) : Render Value) s =
      .ok (.str mark text) s') :
    appends = false ∧ ∃ d, s'.store.documents[id]? = some d ∧ d.depth = 0 ∧ d.isText = true ∧
      d.text = text ∧ s'.store.documents = s.store.documents := by
  cases appends with
  | true => cases h
  | false =>
    obtain ⟨text', s₁, hread, hnew⟩ := bind_eq_ok.1 h
    obtain ⟨d, hd, hdepth, hisText, rfl, rfl⟩ := readComplete_eq_ok hread
    obtain ⟨mark', hmark, hdocuments⟩ := newText_eq_ok hnew
    cases hmark
    exact ⟨rfl, d, by rw [hdocuments, hd], hdepth, hisText, rfl, hdocuments⟩

/-- A new document that a template has been written into: what the template unfolds to has been
performed on it, and all elements are closed. -/
structure WrittenTo (t : Template) (p : Prolog) (ops : List Operation) (d : Document) : Prop where
  destination : t.destination = none
  prolog : t.prolog = some p
  unfolds : t.root.Unfolds IsLevel ops
  performed : (Document.start p.version p.standalone d.layout).performAll ops = .ok d
  depth_eq : d.depth = 0

/-- A template without a destination is written into a new document, which comes after all that
scripts can reach. -/
theorem writeTemplate_eq_ok {expand : Expander} {A : Nat → Prop} {may : Nat → Operation → Prop}
    (h : Confines A may expand) {t : Template} (hA : ∀ i, A i → i < s.store.documents.length)
    (hs : s.Inside A) (ht : t.destination = none)
    (hrun : writeTemplate expand settings t none s = .ok id s') :
    s.store.documents.length ≤ id ∧ ¬A id ∧ ∃ (p : Prolog) (layout : Layout) (s₀ : RenderState),
      t.prolog = some p ∧ s₀.Inside A ∧
      (s₀.add (.start p.version p.standalone layout)).store.documents[id]? =
        some (.start p.version p.standalone layout) ∧
      takingRoom rootRoom (writeElement expand id t.root)
        (s₀.add (.start p.version p.standalone layout)) = .ok () s' := by
  obtain ⟨n, s₁, htarget, hrest⟩ := bind_eq_ok.1 hrun
  obtain ⟨u, s₂, hwrite, hpure⟩ := bind_eq_ok.1 hrest
  cases hpure
  rcases target_eq_ok h hs htarget with ⟨hsome, -⟩ |
    ⟨-, p, layout, s₀, hp, hs₀, hevolves, rfl, rfl⟩
  · rw [ht] at hsome
    cases hsome
  · have hlength := hevolves.length_le
    have hid : ¬A s₀.store.documents.length := fun hi =>
      Nat.lt_irrefl _ (Nat.lt_of_lt_of_le (hA _ hi) hlength)
    exact ⟨hlength, hid, p, layout, s₀, hp, hs₀, RenderState.getElem?_add s₀ _, hwrite⟩

/-- Writing a template without a destination performs what it unfolds to on a new document. -/
theorem writeTemplate_new {expand : Expander} {A : Nat → Prop}
    (h : ∀ B : Nat → Prop, Confines B (fun i _ => B i) expand) {t : Template}
    (hA : ∀ i, A i → i < s.store.documents.length) (hs : s.Inside A)
    (ht : t.destination = none) (hrun : writeTemplate expand settings t none s = .ok id s') :
    s.store.documents.length ≤ id ∧ ∃ p layout d, t.prolog = some p ∧
      s'.store.documents[id]? = some d ∧ (d.isText = true → ∃ ops, t.root.Unfolds IsLevel ops ∧
        (Document.start p.version p.standalone layout).performAll ops = .ok d) := by
  obtain ⟨hlength, hid, p, layout, s₀, hp, hs₀, hstart, hwrite⟩ :=
    writeTemplate_eq_ok (h A) hA hs ht hrun
  obtain ⟨-, d, hd, hops⟩ :=
    (performs_writeElement h hid t.root).takingRoom _ () _ _ hs₀.add hstart hwrite
  exact ⟨hlength, p, layout, d, hp, hd, fun hisText => (hops hisText).2⟩

/-- An expansion that answers a text has written its template into a new document of that text. -/
theorem expand_eq_ok {source text : Text} {scope : Scope} {mark : Mark} (hs : s.Grounded)
    (hscope : scope.Within (· < s.store.documents.length))
    (hrun : expand source (pure scope) settings s = .ok (.str mark text) s') :
    ∃ compiled cache p ops id d,
      s.store.cache.compile (s.room - compileRoom) source settings = (.ok compiled, cache) ∧
      s.store.documents.length ≤ id ∧ s'.store.documents[id]? = some d ∧ d.text = text ∧
      WrittenTo compiled.template p ops d := by
  obtain ⟨r, s₀, hroom, hexpand⟩ := bind_eq_ok.1 hrun
  cases hroom
  rw [expandWithin] at hexpand
  obtain ⟨compiled, s₁, hcompile, hrest⟩ := bind_eq_ok.1 hexpand
  obtain ⟨cache, hcache, rfl⟩ := compile_eq_ok hcompile
  obtain ⟨scope', s₂, hnames, hinScope⟩ := bind_eq_ok.1 hrest
  cases hnames
  obtain ⟨t, hinside, rfl⟩ := inScope_eq_ok.1 hinScope
  obtain ⟨id, s₃, hwrite, hanswer⟩ := bind_eq_ok.1 hinside
  obtain ⟨happends, d, hd, hdepth, hisText, htext, hdocuments⟩ := answer_eq_ok hanswer
  have hdestination : compiled.template.destination = none :=
    Option.isNone_iff_eq_none.1 (Option.isSome_eq_false_iff.1 happends)
  have hstart : RenderState.Inside (· < s.store.documents.length)
      ⟨{ s.store with cache }, scope, s.room⟩ := ⟨hscope, hs.iterators⟩
  -- expansions by continuations reach no more documents than the continuations themselves
  have hnested (B : Nat → Prop) := confines_nested (fun _ _ hi => hi) fun left
    (_ : left < s.room) => confines_expandWithin left (fun i (_ : Operation) (hi : B i) => hi)
  obtain ⟨hid, p, layout, e, hp, he, hops⟩ :=
    writeTemplate_new hnested (fun _ hi => hi) hstart hdestination hwrite
  rw [← hdocuments, hd] at he
  cases he
  obtain ⟨ops, hunfolds, hperformed⟩ := hops hisText
  have hlayout : d.layout = layout :=
    (Document.layout_of_performAll hperformed).trans (Document.layout_start ..)
  rw [← hlayout] at hperformed
  exact ⟨compiled, cache, p, ops, id, d, hcache, hid, hd, htext,
    hdestination, hp, hunfolds, hperformed, hdepth⟩

/-- What is performed on a document are operations with names. -/
theorem forall_isNamed_of_performAll {d e : Document} {ops : List Operation}
    (h : d.performAll ops = .ok e) : ∀ op ∈ ops, op.isNamed = true := by
  induction ops generalizing d with
  | nil => exact List.forall_mem_nil _
  | cons op rest ih =>
    obtain ⟨d', hop, hrest⟩ := Document.performAll_cons_eq_ok_iff.1 h
    exact List.forall_mem_cons.2 ⟨(Document.perform_eq_ok hop).1, ih hrest⟩

/-- A document that a template has been written into is one element after the declaration if and
only if the operations nest. -/
theorem WrittenTo.isDocument_iff {t : Template} {p : Prolog} {ops : List Operation} {d : Document}
    (h : WrittenTo t p ops d) (hlayout : d.layout.isBlank = true) :
    IsDocument (Document.start p.version p.standalone .terse).text d.text ↔
      nest d.layout ops = true := by
  obtain ⟨-, -, hunfolds, hperformed, hdepth⟩ := h
  cases hroot : t.root with
  | empty name items =>
    rw [hroot] at hunfolds
    cases hunfolds with
    | empty tag =>
      have hbalanced : Element.Unfolds (IsBalanced d.layout) (.empty name items) _ := .empty tag
      have hnest := nest_of_unfolds hbalanced (forall_isNamed_of_performAll hperformed)
      exact iff_of_true (isDocument_of_nest hlayout hperformed hdepth hnest) hnest
  | node name items children =>
    rw [hroot] at hunfolds
    cases hunfolds with
    | node tag inside =>
      refine ⟨nest_of_isDocument hlayout hperformed ?_,
        isDocument_of_nest hlayout hperformed hdepth⟩
      intro op hop
      have hlast := hop.symm.trans (List.getLast?_concat ..)
      cases hlast
      exact ⟨name, rfl⟩

/-- It is so if the continuations of the template are balanced. -/
theorem WrittenTo.isDocument {t : Template} {p : Prolog} {ops : List Operation} {d : Document}
    (h : WrittenTo t p ops d) (hlayout : d.layout.isBlank = true)
    (hbalanced : t.root.Unfolds (IsBalanced d.layout) ops) :
    IsDocument (Document.start p.version p.standalone .terse).text d.text :=
  (h.isDocument_iff hlayout).2
    (nest_of_unfolds hbalanced (forall_isNamed_of_performAll h.performed))

/-- The text that an expansion answers is the text of a new document, in which what the template
unfolds to has been performed. If the layout is blank, it is the declaration followed by one element
if and only if these operations nest. They do if continuations are balanced or if there are none;
that they leave as many elements as they enter does not suffice. -/
theorem expanded_isDocument_iff {source text : Text} {scope : Scope} {mark : Mark}
    (hs : s.Grounded) (hscope : scope.Within (· < s.store.documents.length))
    (hrun : expand source (pure scope) settings s = .ok (.str mark text) s') :
    ∃ compiled cache p ops id d,
      s.store.cache.compile (s.room - compileRoom) source settings = (.ok compiled, cache) ∧
      s.store.documents.length ≤ id ∧ s'.store.documents[id]? = some d ∧ d.text = text ∧
      WrittenTo compiled.template p ops d ∧
      (d.layout.isBlank = true →
        (IsDocument (Document.start p.version p.standalone .terse).text text ↔
          nest d.layout ops = true) ∧
        (compiled.template.root.Unfolds (IsBalanced d.layout) ops →
          IsDocument (Document.start p.version p.standalone .terse).text text) ∧
        (compiled.template.root.isPlain = true →
          IsDocument (Document.start p.version p.standalone .terse).text text)) := by
  obtain ⟨compiled, cache, p, ops, id, d, hcompile, hid, hd, rfl, hwritten⟩ :=
    expand_eq_ok hs hscope hrun
  refine ⟨compiled, cache, p, ops, id, d, hcompile, hid, hd, rfl, hwritten, fun hlayout => ?_⟩
  refine ⟨hwritten.isDocument_iff hlayout, hwritten.isDocument hlayout, fun hplain => ?_⟩
  exact hwritten.isDocument hlayout (hwritten.unfolds.of_isPlain hplain)

/-! ### A tag that is left unfinished -/

/-- A source whose continuation begins a tag, which leaves the depth as it is. -/
def unfinishedSource : Text := "<?xml version=\"1.0\"?><a>\x7b|d| d.open_tag('b')\x7d</a>".toList

/-- What the source is read as. -/
def unfinishedTemplate : Template where
  root := .node ['a'] [] [.continuation ⟨['d'], "d.open_tag('b')".toList,
    [.run (.call (.member (.name ['d']) "open_tag".toList) [.str ['b']] [])],
    some ⟨1, 25, 24, 45⟩⟩]
  destination := none
  layout := none
  prolog := some ⟨.v1_0, none⟩

/-- A state in which the template is kept. -/
def unfinishedState : RenderState where
  store := ⟨[], [], ⟨[⟨unfinishedSource, .options .default, ⟨0, unfinishedTemplate⟩⟩], 1⟩, 0⟩
  scope := []

/-- What the expansion answers. -/
def unfinishedText : Text := "<?xml version=\"1.0\" encoding=\"UTF-8\"?><a><b</a>".toList

theorem grounded_unfinishedState : unfinishedState.Grounded :=
  ⟨List.forall_mem_nil _, List.forall_mem_nil _⟩

theorem expand_unfinished :
    ∃ s' d, expand unfinishedSource (pure []) (.options .default) unfinishedState =
      .ok (.str (some 0) unfinishedText) s' ∧ s'.store.documents = [d] ∧ d.layout = .terse := by
  have hexpand : expand unfinishedSource (pure []) (.options .default) unfinishedState =
    expandWithin maxRoom unfinishedSource (pure []) (.options .default) unfinishedState := rfl
  rw [hexpand, expandWithin]
  exact ⟨_, _, rfl, rfl, rfl⟩

theorem not_isDocument_unfinishedText :
    ¬IsDocument (Document.start .v1_0 none .terse).text unfinishedText := by
  rintro ⟨body, nodes, hbody, hread, -⟩
  have htext : unfinishedText =
      (Document.start .v1_0 none .terse).text ++ "<a><b</a>".toList := by decide
  obtain rfl := List.append_cancel_left (htext.symm.trans hbody)
  have hnone : readNodes "<a><b</a>".toList = none := by decide
  rw [hnone] at hread
  cases hread

theorem expanded_isDocument_iff_unfinished :
    ∃ s' ops d, expand unfinishedSource (pure []) (.options .default) unfinishedState =
        .ok (.str (some 0) unfinishedText) s' ∧
      WrittenTo unfinishedTemplate ⟨.v1_0, none⟩ ops d ∧ d.text = unfinishedText ∧
      nest .terse ops = false ∧
      ¬IsDocument (Document.start .v1_0 none .terse).text unfinishedText := by
  obtain ⟨s', e, hrun, hdocuments, hlayout⟩ := expand_unfinished
  have hscope : Scope.Within (· < unfinishedState.store.documents.length) [] :=
    List.forall_mem_nil _
  obtain ⟨compiled, cache, p, ops, id, d, hcompile, -, hd, htext, hwritten, hiff⟩ :=
    expanded_isDocument_iff grounded_unfinishedState hscope hrun
  cases hcompile
  cases hwritten.prolog
  rw [hdocuments] at hd
  obtain rfl : e = d := by
    cases id with
    | zero => exact Option.some.inj hd
    | succ id => cases hd
  rw [hlayout] at hiff
  have hnot := not_isDocument_unfinishedText
  refine ⟨s', ops, e, hrun, hwritten, htext, ?_, hnot⟩
  exact Bool.eq_false_iff.2 fun hnest => hnot ((hiff rfl).1.2 hnest)

end Render

end XmlTemplate
