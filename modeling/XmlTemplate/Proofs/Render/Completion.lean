import XmlTemplate.Proofs.Render.Expansion
import XmlTemplate.Proofs.Render.Machine

/-!
# A new document is complete when it has been written

An expansion into a new document asks for its whole text at the end, which is refused while elements
are open. It never is: once a template has been written into a new document, the depth is zero again
(`writeTemplate_depth_eq_zero`). That cannot be read off the operations that have been performed,
since scripts may write pieces that are no text. `Leads` follows the depth instead. What makes it
come out right is that nobody but the template and its continuations has got hold of the document,
and that the depth is compared before and after each continuation.

An expansion therefore answers the text of its document (`expand_complete`). A script can still hear
of open elements, if it asks for the whole text itself while the template is being written, and it
can spoil the text by a name that is no text (`whole_text_refused`).
-/

set_option autoImplicit false

namespace XmlTemplate

namespace Render

variable {α β : Type} {A : Nat → Prop} {id k k₁ k' : Nat} {s s' : RenderState}
  {settings : Settings}

/-- A rendering that succeeds in a state that refers to the documents in `A` alone leaves such a
state and leads from one depth of the document to another. -/
def Leads (A : Nat → Prop) (id k : Nat) (p : Render α) (k' : Nat) : Prop :=
  ∀ s a s' d, s.Inside A → s.store.documents[id]? = some d → d.depth = k → p s = .ok a s' →
    s'.Inside A ∧ ∃ d', s'.store.documents[id]? = some d' ∧ d'.depth = k'

/-! ## Putting renderings together -/

namespace Leads

variable {p : Render α}

theorem nothing (a : α) : Leads A id k (pure a) k := by
  intro s b s' d hs hd hk hrun
  cases hrun
  exact ⟨hs, d, hd, hk⟩

theorem bind {q : Render β} (hp : Leads A id k p k₁) (hq : Leads A id k₁ q k') :
    Leads A id k (p >>= fun _ => q) k' := by
  intro s b s' d hs hd hk hrun
  obtain ⟨a, s₁, hrun₁, hrun'⟩ := bind_eq_ok.1 hrun
  obtain ⟨hs₁, d₁, hd₁, hk₁⟩ := hp s a s₁ d hs hd hk hrun₁
  exact hq s₁ b s' d₁ hs₁ hd₁ hk₁ hrun'

theorem discard (hp : Leads A id k p k') : Leads A id k (Functor.discard p) k' :=
  hp.bind (nothing ())

theorem takingRoom {taken : Nat} (hp : Leads A id k p k') :
    Leads A id k (Render.takingRoom taken p) k' := by
  intro s a s' d hs hd hk hrun
  obtain ⟨t, hrun', rfl⟩ := takingRoom_eq_ok.1 hrun
  obtain ⟨ht, hdepth⟩ :=
    hp { s with room := s.room - taken } a t d ⟨hs.scope, hs.iterators⟩ hd hk hrun'
  exact ⟨⟨ht.scope, ht.iterators⟩, hdepth⟩

/-- What a script evaluates to comes from out of reach of the document. -/
theorem after {may : Nat → Operation → Prop} {Q : α → Prop} {f : α → Render β}
    (hid : ∀ op, ¬may id op) (hp : Keeps A may p Q) (hf : ∀ a, Q a → Leads A id k (f a) k') :
    Leads A id k (p >>= f) k' := by
  intro s b s' d hs hd hk hrun
  obtain ⟨a, s₁, hrun₁, hrun'⟩ := bind_eq_ok.1 hrun
  obtain ⟨ha, hs₁, hevolves⟩ := hp s a s₁ hs hrun₁
  obtain ⟨d₁, hd₁, hreach⟩ := hevolves.documents id d hd
  obtain rfl := hreach.eq_of_not hid
  exact hf a ha s₁ b s' d₁ hs₁ hd₁ hk hrun'

/-- The state stays as it should where documents are reached at all, and the depth is known where it
is said what becomes of the document. -/
theorem of_acts {may : Nat → Operation → Prop} {Q : α → Prop}
    {done : Document → Document → Prop} {failed : Fault → Document → Document → Prop}
    (hp : Keeps A may p Q) (hacts : Acts id p done failed)
    (hdone : ∀ d d', done d d' → d.depth = k → d'.depth = k') : Leads A id k p k' := by
  intro s a s' d hs hd hk hrun
  obtain ⟨-, hs', -⟩ := hp s a s' hs hrun
  obtain ⟨d', hd', hdone'⟩ := hacts.of_ok s d a s' hd hrun
  exact ⟨hs', d', hd', hdone d d' hdone' hk⟩

end Leads

theorem Unchanging.leads {p : Render α} {f : α → Render β} (hp : Unchanging p)
    (hf : ∀ a, Leads A id k (f a) k') : Leads A id k (p >>= f) k' := by
  intro s b s' d hs hd hk hrun
  obtain ⟨a, s₁, hrun₁, hrun'⟩ := bind_eq_ok.1 hrun
  obtain rfl := hp s a s₁ hrun₁
  exact hf a s₁ b s' d hs hd hk hrun'

theorem leads_changeDocument {f : Document → Except Violation Document}
    (hf : ∀ d e, f d = .ok e → d.depth = k → e.depth = k') :
    Leads A id k (changeDocument id f) k' := by
  intro s u s' d hs hd hk hrun
  obtain ⟨d₀, e, hd₀, he, rfl⟩ := changeDocument_eq_ok.1 hrun
  rw [hd] at hd₀
  cases hd₀
  obtain ⟨hid, -⟩ := List.getElem?_eq_some_iff.1 hd
  exact ⟨RenderState.inside_put hs, e, getElem?_put hid e, hf d e he hk⟩

/-- An operation that is allowed leads to the depth that comes after it. -/
theorem leads_perform (op : Operation) {f : Document → Except Violation Document}
    (hf : ∀ d e, f d = .ok e → d.perform op = .ok e) :
    Leads A id k (changeDocument id f) (op.depthAfter k) := by
  apply leads_changeDocument
  rintro d e he rfl
  obtain ⟨-, hshape, -⟩ := Document.perform_eq_ok (hf d e he)
  exact congrArg Document.Shape.depth hshape

/-! ## Elements -/

section Elements

variable {expand : Expander}

/-- A call with arguments from out of reach of the document, which enters and leaves no element. -/
theorem leads_callDocument {m : DocumentMethod} {args : List Value} (hm : m.leaves = m.enters)
    (hargs : ∀ v ∈ args, v.Within A) : Leads A id k (callDocument m id args) k := by
  have hkeeps : Keeps A (fun _ _ => True) (callDocument m id args) (Value.Within A) :=
    keeps_callDocument (fun _ _ => trivial) hargs
  refine .of_acts hkeeps (acts_callDocument m args) ?_
  rintro d d' hcalled rfl
  have hdepth := hcalled.depth_eq
  omega

theorem leads_writeItems (h : Confines A (fun i _ => A i) expand) (hid : ¬A id)
    (items : List AttributeItem) : Leads A id k (writeItems expand id items) k := by
  have hnot : ∀ op : Operation, ¬(fun i (_ : Operation) => A i) id op := fun _ => hid
  induction items with
  | nil => exact .nothing ()
  | cons item rest ih =>
    cases item with
    | named name value =>
      refine Leads.bind ?_ ih
      cases value with
      | literal text => exact leads_perform (.addAttribute name text) fun _ _ he => he
      | expression e =>
        refine .after hnot (keeps_evalEmbedded h e).takingRoom fun v hv => ?_
        have hargs : ∀ w ∈ [Value.str none name, v], w.Within A := by
          intro w hw
          rcases List.mem_cons.1 hw with rfl | hw
          · trivial
          · rwa [List.mem_singleton.1 hw]
        exact (leads_callDocument rfl hargs).discard
    | fill e =>
      refine .after hnot (keeps_evalEmbedded h e).takingRoom fun v hv => ?_
      have hkeeps : Keeps A (fun _ _ => True) (writeAttributes id v) fun _ => True :=
        keeps_writeAttributes (fun _ _ => trivial) hv
      have hattributes : Leads A id k (writeAttributes id v) k :=
        .of_acts hkeeps (lengthens_writeAttributes v) fun _ _ hlevel hk => hlevel.depth_eq.trans hk
      exact hattributes.bind ih

theorem leads_leaveElement (name : Text) :
    Leads A id k (leaveElement id (·.endElement name)) (k - 1) := by
  have hleave : Leads A id k (changeDocument id (·.endElement name)) (k - 1) :=
    leads_perform (.endElement name) fun _ _ he => he
  refine (unchanging_document id).leads fun d => ?_
  dsimp only
  split
  · exact (Unchanging.throw _).leads fun _ => hleave
  · exact hleave

theorem leads_runContinuation
    (h : Confines (fun i => A i ∨ i = id) (fun i _ => A i ∨ i = id) expand) (c : Continuation) :
    Leads A id k (runContinuation expand id c) k := by
  rintro s u s' d hs hd rfl hrun
  obtain ⟨hs', d', hd', hdepth, -⟩ := runContinuation_eq_ok h hs hd hrun
  exact ⟨hs', d', hd', hdepth⟩

mutual

/-- Writing an element into a document that is out of reach leads back to the depth before. -/
theorem leads_writeElement (h : ∀ B : Nat → Prop, Confines B (fun i _ => B i) expand)
    (hid : ¬A id) : ∀ (e : Element) (k : Nat), Leads A id k (writeElement expand id e) k
  | .empty name items, k => by
    have hbegin : Leads A id k (changeDocument id (·.beginTag name)) k :=
      leads_perform (.beginTag name) fun _ _ he => he
    have hend : Leads A id k (changeDocument id fun d => .ok d.endEmptyTag) k :=
      leads_perform .endEmptyTag fun _ _ he => he
    refine (unchanging_checkRoom name).leads fun _ => ?_
    exact hbegin.bind ((leads_writeItems (h A) hid items).bind hend)
  | .node name items children, k => by
    have hbegin : Leads A id k (changeDocument id (·.beginTag name)) k :=
      leads_perform (.beginTag name) fun _ _ he => he
    have henter : Leads A id k (changeDocument id fun d => .ok d.enterContent) (k + 1) :=
      leads_perform .enterContent fun _ _ he => he
    have hleave : Leads A id (k + 1) (leaveElement id (·.endElement name)) k :=
      leads_leaveElement name
    refine (unchanging_checkRoom name).leads fun _ => ?_
    refine hbegin.bind ((leads_writeItems (h A) hid items).bind ?_)
    exact henter.bind ((leads_writeChildren h hid children (k + 1)).bind hleave)

theorem leads_writeChild (h : ∀ B : Nat → Prop, Confines B (fun i _ => B i) expand)
    (hid : ¬A id) : ∀ (c : Child) (k : Nat), Leads A id k (writeChild expand id c) k
  | .text value, k => leads_perform (.addText value) fun _ _ he => he
  | .expression e, k => by
    have hnot : ∀ op : Operation, ¬(fun i (_ : Operation) => A i) id op := fun _ => hid
    refine .after hnot (keeps_evalEmbedded (h A) e).takingRoom fun v hv => ?_
    have hargs : ∀ w ∈ [v], w.Within A := by
      intro w hw
      rwa [List.mem_singleton.1 hw]
    exact (leads_callDocument rfl hargs).discard.takingRoom
  | .element e, k => (leads_writeElement h hid e k).takingRoom
  | .continuation c, k => (leads_runContinuation (h _) c).takingRoom

theorem leads_writeChildren (h : ∀ B : Nat → Prop, Confines B (fun i _ => B i) expand)
    (hid : ¬A id) : ∀ (cs : List Child) (k : Nat), Leads A id k (writeChildren expand id cs) k
  | [], _ => .nothing ()
  | c :: rest, k => (leads_writeChild h hid c k).bind (leads_writeChildren h hid rest k)

end

/-! ## Templates -/

/-- A new document has no open elements once a template has been written into it. -/
theorem writeTemplate_depth_eq_zero
    (h : ∀ B : Nat → Prop, Confines B (fun i _ => B i) expand) {t : Template}
    (hA : ∀ i, A i → i < s.store.documents.length) (hs : s.Inside A)
    (ht : t.destination = none) (hrun : writeTemplate expand settings t none s = .ok id s') :
    ∃ d, s'.store.documents[id]? = some d ∧ d.depth = 0 := by
  obtain ⟨-, hid, p, layout, s₀, -, hs₀, hstart, hwrite⟩ :=
    writeTemplate_eq_ok (h A) hA hs ht hrun
  obtain ⟨-, hdepth⟩ := (leads_writeElement h hid t.root 0).takingRoom _ () _ _ hs₀.add hstart
    (Document.depth_start ..) hwrite
  exact hdepth

end Elements

/-! ## Expansions -/

/-- What expands for the scripts of a template that is itself expanded in the given room. -/
def nestedExpander (room : Nat) : Expander := fun source names settings => do
  let left := (← get).room
  if left < room then expandWithin left source names settings else throw .tooDeep

theorem expandWithin_eq (room : Nat) (source : Text) (names : Render Scope)
    (settings : Settings) :
    expandWithin room source names settings = (do
      let compiled ← compile (room - compileRoom) source settings
      inScope (← names) do
        let id ← writeTemplate (nestedExpander room) settings compiled.template none
        if compiled.template.appends then return .none else newText (← readComplete id)) := by
  rw [expandWithin]
  rfl

theorem confines_nestedExpander (room : Nat) (B : Nat → Prop) :
    Confines B (fun i _ => B i) (nestedExpander room) :=
  confines_nested (fun _ _ hi => hi) fun left _ => confines_expandWithin left fun _ _ hi => hi

section Expand

variable {source : Text} {scope : Scope} {compiled : Compiled} {cache : Cache}

/-- An expansion once its template is read. -/
theorem expand_of_compile
    (hcompile : s.store.cache.compile (s.room - compileRoom) source settings =
      (.ok compiled, cache)) :
    expand source (pure scope) settings s = inScope scope (do
      let id ← writeTemplate (nestedExpander s.room) settings compiled.template none
      if compiled.template.appends then return .none else newText (← readComplete id))
        { s with store.cache := cache } := by
  have hroom : room s = .ok s.room s := rfl
  have hcompiled : compile (s.room - compileRoom) source settings s =
      .ok compiled { s with store.cache := cache } := by
    have hget : (get : Render RenderState) s = .ok s s := rfl
    rw [compile, bind_of_ok hget, hcompile]
    rfl
  rw [expand, bind_of_ok hroom, expandWithin_eq, bind_of_ok hcompiled, pure_bind]

/-- An expansion into a new document never fails for elements that are left open: once its template
has been written, the document is complete, and the expansion answers its text, unless a script has
written a piece that is no text. Whatever other fault it ends in comes from writing the template,
and so does the violation that elements are open, if a script asks for the whole text too early. -/
theorem expand_complete (hs : s.Grounded) (hscope : scope.Within (· < s.store.documents.length))
    (hcompile : s.store.cache.compile (s.room - compileRoom) source settings =
      (.ok compiled, cache)) (hnew : compiled.template.destination = none) :
    (∀ id s', writeTemplate (nestedExpander s.room) settings compiled.template none
        { s with store.cache := cache, scope } = .ok id s' →
      ∃ d, s'.store.documents[id]? = some d ∧ d.depth = 0 ∧ d.complete = .ok d.text ∧
        if d.isText then
          ∃ mark s₁, expand source (pure scope) settings s = .ok (.str mark d.text) s₁
        else ∃ s₁, expand source (pure scope) settings s = .error .unsuitable s₁) ∧
    ∀ e s', writeTemplate (nestedExpander s.room) settings compiled.template none
        { s with store.cache := cache, scope } = .error e s' →
      ∃ s₁, expand source (pure scope) settings s = .error e s₁ := by
  have hstart : RenderState.Inside (· < s.store.documents.length)
      { s with store.cache := cache, scope } := ⟨hscope, hs.iterators⟩
  have happends : compiled.template.appends = false := by
    rw [Template.appends, hnew]
    rfl
  rw [expand_of_compile hcompile, happends]
  simp only [Bool.false_eq_true, if_false]
  constructor
  · intro id s' hwrite
    have hconfines := confines_nestedExpander s.room
    obtain ⟨d, hd, hdepth⟩ :=
      writeTemplate_depth_eq_zero hconfines (fun _ hi => hi) hstart hnew hwrite
    have hcomplete : d.complete = .ok d.text := by rw [Document.complete, if_pos hdepth]
    refine ⟨d, hd, hdepth, hcomplete, ?_⟩
    have hread := readComplete_of_depth hd hdepth
    split
    next hisText =>
      rw [if_pos hisText] at hread
      exact ⟨_, _, inScope_of_ok ((bind_of_ok hwrite _).trans (bind_of_ok hread _))⟩
    next hisText =>
      rw [if_neg hisText] at hread
      exact ⟨_, inScope_of_error ((bind_of_ok hwrite _).trans (bind_of_error hread _))⟩
  · intro e s' hwrite
    exact ⟨_, inScope_of_error (bind_of_error hwrite _)⟩

end Expand

/-! ### From a state with nothing in it -/

/-- A state with nothing in it. -/
def emptyState : RenderState := ⟨.empty, [], maxRoom⟩

theorem grounded_emptyState : emptyState.Grounded := ⟨List.forall_mem_nil _, List.forall_mem_nil _⟩

/-- The document that the template in a source is written into, and the state after that, if the
template is for a new one and can be written. -/
def writtenNew? (source : Text) : Option (Nat × RenderState) :=
  match emptyState.store.cache.compile (emptyState.room - compileRoom) source
      (.options .default) with
  | (.ok compiled, cache) =>
    if compiled.template.destination.isNone then
      match writeTemplate (nestedExpander emptyState.room) (.options .default) compiled.template none
          { emptyState with store.cache := cache, scope := [] } with
      | .ok id s => some (id, s)
      | .error _ _ => none
    else none
  | (.error _, _) => none

theorem writtenNew?_eq_some {source : Text} (h : writtenNew? source = some (id, s)) :
    ∃ compiled cache,
      emptyState.store.cache.compile (emptyState.room - compileRoom) source (.options .default) =
        (.ok compiled, cache) ∧ compiled.template.destination = none ∧
      writeTemplate (nestedExpander emptyState.room) (.options .default) compiled.template none
        { emptyState with store.cache := cache, scope := [] } = .ok id s := by
  rw [writtenNew?] at h
  split at h
  next compiled cache hcompile =>
    split at h
    next hnew =>
      split at h
      next id s hwrite =>
        cases h
        exact ⟨compiled, cache, hcompile, Option.isNone_iff_eq_none.1 hnew, hwrite⟩
      next => cases h
    next => cases h
  next => cases h

/-- The fault that a run ends in, if it ends in one. -/
def faultOf? : EStateM.Result Fault RenderState α → Option Fault
  | .ok _ _ => none
  | .error e _ => some e

theorem faultOf?_eq_some {r : EStateM.Result Fault RenderState α} {e : Fault}
    (h : faultOf? r = some e) : ∃ s, r = .error e s := by
  cases r with
  | ok a s => cases h
  | error e' s =>
    cases h
    exact ⟨s, rfl⟩

/-- A continuation that ends the element it stands in and begins another one. -/
def restlessSource : Text :=
  ("<?xml version=\"1.0\"?><a>\x7b|d|\nd.end_tag('a')\nd.open_tag('b')\n" ++
    "d.close_start_tag()\n\x7d</a>").toList

theorem expand_complete_restless :
    ∃ compiled cache id s' d,
      emptyState.store.cache.compile (emptyState.room - compileRoom) restlessSource
        (.options .default) = (.ok compiled, cache) ∧
      writeTemplate (nestedExpander emptyState.room) (.options .default) compiled.template none
        { emptyState with store.cache := cache, scope := [] } = .ok id s' ∧
      s'.store.documents[id]? = some d ∧ d.depth = 0 ∧
      if d.isText then ∃ mark s₁, expand restlessSource (pure []) (.options .default) emptyState =
        .ok (.str mark d.text) s₁
      else ∃ s₁, expand restlessSource (pure []) (.options .default) emptyState =
        .error .unsuitable s₁ := by
  have hruns : (writtenNew? restlessSource).isSome = true := by decide +kernel
  obtain ⟨⟨id, s'⟩, hwritten⟩ := Option.isSome_iff_exists.1 hruns
  obtain ⟨compiled, cache, hcompile, hnew, hwrite⟩ := writtenNew?_eq_some hwritten
  obtain ⟨hdone, -⟩ := expand_complete grounded_emptyState (List.forall_mem_nil _) hcompile hnew
  obtain ⟨d, hd, hdepth, -, hanswer⟩ := hdone id s' hwrite
  exact ⟨compiled, cache, id, s', d, hcompile, hwrite, hd, hdepth, hanswer⟩

/-- A continuation that asks for the whole text while its element is open. -/
def hastySource : Text := "<?xml version=\"1.0\"?><a>\x7b|d| d.finish()\x7d</a>".toList

/-- A continuation that writes a list for a name. -/
def spoilingSource : Text := "<?xml version=\"1.0\"?><a>\x7b|d| d.open_tag(['b'])\x7d</a>".toList

/-- The whole text can be refused: to a script that asks for it too early, and at the end where a
piece has been written that is no text. -/
theorem whole_text_refused :
    (∃ s', expand hastySource (pure []) (.options .default) emptyState =
      .error (.violation (.unclosed 1)) s') ∧
    ∃ compiled cache id s' s'',
      emptyState.store.cache.compile (emptyState.room - compileRoom) spoilingSource
        (.options .default) = (.ok compiled, cache) ∧ compiled.template.destination = none ∧
      writeTemplate (nestedExpander emptyState.room) (.options .default) compiled.template none
        { emptyState with store.cache := cache, scope := [] } = .ok id s' ∧
      readComplete id s' = .error .unsuitable s'' := by
  constructor
  · have hfault : faultOf? (expand hastySource (pure []) (.options .default) emptyState) =
        some (.violation (.unclosed 1)) := by decide +kernel
    exact faultOf?_eq_some hfault
  · have hfault : ((writtenNew? spoilingSource).bind fun w => faultOf? (readComplete w.1 w.2)) =
        some .unsuitable := by decide +kernel
    obtain ⟨⟨id, s'⟩, hwritten, hread⟩ := Option.bind_eq_some_iff.1 hfault
    obtain ⟨compiled, cache, hcompile, hnew, hwrite⟩ := writtenNew?_eq_some hwritten
    obtain ⟨s'', hrefused⟩ := faultOf?_eq_some hread
    exact ⟨compiled, cache, id, s', s'', hcompile, hnew, hwrite, hrefused⟩

end Render

end XmlTemplate
