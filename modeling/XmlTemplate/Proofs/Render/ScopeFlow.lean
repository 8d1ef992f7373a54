import XmlTemplate.Proofs.Render.Assigned
import XmlTemplate.Proofs.Render.Steps

/-!
# How the scope flows through templates

All expressions of a template see one scope, and several templates can be rendered in one scope, one
after the other. A visit is where a rendering comes to a script and the state in which it comes
there (`Visit`); `templateVisits` lists the visits of one template, step by step, and `visits` those
of several. The main result says what the scripts see (`scope_at_visit`): the names given at the
start, with those bound that the expressions visited before have assigned, in any of the templates
and also where its rendering failed. Continuations count for nothing in this, since they run in a
copy of the scope, and neither do expansions.

`Traces` carries this from the steps to the templates: it says of a rendering which visits it
makes, that each of them sees what it should, and that they are made in the order of the source.
-/

set_option autoImplicit false

namespace XmlTemplate

/-- A script in a template. -/
inductive Site where
  | expression (e : Embedded)
  | continuation (c : Continuation)

/-- Where a rendering comes to a script, and the state in which it comes there. -/
structure Visit where
  site : Site
  before : RenderState

/-- The script that is run at a step, and the room that is taken from it. -/
def Action.script? : Action → Option (Nat × Site)
  | .item (.named _ (.expression e)) | .item (.fill e) =>
    some (Render.attributeRoom, .expression e)
  | .expression e => some (Render.childRoom, .expression e)
  | .continuation c => some (Render.continuationRoom, .continuation c)
  | _ => none

/-- The expression for the document that a template is written into, or else for the layout of a new
one, and the room that is taken from it. -/
def Template.head? (t : Template) : Option (Nat × Site) :=
  match t.destination, t.prolog, t.layout with
  | some e, _, _ => some (Render.targetRoom, .expression e)
  | none, some _, some (.expression e) => some (Render.layoutRoom, .expression e)
  | _, _, _ => none

/-- The scripts of a template in the order of the source. Where a document is given, nothing is
asked for before the root element. -/
def Template.sites (t : Template) (given : Option Nat) : List Site :=
  (if given.isSome then [] else t.head?.toList.map Prod.snd) ++
    t.root.steps.flatMap fun step => step.action.script?.toList.map Prod.snd

namespace Render

variable {α β : Type} {p : Render α} (expand : Expander)

/-- What is assigned where a rendering has come to a script: what an expression assigns, and nothing
where a continuation is run. -/
def Visit.assigned (v : Visit) : List (Text × Value) :=
  match v.site with
  | .expression e => Render.assigned expand e.code v.before
  | .continuation _ => []

/-! ## What visits see -/

/-- Each visit sees the scope with what the visits before it have assigned. -/
def Flows : Scope → List Visit → Prop
  | _, [] => True
  | scope, v :: rest =>
    v.before.scope = scope ∧ Flows (scope.bindAll (Visit.assigned expand v)) rest

variable {expand}

theorem flows_append {scope : Scope} {vs ws : List Visit} :
    Flows expand scope (vs ++ ws) ↔
      Flows expand scope vs ∧ Flows expand (scope.bindAll (vs.flatMap (Visit.assigned expand))) ws := by
  induction vs generalizing scope with
  | nil => exact ⟨fun h => ⟨trivial, h⟩, And.right⟩
  | cons v rest ih =>
    rw [List.cons_append, Flows, Flows, ih, List.flatMap_cons, Scope.bindAll_append, and_assoc]

theorem Flows.scope_eq {scope : Scope} {earlier later : List Visit} {v : Visit}
    (h : Flows expand scope (earlier ++ v :: later)) :
    v.before.scope = scope.bindAll (earlier.flatMap (Visit.assigned expand)) :=
  (flows_append.1 h).2.1

/-! ## Renderings and their visits -/

/-- A rendering makes the given visits, at the given places of the source: each sees what it should,
together they assign what the rendering assigns, and it is the first places that are visited, all of
them if the rendering succeeds. -/
structure Traces (expand : Expander) (p : Render α) (visits : RenderState → List Visit)
    (sites : List Site) : Prop where
  flows : ∀ s, Flows expand s.scope (visits s)
  assigns : Assigns p fun s => (visits s).flatMap (Visit.assigned expand)
  inOrder : ∀ s, (visits s).map Visit.site <+: sites
  complete : ∀ s a s', p s = .ok a s' → (visits s).map Visit.site = sites

namespace Traces

variable {visits : RenderState → List Visit} {sites sites' : List Site}

/-- What leaves the scope as it is visits nothing. -/
theorem silent (hp : Preserves RenderState.scope p) : Traces expand p (fun _ => []) [] where
  flows _ := trivial
  assigns := hp.assigns
  inOrder _ := List.prefix_refl []
  complete _ _ _ _ := rfl

theorem bind {f : α → Render β} {later : α → RenderState → List Visit}
    (hp : Traces expand p visits sites) (hf : ∀ a, Traces expand (f a) (later a) sites') :
    Traces expand (p >>= f) (followed p visits later) (sites ++ sites') where
  flows s := by
    refine flows_append.2 ⟨hp.flows s, ?_⟩
    have hscope := hp.assigns s
    cases hrun : p s with
    | ok a s₁ =>
      rw [stateAfter_of_ok hrun] at hscope
      rw [← hscope]
      exact (hf a).flows s₁
    | error e s₁ => trivial
  assigns s := by
    refine ((hp.assigns.bind fun a => (hf a).assigns) s).trans (congrArg s.scope.bindAll ?_)
    simp only [followed, List.flatMap_append]
    cases p s <;> rfl
  inOrder s := by
    rw [followed, List.map_append]
    cases hrun : p s with
    | ok a s₁ =>
      rw [hp.complete s a s₁ hrun]
      exact (List.prefix_append_right_inj sites).2 ((hf a).inOrder s₁)
    | error e s₁ =>
      rw [List.map_nil, List.append_nil]
      exact (hp.inOrder s).trans (List.prefix_append sites sites')
  complete s b s' hrun := by
    obtain ⟨a, s₁, hrun₁, hrun'⟩ := bind_eq_ok.1 hrun
    rw [followed, List.map_append, hp.complete s a s₁ hrun₁, hrun₁]
    exact congrArg (sites ++ ·) ((hf a).complete s₁ b s' hrun')

/-- What comes after may leave the scope as it is. -/
theorem andThen {f : α → Render β} (hp : Traces expand p visits sites)
    (hf : ∀ a, Preserves RenderState.scope (f a)) : Traces expand (p >>= f) visits sites where
  flows := hp.flows
  assigns := hp.assigns.andThen hf
  inOrder := hp.inOrder
  complete s b s' hrun := by
    obtain ⟨a, s₁, hrun₁, -⟩ := bind_eq_ok.1 hrun
    exact hp.complete s a s₁ hrun₁

theorem takingRoom (hp : Traces expand p visits sites) (taken : Nat) :
    Traces expand (takingRoom taken p) (fun s => visits { s with room := s.room - taken })
      sites where
  flows s := hp.flows { s with room := s.room - taken }
  assigns := hp.assigns.takingRoom taken
  inOrder s := hp.inOrder { s with room := s.room - taken }
  complete s a s' hrun := by
    obtain ⟨t, hrun', -⟩ := takingRoom_eq_ok.1 hrun
    exact hp.complete _ a t hrun'

end Traces

/-- The visit of the script, if there is one, in less room. -/
def scriptVisits (script? : Option (Nat × Site)) (s : RenderState) : List Visit :=
  script?.toList.map fun (taken, site) => ⟨site, { s with room := s.room - taken }⟩

theorem traces_none (hp : Preserves RenderState.scope p) :
    Traces expand p (scriptVisits none) [] := .silent hp

theorem traces_expression (h : KeepsScope expand) (taken : Nat) (e : Embedded) :
    Traces expand (takingRoom taken (evalEmbedded expand e))
      (scriptVisits (some (taken, .expression e))) [.expression e] where
  flows _ := ⟨rfl, trivial⟩
  assigns s := by
    refine ((assigns_eval h e.code).takingRoom taken s).trans (congrArg s.scope.bindAll ?_)
    exact (List.append_nil _).symm
  inOrder _ := List.prefix_refl _
  complete _ _ _ _ := rfl

/-- A continuation assigns nothing, whatever it does in the copy of the scope that it runs in. -/
theorem traces_continuation (taken id : Nat) (c : Continuation) :
    Traces expand (takingRoom taken (runContinuation expand id c))
      (scriptVisits (some (taken, .continuation c))) [.continuation c] where
  flows _ := ⟨rfl, trivial⟩
  assigns := by
    have hrun : Preserves RenderState.scope (runContinuation expand id c) := by
      refine (still_document id).scope.bind fun d => Preserves.get.bind fun s => ?_
      refine (preserves_inScope _ _).bind fun _ => (still_document id).scope.bind fun d' => ?_
      split
      · exact .throw _
      · exact .pure _
    exact hrun.assigns.takingRoom taken
  inOrder _ := List.prefix_refl _
  complete _ _ _ _ := rfl

/-! ## Steps -/

variable (expand) in
/-- The visits of steps that are taken one after the other. -/
def stepVisits (id : Nat) : List Step → RenderState → List Visit
  | [] => fun _ => []
  | step :: rest =>
    followed (takingRoom step.taken (runAction expand id step.action))
      (fun s => scriptVisits step.action.script? { s with room := s.room - step.taken })
      fun _ => stepVisits id rest

theorem traces_runAction (h : KeepsScope expand) (id : Nat) (action : Action) :
    Traces expand (runAction expand id action) (scriptVisits action.script?)
      (action.script?.toList.map Prod.snd) := by
  cases action with
  | beginTag name => exact traces_none (still_begin expand id name).scope
  | item item =>
    cases item with
    | named name value =>
      cases value with
      | literal s =>
        exact traces_none ((still_changeDocument id _).scope.bind fun _ => .pure _)
      | expression e =>
        refine Traces.andThen ?_ fun _ => .pure _
        exact (traces_expression h _ e).andThen fun v => (still_callDocument _ id _).scope.discard
    | fill e =>
      refine (traces_expression h _ e).andThen fun v => ?_
      exact (still_writeAttributes id v).scope.bind fun _ => .pure _
  | enterContent => exact traces_none (still_changeDocument id _).scope
  | endEmptyTag => exact traces_none (still_changeDocument id _).scope
  | text s => exact traces_none (still_changeDocument id _).scope
  | expression e =>
    refine (traces_expression h _ e).andThen fun v => ?_
    exact fun s => (((still_callDocument _ id _).scope.discard).assigns.takingRoom _) s
  | continuation c => exact traces_continuation _ id c
  | endElement name => exact traces_none (still_leaveElement id _).scope

theorem traces_runSteps (h : KeepsScope expand) (id : Nat) : ∀ steps : List Step,
    Traces expand (runSteps expand id steps) (stepVisits expand id steps)
      (steps.flatMap fun step => step.action.script?.toList.map Prod.snd)
  | [] => .silent (.pure _)
  | step :: rest =>
    ((traces_runAction h id step.action).takingRoom step.taken).bind fun _ =>
      traces_runSteps h id rest

/-! ## Templates -/

variable (expand) in
/-- The visits of a template that is rendered, into the given document if there is one. -/
def templateVisits (settings : Settings) (t : Template) (given : Option Nat) :
    RenderState → List Visit :=
  followed (documentFor expand settings t given)
    (scriptVisits (if given.isSome then none else t.head?)) fun id s =>
      stepVisits expand id t.root.steps { s with room := s.room - rootRoom }

theorem traces_layoutFor (h : KeepsScope expand) (settings : Settings)
    (layout : Option LayoutDirective) :
    Traces expand (layoutFor expand settings layout)
      (scriptVisits (match layout with
        | some (.expression e) => some (layoutRoom, .expression e)
        | _ => none))
      (match layout with
        | some (.expression e) => [.expression e]
        | _ => []) := by
  cases layout with
  | none =>
    refine traces_none ?_
    rw [layoutFor]
    split
    · exact (still_layoutOf _).scope
    · exact .throw _
  | some directive =>
    cases directive with
    | unit unit => exact traces_none (.pure _)
    | expression e =>
      refine (traces_expression h _ e).andThen fun v => ?_
      split
      · exact (still_layoutOf _).scope
      · exact .throw _

theorem traces_target (h : KeepsScope expand) (settings : Settings) (t : Template) :
    Traces expand (target expand settings t) (scriptVisits t.head?)
      (t.head?.toList.map Prod.snd) := by
  obtain ⟨root, destination, layout, prolog⟩ := t
  cases destination with
  | some e =>
    refine (traces_expression h _ e).andThen fun v => ?_
    split
    · exact .pure _
    · exact .throw _
  | none =>
    cases prolog with
    | none => exact traces_none (.throw _)
    | some prolog =>
      have hadd (d : Document) : Preserves RenderState.scope (addDocument d) := fun _ => rfl
      have hlayout := (traces_layoutFor h settings layout).andThen fun found =>
        hadd (.start prolog.version prolog.standalone found)
      rcases layout with _ | _ | e <;> exact hlayout

theorem traces_writeTemplate (h : KeepsScope expand) (settings : Settings) (t : Template)
    (given : Option Nat) :
    Traces expand (writeTemplate expand settings t given) (templateVisits expand settings t given)
      (t.sites given) := by
  have hdocument : Traces expand (documentFor expand settings t given)
      (scriptVisits (if given.isSome then none else t.head?))
      (if given.isSome then [] else t.head?.toList.map Prod.snd) := by
    cases given with
    | some id => exact traces_none (.pure _)
    | none => exact traces_target h settings t
  rw [writeTemplate_eq_documentFor]
  refine hdocument.bind fun id => ?_
  rw [writeElement_eq_runSteps]
  exact ((traces_runSteps h id t.root.steps).takingRoom rootRoom).andThen fun _ => .pure _

/-! ## Templates in one scope -/

/-- A template to be rendered, into the given document if there is one, with what the store holds by
then and the room there is. -/
structure Request where
  template : Template
  given : Option Nat
  store : Store
  room : Nat

variable (expand) (settings : Settings)

/-- The visits of a request in a scope. -/
def Request.visits (r : Request) (scope : Scope) : List Visit :=
  templateVisits expand settings r.template r.given ⟨r.store, scope, r.room⟩

/-- The scope after a request, whether it has succeeded or failed. -/
def Request.scopeAfter (r : Request) (scope : Scope) : Scope :=
  (stateAfter (writeTemplate expand settings r.template r.given) ⟨r.store, scope, r.room⟩).scope

/-- The visits of requests in one scope. -/
def visits : List Request → Scope → List Visit
  | [], _ => []
  | r :: rest, scope => Request.visits expand settings r scope ++
      visits rest (Request.scopeAfter expand settings r scope)

/-- The scope after requests. -/
def scopeAfter : List Request → Scope → Scope
  | [], scope => scope
  | r :: rest, scope => scopeAfter rest (Request.scopeAfter expand settings r scope)

variable {expand}

theorem flows_visits (h : KeepsScope expand) (requests : List Request) (scope : Scope) :
    Flows expand scope (visits expand settings requests scope) ∧
      scopeAfter expand settings requests scope =
        scope.bindAll ((visits expand settings requests scope).flatMap (Visit.assigned expand)) := by
  induction requests generalizing scope with
  | nil => exact ⟨trivial, rfl⟩
  | cons r rest ih =>
    have htraces := traces_writeTemplate h settings r.template r.given
    have hafter : Request.scopeAfter expand settings r scope =
        scope.bindAll ((Request.visits expand settings r scope).flatMap (Visit.assigned expand)) :=
      htraces.assigns ⟨r.store, scope, r.room⟩
    obtain ⟨hflows, hscope⟩ := ih (Request.scopeAfter expand settings r scope)
    refine ⟨flows_append.2 ⟨htraces.flows ⟨r.store, scope, r.room⟩, hafter ▸ hflows⟩, ?_⟩
    rw [scopeAfter, hscope, visits, List.flatMap_append, Scope.bindAll_append, ← hafter]

/-- What scripts see of the scope. Whatever templates are rendered one after the other in a scope of
given names, in whatever documents and whether they fail or not: wherever a rendering comes to an
expression or to a continuation, the scope is that of the given names with exactly those bound,
in order, that the expressions have assigned to which the renderings came before; and that is the
scope at the end, too. The scripts of a template are visited in the order of the source, up to the
last one if the rendering succeeds. What an expansion assigns is not seen outside of it, and
rendering a template leaves the scope that it is asked for in as it is. -/
theorem scope_at_visit (names : Scope) (requests : List Request) :
    (∀ earlier v later, visits Render.expand settings requests names = earlier ++ v :: later →
      v.before.scope = names.bindAll (earlier.flatMap (Visit.assigned Render.expand))) ∧
    scopeAfter Render.expand settings requests names = names.bindAll
      ((visits Render.expand settings requests names).flatMap (Visit.assigned Render.expand)) ∧
    (∀ t given s,
      (templateVisits Render.expand settings t given s).map Visit.site <+: t.sites given ∧
      ∀ id s', writeTemplate Render.expand settings t given s = .ok id s' →
        (templateVisits Render.expand settings t given s).map Visit.site = t.sites given) ∧
    (∀ source scope nested s, (∀ s, (stateAfter scope s).scope = s.scope) →
      (stateAfter (Render.expand source scope nested) s).scope = s.scope) ∧
    ∀ t given options s, (stateAfter (render t names given options) s).scope = s.scope := by
  obtain ⟨hflows, hscope⟩ := flows_visits settings keepsScope_expand requests names
  refine ⟨?_, hscope, fun t given s => ?_, ?_, ?_⟩
  · intro earlier v later hsplit
    rw [hsplit] at hflows
    exact hflows.scope_eq
  · have htraces := traces_writeTemplate keepsScope_expand settings t given
    exact ⟨htraces.inOrder s, htraces.complete s⟩
  · intro source scope nested s hnames
    exact keepsScope_expand source scope nested hnames s
  · intro t given options s
    exact preserves_inScope names _ s

/-- A template of which the first expression assigns, and the second has no value. -/
def assigningTemplate : Template where
  root := .empty ['a'] [.named ['k'] (.expression ⟨[], .bind ['x'] (.str ['v']), none⟩),
    .named ['l'] (.expression ⟨[], .name ['y'], none⟩)]
  destination := none
  layout := none
  prolog := some ⟨.v1_0, none⟩

/-- A template with a continuation that assigns, and an expression after it. -/
def readingTemplate : Template where
  root := .node ['b'] [] [.continuation ⟨['d'], [], [.assign ['x'] (.str ['w'])], none⟩,
    .expression ⟨[], .name ['x'], none⟩]
  destination := none
  layout := none
  prolog := some ⟨.v1_0, none⟩

/-- The one after the other, from an empty store. -/
def sharingRequests : List Request :=
  [⟨assigningTemplate, none, .empty, maxRoom⟩, ⟨readingTemplate, none, .empty, maxRoom⟩]

/-- The names of a scope with their values as texts. -/
def namesShown (scope : Scope) : List (Text × Text) := scope.map fun e => (e.1, e.2.display [])

/-- What the last expression sees has been assigned by the first, and not by the continuation. -/
theorem scope_at_visit_sharingRequests :
    (∀ v ∈ (visits Render.expand (.options .default) sharingRequests []).getLast?,
      namesShown v.before.scope = [(['x'], ['v'])]) ∧
    namesShown (scopeAfter Render.expand (.options .default) sharingRequests []) =
      [(['x'], ['v'])] ∧
    (templateVisits Render.expand (.options .default) readingTemplate none
      ⟨.empty, [(['x'], .str none ['v'])], maxRoom⟩).map Visit.site = readingTemplate.sites none ∧
    (stateAfter (Render.expand [] (pure []) (.options .default))
      ⟨.empty, [(['x'], .str none ['v'])], maxRoom⟩).scope = [(['x'], .str none ['v'])] := by
  obtain ⟨hsees, hends, hsites, hnested, -⟩ :=
    scope_at_visit (.options .default) [] sharingRequests
  refine ⟨fun v hv => ?_, hends ▸ by decide +kernel, ?_, hnested _ _ _ _ fun _ => rfl⟩
  · obtain ⟨earlier, hsplit⟩ := List.getLast?_eq_some_iff.1 hv
    have hearlier : (visits Render.expand (.options .default) sharingRequests []).dropLast =
        earlier := by rw [hsplit, List.dropLast_concat]
    rw [hsees earlier v [] hsplit, ← hearlier]
    decide +kernel
  · have hok : (match writeTemplate Render.expand (.options .default) readingTemplate none
        ⟨.empty, [(['x'], .str none ['v'])], maxRoom⟩ with
      | .ok _ _ => true
      | .error _ _ => false) = true := by decide +kernel
    split at hok
    next id s' hrun => exact (hsites readingTemplate none _).2 id s' hrun
    next => cases hok

end Render

end XmlTemplate
