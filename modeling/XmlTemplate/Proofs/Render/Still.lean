import XmlTemplate.Proofs.Render.Run

/-!
# Renderings that work on the store alone

Apart from binding a name, everything that scripts and documents are offered works on the store. It
leaves the scope and the room as they are, whether it succeeds or fails. `Still p` says so of one
rendering, `still_…` of the renderings of the store and of those that go through items. Binding a
name is not still, so nothing that evaluates expressions is.
-/

set_option autoImplicit false

namespace XmlTemplate

namespace Render

variable {α β : Type} {p : Render α} {s s' : RenderState}

theorem stateAfter_of_ok {a : α} (h : p s = .ok a s') : stateAfter p s = s' := by
  rw [stateAfter, h]

theorem stateAfter_of_error {e : Fault} (h : p s = .error e s') : stateAfter p s = s' := by
  rw [stateAfter, h]

/-- A rendering that leaves what a view shows of the state as it is, however it ends. -/
def Preserves {γ : Type} (view : RenderState → γ) (p : Render α) : Prop :=
  ∀ s, view (stateAfter p s) = view s

/-- A rendering that leaves the scope and the room as they are, however it ends. -/
abbrev Still (p : Render α) : Prop := Preserves (fun s => (s.scope, s.room)) p

/-! ## Putting renderings together -/

namespace Preserves

variable {γ : Type} {view : RenderState → γ}

theorem pure (a : α) : Preserves view (Pure.pure a) := fun _ => rfl

theorem throw (e : Fault) : Preserves view (MonadExcept.throw e : Render α) := fun _ => rfl

theorem get : Preserves view (MonadState.get : Render RenderState) := fun _ => rfl

theorem modify {f : RenderState → RenderState} (hf : ∀ s, view (f s) = view s) :
    Preserves view (modify f : Render Unit) := hf

theorem bind {f : α → Render β} (hp : Preserves view p) (hf : ∀ a, Preserves view (f a)) :
    Preserves view (p >>= f) := by
  intro s
  have hview := hp s
  cases hrun : p s with
  | ok a s₁ =>
    rw [stateAfter_of_ok hrun] at hview
    rw [stateAfter, bind_of_ok hrun]
    exact (hf a s₁).trans hview
  | error e s₁ =>
    rw [stateAfter_of_error hrun] at hview
    rwa [stateAfter_of_error (bind_of_error hrun f)]

/-- A rendering that has failed is not gone on with. -/
theorem throw_bind {f : α → Render β} (e : Fault) :
    Preserves view (MonadExcept.throw e >>= f) := fun _ => rfl

theorem discard (hp : Preserves view p) : Preserves view (Functor.discard p) :=
  hp.bind fun _ => pure ()

/-- A value for a test that succeeds, and another rendering for one that fails. -/
theorem choice {c : Prop} [Decidable c] {a : α} (hp : Preserves view p) :
    Preserves view (if c then Pure.pure a else p) := by
  split
  · exact .pure a
  · exact hp

theorem room : Preserves view Render.room := get.bind fun _ => pure _

theorem of_ok {a : α} (hp : Preserves view p) (h : p s = .ok a s') : view s' = view s := by
  have hview := hp s
  rwa [stateAfter_of_ok h] at hview

end Preserves

theorem Still.scope (hp : Still p) : Preserves RenderState.scope p :=
  fun s => congrArg Prod.fst (hp s)

theorem Still.room (hp : Still p) : Preserves RenderState.room p :=
  fun s => congrArg Prod.snd (hp s)

/-- In a scope of its own, a rendering may bind what it likes. -/
theorem preserves_inScope (scope : Scope) (p : Render α) :
    Preserves RenderState.scope (inScope scope p) := by
  intro s
  rw [stateAfter, inScope]
  cases p { s with scope } <;> rfl

/-- A rendering may work in less room. -/
theorem preserves_takingRoom (taken : Nat) (p : Render α) :
    Preserves RenderState.room (takingRoom taken p) := by
  intro s
  rw [stateAfter, takingRoom]
  cases p { s with room := s.room - taken } <;> rfl

/-! ## Names and documents -/

theorem still_valueOf (x : Text) : Still (valueOf x) := by
  refine Preserves.get.bind fun s => ?_
  dsimp only
  split
  · exact .pure _
  · split
    · exact .pure _
    · exact .throw _
  · split
    · exact .pure _
    · exact .throw _
  · exact .throw _

theorem still_documents : Still documents := Preserves.get.bind fun _ => .pure _

theorem still_document (id : Nat) : Still (document id) := by
  refine still_documents.bind fun ds => ?_
  split
  · exact .pure _
  · exact .throw _

theorem still_orViolation (answer : Except Violation α) : Still (orViolation answer) := by
  cases answer with
  | ok a => exact .pure a
  | error v => exact .throw _

theorem still_changeDocument (id : Nat) (f : Document → Except Violation Document) :
    Still (changeDocument id f) := by
  refine (still_document id).bind fun d => (still_orViolation (f d)).bind fun e => ?_
  exact .modify fun _ => rfl

theorem still_readDocument (id : Nat) : Still (readDocument id) := by
  refine (still_document id).bind fun d => ?_
  split
  · exact .pure _
  · exact .throw _

theorem still_readComplete (id : Nat) : Still (readComplete id) := by
  refine (still_document id).bind fun d => ?_
  exact (still_orViolation d.complete).discard.bind fun _ => still_readDocument id

/-! ## Values -/

theorem still_checkShown (v : Value) : Still (checkShown v) := by
  refine Preserves.room.bind fun r => ?_
  split
  · exact .throw _
  · exact .pure _

theorem still_display (v : Value) : Still (display v) := by
  rw [display.eq_def]
  split
  · exact .pure _
  · exact still_readDocument _
  · exact (still_checkShown _).bind fun _ => still_documents.bind fun _ => .pure _

theorem still_shown (v : Value) : Still (shown v) :=
  (still_checkShown v).bind fun _ => still_documents.bind fun _ => .pure _

theorem still_fresh : Still fresh := fun _ => rfl

theorem still_newText (t : Text) : Still (newText t) := still_fresh.bind fun _ => .pure _

theorem still_cutText (t : Text) : Still (cutText t) := still_fresh.bind fun _ => .pure _

theorem still_newList (vs : List Value) : Still (newList vs) := still_fresh.bind fun _ => .pure _

theorem still_newTuple (vs : List Value) : Still (newTuple vs) := still_fresh.bind fun _ => .pure _

theorem still_makeDict (es : List (Value × Value)) : Still (makeDict es) := by
  rw [makeDict]
  split
  · exact still_fresh.bind fun _ => .pure _
  · exact .throw _

theorem still_orFault (answer : Except Fault Bool) : Still (orFault answer) := by
  cases answer with
  | ok b => exact .pure b
  | error fault => exact .throw fault

theorem still_areEqual (v w : Value) : Still (areEqual v w) :=
  Preserves.room.bind fun _ => still_orFault _

theorem still_areSame (v w : Value) : Still (areSame v w) :=
  Preserves.room.bind fun _ => still_orFault _

theorem still_isAmong (v : Value) (ws : List Value) : Still (isAmong v ws) := by
  induction ws with
  | nil => exact .pure _
  | cons w rest ih =>
    refine (still_areSame w v).bind fun b => ?_
    split
    · exact .pure _
    · exact ih

/-! ## Iterators and templates -/

theorem still_next? (id : Nat) : Still (next? id) := by
  refine Preserves.get.bind fun s => ?_
  split
  next v rest _ =>
    have htaken : Still (modify fun s =>
        { s with store.iterators := s.store.iterators.set id rest } : Render Unit) :=
      .modify fun _ => rfl
    exact htaken.bind fun _ => .pure _
  next => exact .pure _

theorem still_left (id : Nat) : Still (left id) := Preserves.get.bind fun _ => .pure _

theorem still_compile (room : Nat) (source : Text) (settings : Settings) :
    Still (compile room source settings) := by
  refine Preserves.get.bind fun s => ?_
  have hkept (cache : Cache) :
      Still (modify fun s => { s with store.cache := cache } : Render Unit) :=
    .modify fun _ => rfl
  refine (hkept _).bind fun _ => ?_
  split
  · exact .pure _
  · exact .throw _

/-! ## Items -/

section Items

variable {body : Value → Render Unit}

theorem still_drain (hbody : ∀ v, Still (body v)) (id rounds : Nat) :
    Still (drain id body rounds) := by
  induction rounds with
  | zero => exact .pure _
  | succ rounds ih =>
    refine (still_next? id).bind fun v? => ?_
    cases v? with
    | none => exact .pure _
    | some v => exact (hbody v).bind fun _ => ih

theorem still_forItems (hbody : ∀ v, Still (body v)) (vs : List Value) :
    Still (forItems body vs) := by
  induction vs with
  | nil => exact .pure _
  | cons v rest ih => exact (hbody v).bind fun _ => ih

theorem still_forRange (hbody : ∀ v, Still (body v)) (first step : Int) (count : Nat) :
    Still (forRange body first step count) := by
  induction count generalizing first with
  | zero => exact .pure _
  | succ count ih => exact (hbody (.int first)).bind fun _ => ih (first + step)

theorem still_forEach (hbody : ∀ v, Still (body v)) (source : Iteration) :
    Still (forEach source body) := by
  cases source with
  | items vs => exact still_forItems hbody vs
  | range first step count => exact still_forRange hbody first step count
  | shared id => exact (still_left id).bind fun _ => still_drain hbody id _

end Items

theorem still_takeItems (source : Iteration) (count : Nat) : Still (takeItems source count) := by
  induction count with
  | zero => exact .pure _
  | succ count ih =>
    cases source with
    | items vs => exact .pure _
    | range first step n => exact .pure _
    | shared id =>
      refine (still_next? id).bind fun v? => ?_
      cases v? with
      | none => exact .pure _
      | some v => exact ih.bind fun _ => .pure _

theorem still_allItems (source : Iteration) : Still (allItems source) := by
  cases source with
  | items vs => exact .pure _
  | range first step count => exact still_takeItems _ _
  | shared id => exact (still_left id).bind fun _ => still_takeItems _ _

theorem still_unpackPair (v : Value) : Still (unpackPair v) := by
  rw [unpackPair]
  split
  · exact .throw _
  · refine (still_takeItems _ 3).bind fun vs => ?_
    split
    · exact .pure _
    all_goals exact .throw _

theorem still_seek (id : Nat) (v : Value) (rounds : Nat) : Still (seek id v rounds) := by
  induction rounds with
  | zero => exact .pure _
  | succ rounds ih =>
    refine (still_next? id).bind fun w? => ?_
    cases w? with
    | none => exact .pure _
    | some w =>
      refine (still_areSame w v).bind fun b => ?_
      split
      · exact .pure _
      · exact ih

end Render

end XmlTemplate
