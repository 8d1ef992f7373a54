import XmlTemplate.Proofs.Render.Still.Call

/-!
# A template, step by step

Writing an element is doing one thing after the other: beginning a tag, writing its attributes and
fills, finishing the tag, writing the parts of its content, and ending the element. `Element.steps`
lists these steps in the order of the source, each with the room that the elements around it take,
and writing the element is the same as taking the steps (`writeElement_eq_runSteps`).
-/

set_option autoImplicit false

namespace XmlTemplate

/-- What can be done at one step of writing an element. -/
inductive Action where
  | beginTag (name : Text)
  | item (item : AttributeItem)
  | enterContent
  | endEmptyTag
  | text (s : Text)
  | expression (e : Embedded)
  | continuation (c : Continuation)
  | endElement (name : Text)

/-- A step of writing an element: what is done, and the room that the elements around it take. -/
structure Step where
  taken : Nat
  action : Action

/-- The step further inside, where elements around it take more room. -/
def Step.deeper (taken : Nat) (step : Step) : Step := ⟨taken + step.taken, step.action⟩

/-- The steps of a start tag, or of an empty one. -/
def tagSteps (name : Text) (items : List AttributeItem) : List Step :=
  ⟨0, .beginTag name⟩ :: items.map fun item => ⟨0, .item item⟩

mutual

/-- The steps of writing an element. -/
def Element.steps : Element → List Step
  | .empty name items => tagSteps name items ++ [⟨0, .endEmptyTag⟩]
  | .node name items children =>
    tagSteps name items ++ ⟨0, .enterContent⟩ :: (Child.allSteps children ++ [⟨0, .endElement name⟩])

/-- The steps of writing a part of a content. -/
def Child.steps : Child → List Step
  | .text s => [⟨0, .text s⟩]
  | .expression e => [⟨0, .expression e⟩]
  | .element e => e.steps.map (Step.deeper elementRoom)
  | .continuation c => [⟨0, .continuation c⟩]

/-- The steps of writing a content. -/
def Child.allSteps : List Child → List Step
  | [] => []
  | c :: rest => c.steps ++ Child.allSteps rest

end

namespace Render

variable {α β : Type} {p : Render α} (expand : Expander) (id : Nat)

/-- Do what is done at a step. -/
def runAction : Action → Render Unit
  | .beginTag name => do
    checkRoom name
    changeDocument id (·.beginTag name)
  | .item item => writeItems expand id [item]
  | .enterContent => changeDocument id fun d => .ok d.enterContent
  | .endEmptyTag => changeDocument id fun d => .ok d.endEmptyTag
  | .text s => writeChild expand id (.text s)
  | .expression e => writeChild expand id (.expression e)
  | .continuation c => writeChild expand id (.continuation c)
  | .endElement name => leaveElement id (·.endElement name)

/-- Take one step after the other. -/
def runSteps : List Step → Render Unit
  | [] => return ()
  | step :: rest => do
    takingRoom step.taken (runAction expand id step.action)
    runSteps rest

/-! ## Room -/

theorem takingRoom_zero (hp : Preserves RenderState.room p) : takingRoom 0 p = p := by
  funext s
  have hroom := hp s
  cases hrun : p s with
  | ok a s' =>
    have htaking : takingRoom 0 p s = .ok a { s' with room := s.room } := takingRoom_of_ok hrun
    rw [stateAfter_of_ok hrun] at hroom
    rw [htaking, ← hroom]
  | error e s' =>
    have htaking : takingRoom 0 p s = .error e { s' with room := s.room } :=
      takingRoom_of_error hrun
    rw [stateAfter_of_error hrun] at hroom
    rw [htaking, ← hroom]

theorem takingRoom_takingRoom (m n : Nat) (p : Render α) :
    takingRoom m (takingRoom n p) = takingRoom (m + n) p := by
  funext s
  rw [takingRoom, takingRoom, takingRoom, Nat.sub_sub]
  cases p { s with room := s.room - (m + n) } <;> rfl

theorem takingRoom_bind (n : Nat) (hp : Preserves RenderState.room p) (f : α → Render β) :
    takingRoom n (p >>= f) = takingRoom n p >>= fun a => takingRoom n (f a) := by
  funext s
  cases hrun : p { s with room := s.room - n } with
  | ok a s₁ =>
    have hroom : s₁.room = s.room - n := hp.of_ok hrun
    rw [bind_of_ok (takingRoom_of_ok hrun), takingRoom, bind_of_ok hrun, takingRoom]
    dsimp only
    rw [← hroom]
  | error e s₁ =>
    rw [bind_of_error (takingRoom_of_error hrun)]
    exact takingRoom_of_error (bind_of_error hrun f)

/-- Steps are taken in less room by taking each of them in less room. -/
theorem takingRoom_runSteps (n : Nat) (steps : List Step) :
    takingRoom n (runSteps expand id steps) = runSteps expand id (steps.map (Step.deeper n)) := by
  induction steps with
  | nil => rfl
  | cons step rest ih =>
    rw [List.map_cons, runSteps, runSteps, takingRoom_bind n (preserves_takingRoom _ _),
      takingRoom_takingRoom, ih]
    rfl

theorem runSteps_append (xs ys : List Step) :
    runSteps expand id (xs ++ ys) = runSteps expand id xs >>= fun _ => runSteps expand id ys := by
  induction xs with
  | nil => rfl
  | cons step rest ih =>
    rw [List.cons_append, runSteps, runSteps, ih, bind_assoc]

/-- A step that leaves the room as it is needs no room of its own. -/
theorem runSteps_cons (action : Action) (rest : List Step)
    (h : Preserves RenderState.room (runAction expand id action)) :
    runSteps expand id (⟨0, action⟩ :: rest) =
      runAction expand id action >>= fun _ => runSteps expand id rest := by
  rw [runSteps, takingRoom_zero h]

/-! ## What is done at a step -/

theorem still_checkRoom (name : Text) : Still (checkRoom name) := by
  refine Preserves.room.bind fun room => ?_
  split
  · exact .throw _
  · exact .pure _

theorem still_begin (name : Text) : Still (runAction expand id (.beginTag name)) :=
  (still_checkRoom name).bind fun _ => still_changeDocument id _

theorem preserves_writeItem (item : AttributeItem) :
    Preserves RenderState.room (writeItems expand id [item]) := by
  cases item with
  | named name value =>
    rw [writeItems]
    refine Preserves.bind ?_ fun _ => .pure _
    cases value with
    | literal s => exact (still_changeDocument id _).room
    | expression e =>
      refine (preserves_takingRoom _ _).bind fun v => ?_
      exact (still_callDocument _ id _).room.discard
  | fill e =>
    rw [writeItems]
    refine (preserves_takingRoom _ _).bind fun v => ?_
    exact (still_writeAttributes id v).room.bind fun _ => .pure _

theorem preserves_runAction (action : Action) :
    Preserves RenderState.room (runAction expand id action) := by
  cases action with
  | beginTag name => exact (still_begin expand id name).room
  | item item => exact preserves_writeItem expand id item
  | enterContent => exact (still_changeDocument id _).room
  | endEmptyTag => exact (still_changeDocument id _).room
  | text s => exact (still_changeDocument id _).room
  | expression e => exact (preserves_takingRoom _ _).bind fun v => preserves_takingRoom _ _
  | continuation c => exact preserves_takingRoom _ _
  | endElement name => exact (still_leaveElement id _).room

/-! ## Elements -/

theorem writeItems_eq_runSteps (items : List AttributeItem) :
    writeItems expand id items =
      runSteps expand id (items.map fun item => ⟨0, .item item⟩) := by
  induction items with
  | nil => rfl
  | cons item rest ih =>
    rw [List.map_cons, runSteps_cons _ _ _ _ (preserves_runAction expand id _), ← ih, writeItems_cons,
      runAction]

theorem runSteps_tagSteps (name : Text) (items : List AttributeItem) :
    runSteps expand id (tagSteps name items) = (do
      checkRoom name
      changeDocument id (·.beginTag name)
      writeItems expand id items) := by
  rw [tagSteps, runSteps_cons _ _ _ _ (preserves_runAction expand id _),
    ← writeItems_eq_runSteps, runAction, bind_assoc]

theorem runSteps_single (action : Action) :
    runSteps expand id [⟨0, action⟩] = runAction expand id action := by
  rw [runSteps_cons _ _ _ _ (preserves_runAction expand id _), runSteps]
  simp

mutual

/-- Writing an element is taking its steps. -/
theorem writeElement_eq_runSteps : ∀ e : Element,
    writeElement expand id e = runSteps expand id e.steps
  | .empty name items => by
    rw [Element.steps, runSteps_append, runSteps_tagSteps, runSteps_single, writeElement]
    simp only [bind_assoc, runAction]
  | .node name items children => by
    rw [Element.steps, runSteps_append, runSteps_tagSteps,
      runSteps_cons _ _ _ _ (preserves_runAction expand id _), runSteps_append, runSteps_single,
      ← writeChildren_eq_runSteps children, writeElement]
    simp only [bind_assoc, runAction]

theorem writeChild_eq_runSteps : ∀ c : Child,
    writeChild expand id c = runSteps expand id c.steps
  | .text s => (runSteps_single expand id (.text s)).symm
  | .expression e => (runSteps_single expand id (.expression e)).symm
  | .continuation c => (runSteps_single expand id (.continuation c)).symm
  | .element e => by
    rw [writeChild, writeElement_eq_runSteps e, takingRoom_runSteps, Child.steps]

theorem writeChildren_eq_runSteps : ∀ cs : List Child,
    writeChildren expand id cs = runSteps expand id (Child.allSteps cs)
  | [] => rfl
  | c :: rest => by
    rw [writeChildren, Child.allSteps, runSteps_append, writeChild_eq_runSteps c,
      writeChildren_eq_runSteps rest]

end

end Render

end XmlTemplate
