import XmlTemplate.Proofs.Render.Follows

/-!
# Following what a store offers

The same is read of documents and iterators that are the same, and the same is done to them. Showing
and comparing values may find too little room. A name means the same where the scopes agree on it,
and the same template is given by two caches that hold nothing but what sources are read as.
-/

set_option autoImplicit false

namespace XmlTemplate

namespace Render

open RenderState

variable {α : Type} {R : Scope → Scope → Prop}

/-! ## Names -/

theorem follows_valueOf {x : Text} (hx : Scope.Sees R x) : Follows R (valueOf x) (valueOf x) := by
  refine .get_bind fun s s' hlike => ?_
  obtain ⟨hsame, hbuiltins⟩ := hx _ _ hlike.scope
  dsimp only
  rw [← hsame]
  cases hv : s.scope.lookup x with
  | some v => exact .pure v
  | none =>
    rw [← hbuiltins hv]
    cases s.scope.lookup builtinsName with
    | none =>
      cases builtinNamed? x with
      | some b => exact .pure _
      | none => exact .throw _ _
    | some w =>
      cases w with
      | dict _ es =>
        dsimp only
        cases Value.lookup (.str none x) es with
        | some v => exact .pure v
        | none => exact .throw _ _
      | _ => exact .throw _ _

theorem follows_bindName (hR : Scope.Binds R) (x : Text) (v : Value) :
    Follows R (bindName x v) (bindName x v) :=
  .modify fun _ _ hlike => { hlike with scope := hR x v _ _ hlike.scope }

/-! ## Documents -/

theorem follows_documents : Follows R documents documents :=
  .get_pure fun _ _ hlike => hlike.documents

theorem follows_document (id : Nat) : Follows R (document id) (document id) := by
  refine follows_documents.bind fun ds => ?_
  split
  · exact .pure _
  · exact .throw _ _

theorem follows_setDocument (id : Nat) (d : Document) :
    Follows R (setDocument id d) (setDocument id d) :=
  .modify fun _ _ hlike =>
    { hlike with documents := congrArg (List.set · id d) hlike.documents }

theorem follows_orViolation (answer : Except Violation α) :
    Follows R (orViolation answer) (orViolation answer) := by
  cases answer with
  | ok a => exact .pure a
  | error v => exact .throw _ _

theorem follows_changeDocument (id : Nat) (f : Document → Except Violation Document) :
    Follows R (changeDocument id f) (changeDocument id f) :=
  (follows_document id).bind fun d => (follows_orViolation (f d)).bind (follows_setDocument id)

theorem follows_readDocument (id : Nat) : Follows R (readDocument id) (readDocument id) := by
  refine (follows_document id).bind fun d => ?_
  split
  · exact .pure _
  · exact .throw _ _

theorem follows_readComplete (id : Nat) : Follows R (readComplete id) (readComplete id) :=
  (follows_document id).bind fun d =>
    (follows_orViolation d.complete).discard.bind fun _ => follows_readDocument id

/-! ## Values -/

theorem follows_checkShown (v : Value) : Follows R (checkShown v) (checkShown v) := by
  refine .room_bind fun room room' hroom => ?_
  cases hshown : v.obstacle? room with
  | some fault => exact .throw _ _
  | none =>
    obtain hshown' | hdeep := Value.obstacle?_less hroom hshown
    · rw [hshown']
      exact .pure ()
    · rw [hdeep]
      exact .tooDeep _

theorem follows_display (v : Value) : Follows R (display v) (display v) := by
  rw [display.eq_def]
  split
  · exact .pure _
  · exact follows_readDocument _
  · exact (follows_checkShown _).bind fun _ => follows_documents.bind fun _ => .pure _

theorem follows_shown (v : Value) : Follows R (shown v) (shown v) :=
  (follows_checkShown v).bind fun _ => follows_documents.bind fun _ => .pure _

theorem follows_fresh : Follows R fresh fresh := by
  intro s s' hlike n t hrun
  cases hrun
  exact .inl ⟨_, congrArg (EStateM.Result.ok · _) hlike.next,
    { hlike with next := congrArg (· + 1) hlike.next }⟩

theorem follows_newText (s : Text) : Follows R (newText s) (newText s) :=
  follows_fresh.bind fun _ => .pure _

theorem follows_cutText (s : Text) : Follows R (cutText s) (cutText s) :=
  follows_fresh.bind fun _ => .pure _

theorem follows_newList (items : List Value) : Follows R (newList items) (newList items) :=
  follows_fresh.bind fun _ => .pure _

theorem follows_newTuple (items : List Value) : Follows R (newTuple items) (newTuple items) :=
  follows_fresh.bind fun _ => .pure _

theorem follows_newDict (entries : List (Value × Value)) :
    Follows R (newDict entries) (newDict entries) :=
  follows_fresh.bind fun _ => .pure _

theorem follows_makeDict (entries : List (Value × Value)) :
    Follows R (makeDict entries) (makeDict entries) := by
  rw [makeDict]
  split
  · exact follows_newDict _
  · exact .throw _ _

theorem follows_orFault {x y : Except Fault Bool} (h : Value.Follows x y) :
    Follows R (orFault x) (orFault y) := by
  cases x with
  | error fault => exact .throw _ _
  | ok b =>
    obtain rfl | rfl := h b rfl
    · exact .pure b
    · exact .tooDeep _

theorem follows_areEqual (v w : Value) : Follows R (areEqual v w) (areEqual v w) :=
  .room_bind fun _ _ hroom => follows_orFault (Value.equalWithin_less hroom v w)

theorem follows_areSame (v w : Value) : Follows R (areSame v w) (areSame v w) :=
  .room_bind fun _ _ hroom => follows_orFault (Value.sameWithin_less hroom v w)

theorem follows_isAmong (v : Value) (ws : List Value) :
    Follows R (isAmong v ws) (isAmong v ws) := by
  induction ws with
  | nil => exact .pure _
  | cons w rest ih =>
    refine (follows_areSame w v).bind fun b => ?_
    split
    · exact .pure _
    · exact ih

/-! ## Iterators -/

theorem follows_next? (id : Nat) : Follows R (next? id) (next? id) := by
  refine .get_bind fun s s' hlike => ?_
  dsimp only
  rw [hlike.iterators]
  split
  next v rest _ =>
    refine Follows.bind (.modify fun s s' hlike => ?_) fun _ => .pure _
    exact { hlike with iterators := congrArg (List.set · id rest) hlike.iterators }
  next => exact .pure _

theorem follows_left (id : Nat) : Follows R (left id) (left id) :=
  .get_pure fun s s' hlike => by rw [hlike.iterators]

/-! ## Templates -/

end Render

end XmlTemplate
