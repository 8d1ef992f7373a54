import XmlTemplate.Proofs.Render.Still

/-!
# Renderings that bypass an iterator

What has been taken from an iterator counts for those alone who ask it. `Bypasses i p` says that
the rendering `p` does not ask the iterator of the number `i`: whatever the iterator has still to
give, `p` ends in the same way, and leaves that to the iterator. Showing a value asks no iterator,
nor does a change of a document, and a value is taken apart without asking any iterator but the
value itself.
-/

set_option autoImplicit false

namespace XmlTemplate

/-- The state in which the iterator of the given number has the given values still to give. -/
def RenderState.leave (s : RenderState) (i : Nat) (rest : List Value) : RenderState :=
  { s with store.iterators := s.store.iterators.set i rest }

namespace Render

variable {α β : Type} {i : Nat} {s s' : RenderState}

theorem leave_leave (s : RenderState) (i : Nat) (rest rest' : List Value) :
    (s.leave i rest).leave i rest' = s.leave i rest' := by
  simp [RenderState.leave]

/-- What an iterator has still to give is left to it. -/
theorem leave_of_getElem? {rest : List Value} (h : s.store.iterators[i]? = some rest) :
    s.leave i rest = s := by
  obtain ⟨hi, hrest⟩ := List.getElem?_eq_some_iff.1 h
  obtain ⟨⟨documents, iterators, cache, next⟩, scope, room⟩ := s
  subst hrest
  simp [RenderState.leave]

theorem getElem?_leave {items : List Value} (h : s.store.iterators[i]? = some items)
    (rest : List Value) : (s.leave i rest).store.iterators[i]? = some rest :=
  List.getElem?_set_self (List.getElem?_eq_some_iff.1 h).1

/-- A rendering that ends in the same way whatever the iterator has still to give, and takes nothing
from it. -/
structure Bypasses (i : Nat) (p : Render α) : Prop where
  keeps : Preserves (fun s => s.store.iterators[i]?) p
  of_ok : ∀ s a s', p s = .ok a s' → ∀ rest, p (s.leave i rest) = .ok a (s'.leave i rest)
  of_error : ∀ s e s', p s = .error e s' → ∀ rest, p (s.leave i rest) = .error e (s'.leave i rest)

/-! ## Putting renderings together -/

namespace Bypasses

variable {p : Render α}

theorem pure (a : α) : Bypasses i (Pure.pure a) where
  keeps := .pure a
  of_ok s b s' hrun rest := by
    cases hrun
    rfl
  of_error s e s' hrun := by cases hrun

theorem throw (e : Fault) : Bypasses i (MonadExcept.throw e : Render α) where
  keeps := .throw e
  of_ok s b s' hrun := by cases hrun
  of_error s e' s' hrun rest := by
    cases hrun
    rfl

theorem bind {f : α → Render β} (hp : Bypasses i p) (hf : ∀ a, Bypasses i (f a)) :
    Bypasses i (p >>= f) where
  keeps := hp.keeps.bind fun a => (hf a).keeps
  of_ok s b s' hrun rest := by
    obtain ⟨a, s₁, hrun₁, hrun'⟩ := bind_eq_ok.1 hrun
    rw [bind_of_ok (hp.of_ok s a s₁ hrun₁ rest)]
    exact (hf a).of_ok s₁ b s' hrun' rest
  of_error s e s' hrun rest := by
    rcases bind_eq_error.1 hrun with hrun₁ | ⟨a, s₁, hrun₁, hrun'⟩
    · exact bind_of_error (hp.of_error s e s' hrun₁ rest) f
    · rw [bind_of_ok (hp.of_ok s a s₁ hrun₁ rest)]
      exact (hf a).of_error s₁ e s' hrun' rest

/-- A look at something else than the iterator. -/
theorem view {f : RenderState → α} (hf : ∀ s rest, f (s.leave i rest) = f s) :
    Bypasses i (MonadState.get >>= fun s => Pure.pure (f s)) where
  keeps := Preserves.get.bind fun _ => .pure _
  of_ok s a s' hrun rest := by
    cases hrun
    exact congrArg (EStateM.Result.ok · (s.leave i rest)) (hf s rest)
  of_error s e s' hrun := by cases hrun

/-- A change of something else than the iterator. -/
theorem modify {f : RenderState → RenderState}
    (hkeeps : ∀ s, (f s).store.iterators[i]? = s.store.iterators[i]?)
    (hf : ∀ s rest, f (s.leave i rest) = (f s).leave i rest) :
    Bypasses i (modify f : Render Unit) where
  keeps := .modify hkeeps
  of_ok s a s' hrun rest := by
    cases hrun
    exact congrArg (EStateM.Result.ok ()) (hf s rest)
  of_error s e s' hrun := by cases hrun

end Bypasses

/-! ## Documents and values -/

theorem bypasses_documents : Bypasses i documents := .view fun _ _ => rfl

theorem bypasses_document (id : Nat) : Bypasses i (document id) := by
  refine bypasses_documents.bind fun ds => ?_
  split
  · exact .pure _
  · exact .throw _

theorem bypasses_changeDocument (id : Nat) (f : Document → Except Violation Document) :
    Bypasses i (changeDocument id f) := by
  refine (bypasses_document id).bind fun d => ?_
  have hanswer : Bypasses i (orViolation (f d)) := by
    cases f d with
    | ok e => exact .pure e
    | error v => exact .throw _
  exact hanswer.bind fun e => .modify (fun _ => rfl) fun _ _ => rfl

theorem bypasses_display (v : Value) : Bypasses i (display v) := by
  rw [display.eq_def]
  split
  · exact .pure _
  · refine (bypasses_document _).bind fun d => ?_
    split
    · exact .pure _
    · exact .throw _
  next =>
    have hcheck : Bypasses i (checkShown v) := by
      have hroom : Bypasses i room := .view fun _ _ => rfl
      refine hroom.bind fun r => ?_
      split
      · exact .throw _
      · exact .pure ()
    exact hcheck.bind fun _ => bypasses_documents.bind fun _ => .pure _

/-! ## Items -/

theorem next?_of_cons {v : Value} {rest : List Value}
    (h : s.store.iterators[i]? = some (v :: rest)) : next? i s = .ok (some v) (s.leave i rest) := by
  have hget : (get : Render RenderState) s = .ok s s := rfl
  rw [next?, bind_of_ok hget, h]
  rfl

theorem next?_of_none (h : ∀ v rest, s.store.iterators[i]? ≠ some (v :: rest)) :
    next? i s = .ok none s := by
  have hget : (get : Render RenderState) s = .ok s s := rfl
  rw [next?, bind_of_ok hget]
  cases hs : s.store.iterators[i]? with
  | none => rfl
  | some vs =>
    cases vs with
    | nil => rfl
    | cons v rest => exact absurd hs (h v rest)

theorem next?_cases (i : Nat) (s : RenderState) :
    (∃ v rest, s.store.iterators[i]? = some (v :: rest)) ∨
      ∀ v rest, s.store.iterators[i]? ≠ some (v :: rest) := by
  cases hs : s.store.iterators[i]? with
  | none => exact .inr fun v rest h => nomatch h
  | some vs =>
    cases vs with
    | nil => exact .inr fun v rest h => nomatch h
    | cons v rest => exact .inl ⟨v, rest, rfl⟩

/-- What another iterator gives is given in the same way. -/
theorem bypasses_next? {j : Nat} (hj : j ≠ i) : Bypasses i (next? j) := by
  have hsame (s : RenderState) (rest : List Value) :
      (s.leave i rest).store.iterators[j]? = s.store.iterators[j]? :=
    List.getElem?_set_ne hj.symm
  have hcomm (s : RenderState) (rest rest' : List Value) :
      (s.leave i rest).leave j rest' = (s.leave j rest').leave i rest := by
    simp only [RenderState.leave]
    rw [List.set_comm _ _ hj.symm]
  constructor
  · intro s
    rcases next?_cases j s with ⟨v, rest, hs⟩ | hs
    · rw [stateAfter_of_ok (next?_of_cons hs)]
      exact List.getElem?_set_ne hj
    · rw [stateAfter_of_ok (next?_of_none hs)]
  · intro s a s' hrun rest
    rcases next?_cases j s with ⟨v, rest', hs⟩ | hs
    · rw [next?_of_cons hs] at hrun
      cases hrun
      rw [next?_of_cons ((hsame s rest).trans hs), hcomm]
    · rw [next?_of_none hs] at hrun
      cases hrun
      exact next?_of_none fun v rest' h => hs v rest' ((hsame s rest).symm.trans h)
  · intro s e s' hrun
    rcases next?_cases j s with ⟨v, rest', hs⟩ | hs
    · rw [next?_of_cons hs] at hrun
      cases hrun
    · rw [next?_of_none hs] at hrun
      cases hrun

theorem bypasses_takeItems {source : Iteration} (hsource : source ≠ .shared i) (count : Nat) :
    Bypasses i (takeItems source count) := by
  induction count with
  | zero => exact .pure []
  | succ count ih =>
    cases source with
    | items vs => exact .pure _
    | range first step n => exact .pure _
    | shared j =>
      have hj : j ≠ i := fun h => hsource (congrArg Iteration.shared h)
      refine (bypasses_next? hj).bind fun v? => ?_
      cases v? with
      | none => exact .pure []
      | some v => exact ih.bind fun _ => .pure _

theorem bypasses_unpackPair {v : Value} (hv : v ≠ .iterator i) : Bypasses i (unpackPair v) := by
  rw [unpackPair]
  split
  · exact .throw _
  next source hsource =>
    have hother : source ≠ .shared i := by
      rintro rfl
      -- only the iterator itself gives its values
      rw [Value.iteration?.eq_def] at hsource
      split at hsource <;> cases hsource
      exact hv rfl
    refine (bypasses_takeItems hother 3).bind fun vs => ?_
    split
    · exact .pure _
    all_goals exact .throw _

/-! ## Attributes -/

theorem bypasses_writeAttribute (id : Nat) (name : Option Text) (v : Value) :
    Bypasses i (writeAttribute id name v) :=
  (bypasses_changeDocument id _).bind fun _ => (bypasses_display v).bind fun _ =>
    bypasses_changeDocument id _

theorem bypasses_writePair (id : Nat) {item : Value} (hitem : item ≠ .iterator i) :
    Bypasses i (writePair id item) := by
  refine (bypasses_unpackPair hitem).bind fun halves => ?_
  refine (bypasses_display halves.1).bind fun name => ?_
  refine (bypasses_writeAttribute id _ _).bind fun _ => ?_
  split
  · exact .throw _
  · exact .pure ()

/-- The items of an iterator, of which the body takes none, are gone through as those of a list are:
what comes after them is what the iterator has still to give. -/
theorem drain_append {body : Value → Render Unit} {before after x : List Value} {s₁ : RenderState}
    (hbody : ∀ item ∈ before, Bypasses i (body item))
    (hs : s.store.iterators[i]? = some (before ++ after))
    (hrun : forItems body before (s.leave i x) = .ok () s₁) (rounds : Nat) :
    drain i body (before.length + rounds) s = drain i body rounds (s₁.leave i after) ∧
      s₁.store.iterators[i]? = some x := by
  induction before generalizing s with
  | nil =>
    cases hrun
    refine ⟨?_, getElem?_leave hs x⟩
    have hleft : s.leave i after = s := leave_of_getElem? hs
    rw [leave_leave, List.length_nil, Nat.zero_add, hleft]
  | cons item before ih =>
    obtain ⟨hitem, hbefore⟩ := List.forall_mem_cons.1 hbody
    obtain ⟨_, t, hfirst, hrest⟩ := bind_eq_ok.1 hrun
    have hgiven : t.store.iterators[i]? = some x := by
      rw [← getElem?_leave hs x]
      exact hitem.keeps.of_ok hfirst
    have hnext : next? i s = .ok (some item) (s.leave i (before ++ after)) := next?_of_cons hs
    -- the body finds what comes after the item still to be given
    have hround :
        body item (s.leave i (before ++ after)) = .ok () (t.leave i (before ++ after)) := by
      have h := hitem.of_ok _ _ _ hfirst (before ++ after)
      rwa [leave_leave] at h
    have hlater : forItems body before ((t.leave i (before ++ after)).leave i x) = .ok () s₁ := by
      rw [leave_leave, leave_of_getElem? hgiven]
      exact hrest
    obtain ⟨hdrain, hleft⟩ := ih hbefore (getElem?_leave hgiven _) hlater
    refine ⟨?_, hleft⟩
    rw [List.length_cons, Nat.add_right_comm, drain, bind_of_ok hnext]
    exact (bind_of_ok hround _).trans hdrain

end Render

end XmlTemplate
