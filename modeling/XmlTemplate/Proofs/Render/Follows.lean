import XmlTemplate.Proofs.Render.Run
import XmlTemplate.Proofs.Template.Faithful
import XmlTemplate.Proofs.Value.Room

/-!
# One run after the model of another

Two renderings can be the same in effect although one of them has less room, keeps other templates
and works in another scope. `Follows R p q` says so: started in states that differ in nothing else,
with scopes that are related by `R`, the second rendering answers what the first one answers and
does the same to the documents and iterators, or it finds too little room. It is said of runs that
succeed; a rendering that fails is followed by any other.

What is equal at the beginning stays equal for the same reason that makes runs repeatable, so most
renderings follow themselves. The rules for putting renderings together are below.
-/

set_option autoImplicit false

namespace XmlTemplate

/-- Two states that differ in the room, of which the second has no more, in the templates that are
kept, and in the scopes, which are related. -/
structure RenderState.Like (R : Scope → Scope → Prop) (s s' : RenderState) : Prop where
  documents : s'.store.documents = s.store.documents
  iterators : s'.store.iterators = s.store.iterators
  next : s'.store.next = s.store.next
  faithful : s.store.cache.Faithful
  faithful' : s'.store.cache.Faithful
  scope : R s.scope s'.scope
  room_le : s'.room ≤ s.room

/-- A state with a faithful cache is like itself. -/
theorem RenderState.Like.refl {s : RenderState} (h : s.store.cache.Faithful) : s.Like (· = ·) s :=
  ⟨rfl, rfl, rfl, h, h, rfl, Nat.le_refl _⟩

/-- A name means the same in related scopes. -/
def Scope.Sees (R : Scope → Scope → Prop) (x : Text) : Prop :=
  ∀ a b, R a b → a.lookup x = b.lookup x ∧
    (a.lookup x = none → a.lookup Render.builtinsName = b.lookup Render.builtinsName)

/-- Related scopes are related after a name has been bound in both. -/
def Scope.Binds (R : Scope → Scope → Prop) : Prop :=
  ∀ x v a b, R a b → R (Scope.bind x v a) (Scope.bind x v b)

namespace Render

open RenderState

variable {α β : Type} {R S : Scope → Scope → Prop}

/-- From its state, the second rendering does what the first one does from the other, or it finds
too little room. Afterwards the states are alike but for what `R` says of the scopes. -/
def FollowsFrom (R : Scope → Scope → Prop) (s s' : RenderState) (p q : Render α) : Prop :=
  ∀ a t, p s = .ok a t →
    (∃ t', q s' = .ok a t' ∧ t.Like R t') ∨ ∃ e t', q s' = .error e t' ∧ e.IsTooDeep

/-- The second rendering does so from any two states that are alike. -/
def Follows (R : Scope → Scope → Prop) (p q : Render α) : Prop :=
  ∀ s s', s.Like R s' → FollowsFrom R s s' p q

namespace FollowsFrom

variable {p q : Render α} {f g : α → Render β} {s s' : RenderState}

theorem bind (h : FollowsFrom R s s' p q) (hf : ∀ a, Follows R (f a) (g a)) :
    FollowsFrom R s s' (p >>= f) (q >>= g) := by
  intro b t hrun
  obtain ⟨a, s₁, hp, hrest⟩ := bind_eq_ok.1 hrun
  obtain ⟨s₁', hq, hlike₁⟩ | ⟨e, t', hq, he⟩ := h a s₁ hp
  · obtain ⟨t', hrest', hlike'⟩ | ⟨e, t', hrest', he⟩ := hf a s₁ s₁' hlike₁ b t hrest
    · exact .inl ⟨t', bind_eq_ok.2 ⟨a, s₁', hq, hrest'⟩, hlike'⟩
    · exact .inr ⟨e, t', (bind_of_ok hq g).trans hrest', he⟩
  · exact .inr ⟨e, t', bind_of_error hq g, he⟩

/-- What two renderings do alike from one and the same state leaves them in one and the same
state. -/
theorem after (h : ∀ a s₁, p s = .ok a s₁ → FollowsFrom R s₁ s₁ (f a) (g a)) :
    FollowsFrom R s s (p >>= f) (p >>= g) := by
  intro b t hrun
  obtain ⟨a, s₁, hp, hrest⟩ := bind_eq_ok.1 hrun
  rw [bind_of_ok hp g]
  exact h a s₁ hp b t hrest

/-- What the second rendering does is all that matters of it. -/
theorem congr {q' : Render α} {s'' : RenderState} (hq : q s' = q' s'')
    (h : FollowsFrom R s s'' p q') : FollowsFrom R s s' p q := by
  intro a t hrun
  rw [hq]
  exact h a t hrun

theorem takingRoom {taken taken' : Nat} (hroom : s'.room ≤ s.room)
    (h : FollowsFrom R { s with room := s.room - taken } { s' with room := s'.room - taken' } p q) :
    FollowsFrom R s s' (Render.takingRoom taken p) (Render.takingRoom taken' q) := by
  intro a t hrun
  obtain ⟨u, hp, rfl⟩ := takingRoom_eq_ok.1 hrun
  obtain ⟨u', hq, hlike'⟩ | ⟨e, u', hq, he⟩ := h a u hp
  · exact .inl ⟨_, takingRoom_of_ok hq, { hlike' with room_le := hroom }⟩
  · exact .inr ⟨e, _, takingRoom_of_error hq, he⟩

end FollowsFrom

namespace Follows

variable {p q : Render α} {f g : α → Render β}

theorem pure (a : α) : Follows R (Pure.pure a) (Pure.pure a) := by
  intro s s' hlike b t hrun
  cases hrun
  exact .inl ⟨s', rfl, hlike⟩

theorem throw (e : Fault) (q : Render α) : Follows R (MonadExcept.throw e) q := by
  intro s s' _ b t hrun
  cases hrun

theorem throw_bind (e : Fault) (f : α → Render β) (q : Render β) :
    Follows R (MonadExcept.throw e >>= f) q := by
  intro s s' _ b t hrun
  cases hrun

theorem tooDeep (p : Render α) : Follows R p (MonadExcept.throw .tooDeep) :=
  fun _ s' _ _ _ _ => .inr ⟨_, s', rfl, .run⟩

theorem bind (h : Follows R p q) (hf : ∀ a, Follows R (f a) (g a)) :
    Follows R (p >>= f) (q >>= g) :=
  fun s s' hlike => (h s s' hlike).bind hf

theorem discard (h : Follows R p q) : Follows R (Functor.discard p) (Functor.discard q) :=
  h.bind fun _ => .pure ()

theorem takingRoom (h : Follows R p q) (taken : Nat) :
    Follows R (Render.takingRoom taken p) (Render.takingRoom taken q) := by
  intro s s' hlike
  have hless : Like R { s with room := s.room - taken } { s' with room := s'.room - taken } :=
    { hlike with room_le := Nat.sub_le_sub_right hlike.room_le taken }
  exact (h _ _ hless).takingRoom hlike.room_le

/-- In scopes of their own, renderings follow each other by what relates those. -/
theorem inScope {scope scope' : Scope} (hscope : S scope scope') (h : Follows S p q) :
    Follows R (Render.inScope scope p) (Render.inScope scope' q) := by
  intro s s' hlike a t hrun
  obtain ⟨u, hp, rfl⟩ := inScope_eq_ok.1 hrun
  have hinside : Like S { s with scope } { s' with scope := scope' } :=
    { hlike with scope := hscope }
  obtain ⟨u', hq, hlike'⟩ | ⟨e, u', hq, he⟩ := h _ _ hinside a u hp
  · exact .inl ⟨_, inScope_of_ok hq, { hlike' with scope := hlike.scope }⟩
  · exact .inr ⟨e, _, inScope_of_error hq, he⟩

/-! ### What is asked of the state -/

/-- What comes after a look at the state may depend on everything in it, as long as the two follow
each other. -/
theorem get_bind {f g : RenderState → Render α}
    (h : ∀ s s', s.Like R s' → Follows R (f s) (g s')) :
    Follows R (get >>= f) (get >>= g) :=
  fun s s' hlike => h s s' hlike s s' hlike

theorem get_pure {f : RenderState → α} (h : ∀ s s', s.Like R s' → f s' = f s) :
    Follows R (do return f (← get)) (do return f (← get)) := by
  refine .get_bind fun s s' hlike => ?_
  rw [h s s' hlike]
  exact .pure _

theorem modify {f g : RenderState → RenderState}
    (h : ∀ s s', s.Like R s' → (f s).Like R (g s')) :
    Follows R (modify f) (modify g) := by
  intro s s' hlike a t hrun
  cases hrun
  exact .inl ⟨_, rfl, h s s' hlike⟩

/-- What comes after a look at the room may depend on it. -/
theorem room_bind {f g : Nat → Render α}
    (h : ∀ room room', room' ≤ room → Follows R (f room) (g room')) :
    Follows R (room >>= f) (room >>= g) :=
  fun s s' hlike => h s.room s'.room hlike.room_le s s' hlike

/-- What follows itself leaves the cache faithful. -/
theorem faithful {s t : RenderState} {a : α} (h : Follows (· = ·) p p)
    (hs : s.store.cache.Faithful) (hrun : p s = .ok a t) : t.store.cache.Faithful := by
  obtain ⟨t', hrun', hlike⟩ | ⟨e, t', hrun', -⟩ := h s s (.refl hs) a t hrun
  · exact hlike.faithful
  · rw [hrun] at hrun'
    cases hrun'

end Follows

end Render

end XmlTemplate
