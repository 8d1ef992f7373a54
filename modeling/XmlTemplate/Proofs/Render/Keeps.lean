import XmlTemplate.Proofs.Document.Reach
import XmlTemplate.Proofs.Render.Run
import XmlTemplate.Proofs.Value.Within

/-!
# What a rendering can reach

A script can change a document only if it has got hold of it, by a name of its scope or by a value
that an iterator still has to give. `Keeps A may p Q` says what that comes to for one rendering: run
in a state that refers to the documents in `A` alone, it leaves such a state, performs on every
document that was there no operations but those that `may` allows, and answers what `Q` says. The
rules for putting renderings together are below, and so are the renderings that the store offers.

Documents that are added on the way are not in `A`: nothing is said about them.
-/

set_option autoImplicit false

namespace XmlTemplate

/-- The values of a scope refer to no other documents than those of the given numbers. -/
def Scope.Within (A : Nat → Prop) (scope : Scope) : Prop := ∀ entry ∈ scope, entry.2.Within A

namespace RenderState

/-- The scope and the iterators of a state refer to no other documents than those of the given
numbers. -/
structure Inside (A : Nat → Prop) (s : RenderState) : Prop where
  scope : s.scope.Within A
  iterators : ∀ vs ∈ s.store.iterators, ∀ v ∈ vs, v.Within A

/-- A state comes after another: the documents are still there and have been changed by the allowed
operations alone, and the iterators have given values away. -/
structure Evolves (may : Nat → Operation → Prop) (s s' : RenderState) : Prop where
  documents : ∀ i (d : Document), s.store.documents[i]? = some d →
    ∃ d', s'.store.documents[i]? = some d' ∧ d.Reaches (may i) d'
  iterators : ∀ vs' ∈ s'.store.iterators, ∃ vs ∈ s.store.iterators, ∀ v ∈ vs', v ∈ vs

variable {A B : Nat → Prop} {may may' : Nat → Operation → Prop} {s s₁ s' : RenderState}

theorem Inside.mono (h : s.Inside A) (hAB : ∀ i, A i → B i) : s.Inside B where
  scope entry he := (h.scope entry he).mono hAB
  iterators vs hvs v hv := (h.iterators vs hvs v hv).mono hAB

theorem Evolves.refl (may : Nat → Operation → Prop) (s : RenderState) : s.Evolves may s where
  documents _ d hd := ⟨d, hd, .refl⟩
  iterators vs hvs := ⟨vs, hvs, fun _ hv => hv⟩

theorem Evolves.trans (h : s.Evolves may s₁) (h' : s₁.Evolves may s') : s.Evolves may s' where
  documents i d hd := by
    obtain ⟨d₁, hd₁, hreach₁⟩ := h.documents i d hd
    obtain ⟨d', hd', hreach'⟩ := h'.documents i d₁ hd₁
    exact ⟨d', hd', hreach₁.trans hreach'⟩
  iterators vs' hvs' := by
    obtain ⟨vs₁, hvs₁, hsub'⟩ := h'.iterators vs' hvs'
    obtain ⟨vs, hvs, hsub₁⟩ := h.iterators vs₁ hvs₁
    exact ⟨vs, hvs, fun v hv => hsub₁ v (hsub' v hv)⟩

theorem Evolves.mono (h : s.Evolves may s')
    (hmay : ∀ i d, s.store.documents[i]? = some d → ∀ op, may i op → may' i op) :
    s.Evolves may' s' where
  documents i d hd := by
    obtain ⟨d', hd', hreach⟩ := h.documents i d hd
    exact ⟨d', hd', hreach.mono (hmay i d hd)⟩
  iterators := h.iterators

/-- Where the scope is what it was, the state refers to no more documents than before. -/
theorem Evolves.inside (h : s.Evolves may s') (hs : s.Inside A) (hscope : s'.scope.Within A) :
    s'.Inside A where
  scope := hscope
  iterators vs' hvs' v hv := by
    obtain ⟨vs, hvs, hsub⟩ := h.iterators vs' hvs'
    exact hs.iterators vs hvs v (hsub v hv)

/-- Documents stay in their places. -/
theorem Evolves.length_le (h : s.Evolves may s') :
    s.store.documents.length ≤ s'.store.documents.length := by
  apply Nat.le_of_not_lt
  intro hlt
  have hd := List.getElem?_eq_getElem hlt
  obtain ⟨d', hd', -⟩ := h.documents _ _ hd
  rw [List.getElem?_eq_none (Nat.le_refl _)] at hd'
  cases hd'

end RenderState

namespace Render

open RenderState

variable {α β : Type} {A : Nat → Prop} {may : Nat → Operation → Prop}

/-- A rendering that succeeds in a state that refers to the documents in `A` alone answers what `Q`
says and leaves such a state, which comes after the other by what `may` allows. -/
def Keeps (A : Nat → Prop) (may : Nat → Operation → Prop) (p : Render α) (Q : α → Prop) : Prop :=
  ∀ s a s', s.Inside A → p s = .ok a s' → Q a ∧ s'.Inside A ∧ s.Evolves may s'

/-- A rendering that changes nothing, if it succeeds. -/
def Unchanging (p : Render α) : Prop := ∀ s a s', p s = .ok a s' → s' = s

/-! ## Putting renderings together -/

namespace Keeps

variable {p : Render α} {Q Q' : α → Prop} {R : β → Prop}

theorem pure {a : α} (h : Q a) : Keeps A may (Pure.pure a) Q := by
  intro s b s' hs hrun
  cases hrun
  exact ⟨h, hs, .refl may s⟩

theorem throw (e : Fault) : Keeps A may (MonadExcept.throw e : Render α) Q := by
  intro s b s' _ hrun
  cases hrun

theorem bind {f : α → Render β} (hp : Keeps A may p Q) (hf : ∀ a, Q a → Keeps A may (f a) R) :
    Keeps A may (p >>= f) R := by
  intro s b s' hs hrun
  obtain ⟨a, s₁, hrun₁, hrun'⟩ := bind_eq_ok.1 hrun
  obtain ⟨ha, hs₁, hevolves₁⟩ := hp s a s₁ hs hrun₁
  obtain ⟨hb, hs', hevolves'⟩ := hf a ha s₁ b s' hs₁ hrun'
  exact ⟨hb, hs', hevolves₁.trans hevolves'⟩

theorem throw_bind {f : α → Render β} (e : Fault) :
    Keeps A may (MonadExcept.throw e >>= f) R := by
  intro s b s' _ hrun
  cases hrun

theorem weaken (hp : Keeps A may p Q) (hQ : ∀ a, Q a → Q' a) : Keeps A may p Q' := by
  intro s a s' hs hrun
  obtain ⟨ha, hs', hevolves⟩ := hp s a s' hs hrun
  exact ⟨hQ a ha, hs', hevolves⟩

theorem discard (hp : Keeps A may p Q) : Keeps A may (Functor.discard p) fun _ => True := by
  intro s a s' hs hrun
  have hrun' : (p >>= fun _ => Pure.pure ()) s = .ok a s' := hrun
  obtain ⟨v, s₁, hp₁, hunit⟩ := bind_eq_ok.1 hrun'
  cases hunit
  obtain ⟨-, hs', hevolves⟩ := hp s v s' hs hp₁
  exact ⟨trivial, hs', hevolves⟩

theorem takingRoom {taken : Nat} (hp : Keeps A may p Q) :
    Keeps A may (Render.takingRoom taken p) Q := by
  intro s a s' hs hrun
  obtain ⟨t, hrun', rfl⟩ := takingRoom_eq_ok.1 hrun
  obtain ⟨ha, ht, hevolves⟩ :=
    hp { s with room := s.room - taken } a t ⟨hs.scope, hs.iterators⟩ hrun'
  exact ⟨ha, ⟨ht.scope, ht.iterators⟩, hevolves.documents, hevolves.iterators⟩

/-- In a scope of its own, a rendering may also put into the scope what the state outside does not
refer to. -/
theorem inScope {scope : Scope} (hscope : scope.Within A)
    (hp : ∀ s a s', s.Inside A → p s = .ok a s' → Q a ∧ s.Evolves may s') :
    Keeps A may (Render.inScope scope p) Q := by
  intro s a s' hs hrun
  obtain ⟨t, hrun', rfl⟩ := inScope_eq_ok.1 hrun
  obtain ⟨ha, hevolves⟩ := hp { s with scope } a t ⟨hscope, hs.iterators⟩ hrun'
  have hs' : s.Evolves may { t with scope := s.scope } := ⟨hevolves.documents, hevolves.iterators⟩
  exact ⟨ha, hs'.inside hs hs.scope, hs'⟩

end Keeps

namespace Unchanging

theorem pure (a : α) : Unchanging (Pure.pure a) := by
  intro s b s' hrun
  cases hrun
  rfl

theorem throw (e : Fault) : Unchanging (MonadExcept.throw e : Render α) := by
  intro s b s' hrun
  cases hrun

theorem bind {p : Render α} {f : α → Render β} (hp : Unchanging p)
    (hf : ∀ a, Unchanging (f a)) : Unchanging (p >>= f) := by
  intro s b s' hrun
  obtain ⟨a, s₁, hrun₁, hrun'⟩ := bind_eq_ok.1 hrun
  obtain rfl := hp s a s₁ hrun₁
  exact hf a s₁ b s' hrun'

theorem discard {p : Render α} (hp : Unchanging p) : Unchanging (Functor.discard p) :=
  hp.bind fun _ => pure ()

theorem get : Unchanging (MonadState.get : Render RenderState) := by
  intro s a s' hrun
  cases hrun
  rfl

theorem room : Unchanging Render.room := get.bind fun _ => pure _

theorem documents : Unchanging Render.documents := get.bind fun _ => pure _

theorem keeps {p : Render α} (hp : Unchanging p) : Keeps A may p fun _ => True := by
  intro s a s' hs hrun
  obtain rfl := hp s a s' hrun
  exact ⟨trivial, hs, .refl may s'⟩

end Unchanging

end Render

end XmlTemplate
