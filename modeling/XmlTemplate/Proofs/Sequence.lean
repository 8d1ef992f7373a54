/-!
# Programs one after the other

A program with a state either succeeds with an answer or fails with an error, and leaves a state in
both cases. What a program and one that goes on with its answer do together is said by what each of
them does, once for every way in which the two can end.
-/

set_option autoImplicit false

namespace XmlTemplate

variable {ε σ α β : Type} {s s' : σ}

theorem bind_of_ok {p : EStateM ε σ α} {a : α} (h : p s = .ok a s') (f : α → EStateM ε σ β) :
    (p >>= f) s = f a s' := by
  show EStateM.bind p f s = f a s'
  rw [EStateM.bind, h]

theorem bind_of_error {p : EStateM ε σ α} {e : ε} (h : p s = .error e s')
    (f : α → EStateM ε σ β) : (p >>= f) s = .error e s' := by
  show EStateM.bind p f s = .error e s'
  rw [EStateM.bind, h]

/-- An answer that is dropped is one that what comes next does not look at. -/
theorem discard_bind (p : EStateM ε σ α) (g : Unit → EStateM ε σ β) :
    (discard p >>= g) = p >>= fun _ => g () := by
  funext s
  show EStateM.bind (EStateM.map (fun _ => ()) p) g s = EStateM.bind p (fun _ => g ()) s
  rw [EStateM.bind, EStateM.map, EStateM.bind]
  cases p s <;> rfl

/-- A run and one that goes on with its answer succeed if and only if both do. -/
theorem bind_eq_ok {p : EStateM ε σ α} {f : α → EStateM ε σ β} {b : β} :
    (p >>= f) s = .ok b s' ↔ ∃ a s₁, p s = .ok a s₁ ∧ f a s₁ = .ok b s' := by
  constructor
  · intro h
    cases hp : p s with
    | ok a s₁ =>
      rw [bind_of_ok hp] at h
      exact ⟨a, s₁, rfl, h⟩
    | error e s₁ =>
      rw [bind_of_error hp] at h
      cases h
  · rintro ⟨a, s₁, hp, hf⟩
    rw [bind_of_ok hp]
    exact hf

/-- They fail if and only if the first one does, or it succeeds and the other fails. -/
theorem bind_eq_error {p : EStateM ε σ α} {f : α → EStateM ε σ β} {e : ε} :
    (p >>= f) s = .error e s' ↔
      p s = .error e s' ∨ ∃ a s₁, p s = .ok a s₁ ∧ f a s₁ = .error e s' := by
  constructor
  · intro h
    cases hp : p s with
    | ok a s₁ =>
      rw [bind_of_ok hp] at h
      exact .inr ⟨a, s₁, rfl, h⟩
    | error e₁ s₁ =>
      rw [bind_of_error hp] at h
      cases h
      exact .inl rfl
  · rintro (hp | ⟨a, s₁, hp, hf⟩)
    · exact bind_of_error hp f
    · rw [bind_of_ok hp]
      exact hf

end XmlTemplate
