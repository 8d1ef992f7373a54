import XmlTemplate.Proofs.Render.Keeps.Store

/-!
# What going through items can reach

A body that is run on items reaches what it reaches on each of them. The items refer to no other
documents than the value they are taken from or, where that is an iterator, the state.
-/

set_option autoImplicit false

namespace XmlTemplate

namespace Render

variable {A : Nat → Prop} {may : Nat → Operation → Prop}

section Body

variable {body : Value → Render Unit}
  (hbody : ∀ v, v.Within A → Keeps A may (body v) fun _ => True)

include hbody

theorem keeps_drain (id rounds : Nat) : Keeps A may (drain id body rounds) fun _ => True := by
  induction rounds with
  | zero => exact .pure trivial
  | succ rounds ih =>
    refine (keeps_next? id).bind fun v? hv => ?_
    cases v? with
    | none => exact .pure trivial
    | some v => exact (hbody v (hv v rfl)).bind fun _ _ => ih

theorem keeps_forItems {vs : List Value} (hvs : ∀ v ∈ vs, v.Within A) :
    Keeps A may (forItems body vs) fun _ => True := by
  induction vs with
  | nil => exact .pure trivial
  | cons v rest ih =>
    obtain ⟨hv, hrest⟩ := List.forall_mem_cons.1 hvs
    exact (hbody v hv).bind fun _ _ => ih hrest

theorem keeps_forRange (first step : Int) (count : Nat) :
    Keeps A may (forRange body first step count) fun _ => True := by
  induction count generalizing first with
  | zero => exact .pure trivial
  | succ count ih => exact (hbody (.int first) trivial).bind fun _ _ => ih (first + step)

theorem keeps_forEach {source : Iteration} (hsource : source.Within A) :
    Keeps A may (forEach source body) fun _ => True := by
  cases source with
  | items vs => exact keeps_forItems hbody hsource
  | range first step count => exact keeps_forRange hbody first step count
  | shared id => exact (unchanging_left id).keeps.bind fun _ _ => keeps_drain hbody id _

end Body

theorem keeps_takeItems {source : Iteration} (hsource : source.Within A) (count : Nat) :
    Keeps A may (takeItems source count) fun vs => ∀ v ∈ vs, v.Within A := by
  induction count with
  | zero => exact .pure (List.forall_mem_nil _)
  | succ count ih =>
    cases source with
    | items vs => exact .pure fun v hv => hsource v (List.mem_of_mem_take hv)
    | range first step n =>
      refine .pure fun v hv => ?_
      obtain ⟨i, -, rfl⟩ := List.mem_map.1 hv
      trivial
    | shared id =>
      refine (keeps_next? id).bind fun v? hv => ?_
      cases v? with
      | none => exact .pure (List.forall_mem_nil _)
      | some v =>
        exact ih.bind fun vs hvs => .pure (List.forall_mem_cons.2 ⟨hv v rfl, hvs⟩)

theorem keeps_allItems {source : Iteration} (hsource : source.Within A) :
    Keeps A may (allItems source) fun vs => ∀ v ∈ vs, v.Within A := by
  cases source with
  | items vs => exact .pure hsource
  | range first step count => exact keeps_takeItems hsource count
  | shared id => exact (unchanging_left id).keeps.bind fun n _ => keeps_takeItems hsource n

theorem keeps_unpackPair {v : Value} (hv : v.Within A) :
    Keeps A may (unpackPair v) fun pair => pair.1.Within A ∧ pair.2.Within A := by
  rw [unpackPair]
  split
  · exact .throw _
  next source hsource =>
    refine (keeps_takeItems (hv.iteration? hsource) 3).bind fun vs hvs => ?_
    split
    next a b =>
      exact .pure ⟨hvs a List.mem_cons_self, hvs b (List.mem_cons_of_mem a List.mem_cons_self)⟩
    all_goals exact .throw _

theorem keeps_seek (id : Nat) (v : Value) (rounds : Nat) :
    Keeps A may (seek id v rounds) fun _ => True := by
  induction rounds with
  | zero => exact .pure trivial
  | succ rounds ih =>
    refine (keeps_next? id).bind fun w? _ => ?_
    cases w? with
    | none => exact .pure trivial
    | some w =>
      refine (unchanging_areSame w v).keeps.bind fun b _ => ?_
      split
      · exact .pure trivial
      · exact ih

end Render

end XmlTemplate
