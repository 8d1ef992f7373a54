import XmlTemplate.Proofs.Render.Follows.Store

/-!
# Following runs over items

Bodies that follow each other on every item follow each other on all of them, and the same items are
taken from sequences, ranges and iterators.
-/

set_option autoImplicit false

namespace XmlTemplate

namespace Render

variable {R : Scope → Scope → Prop}

section Body

variable {body body' : Value → Render Unit} (hbody : ∀ v, Follows R (body v) (body' v))

include hbody

theorem follows_drain (id rounds : Nat) :
    Follows R (drain id body rounds) (drain id body' rounds) := by
  induction rounds with
  | zero => exact .pure ()
  | succ rounds ih =>
    refine (follows_next? id).bind fun v? => ?_
    cases v? with
    | none => exact .pure ()
    | some v => exact (hbody v).bind fun _ => ih

theorem follows_forItems (vs : List Value) :
    Follows R (forItems body vs) (forItems body' vs) := by
  induction vs with
  | nil => exact .pure ()
  | cons v rest ih => exact (hbody v).bind fun _ => ih

theorem follows_forRange (first step : Int) (count : Nat) :
    Follows R (forRange body first step count) (forRange body' first step count) := by
  induction count generalizing first with
  | zero => exact .pure ()
  | succ count ih => exact (hbody (.int first)).bind fun _ => ih (first + step)

theorem follows_forEach (source : Iteration) :
    Follows R (forEach source body) (forEach source body') := by
  cases source with
  | items vs => exact follows_forItems hbody vs
  | range first step count => exact follows_forRange hbody first step count
  | shared id => exact (follows_left id).bind fun rounds => follows_drain hbody id rounds

end Body

theorem follows_takeItems (source : Iteration) (count : Nat) :
    Follows R (takeItems source count) (takeItems source count) := by
  induction count with
  | zero => exact .pure _
  | succ count ih =>
    cases source with
    | items vs => exact .pure _
    | range first step n => exact .pure _
    | shared id =>
      refine (follows_next? id).bind fun v? => ?_
      cases v? with
      | none => exact .pure _
      | some v => exact ih.bind fun vs => .pure _

theorem follows_allItems (source : Iteration) :
    Follows R (allItems source) (allItems source) := by
  cases source with
  | items vs => exact .pure _
  | range first step count => exact follows_takeItems _ count
  | shared id => exact (follows_left id).bind fun n => follows_takeItems _ n

theorem follows_unpackPair (v : Value) : Follows R (unpackPair v) (unpackPair v) := by
  rw [unpackPair]
  split
  · exact .throw _ _
  next source _ =>
    refine (follows_takeItems source 3).bind fun vs => ?_
    split
    · exact .pure _
    all_goals exact .throw _ _

theorem follows_seek (id : Nat) (v : Value) (rounds : Nat) :
    Follows R (seek id v rounds) (seek id v rounds) := by
  induction rounds with
  | zero => exact .pure _
  | succ rounds ih =>
    refine (follows_next? id).bind fun w? => ?_
    cases w? with
    | none => exact .pure _
    | some w =>
      refine (follows_areSame w v).bind fun b => ?_
      split
      · exact .pure _
      · exact ih

end Render

end XmlTemplate
