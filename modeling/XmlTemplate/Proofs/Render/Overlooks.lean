import XmlTemplate.Proofs.Render.Run
import XmlTemplate.Proofs.Value.Within

/-!
# Renderings that overlook a document

What a value is shown as, which items it has and which name it is does not depend on a document that
neither the value nor an iterator refers to. `Overlooks id p Q` says so of one rendering: where it
succeeds, it does so with any document in the place of the given number, with the same answer, and
leaves the documents as they are. The answer is what `Q` says.
-/

set_option autoImplicit false

namespace XmlTemplate

namespace Render

variable {α β : Type} {id : Nat}

/-- No iterator has a value to give that refers to the document of the given number. -/
def Clear (id : Nat) (s : RenderState) : Prop :=
  ∀ vs ∈ s.store.iterators, ∀ v ∈ vs, v.Within (· ≠ id)

/-- A rendering that goes on in the same way, if it succeeds, whatever document has the given
number. -/
def Overlooks (id : Nat) (p : Render α) (Q : α → Prop) : Prop :=
  ∀ s a s', Clear id s → p s = .ok a s' →
    Q a ∧ Clear id s' ∧ s'.store.documents = s.store.documents ∧
      ∀ e, p (s.put id e) = .ok a (s'.put id e)

/-! ## Putting renderings together -/

namespace Overlooks

variable {p : Render α} {Q Q' : α → Prop} {R : β → Prop}

theorem pure {a : α} (h : Q a) : Overlooks id (Pure.pure a) Q := by
  intro s b s' hs hrun
  cases hrun
  exact ⟨h, hs, rfl, fun _ => rfl⟩

theorem throw (e : Fault) : Overlooks id (MonadExcept.throw e : Render α) Q := by
  intro s b s' _ hrun
  cases hrun

theorem bind {f : α → Render β} (hp : Overlooks id p Q) (hf : ∀ a, Q a → Overlooks id (f a) R) :
    Overlooks id (p >>= f) R := by
  intro s b s' hs hrun
  obtain ⟨a, s₁, hrun₁, hrun'⟩ := bind_eq_ok.1 hrun
  obtain ⟨ha, hs₁, hdocuments₁, hother₁⟩ := hp s a s₁ hs hrun₁
  obtain ⟨hb, hs', hdocuments', hother'⟩ := hf a ha s₁ b s' hs₁ hrun'
  refine ⟨hb, hs', hdocuments'.trans hdocuments₁, fun e => ?_⟩
  rw [bind_of_ok (hother₁ e)]
  exact hother' e

/-- What fails in the end does not succeed, whatever it looks at before. -/
theorem bind_throw (f : α → Fault) :
    Overlooks id (p >>= fun a => (MonadExcept.throw (f a) : Render β)) R := by
  intro s b s' _ hrun
  obtain ⟨a, s₁, -, hrun'⟩ := bind_eq_ok.1 hrun
  cases hrun'

theorem room : Overlooks id Render.room fun _ => True := by
  intro s a s' hs hrun
  cases hrun
  exact ⟨trivial, hs, rfl, fun _ => rfl⟩

end Overlooks

/-! ## Values -/

theorem getElem?_set_other {docs : List Document} {i : Nat} (hi : i ≠ id) (e : Document) :
    (docs.set id e)[i]? = docs[i]? :=
  List.getElem?_set_ne fun h => hi h.symm

/-- Another document than the one in question is looked up alike. -/
theorem overlooks_document {i : Nat} (hi : i ≠ id) :
    Overlooks id (document i) fun _ => True := by
  intro s d s' hs hrun
  obtain ⟨hd, rfl⟩ := document_eq_ok.1 hrun
  refine ⟨trivial, hs, rfl, fun e => document_of_getElem? ?_⟩
  exact (getElem?_set_other hi e).trans hd

theorem overlooks_readDocument {i : Nat} (hi : i ≠ id) :
    Overlooks id (readDocument i) fun _ => True := by
  refine (overlooks_document hi).bind fun d _ => ?_
  split
  · exact .pure trivial
  · exact .throw _

theorem overlooks_checkShown (v : Value) : Overlooks id (checkShown v) fun _ => True := by
  refine Overlooks.room.bind fun r _ => ?_
  split
  · exact .throw _
  · exact .pure trivial

theorem overlooks_display {v : Value} (hv : v.Within (· ≠ id)) :
    Overlooks id (display v) fun _ => True := by
  rw [display.eq_def]
  split
  · exact .pure trivial
  · exact overlooks_readDocument hv
  next =>
    refine (overlooks_checkShown v).bind fun _ _ => ?_
    intro s t s' hs hrun
    cases hrun
    refine ⟨trivial, hs, rfl, fun e => congrArg (EStateM.Result.ok · (s.put id e)) ?_⟩
    exact Value.display_congr (fun i hi => getElem?_set_other hi e) hv

/-! ## Items -/

theorem overlooks_next? (i : Nat) :
    Overlooks id (next? i) fun v? => ∀ v ∈ v?, v.Within (· ≠ id) := by
  intro s v? s' hs hrun
  obtain ⟨s₀, s₁, hget, hnext⟩ := bind_eq_ok.1 hrun
  cases hget
  have hstart (e : Document) : (get : Render RenderState) (s.put id e) =
      .ok (s.put id e) (s.put id e) := rfl
  have hsame (e : Document) : (s.put id e).store.iterators[i]? = s.store.iterators[i]? := rfl
  cases hvs : s.store.iterators[i]? with
  | none =>
    rw [hvs] at hnext
    cases hnext
    refine ⟨fun _ hv => (nomatch hv), hs, rfl, fun e => ?_⟩
    rw [next?, bind_of_ok (hstart e), hsame, hvs]
    rfl
  | some vs =>
    rw [hvs] at hnext
    cases vs with
    | nil =>
      cases hnext
      refine ⟨fun _ hv => (nomatch hv), hs, rfl, fun e => ?_⟩
      rw [next?, bind_of_ok (hstart e), hsame, hvs]
      rfl
    | cons v rest =>
      have hmem := List.mem_of_getElem? hvs
      obtain ⟨u, s₂, hmodify, hpure⟩ := bind_eq_ok.1 hnext
      cases hmodify
      cases hpure
      refine ⟨fun w hw => ?_, fun ws hws w hw => ?_, rfl, fun e => ?_⟩
      · cases hw
        exact hs _ hmem v List.mem_cons_self
      · -- what is left of the iterator is what it would have given later
        rcases List.mem_or_eq_of_mem_set hws with hws | rfl
        · exact hs ws hws w hw
        · exact hs _ hmem w (List.mem_cons_of_mem v hw)
      · rw [next?, bind_of_ok (hstart e), hsame, hvs]
        rfl

theorem overlooks_left (i : Nat) : Overlooks id (left i) fun _ => True := by
  intro s n s' hs hrun
  cases hrun
  exact ⟨trivial, hs, rfl, fun _ => rfl⟩

theorem overlooks_takeItems {source : Iteration} (hsource : source.Within (· ≠ id)) (count : Nat) :
    Overlooks id (takeItems source count) fun vs => ∀ v ∈ vs, v.Within (· ≠ id) := by
  induction count with
  | zero => exact .pure (List.forall_mem_nil _)
  | succ count ih =>
    cases source with
    | items vs => exact .pure fun v hv => hsource v (List.mem_of_mem_take hv)
    | range first step n =>
      refine .pure fun v hv => ?_
      obtain ⟨i, -, rfl⟩ := List.mem_map.1 hv
      trivial
    | shared i =>
      refine (overlooks_next? i).bind fun v? hv => ?_
      cases v? with
      | none => exact .pure (List.forall_mem_nil _)
      | some v => exact ih.bind fun vs hvs => .pure (List.forall_mem_cons.2 ⟨hv v rfl, hvs⟩)

theorem overlooks_unpackPair {v : Value} (hv : v.Within (· ≠ id)) :
    Overlooks id (unpackPair v) fun pair => pair.1.Within (· ≠ id) ∧ pair.2.Within (· ≠ id) := by
  rw [unpackPair]
  split
  · exact .throw _
  next source hsource =>
    refine (overlooks_takeItems (hv.iteration? hsource) 3).bind fun vs hvs => ?_
    split
    next a b =>
      exact .pure ⟨hvs a List.mem_cons_self, hvs b (List.mem_cons_of_mem a List.mem_cons_self)⟩
    all_goals exact .throw _

/-! ## Names -/

theorem overlooks_nameParts (vs : List Value) : Overlooks id (nameParts vs) fun _ => True := by
  induction vs with
  | nil => exact .pure trivial
  | cons v rest ih =>
    rw [nameParts.eq_def]
    split
    · exact .pure trivial
    next heq =>
      cases heq
      split
      · exact ih
      · exact .pure trivial
    · exact .throw _

/-- A name that is a text is the text that was given for it. -/
theorem overlooks_nameOf (v : Value) :
    Overlooks id (nameOf v) fun name => ∀ x ∈ name, ∃ mark, v = .str mark x := by
  have hfaulty : Overlooks id
      (do throw (.violation (.invalidName (← display v))) : Render (Option Text))
      fun name => ∀ x ∈ name, ∃ mark, v = .str mark x := .bind_throw _
  rw [nameOf.eq_def]
  dsimp only
  generalize (do throw (.violation (.invalidName (← display v))) : Render (Option Text)) = faulty
    at hfaulty ⊢
  have hparts (c : Char) (rest : List Value) : Overlooks id
      (if isNameStart c.toNat = true then do
        if ← nameParts rest then return none else faulty
      else faulty) fun name => ∀ x ∈ name, ∃ mark, v = .str mark x := by
    split
    · refine (overlooks_nameParts rest).bind fun b _ => ?_
      split
      · exact .pure fun _ hx => (nomatch hx)
      · exact hfaulty
    · exact hfaulty
  split
  next mark s =>
    split
    · refine .pure fun x hx => ?_
      cases hx
      exact ⟨mark, rfl⟩
    · exact hfaulty
  next =>
    split
    · exact hfaulty
    · split
      · exact hparts _ _
      · exact hparts _ _
      · split
        · exact .throw _
        · split
          · exact .throw _
          · exact hfaulty
        · exact .throw _
      · exact .throw _

end Render

end XmlTemplate
