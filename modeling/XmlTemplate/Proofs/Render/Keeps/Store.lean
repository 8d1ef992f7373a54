import XmlTemplate.Proofs.Render.Keeps

/-!
# What the renderings of a store can reach

Names and iterators give values that the state has held; new values hold what they are made of;
comparing and showing change nothing; and a document is changed by the operation that is asked for.
-/

set_option autoImplicit false

namespace XmlTemplate

namespace Scope

variable {A : Nat → Prop} {scope : Scope}

theorem within_bind {x : Text} {v : Value} (h : scope.Within A) (hv : v.Within A) :
    (Scope.bind x v scope).Within A := by
  induction scope with
  | nil =>
    intro entry he
    rw [List.mem_singleton.1 he]
    exact hv
  | cons entry rest ih =>
    obtain ⟨y, w⟩ := entry
    obtain ⟨hw, hrest⟩ := List.forall_mem_cons.1 h
    rw [Scope.bind]
    split
    · exact List.forall_mem_cons.2 ⟨hv, hrest⟩
    · exact List.forall_mem_cons.2 ⟨hw, ih hrest⟩

theorem within_bindAll {names : List (Text × Value)} (h : scope.Within A)
    (hnames : Scope.Within A names) : (scope.bindAll names).Within A := by
  rw [bindAll]
  induction names generalizing scope with
  | nil => exact h
  | cons entry rest ih =>
    obtain ⟨hv, hrest⟩ := List.forall_mem_cons.1 hnames
    exact ih (within_bind h hv) hrest

theorem within_of_lookup {x : Text} {v : Value} (h : scope.Within A)
    (hv : scope.lookup x = some v) : v.Within A := by
  induction scope with
  | nil => cases hv
  | cons entry rest ih =>
    obtain ⟨y, w⟩ := entry
    obtain ⟨hw, hrest⟩ := List.forall_mem_cons.1 h
    rw [List.lookup_cons] at hv
    split at hv
    · cases hv
      exact hw
    · exact ih hrest hv

end Scope

namespace RenderState

variable {A : Nat → Prop} {may : Nat → Operation → Prop} {s : RenderState}

theorem evolves_put {id : Nat} {d e : Document} (hd : s.store.documents[id]? = some d)
    (h : d.Reaches (may id) e) : s.Evolves may (s.put id e) where
  documents i d' hd' := by
    obtain ⟨hid, -⟩ := List.getElem?_eq_some_iff.1 hd
    by_cases hi : i = id
    · subst hi
      rw [hd] at hd'
      cases hd'
      exact ⟨e, Render.getElem?_put hid e, h⟩
    · refine ⟨d', ?_, .refl⟩
      rw [← hd']
      exact List.getElem?_set_ne (Ne.symm hi)
  iterators vs hvs := ⟨vs, hvs, fun _ hv => hv⟩

theorem inside_put {id : Nat} {e : Document} (h : s.Inside A) : (s.put id e).Inside A :=
  ⟨h.scope, h.iterators⟩

end RenderState

namespace Render

open RenderState

variable {α : Type} {A : Nat → Prop} {may : Nat → Operation → Prop}

/-! ## Names -/

theorem keeps_get : Keeps A may get fun s => s.Inside A := by
  intro s a s' hs hrun
  cases hrun
  exact ⟨hs, hs, .refl may _⟩

theorem keeps_modify {f : RenderState → RenderState}
    (hf : ∀ s, s.Inside A → (f s).Inside A ∧ s.Evolves may (f s)) :
    Keeps A may (modify f) fun _ => True := by
  intro s u s' hs hrun
  cases hrun
  obtain ⟨hs', hevolves⟩ := hf s hs
  exact ⟨trivial, hs', hevolves⟩

theorem keeps_bindName {x : Text} {v : Value} (hv : v.Within A) :
    Keeps A may (bindName x v) fun _ => True :=
  keeps_modify fun s hs =>
    ⟨⟨Scope.within_bind hs.scope hv, hs.iterators⟩, (Evolves.refl may s).documents,
      (Evolves.refl may s).iterators⟩

theorem keeps_valueOf (x : Text) : Keeps A may (valueOf x) (Value.Within A) := by
  refine keeps_get.bind fun s hs => ?_
  dsimp only
  split
  next v hv => exact .pure (Scope.within_of_lookup hs.scope hv)
  next =>
    split
    · exact .pure trivial
    · exact .throw _
  next id es hes =>
    split
    next v hv => exact .pure (Value.within_of_lookup (Scope.within_of_lookup hs.scope hes) hv)
    next => exact .throw _
  next => exact .throw _

/-! ## Documents -/

theorem unchanging_document (id : Nat) : Unchanging (document id) := by
  intro s d s' hrun
  exact (document_eq_ok.1 hrun).2

theorem unchanging_orViolation (answer : Except Violation α) : Unchanging (orViolation answer) := by
  cases answer with
  | ok a => exact .pure a
  | error v => exact .throw _

theorem keeps_changeDocument {id : Nat} {f : Document → Except Violation Document}
    (hf : ∀ d e, f d = .ok e → d.Reaches (may id) e) :
    Keeps A may (changeDocument id f) fun _ => True := by
  intro s u s' hs hrun
  obtain ⟨d, e, hd, he, rfl⟩ := changeDocument_eq_ok.1 hrun
  exact ⟨trivial, inside_put hs, evolves_put hd (hf d e he)⟩

theorem unchanging_readDocument (id : Nat) : Unchanging (readDocument id) := by
  refine (unchanging_document id).bind fun d => ?_
  split
  · exact .pure _
  · exact .throw _

theorem unchanging_readComplete (id : Nat) : Unchanging (readComplete id) := by
  refine (unchanging_document id).bind fun d => ?_
  exact (unchanging_orViolation d.complete).discard.bind fun _ => unchanging_readDocument id

/-! ## Values -/

theorem unchanging_checkShown (v : Value) : Unchanging (checkShown v) := by
  refine Unchanging.room.bind fun room => ?_
  split
  · exact .throw _
  · exact .pure _

theorem unchanging_display (v : Value) : Unchanging (display v) := by
  rw [display.eq_def]
  split
  · exact .pure _
  · exact unchanging_readDocument _
  · exact (unchanging_checkShown _).bind fun _ => Unchanging.documents.bind fun _ => .pure _

theorem unchanging_shown (v : Value) : Unchanging (shown v) :=
  (unchanging_checkShown v).bind fun _ => Unchanging.documents.bind fun _ => .pure _

theorem keeps_fresh : Keeps A may fresh fun _ => True := by
  intro s n s' hs hrun
  cases hrun
  exact ⟨trivial, ⟨hs.scope, hs.iterators⟩, (Evolves.refl may s).documents,
    (Evolves.refl may s).iterators⟩

theorem keeps_newText (t : Text) : Keeps A may (newText t) (Value.Within A) :=
  keeps_fresh.bind fun _ _ => .pure trivial

theorem keeps_cutText (t : Text) : Keeps A may (cutText t) (Value.Within A) := by
  refine keeps_fresh.bind fun n _ => .pure ?_
  rw [Value.cutText.eq_def]
  split <;> trivial

theorem keeps_newList {items : List Value} (h : ∀ v ∈ items, v.Within A) :
    Keeps A may (newList items) (Value.Within A) :=
  keeps_fresh.bind fun _ _ => .pure (Value.allWithin_iff.2 h)

theorem keeps_newTuple {items : List Value} (h : ∀ v ∈ items, v.Within A) :
    Keeps A may (newTuple items) (Value.Within A) :=
  keeps_fresh.bind fun _ _ => .pure (Value.allWithin_iff.2 h)

theorem keeps_newDict {entries : List (Value × Value)} (h : Value.EntriesWithin A entries) :
    Keeps A may (newDict entries) (Value.Within A) :=
  keeps_fresh.bind fun _ _ => .pure h

theorem keeps_makeDict {entries : List (Value × Value)} (h : Value.EntriesWithin A entries) :
    Keeps A may (makeDict entries) (Value.Within A) := by
  rw [makeDict]
  split
  next es hes =>
    have hnil : Value.EntriesWithin A [] := trivial
    exact keeps_newDict (Value.entriesWithin_of_insertAll? hnil h hes)
  next => exact .throw _

theorem unchanging_orFault (answer : Except Fault Bool) : Unchanging (orFault answer) := by
  cases answer with
  | ok b => exact .pure b
  | error fault => exact .throw fault

theorem unchanging_areEqual (v w : Value) : Unchanging (areEqual v w) :=
  Unchanging.room.bind fun _ => unchanging_orFault _

theorem unchanging_areSame (v w : Value) : Unchanging (areSame v w) :=
  Unchanging.room.bind fun _ => unchanging_orFault _

theorem unchanging_isAmong (v : Value) (ws : List Value) : Unchanging (isAmong v ws) := by
  induction ws with
  | nil => exact .pure _
  | cons w rest ih =>
    refine (unchanging_areSame w v).bind fun b => ?_
    split
    · exact .pure _
    · exact ih

/-! ## Iterators and templates -/

theorem keeps_next? (id : Nat) : Keeps A may (next? id) fun v? => ∀ v ∈ v?, v.Within A := by
  intro s v? s' hs hrun
  obtain ⟨s₀, s₁, hget, hnext⟩ := bind_eq_ok.1 hrun
  cases hget
  cases hvs : s.store.iterators[id]? with
  | none =>
    rw [hvs] at hnext
    cases hnext
    exact ⟨fun _ hv => (nomatch hv), hs, .refl may s⟩
  | some vs =>
    rw [hvs] at hnext
    cases vs with
    | nil =>
      cases hnext
      exact ⟨fun _ hv => (nomatch hv), hs, .refl may s⟩
    | cons v rest =>
      have hmem := List.mem_of_getElem? hvs
      obtain ⟨u, s₂, hmodify, hpure⟩ := bind_eq_ok.1 hnext
      cases hmodify
      cases hpure
      -- what is left of the iterator is what it would have given later
      have hevolves : s.Evolves may
          { s with store.iterators := s.store.iterators.set id rest } := by
        refine ⟨(Evolves.refl may s).documents, fun vs' hvs' => ?_⟩
        rcases List.mem_or_eq_of_mem_set hvs' with hvs' | rfl
        · exact ⟨vs', hvs', fun _ hv => hv⟩
        · exact ⟨v :: vs', hmem, fun _ hv => List.mem_cons_of_mem v hv⟩
      refine ⟨fun w hw => ?_, hevolves.inside hs hs.scope, hevolves⟩
      cases hw
      exact hs.iterators _ hmem v List.mem_cons_self

theorem unchanging_left (id : Nat) : Unchanging (left id) := Unchanging.get.bind fun _ => .pure _

theorem keeps_compile (room : Nat) (source : Text) (settings : Settings) :
    Keeps A may (compile room source settings) fun _ => True := by
  refine keeps_get.bind fun s _ => ?_
  have hmodify (cache : Cache) : Keeps A may
      (modify fun s => { s with store.cache := cache }) fun _ => True :=
    keeps_modify fun s hs =>
      ⟨⟨hs.scope, hs.iterators⟩, (Evolves.refl may s).documents, (Evolves.refl may s).iterators⟩
  refine (hmodify _).bind fun _ _ => ?_
  split
  · exact .pure trivial
  · exact .throw _

end Render

end XmlTemplate
