import XmlTemplate.Render.Iteration

/-!
# Documents that values refer to

A value refers to documents by their numbers, be it in the items of a list, as the object of a
method or as the unit of a layout. `Value.Within` says that all of them are among given ones. What
is taken out of such a value or put together from such values refers to no others, and only what
these documents hold is seen when the value is shown (`Value.display_congr`).
-/

set_option autoImplicit false

namespace XmlTemplate

namespace Value

mutual

/-- A value refers to no other documents than those of the given numbers. -/
def Within (A : Nat → Prop) : Value → Prop
  | none | bool _ | int _ | float _ | undefined _ | str .. | range .. | iterator _ => True
  | builtin _ | textMethod .. | formatMethod _ => True
  | list _ items | tuple _ items => AllWithin A items
  | dict _ es | entries es | entriesMethod _ es => EntriesWithin A es
  | format unit => Within A unit
  | document id | documentMethod _ id => A id

/-- Values refer to no other documents than those of the given numbers. -/
def AllWithin (A : Nat → Prop) : List Value → Prop
  | [] => True
  | v :: rest => Within A v ∧ AllWithin A rest

/-- Keys and values refer to no other documents than those of the given numbers. -/
def EntriesWithin (A : Nat → Prop) : List (Value × Value) → Prop
  | [] => True
  | (k, v) :: rest => (Within A k ∧ Within A v) ∧ EntriesWithin A rest

end

variable {A B : Nat → Prop}

theorem allWithin_iff {vs : List Value} : AllWithin A vs ↔ ∀ v ∈ vs, v.Within A := by
  induction vs with
  | nil => exact iff_of_true trivial (List.forall_mem_nil _)
  | cons v rest ih => rw [AllWithin, ih, List.forall_mem_cons]

theorem entriesWithin_iff {es : List (Value × Value)} :
    EntriesWithin A es ↔ ∀ e ∈ es, e.1.Within A ∧ e.2.Within A := by
  induction es with
  | nil => exact iff_of_true trivial (List.forall_mem_nil _)
  | cons e rest ih =>
    obtain ⟨k, v⟩ := e
    rw [EntriesWithin, ih, List.forall_mem_cons]

mutual

/-- What refers to some documents alone refers to no others than more of them. -/
theorem Within.mono (hAB : ∀ i, A i → B i) : ∀ v : Value, v.Within A → v.Within B
  | none, _ | bool _, _ | int _, _ | float _, _ | undefined _, _ | str .., _ => trivial
  | range .., _ | iterator _, _ | builtin _, _ | textMethod .., _ | formatMethod _, _ => trivial
  | list _ items, h => AllWithin.mono hAB items h
  | tuple _ items, h => AllWithin.mono hAB items h
  | dict _ es, h => EntriesWithin.mono hAB es h
  | entries es, h => EntriesWithin.mono hAB es h
  | entriesMethod _ es, h => EntriesWithin.mono hAB es h
  | format unit, h => Within.mono hAB unit h
  | document id, h => hAB id h
  | documentMethod _ id, h => hAB id h

theorem AllWithin.mono (hAB : ∀ i, A i → B i) : ∀ vs : List Value, AllWithin A vs → AllWithin B vs
  | [], _ => trivial
  | v :: rest, h => ⟨Within.mono hAB v h.1, AllWithin.mono hAB rest h.2⟩

theorem EntriesWithin.mono (hAB : ∀ i, A i → B i) :
    ∀ es : List (Value × Value), EntriesWithin A es → EntriesWithin B es
  | [], _ => trivial
  | (k, v) :: rest, h =>
    ⟨⟨Within.mono hAB k h.1.1, Within.mono hAB v h.1.2⟩, EntriesWithin.mono hAB rest h.2⟩

end

/-! ## Values as text -/

section Shown

variable {docs docs' : List Document}

mutual

/-- A value is shown alike where the documents are the same that it refers to. -/
theorem shown_congr (h : ∀ i, A i → docs[i]? = docs'[i]?) : ∀ v : Value, v.Within A →
    v.shown docs = v.shown docs'
  | none, _ | bool _, _ | int _, _ | float _, _ | undefined _, _ | str .., _ => rfl
  | range .., _ | iterator _, _ | builtin _, _ | textMethod .., _ | formatMethod _, _ => rfl
  | entriesMethod .., _ => rfl
  | list _ items, hv =>
    congrArg (fun ts => '[' :: Text.commaJoin ts ++ [']']) (shownAll_congr h items hv)
  | tuple _ [], _ => rfl
  | tuple _ [v], hv => congrArg (fun t => '(' :: t ++ [',', ')']) (shown_congr h v hv.1)
  | tuple _ (v :: w :: rest), hv =>
    congrArg (fun ts => '(' :: Text.commaJoin ts ++ [')']) (shownAll_congr h (v :: w :: rest) hv)
  | dict _ es, hv =>
    congrArg (fun ts => '\x7b' :: Text.commaJoin ts ++ ['\x7d']) (shownEntries_congr h es hv)
  | entries es, hv =>
    congrArg (fun ts => "dict_items([".toList ++ Text.commaJoin ts ++ "])".toList)
      (shownPairs_congr h es hv)
  | format unit, hv =>
    congrArg (fun t => "Format(indentation=".toList ++ t ++ [')']) (shown_congr h unit hv)
  | document id, hv =>
    congrArg (fun d? : Option Document => match d? with
      | some d => d.shown
      | Option.none => []) (h id hv)
  | documentMethod m id, hv =>
    congrArg (fun d? : Option Document => "<bound method Document.".toList ++ m.name ++
      " of ".toList ++ (d?.map Document.shown).getD [] ++ ['>']) (h id hv)

theorem shownAll_congr (h : ∀ i, A i → docs[i]? = docs'[i]?) : ∀ vs : List Value,
    AllWithin A vs → shownAll docs vs = shownAll docs' vs
  | [], _ => rfl
  | v :: rest, hv => by
    have hv' : v.shown docs = v.shown docs' := shown_congr h v hv.1
    show v.shown docs :: shownAll docs rest = v.shown docs' :: shownAll docs' rest
    rw [hv', shownAll_congr h rest hv.2]

theorem shownEntries_congr (h : ∀ i, A i → docs[i]? = docs'[i]?) :
    ∀ es : List (Value × Value), EntriesWithin A es → shownEntries docs es = shownEntries docs' es
  | [], _ => rfl
  | (k, v) :: rest, hv => by
    have hk : k.shown docs = k.shown docs' := shown_congr h k hv.1.1
    have hw : v.shown docs = v.shown docs' := shown_congr h v hv.1.2
    show (k.shown docs ++ ':' :: ' ' :: v.shown docs) :: shownEntries docs rest =
      (k.shown docs' ++ ':' :: ' ' :: v.shown docs') :: shownEntries docs' rest
    rw [hk, hw, shownEntries_congr h rest hv.2]

theorem shownPairs_congr (h : ∀ i, A i → docs[i]? = docs'[i]?) :
    ∀ es : List (Value × Value), EntriesWithin A es → shownPairs docs es = shownPairs docs' es
  | [], _ => rfl
  | (k, v) :: rest, hv => by
    have hk : k.shown docs = k.shown docs' := shown_congr h k hv.1.1
    have hw : v.shown docs = v.shown docs' := shown_congr h v hv.1.2
    show ('(' :: k.shown docs ++ ',' :: ' ' :: v.shown docs ++ [')']) :: shownPairs docs rest =
      ('(' :: k.shown docs' ++ ',' :: ' ' :: v.shown docs' ++ [')']) :: shownPairs docs' rest
    rw [hk, hw, shownPairs_congr h rest hv.2]

end

/-- A value is written alike where the documents are the same that it refers to. -/
theorem display_congr {v : Value} (h : ∀ i, A i → docs[i]? = docs'[i]?) (hv : v.Within A) :
    v.display docs = v.display docs' := by
  cases v with
  | str _ s => rfl
  | document id => rw [display, display, h id hv]
  | _ => exact shown_congr h _ hv

end Shown

/-! ## Entries -/

theorem within_of_lookup {key v : Value} {es : List (Value × Value)} (h : EntriesWithin A es)
    (hv : Value.lookup key es = some v) : v.Within A := by
  obtain ⟨e, he, rfl⟩ := Option.map_eq_some_iff.1 hv
  exact (entriesWithin_iff.1 h e (List.mem_of_find?_eq_some he)).2

theorem entriesWithin_insert {key v : Value} {es : List (Value × Value)} (hk : key.Within A)
    (hv : v.Within A) (h : EntriesWithin A es) : EntriesWithin A (Value.insert key v es) := by
  induction es with
  | nil => exact ⟨⟨hk, hv⟩, trivial⟩
  | cons e rest ih =>
    obtain ⟨k, w⟩ := e
    rw [Value.insert]
    split
    · exact ⟨⟨h.1.1, hv⟩, h.2⟩
    · exact ⟨h.1, ih h.2⟩

theorem entriesWithin_insertAll {es new : List (Value × Value)} (h : EntriesWithin A es)
    (hnew : EntriesWithin A new) :
    EntriesWithin A (new.foldl (fun es e => Value.insert e.1 e.2 es) es) := by
  induction new generalizing es with
  | nil => exact h
  | cons e rest ih => exact ih (entriesWithin_insert hnew.1.1 hnew.1.2 h) hnew.2

theorem entriesWithin_of_insertAll? {es new es' : List (Value × Value)} (h : EntriesWithin A es)
    (hnew : EntriesWithin A new) (hinsert : Value.insertAll? es new = some es') :
    EntriesWithin A es' := by
  rw [insertAll?] at hinsert
  split at hinsert
  · cases hinsert
    exact entriesWithin_insertAll h hnew
  · cases hinsert

end Value

/-! ## Items -/

variable {A : Nat → Prop}

/-- Items refer to no other documents than those of the given numbers; those of an iterator are not
known yet. -/
def Iteration.Within (A : Nat → Prop) : Iteration → Prop
  | .items vs => ∀ v ∈ vs, v.Within A
  | .range .. | .shared _ => True

theorem within_pairs {es : List (Value × Value)} (h : Value.EntriesWithin A es) :
    ∀ v ∈ pairs es, v.Within A := by
  intro v hv
  obtain ⟨e, he, rfl⟩ := List.mem_map.1 hv
  obtain ⟨hk, hw⟩ := Value.entriesWithin_iff.1 h e he
  exact ⟨hk, hw, trivial⟩

theorem Value.Within.iteration? {v : Value} {source : Iteration} (h : v.Within A)
    (hsource : v.iteration? = some source) : source.Within A := by
  rw [Value.iteration?.eq_def] at hsource
  split at hsource
  -- the characters of a text refer to nothing
  · cases hsource
    intro w hw
    obtain ⟨c, -, rfl⟩ := List.mem_map.1 hw
    trivial
  · cases hsource
    exact Value.allWithin_iff.1 h
  · cases hsource
    exact Value.allWithin_iff.1 h
  · cases hsource
    intro w hw
    obtain ⟨e, he, rfl⟩ := List.mem_map.1 hw
    exact (Value.entriesWithin_iff.1 h e he).1
  · cases hsource
    exact within_pairs h
  · cases hsource
    trivial
  · cases hsource
    trivial
  · cases hsource

end XmlTemplate
