import XmlTemplate.Value.Basic

/-!
# Comparing and showing in less room

How much room there is makes no difference to what comparing two values says, as long as it is
enough: in less room the answer is the same, or there is none because the values are too deep
(`Value.sameWithin_less`, `Value.lessWithin_less`). And what can be shown can be shown in less room
as well, if it is not too deep for that (`Value.obstacle?_less`).
-/

set_option autoImplicit false

namespace XmlTemplate

/-- The fault of whatever finds too little room, reading a template included. -/
inductive Fault.IsTooDeep : Fault → Prop
  | run : IsTooDeep .tooDeep
  | read (place : Option Span) : IsTooDeep (.parse ⟨.tooDeep, place⟩)

namespace Value

/-- The second comparison says what the first one says, or it finds too little room. -/
def Follows (x y : Except Fault Bool) : Prop := ∀ b, x = .ok b → y = .ok b ∨ y = .error .tooDeep

section Rules

variable {x y f g : Except Fault Bool}

theorem Follows.refl (x : Except Fault Bool) : Follows x x := fun _ h => .inl h

theorem Follows.of_error (fault : Fault) (y : Except Fault Bool) : Follows (.error fault) y :=
  fun _ h => nomatch h

theorem Follows.tooDeep (x : Except Fault Bool) : Follows x (.error .tooDeep) := fun _ _ => .inr rfl

/-- Comparing goes on after two values that are the same. -/
theorem Follows.andThen (h : Follows f g) : Follows x y →
    Follows (match x with | .ok true => f | answer => answer)
      (match y with | .ok true => g | answer => answer) := by
  intro hxy b hb
  rcases x with _ | _ | _
  · cases hb
  · obtain rfl | rfl := hxy false rfl
    · exact .inl hb
    · exact .inr rfl
  · obtain rfl | rfl := hxy true rfl
    · exact h b hb
    · exact .inr rfl

/-- It ends with two values that are not. -/
theorem Follows.ends (h : x = .ok true → False) : Follows x y →
    Follows x (match y with | .ok true => g | answer => answer) := by
  intro hxy b hb
  cases b with
  | true => exact (h hb).elim
  | false => obtain rfl | rfl := hxy false hb <;> exact hxy false hb

/-- What is one and the same is not compared. -/
theorem Follows.unless {same : Prop} [Decidable same] (h : Follows x y) :
    Follows (if same then .ok true else x) (if same then .ok true else y) := by
  split
  · exact .refl _
  · exact h

end Rules

/-! ## Equality -/

theorem equalWithin_zero (v w : Value) : v.equalWithin 0 w = .error .tooDeep := by
  rw [equalWithin]

/-- Without any room there is nothing left to show. -/
theorem follows_equalWithin {v w : Value} {room room' : Nat} (hroom : room' ≤ room + 1)
    (h : ∀ left ≤ room, Follows (v.equalWithin (room + 1) w) (v.equalWithin (left + 1) w)) :
    Follows (v.equalWithin (room + 1) w) (v.equalWithin room' w) := by
  cases room' with
  | zero =>
    rw [equalWithin_zero]
    exact .tooDeep _
  | succ left => exact h left (Nat.le_of_succ_le_succ hroom)

/-- Equality of values, the entries of dictionaries and the items of sequences in less room. The
cases are those of the definitions, and values that hold no other ones are compared alike in any
room. -/
theorem equality_less :
    (∀ room v w, ∀ room' ≤ room, Follows (equalWithin room v w) (equalWithin room' v w)) ∧
    (∀ room xs ys, ∀ room' ≤ room, Follows (includedIn room xs ys) (includedIn room' xs ys)) ∧
    ∀ room xs ys, ∀ room' ≤ room, Follows (matchesAll room xs ys) (matchesAll room' xs ys) := by
  refine equalWithin.mutual_induct
    (fun room v w => ∀ room' ≤ room, Follows (equalWithin room v w) (equalWithin room' v w))
    (fun room xs ys => ∀ room' ≤ room, Follows (includedIn room xs ys) (includedIn room' xs ys))
    (fun room xs ys => ∀ room' ≤ room, Follows (matchesAll room xs ys) (matchesAll room' xs ys))
    ?noRoom ?none ?text ?list ?listLength ?tuple ?dict ?dictLength ?entries ?entriesLength ?range
    ?iterator ?layoutSame ?layout ?document ?builtin ?textMethod ?entriesMethod ?documentMethod
    ?formatMethod ?number ?other ?ends ?identical ?equal ?unequal ?ragged ?nothing ?missing ?found
    ?otherValue ?otherKey
  case noRoom =>
    intro v w room' _
    rw [equalWithin_zero]
    exact .of_error _ _
  -- values that hold others
  case list =>
    intro room _ xs _ ys hlength ih room' hroom
    refine follows_equalWithin hroom fun left hleft => ?_
    simp only [equalWithin, if_pos hlength]
    exact ih left hleft
  case tuple =>
    intro room _ xs _ ys ih room' hroom
    refine follows_equalWithin hroom fun left hleft => ?_
    simp only [equalWithin]
    exact ih left hleft
  case dict =>
    intro room _ xs _ ys hlength ih room' hroom
    refine follows_equalWithin hroom fun left hleft => ?_
    simp only [equalWithin, if_pos hlength]
    exact ih left hleft
  case entries =>
    intro room xs ys hlength ih room' hroom
    refine follows_equalWithin hroom fun left hleft => ?_
    simp only [equalWithin, if_pos hlength]
    exact ih left hleft
  case layout =>
    intro room u v hother ih room' hroom
    refine follows_equalWithin hroom fun left hleft => ?_
    simp only [equalWithin, if_neg hother]
    exact ih _ (Nat.sub_le_sub_right hleft _)
  -- the items of sequences
  case identical =>
    intro room x xs y ys hsame ih room' hroom
    simp only [matchesAll, if_pos hsame]
    exact ih room' hroom
  case equal =>
    intro room x xs y ys hother _ ih ihRest room' hroom
    simp only [matchesAll, if_neg hother]
    exact .andThen (ihRest room' hroom) (ih room' hroom)
  case unequal =>
    intro room x xs y ys hother hunequal ih room' hroom
    simp only [matchesAll, if_neg hother]
    exact .ends hunequal (ih room' hroom)
  case ragged =>
    intro room xs ys hnil hcons room' _
    rw [matchesAll.eq_3 _ _ _ hnil hcons, matchesAll.eq_3 _ _ _ hnil hcons]
    exact .refl _
  -- the entries of dictionaries
  case missing =>
    intro room k v rest ys hfind _ room' _
    simp only [includedIn, hfind]
    exact .refl _
  case found =>
    intro room k v rest ys key w hfind _ _ _ ihKey ihValue ihRest room' hroom
    simp only [includedIn, hfind]
    exact .andThen (.andThen (ihRest room' hroom) (ihValue room' hroom).unless)
      (ihKey room' hroom).unless
  case otherValue =>
    intro room k v rest ys key w hfind _ hunequal _ ihKey ihValue room' hroom
    simp only [includedIn, hfind]
    exact .andThen (.ends hunequal (ihValue room' hroom).unless) (ihKey room' hroom).unless
  case otherKey =>
    intro room k v rest ys key w hfind hunequal _ ihKey room' hroom
    simp only [includedIn, hfind]
    exact .ends hunequal (ihKey room' hroom).unless
  case nothing | ends =>
    intros
    simp only [includedIn, matchesAll]
    exact .refl _
  -- values of different kinds, numbers among them
  case number =>
    intro room v w h₁ h₂ h₃ h₄ h₅ h₆ h₇ h₈ h₉ h₁₀ h₁₁ h₁₂ h₁₃ h₁₄ h₁₅ _ _ _ _ room' hroom
    refine follows_equalWithin hroom fun left _ => ?_
    rw [equalWithin.eq_17 v w room h₁ h₂ h₃ h₄ h₅ h₆ h₇ h₈ h₉ h₁₀ h₁₁ h₁₂ h₁₃ h₁₄ h₁₅,
      equalWithin.eq_17 v w left h₁ h₂ h₃ h₄ h₅ h₆ h₇ h₈ h₉ h₁₀ h₁₁ h₁₂ h₁₃ h₁₄ h₁₅]
    exact .refl _
  case other =>
    intro room v w h₁ h₂ h₃ h₄ h₅ h₆ h₇ h₈ h₉ h₁₀ h₁₁ h₁₂ h₁₃ h₁₄ h₁₅ _ room' hroom
    refine follows_equalWithin hroom fun left _ => ?_
    rw [equalWithin.eq_17 v w room h₁ h₂ h₃ h₄ h₅ h₆ h₇ h₈ h₉ h₁₀ h₁₁ h₁₂ h₁₃ h₁₄ h₁₅,
      equalWithin.eq_17 v w left h₁ h₂ h₃ h₄ h₅ h₆ h₇ h₈ h₉ h₁₀ h₁₁ h₁₂ h₁₃ h₁₄ h₁₅]
    exact .refl _
  -- values that hold no others
  all_goals
    intros
    rename_i hroom
    refine follows_equalWithin hroom fun left _ => ?_
    simp only [equalWithin, *]
    exact .refl _

variable {room room' : Nat}

theorem equalWithin_less (hroom : room' ≤ room) (v w : Value) :
    Follows (v.equalWithin room w) (v.equalWithin room' w) :=
  equality_less.1 room v w room' hroom

theorem includedIn_less (hroom : room' ≤ room) (xs ys : List (Value × Value)) :
    Follows (includedIn room xs ys) (includedIn room' xs ys) :=
  equality_less.2.1 room xs ys room' hroom

theorem sameWithin_less (hroom : room' ≤ room) (v w : Value) :
    Follows (v.sameWithin room w) (v.sameWithin room' w) := by
  rw [sameWithin, sameWithin]
  exact (equalWithin_less hroom v w).unless

/-! ## Order -/

theorem lessWithin_zero (v w : Value) : v.lessWithin 0 w = .error .tooDeep := by
  rw [lessWithin]

theorem follows_lessWithin {v w : Value} {room room' : Nat} (hroom : room' ≤ room + 1)
    (h : ∀ left ≤ room, Follows (v.lessWithin (room + 1) w) (v.lessWithin (left + 1) w)) :
    Follows (v.lessWithin (room + 1) w) (v.lessWithin room' w) := by
  cases room' with
  | zero =>
    rw [lessWithin_zero]
    exact .tooDeep _
  | succ left => exact h left (Nat.le_of_succ_le_succ hroom)

/-- The order of values and of lists of them in less room. -/
theorem order_less :
    (∀ room v w, ∀ room' ≤ room, Follows (lessWithin room v w) (lessWithin room' v w)) ∧
    ∀ room xs ys, ∀ room' ≤ room, Follows (lessAll room xs ys) (lessAll room' xs ys) := by
  refine lessWithin.mutual_induct
    (fun room v w => ∀ room' ≤ room, Follows (lessWithin room v w) (lessWithin room' v w))
    (fun room xs ys => ∀ room' ≤ room, Follows (lessAll room xs ys) (lessAll room' xs ys))
    ?noRoom ?text ?list ?tuple ?entries ?entriesLength ?number ?undefined ?other ?noneRight
    ?noneLeft ?same ?differing ?refused
  case noRoom =>
    intro v w room' _
    rw [lessWithin_zero]
    exact .of_error _ _
  case text =>
    intro room _ s _ t room' hroom
    refine follows_lessWithin hroom fun left _ => ?_
    simp only [lessWithin]
    exact .refl _
  case list | tuple =>
    intro room _ xs _ ys ih room' hroom
    refine follows_lessWithin hroom fun left hleft => ?_
    simp only [lessWithin]
    exact ih left hleft
  case entries =>
    intro room xs ys hlength room' hroom
    refine follows_lessWithin hroom fun left hleft => ?_
    simp only [lessWithin, if_pos hlength]
    exact includedIn_less hleft xs ys
  case entriesLength =>
    intro room xs ys hlength room' hroom
    refine follows_lessWithin hroom fun left _ => ?_
    simp only [lessWithin, if_neg hlength]
    exact .refl _
  -- values of different kinds, numbers among them
  case number =>
    intro room v w htext hlist htuple hentries _ _ _ _ room' hroom
    refine follows_lessWithin hroom fun left _ => ?_
    rw [lessWithin.eq_6 v w room htext hlist htuple hentries,
      lessWithin.eq_6 v w left htext hlist htuple hentries]
    exact .refl _
  case undefined | other =>
    intro room v w htext hlist htuple hentries _ _ room' hroom
    refine follows_lessWithin hroom fun left _ => ?_
    rw [lessWithin.eq_6 v w room htext hlist htuple hentries,
      lessWithin.eq_6 v w left htext hlist htuple hentries]
    exact .refl _
  -- lists, which differ in the first items that are not the same
  case noneRight | noneLeft =>
    intros
    simp only [lessAll]
    exact .refl _
  case same =>
    intro room x xs y ys hsame ih room' hroom
    obtain hsame' | hdeep := sameWithin_less hroom x y true hsame
    · simp only [lessAll, hsame, hsame']
      exact ih room' hroom
    · simp only [lessAll, hdeep]
      exact .tooDeep _
  case differing =>
    intro room x xs y ys hother ih room' hroom
    obtain hother' | hdeep := sameWithin_less hroom x y false hother
    · simp only [lessAll, hother, hother']
      exact ih room' hroom
    · simp only [lessAll, hdeep]
      exact .tooDeep _
  case refused =>
    intro room x xs y ys fault hrefused room' _
    simp only [lessAll, hrefused]
    exact .of_error _ _

theorem lessWithin_less (hroom : room' ≤ room) (v w : Value) :
    Follows (v.lessWithin room w) (v.lessWithin room' w) :=
  order_less.1 room v w room' hroom

/-! ## Showing -/

/-- Nothing keeps a value from being shown but, perhaps, how deep it is. -/
def IsShownOrDeep (obstacle : Option Fault) : Prop :=
  obstacle = Option.none ∨ obstacle = some .tooDeep

theorem IsShownOrDeep.or {obstacle obstacle' : Option Fault} (h : IsShownOrDeep obstacle)
    (h' : IsShownOrDeep obstacle') : IsShownOrDeep (obstacle.or obstacle') := by
  obtain rfl | rfl := h
  · exact h'
  · exact .inr rfl

theorem isShownOrDeep_obstacle? {v : Value} {room room' : Nat} (hroom : room' ≤ room + 1)
    (h : ∀ left ≤ room, IsShownOrDeep (v.obstacle? (left + 1))) :
    IsShownOrDeep (v.obstacle? room') := by
  cases room' with
  | zero =>
    rw [obstacle?]
    exact .inr rfl
  | succ left => exact h left (Nat.le_of_succ_le_succ hroom)

/-- Values and lists of values and entries in less room. -/
theorem showing_less :
    (∀ room (v : Value), ∀ room' ≤ room, v.obstacle? room = Option.none →
      IsShownOrDeep (v.obstacle? room')) ∧
    (∀ room es, ∀ room' ≤ room, obstacleInEntries? room es = Option.none →
      IsShownOrDeep (obstacleInEntries? room' es)) ∧
    ∀ room vs, ∀ room' ≤ room, obstacleIn? room vs = Option.none →
      IsShownOrDeep (obstacleIn? room' vs) := by
  refine obstacle?.mutual_induct
    (fun room v => ∀ room' ≤ room, v.obstacle? room = Option.none →
      IsShownOrDeep (v.obstacle? room'))
    (fun room es => ∀ room' ≤ room, obstacleInEntries? room es = Option.none →
      IsShownOrDeep (obstacleInEntries? room' es))
    (fun room vs => ∀ room' ≤ room, obstacleIn? room vs = Option.none →
      IsShownOrDeep (obstacleIn? room' vs))
    ?noRoom ?longNumber ?number ?list ?tuple ?dict ?entries ?longRange ?range ?layout ?other
    ?nothing ?item ?noEntry ?entry
  case noRoom =>
    intro v room' _ h
    rw [obstacle?] at h
    cases h
  -- numbers are as long as they are
  case longNumber =>
    intro room n hlong room' _ h
    rw [obstacle?, if_pos hlong] at h
    cases h
  case longRange =>
    intro room first stop step hlong room' _ h
    rw [obstacle?, if_pos hlong] at h
    cases h
  case number =>
    intro room n hshort room' hroom _
    refine isShownOrDeep_obstacle? hroom fun left _ => ?_
    rw [obstacle?, if_neg hshort]
    exact .inl rfl
  case range =>
    intro room first stop step hshort room' hroom _
    refine isShownOrDeep_obstacle? hroom fun left _ => ?_
    rw [obstacle?, if_neg hshort]
    exact .inl rfl
  -- values that hold others
  case list | tuple =>
    intro room _ items ih room' hroom h
    rw [obstacle?] at h
    refine isShownOrDeep_obstacle? hroom fun left hleft => ?_
    rw [obstacle?]
    exact ih left hleft h
  case dict =>
    intro room _ es ih room' hroom h
    rw [obstacle?] at h
    refine isShownOrDeep_obstacle? hroom fun left hleft => ?_
    rw [obstacle?]
    exact ih left hleft h
  case entries =>
    intro room es ih room' hroom h
    rw [obstacle?] at h
    refine isShownOrDeep_obstacle? hroom fun left hleft => ?_
    rw [obstacle?]
    exact ih _ (Nat.sub_le_sub_right hleft _) h
  case layout =>
    intro room unit ih room' hroom h
    rw [obstacle?] at h
    refine isShownOrDeep_obstacle? hroom fun left hleft => ?_
    rw [obstacle?]
    exact ih _ (Nat.sub_le_sub_right hleft _) h
  case other =>
    intro v room hint hlist htuple hdict hentries hrange hformat room' hroom _
    refine isShownOrDeep_obstacle? hroom fun left _ => ?_
    rw [obstacle?.eq_9 v left hint hlist htuple hdict hentries hrange hformat]
    exact .inl rfl
  case nothing =>
    intro room room' _ _
    rw [obstacleIn?]
    exact .inl rfl
  case noEntry =>
    intro room room' _ _
    rw [obstacleInEntries?]
    exact .inl rfl
  case item =>
    intro room v rest ih ihRest room' hroom h
    rw [obstacleIn?, Option.or_eq_none_iff] at h
    rw [obstacleIn?]
    exact (ih room' hroom h.1).or (ihRest room' hroom h.2)
  case entry =>
    intro room k v rest ihKey ih ihRest room' hroom h
    rw [obstacleInEntries?, Option.or_eq_none_iff, Option.or_eq_none_iff] at h
    rw [obstacleInEntries?]
    exact (ihKey room' hroom h.1).or ((ih room' hroom h.2.1).or (ihRest room' hroom h.2.2))

theorem obstacle?_less {room room' : Nat} (hroom : room' ≤ room) {v : Value}
    (h : v.obstacle? room = Option.none) : IsShownOrDeep (v.obstacle? room') :=
  showing_less.1 room v room' hroom h

end Value

end XmlTemplate
