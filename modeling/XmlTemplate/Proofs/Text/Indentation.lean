import XmlTemplate.Proofs.Text.Margin

/-!
# Indented lines

Putting a margin before the lines of a text goes row by row, although a row may hold several lines:
a line feed ends a line wherever it stands (`rows_indentLines`). The end of a line that is added to a
text is added to the indented text (`indentLines_concat`), so that an indented text ends as it did
before (`getLast?_indentLines`), and a margin that a text has already stays in front of the one that
it gets (`length_indentLines_append`).
-/

set_option autoImplicit false

namespace XmlTemplate

open Text

variable {s t r m p : Text} {c : Char}

/-! ## Blanks that end lines or make margins -/

theorem isBlank_of_isLineEnd (h : isLineEnd c = true) : isBlank c = true := by
  simp only [isLineEnd, Bool.or_eq_true, beq_iff_eq] at h
  rcases h with ((((((((h | h) | h) | h) | h) | h) | h) | h) | h) | h <;> rw [h] <;> decide

theorem isBlank_of_isMargin (h : isMargin c = true) : isBlank c = true := by
  simp only [isMargin, Bool.or_eq_true, beq_iff_eq] at h
  rcases h with rfl | rfl <;> decide

theorem isLineEnd_of_isMargin (h : isMargin c = true) : isLineEnd c = false := by
  simp only [isMargin, Bool.or_eq_true, beq_iff_eq] at h
  rcases h with rfl | rfl <;> decide

theorem notMem_of_isMargin (h : ∀ c ∈ m, isMargin c = true) : '\n' ∉ m := by
  intro hmem
  exact absurd (h _ hmem) (by decide)

theorem allBlank_append (s t : Text) : Text.allBlank (s ++ t) = (s.allBlank && t.allBlank) :=
  List.all_append

theorem allBlank_newline (t : Text) : Text.allBlank ('\n' :: t) = t.allBlank := by
  have hblank : isBlank '\n' = true := by decide
  simp only [Text.allBlank, List.all_cons, hblank, Bool.true_and]

theorem allBlank_of_isMargin (h : ∀ c ∈ m, isMargin c = true) : m.allBlank = true :=
  List.all_eq_true.2 fun c hc => isBlank_of_isMargin (h c hc)

/-- A row that is not blank has more than a margin. -/
theorem all_isMargin_of_filled (h : r.allBlank = false) : r.all isMargin = false := by
  rw [Bool.eq_false_iff]
  intro hall
  rw [allBlank_of_isMargin (List.all_eq_true.1 hall)] at h
  cases h

/-- A row that is not blank has a margin, be it an empty one. -/
theorem margins_ne_nil_of_filled (hr : r ∈ rows s) (h : r.allBlank = false) : margins s ≠ [] := by
  have hmargin : margin? r = some (r.takeWhile isMargin) :=
    margin?_eq_some.2 ⟨all_isMargin_of_filled h, rfl⟩
  exact List.ne_nil_of_mem (List.mem_filterMap.2 ⟨r, hr, hmargin⟩)

theorem allBlank_dropWhileEnd {q : Char → Bool} (hq : ∀ c, q c = true → isBlank c = true)
    (s : Text) : (dropWhileEnd q s).allBlank = s.allBlank := by
  obtain ⟨w, hw, hend, -⟩ := dropWhileEnd_spec q s
  have hblank : w.allBlank = true := List.all_eq_true.2 fun c hc => hq c (hend c hc)
  have hsplit := congrArg allBlank hw
  rw [allBlank_append, hblank, Bool.and_true] at hsplit
  exact hsplit.symm

/-- A text is as blank as what is left of it without blanks at its ends. -/
theorem allBlank_trimWhile {q : Char → Bool} (hq : ∀ c, q c = true → isBlank c = true) (s : Text) :
    (s.trimWhile q).allBlank = s.allBlank := by
  have hstart : allBlank (s.takeWhile q) = true :=
    List.all_eq_true.2 fun c hc => hq c (List.all_eq_true.1 List.all_takeWhile c hc)
  have hsplit := congrArg allBlank (List.takeWhile_append_dropWhile (p := q) (l := s))
  rw [allBlank_append, hstart, Bool.true_and] at hsplit
  rw [trimWhile, allBlank_dropWhileEnd hq, hsplit]

/-! ## The lines of a text -/

theorem lines_cons (hc : isLineEnd c = false) (s : Text) :
    lines (c :: s) = match lines s with
      | [] => [[c]]
      | l :: rest => (c :: l) :: rest := by
  rw [lines]
  · exact (if_neg (by simp [hc])).trans (by cases lines s <;> rfl)
  · rintro _ rfl
    exact absurd hc (by decide)

theorem lines_ne_nil (h : s ≠ []) : lines s ≠ [] := by
  intro hnil
  have hjoin := flatten_lines s
  rw [hnil] at hjoin
  exact h hjoin.symm

theorem lines_newline (t : Text) : lines ('\n' :: t) = ['\n'] :: lines t := by
  rw [lines]
  · rfl
  · rintro _ h
    cases h

/-- A line feed ends a line, whatever stands before it. -/
theorem lines_append_newline (s t : Text) :
    lines (s ++ '\n' :: t) = lines (s ++ ['\n']) ++ lines t := by
  fun_induction lines s with
  | case1 => rw [List.nil_append, List.nil_append, lines_newline, lines_newline]; rfl
  | case2 s ih => simp only [List.cons_append, lines, ih]
  | case3 c s hreturn hc ih =>
    cases s with
    | nil =>
      -- a carriage return goes with the line feed that follows
      by_cases hr : c = '\r'
      · subst hr
        rfl
      · have hstep : ∀ x, lines (c :: '\n' :: x) = [c] :: lines ('\n' :: x) := by
          intro x
          rw [lines, if_pos hc]
          intro s' hc'
          exact absurd hc' hr
        simp only [List.cons_append, List.nil_append, hstep, lines_newline]
        rfl
    | cons d s =>
      have hstep : ∀ x, lines (c :: d :: x) = [c] :: lines (d :: x) := by
        intro x
        rw [lines, if_pos hc]
        rintro s' hc' hd
        obtain ⟨rfl, rfl⟩ := List.cons.inj hd
        exact hreturn s hc' rfl
      simp only [List.cons_append] at ih ⊢
      rw [hstep, hstep, ih, List.cons_append]
  | case4 c s _ hc hs ih =>
    rw [Bool.not_eq_true] at hc
    rw [List.cons_append, List.cons_append, lines_cons hc, lines_cons hc, ih]
    cases hline : lines (s ++ ['\n']) with
    | nil => exact absurd hline (lines_ne_nil (by simp))
    | cons l rest => rfl
  | case5 c s _ hc l rest hs ih =>
    rw [Bool.not_eq_true] at hc
    rw [List.cons_append, List.cons_append, lines_cons hc, lines_cons hc, ih]
    cases hline : lines (s ++ ['\n']) with
    | nil => exact absurd hline (lines_ne_nil (by simp))
    | cons l rest => rfl

/-- The end of a line that comes after a text is a line of its own, or it goes to the last one. -/
theorem lines_concat (hc : isLineEnd c = true) (s : Text) :
    lines (s ++ [c]) = lines s ++ [[c]] ∨
      ∃ ls l, lines s = ls ++ [l] ∧ lines (s ++ [c]) = ls ++ [l ++ [c]] := by
  have hsingle : lines [c] = [[c]] := by
    rw [lines, if_pos hc]
    · rfl
    · intro s' _ h
      cases h
  fun_induction lines s with
  | case1 => exact .inl hsingle
  | case2 s ih =>
    rcases ih with ih | ⟨ls, l, hs, ih⟩
    · left
      simp only [List.cons_append, lines, ih]
    · right
      refine ⟨['\r', '\n'] :: ls, l, ?_, ?_⟩
      · rw [hs, List.cons_append]
      · simp only [List.cons_append, lines, ih]
  | case3 d s hreturn hd ih =>
    cases s with
    | nil =>
      by_cases hpair : d = '\r' ∧ c = '\n'
      · obtain ⟨rfl, rfl⟩ := hpair
        exact .inr ⟨[], ['\r'], rfl, rfl⟩
      · left
        have hstep : lines [d, c] = [d] :: lines [c] := by
          rw [lines, if_pos hd]
          rintro s' hd' hc'
          exact hpair ⟨hd', (List.cons.inj hc').1⟩
        rw [List.cons_append, List.nil_append, hstep, hsingle]
        rfl
    | cons e s =>
      have hstep : lines (d :: e :: (s ++ [c])) = [d] :: lines (e :: (s ++ [c])) := by
        rw [lines, if_pos hd]
        rintro s' hd' he
        obtain ⟨rfl, -⟩ := List.cons.inj he
        exact hreturn s hd' rfl
      simp only [List.cons_append] at ih ⊢
      rcases ih with ih | ⟨ls, l, hs, ih⟩
      · left
        rw [hstep, ih]
      · right
        refine ⟨[d] :: ls, l, ?_, ?_⟩
        · rw [hs, List.cons_append]
        · rw [hstep, ih, List.cons_append]
  | case4 d s _ hd hs ih =>
    rw [Bool.not_eq_true] at hd
    obtain rfl : s = [] := by
      cases s with
      | nil => rfl
      | cons e s => exact absurd hs (lines_ne_nil (List.cons_ne_nil e s))
    right
    refine ⟨[], [d], rfl, ?_⟩
    rw [List.cons_append, List.nil_append, lines_cons hd, hsingle]
    rfl
  | case5 d s _ hd l rest hs ih =>
    rw [Bool.not_eq_true] at hd
    rw [List.cons_append, lines_cons hd]
    rcases ih with ih | ⟨ls, l', hs', ih⟩
    · left
      rw [ih, hs]
      rfl
    · right
      rw [hs] at hs'
      cases ls with
      | nil =>
        obtain ⟨rfl, rfl⟩ := List.cons.inj hs'
        refine ⟨[], d :: l, rfl, ?_⟩
        rw [ih]
        rfl
      | cons l₀ ls =>
        obtain ⟨rfl, rfl⟩ := List.cons.inj hs'
        refine ⟨(d :: l) :: ls, l', rfl, ?_⟩
        rw [ih]
        rfl

/-! ## Margins before lines -/

/-- A line with a margin before it, if it is not blank. -/
def padRow (m r : Text) : Text := if r.allBlank then r else m ++ r

theorem padRow_of_filled (h : r.allBlank = false) : padRow m r = m ++ r := if_neg (by simp [h])

theorem indentLines_eq (m s : Text) : indentLines m s = (lines s).flatMap (padRow m) := rfl

theorem padRow_concat (hc : isBlank c = true) (m r : Text) :
    padRow m (r ++ [c]) = padRow m r ++ [c] := by
  have hblank : Text.allBlank (r ++ [c]) = Text.allBlank r := by
    simp [Text.allBlank, hc]
  rw [padRow, padRow, hblank]
  split
  · rfl
  · rw [List.append_assoc]

/-- The end of a line after a text comes after the indented text. -/
theorem indentLines_concat (hc : isLineEnd c = true) (m s : Text) :
    indentLines m (s ++ [c]) = indentLines m s ++ [c] := by
  have hblank := isBlank_of_isLineEnd hc
  simp only [indentLines_eq]
  rcases lines_concat hc s with hlines | ⟨ls, l, hs, hlines⟩
  · rw [hlines, List.flatMap_append, List.flatMap_singleton, padRow, if_pos]
    simp [Text.allBlank, hblank]
  · rw [hlines, hs, List.flatMap_append, List.flatMap_append, List.flatMap_singleton,
      List.flatMap_singleton, padRow_concat hblank, List.append_assoc]

theorem indentLines_append_newline (m s t : Text) :
    indentLines m (s ++ '\n' :: t) = indentLines m s ++ '\n' :: indentLines m t := by
  have hrow := indentLines_concat (c := '\n') (by decide) m s
  rw [indentLines_eq, lines_append_newline, List.flatMap_append, ← indentLines_eq, ← indentLines_eq,
    hrow, List.append_assoc]
  rfl

theorem mem_indentLines (h : c ∈ indentLines m s) : c ∈ m ∨ c ∈ s := by
  obtain ⟨l, hl, hc⟩ := List.mem_flatMap.1 h
  have hmem : c ∈ m ∨ c ∈ l := by
    split at hc
    · exact .inr hc
    · exact List.mem_append.1 hc
  rcases hmem with hm | hl'
  · exact .inl hm
  · right
    rw [← flatten_lines s]
    exact List.mem_flatten.2 ⟨l, hl, hl'⟩

theorem notMem_indentLines (hm : '\n' ∉ m) (hs : '\n' ∉ s) : '\n' ∉ indentLines m s := by
  intro hmem
  rcases mem_indentLines hmem with h | h
  · exact hm h
  · exact hs h

/-- A text with several rows is indented row by row. -/
theorem rows_indentLines (hm : '\n' ∉ m) (s : Text) :
    rows (indentLines m s) = (rows s).map (indentLines m) := by
  induction s using rows_induction with
  | single r hr =>
    rw [rows_of_notMem hr, rows_of_notMem (notMem_indentLines hm hr)]
    rfl
  | more r t hr ih =>
    rw [indentLines_append_newline, rows_append_cons, rows_append_cons,
      rows_of_notMem (notMem_indentLines hm hr), rows_of_notMem hr, ih]
    rfl

/-- No line of a text is empty. -/
theorem ne_nil_of_mem_lines {l : Text} (h : l ∈ lines s) : l ≠ [] := by
  fun_induction lines s with
  | case1 => cases h
  | case2 s ih =>
    rcases List.mem_cons.1 h with rfl | h
    · exact List.cons_ne_nil _ _
    · exact ih h
  | case3 c s _ _ ih =>
    rcases List.mem_cons.1 h with rfl | h
    · exact List.cons_ne_nil _ _
    · exact ih h
  | case4 c s _ _ hs _ =>
    rw [List.mem_singleton.1 h]
    exact List.cons_ne_nil _ _
  | case5 c s _ _ l' rest hs ih =>
    rcases List.mem_cons.1 h with rfl | h
    · exact List.cons_ne_nil _ _
    · exact ih (hs ▸ List.mem_cons_of_mem _ h)

theorem getLast?_padRow (m r : Text) : (padRow m r).getLast? = r.getLast? := by
  rw [padRow]
  split
  · rfl
  · cases r with
    | nil => rename_i h; exact absurd rfl h
    | cons c r => rw [List.getLast?_append, List.getLast?_cons]; rfl

/-- An indented text ends as it did before. -/
theorem getLast?_indentLines (m s : Text) : (indentLines m s).getLast? = s.getLast? := by
  by_cases hs : s = []
  · rw [hs]
    rfl
  · obtain ⟨ls, l, hlines⟩ : ∃ ls l, lines s = ls ++ [l] :=
      ⟨_, _, (List.dropLast_concat_getLast (lines_ne_nil hs)).symm⟩
    have hl : l ≠ [] := ne_nil_of_mem_lines (hlines ▸ List.mem_append_right ls (List.mem_singleton_self l))
    have hsplit : s = ls.flatten ++ l := by
      rw [← flatten_lines s, hlines, List.flatten_append, List.flatten_singleton]
    -- both texts end in their last line
    have hlast : ∀ x y : Text, y ≠ [] → (x ++ y).getLast? = y.getLast? := by
      intro x y hy
      obtain ⟨c, hc⟩ := Option.isSome_iff_exists.1 (List.getLast?_isSome.2 hy)
      rw [List.getLast?_append, hc]
      rfl
    have hpad : padRow m l ≠ [] := by
      intro hnil
      have := getLast?_padRow m l
      rw [hnil] at this
      exact hl (List.getLast?_eq_none_iff.1 this.symm)
    rw [indentLines_eq, hlines, List.flatMap_append, List.flatMap_singleton, hlast _ _ hpad,
      getLast?_padRow, hsplit, hlast _ _ hl]

theorem allBlank_padRow (hm : m.allBlank = true) (r : Text) :
    (padRow m r).allBlank = r.allBlank := by
  rw [padRow]
  split
  · rfl
  · rw [allBlank_append, hm, Bool.true_and]

/-- A text is as blank as it is with a margin of blanks. -/
theorem allBlank_indentLines (hm : m.allBlank = true) (s : Text) :
    (indentLines m s).allBlank = s.allBlank := by
  have hall : ∀ ls : List Text, Text.allBlank (ls.flatMap (padRow m)) = Text.allBlank ls.flatten := by
    intro ls
    induction ls with
    | nil => rfl
    | cons l ls ih =>
      rw [List.flatMap_cons, List.flatten_cons, allBlank_append, allBlank_append, ih,
        allBlank_padRow hm]
  rw [indentLines_eq, hall, flatten_lines]

/-- A margin that a text has in front already is kept. -/
theorem length_indentLines_append (hp : ∀ c ∈ p, isMargin c = true) (m s : Text) :
    (indentLines m (p ++ s)).length = p.length + (indentLines m s).length := by
  induction p with
  | nil => rw [List.nil_append, List.length_nil, Nat.zero_add]
  | cons c p ih =>
    obtain ⟨hc, hp⟩ := List.forall_mem_cons.1 hp
    have hpad : ∀ l, (padRow m (c :: l)).length = (padRow m l).length + 1 := by
      intro l
      have hblank : Text.allBlank (c :: l) = Text.allBlank l := by
        simp [Text.allBlank, isBlank_of_isMargin hc]
      rw [padRow, padRow, hblank]
      split
      · rfl
      · simp only [List.length_append, List.length_cons]
        omega
    have hstep : (indentLines m (c :: (p ++ s))).length = (indentLines m (p ++ s)).length + 1 := by
      rw [indentLines_eq, indentLines_eq, lines_cons (isLineEnd_of_isMargin hc)]
      cases lines (p ++ s) with
      | nil =>
        show (padRow m [c] ++ []).length = 0 + 1
        rw [List.append_nil]
        exact hpad []
      | cons l rest =>
        simp only [List.flatMap_cons, List.length_append, hpad]
        omega
    rw [List.cons_append, hstep, ih hp, List.length_cons]
    omega

/-- A margin before the filled lines makes a text longer, unless all of its lines are blank. -/
theorem length_indented (hm : m ≠ []) (ls : List Text) :
    ls.flatten.length ≤ (ls.flatMap (padRow m)).length ∧
      (allBlank ls.flatten = false → ls.flatten.length < (ls.flatMap (padRow m)).length) := by
  have hlength := List.length_pos_iff.2 hm
  induction ls with
  | nil => exact ⟨Nat.le_refl 0, fun h => by cases h⟩
  | cons l ls ih =>
    obtain ⟨hle, hlt⟩ := ih
    cases hl : l.allBlank with
    | true =>
      have hrest : allBlank (l :: ls).flatten = allBlank ls.flatten := by
        rw [List.flatten_cons, allBlank_append, hl, Bool.true_and]
      simp only [List.flatten_cons, List.flatMap_cons, List.length_append, padRow, hl, if_true]
      exact ⟨by omega, fun h => by have := hlt (hrest ▸ h); omega⟩
    | false =>
      simp only [List.flatten_cons, List.flatMap_cons, List.length_append, padRow, hl, if_false,
        Bool.false_eq_true]
      exact ⟨by omega, fun _ => by omega⟩

theorem indentLines_ne_nil (hm : m ≠ []) (h : s ≠ []) : indentLines m s ≠ [] := by
  intro hnil
  have hlonger := (length_indented hm (lines s)).1
  rw [flatten_lines, ← indentLines_eq, hnil] at hlonger
  exact h (List.eq_nil_of_length_eq_zero (Nat.le_zero.1 hlonger))

theorem indentLines_ne_self (hm : m ≠ []) (h : s.allBlank = false) : indentLines m s ≠ s := by
  intro heq
  have hlt := (length_indented hm (lines s)).2 (by rwa [flatten_lines])
  rw [flatten_lines, ← indentLines_eq, heq] at hlt
  exact Nat.lt_irrefl _ hlt

/-! ## Rows that are one line -/

theorem lines_of_row (h : ∀ c ∈ r, isLineEnd c = false) (hr : r ≠ []) : lines r = [r] := by
  induction r with
  | nil => exact absurd rfl hr
  | cons c r ih =>
    obtain ⟨hc, h⟩ := List.forall_mem_cons.1 h
    rw [lines_cons hc]
    cases r with
    | nil => rfl
    | cons d r => rw [ih h (List.cons_ne_nil d r)]

theorem indentLines_of_row (h : ∀ c ∈ r, isLineEnd c = false) : indentLines m r = padRow m r := by
  by_cases hr : r = []
  · rw [hr]
    rfl
  · rw [indentLines_eq, lines_of_row h hr, List.flatMap_singleton]

end XmlTemplate
