import XmlTemplate.Proofs.Text.Indentation

/-!
# The rows that are not blank

What is done to the lines of a body, as its rows that are not blank see it: line feeds at the ends do
not matter (`filledRows_trimWhile`), of the blanks at the end the last row loses its own
(`filledRows_trimEnd`), every row loses the shared margin (`filledRows_unindent`), and every row is
indented by itself (`filledRows_indentLines`).
-/

set_option autoImplicit false

namespace XmlTemplate.Text

variable {s t r m : Text} {c : Char}

/-- The rows of a text that are not blank. -/
def filledRows (s : Text) : List Text := (rows s).filter fun r => !r.allBlank

theorem mem_filledRows : r ∈ filledRows s ↔ r ∈ rows s ∧ r.allBlank = false := by
  simp [filledRows]

theorem filledRows_of_notMem (h : '\n' ∉ s) :
    filledRows s = if s.allBlank then [] else [s] := by
  rw [filledRows, rows_of_notMem h]
  cases hblank : s.allBlank <;> simp [hblank]

theorem filledRows_append_cons (s t : Text) :
    filledRows (s ++ '\n' :: t) = filledRows s ++ filledRows t := by
  rw [filledRows, rows_append_cons, List.filter_append, filledRows, filledRows]

theorem filledRows_nil : filledRows [] = [] := rfl

theorem filledRows_newline (t : Text) : filledRows ('\n' :: t) = filledRows t :=
  filledRows_append_cons [] t

/-- A text has no such row exactly if it is blank. -/
theorem filledRows_eq_nil_iff : filledRows s = [] ↔ s.allBlank = true := by
  induction s using rows_induction with
  | single r hr =>
    rw [filledRows_of_notMem hr]
    cases r.allBlank <;> simp
  | more r t hr ih =>
    rw [filledRows_append_cons, List.append_eq_nil_iff, ih, filledRows_of_notMem hr, allBlank_append,
      allBlank_newline]
    cases r.allBlank <;> simp

/-! ## Trimming -/

/-- Line feeds at both ends are blank rows. -/
theorem filledRows_trimWhile (s : Text) : filledRows (s.trimWhile (· == '\n')) = filledRows s := by
  have hend : ∀ {w : Text}, (∀ c ∈ w, (c == '\n') = true) → ∀ t, filledRows (t ++ w) = filledRows t := by
    intro w hw t
    cases w with
    | nil => rw [List.append_nil]
    | cons c w =>
      obtain ⟨hc, hw⟩ := List.forall_mem_cons.1 hw
      have hblank : allBlank w = true := by
        apply List.all_eq_true.2
        intro d hd
        rw [eq_of_beq (hw d hd)]
        decide
      rw [eq_of_beq hc, filledRows_append_cons, filledRows_eq_nil_iff.2 hblank, List.append_nil]
  have hstart : filledRows (s.dropWhile (· == '\n')) = filledRows s := by
    induction s with
    | nil => rfl
    | cons c s ih =>
      by_cases hc : (c == '\n') = true
      · rw [List.dropWhile_cons_of_pos (p := (· == '\n')) hc, ih, eq_of_beq hc, filledRows_newline]
      · rw [List.dropWhile_cons_of_neg (p := (· == '\n')) hc]
  obtain ⟨w, hw, hnewlines, -⟩ := dropWhileEnd_spec (· == '\n') (s.dropWhile (· == '\n'))
  rw [← hstart, hw, hend hnewlines]
  rfl

/-- The texts of a list, the last one without the blanks at its end. -/
def trimLast : List Text → List Text
  | [] => []
  | [r] => [r.trimEnd]
  | r :: r' :: rs => r :: trimLast (r' :: rs)

theorem trimLast_append {rs : List Text} (hne : rs ≠ []) (ss : List Text) :
    trimLast (ss ++ rs) = ss ++ trimLast rs := by
  induction ss with
  | nil => rfl
  | cons s ss ih =>
    have hrest : ss ++ rs ≠ [] := by simp [hne]
    obtain ⟨r, rest, hcons⟩ := List.exists_cons_of_ne_nil hrest
    rw [List.cons_append, hcons, trimLast, ← hcons, ih]
    rfl

theorem trimLast_map {f : Text → Text} (hf : ∀ r, (f r).trimEnd = f r.trimEnd) (rs : List Text) :
    trimLast (rs.map f) = (trimLast rs).map f := by
  induction rs with
  | nil => rfl
  | cons r rs ih =>
    cases rs with
    | nil => simp only [List.map_cons, List.map_nil, trimLast, hf]
    | cons r' rs =>
      simp only [List.map_cons, trimLast] at ih ⊢
      rw [ih]

theorem trimEnd_append (s t : Text) :
    trimEnd (s ++ t) = if t.allBlank then s.trimEnd else s ++ t.trimEnd := by
  obtain ⟨v, hv, hvblank, hvlast⟩ := dropWhileEnd_spec isBlank s
  obtain ⟨w, hw, hwblank, hwlast⟩ := dropWhileEnd_spec isBlank t
  rw [← trimEnd] at hv hvlast hw hwlast
  cases hblank : t.allBlank with
  | true =>
    have hend : ∀ c ∈ v ++ t, isBlank c = true :=
      List.forall_mem_append.2 ⟨hvblank, List.all_eq_true.1 hblank⟩
    have htrim := dropWhileEnd_append hvlast hend
    rwa [← List.append_assoc, ← hv] at htrim
  | false =>
    have hne : t.trimEnd ≠ [] := by
      intro hnil
      have hsame := allBlank_dropWhileEnd (q := isBlank) (fun _ => id) t
      rw [← trimEnd, hnil, hblank] at hsame
      cases hsame
    have hlast : ∀ c ∈ (s ++ t.trimEnd).getLast?, isBlank c = false := by
      intro c hc
      apply hwlast c
      rw [List.getLast?_append] at hc
      obtain ⟨d, hd⟩ := Option.isSome_iff_exists.1 (List.getLast?_isSome.2 hne)
      rwa [hd] at hc ⊢
    have htrim := dropWhileEnd_append hlast hwblank
    rwa [List.append_assoc, ← hw] at htrim

/-- Of the blanks at the end of a text, those of the last row that is not blank are its own. -/
theorem filledRows_trimEnd (s : Text) : filledRows s.trimEnd = trimLast (filledRows s) := by
  have hsingle : ∀ r : Text, '\n' ∉ r → filledRows r.trimEnd = trimLast (filledRows r) := by
    intro r hr
    have hline : '\n' ∉ r.trimEnd := by
      obtain ⟨w, hw, -⟩ := dropWhileEnd_spec isBlank r
      intro hmem
      apply hr
      rw [hw]
      exact List.mem_append_left w hmem
    rw [filledRows_of_notMem hr, filledRows_of_notMem hline, trimEnd,
      allBlank_dropWhileEnd fun _ => id]
    cases r.allBlank <;> rfl
  induction s using rows_induction with
  | single r hr => exact hsingle r hr
  | more r t hr ih =>
    rw [trimEnd_append, allBlank_newline, filledRows_append_cons]
    cases hblank : t.allBlank with
    | true =>
      -- everything from the line feed on is trimmed
      rw [if_pos rfl, filledRows_eq_nil_iff.2 hblank, List.append_nil]
      exact hsingle r hr
    | false =>
      have hfilled : filledRows t ≠ [] := by
        intro hnil
        rw [filledRows_eq_nil_iff.1 hnil] at hblank
        cases hblank
      have htrim : Text.trimEnd ('\n' :: t) = '\n' :: t.trimEnd := by
        rw [show '\n' :: t = ['\n'] ++ t from rfl, trimEnd_append, hblank]
        rfl
      rw [if_neg Bool.false_ne_true, htrim, filledRows_append_cons, ih, trimLast_append hfilled]

/-! ## Margins -/

/-- Every row loses the shared margin. -/
theorem filledRows_unindent (s : Text) :
    filledRows s.unindent = (filledRows s).map (List.drop (sharedMargin (rows s)).length) := by
  have hrow : ∀ r ∈ rows s,
      (!Text.allBlank (if r.all isMargin then [] else r.drop (sharedMargin (rows s)).length)) =
        !r.allBlank := by
    intro r hr
    cases hall : r.all isMargin with
    | true =>
      rw [allBlank_of_isMargin (List.all_eq_true.1 hall)]
      rfl
    | false =>
      -- what is dropped is a margin, and that is blank
      obtain ⟨hmargin, hcut⟩ := sharedMargin_append_drop hr hall
      have hblank := congrArg allBlank hcut
      rw [allBlank_append, allBlank_of_isMargin hmargin, Bool.true_and] at hblank
      rw [if_neg Bool.false_ne_true, hblank]
  have hfilter := List.filter_congr hrow
  rw [filledRows, rows_unindent, List.filter_map]
  simp only [Function.comp_def]
  rw [hfilter, ← filledRows]
  apply List.map_congr_left
  intro r hr
  rw [all_isMargin_of_filled (mem_filledRows.1 hr).2, if_neg Bool.false_ne_true]

/-- Every row is indented by itself. -/
theorem filledRows_indentLines (hm : ∀ c ∈ m, isMargin c = true) (s : Text) :
    filledRows (indentLines m s) = (filledRows s).map (indentLines m) := by
  rw [filledRows, rows_indentLines (notMem_of_isMargin hm), List.filter_map]
  simp only [Function.comp_def, allBlank_indentLines (allBlank_of_isMargin hm)]
  rfl

end XmlTemplate.Text
