import XmlTemplate.Text.Lines
import XmlTemplate.Proofs.Text.Margin

/-!
# Texts with other runs of blanks

Two texts are *respaced* if they differ in their runs of blanks alone: one has a run where the other
has one (`Respaced`). Not every run may stand for every other one. A run without any of the
characters `ends` has to stay as it is, a run with a line feed has to keep one, and a line feed with
blanks of the same line after it has to stay in front (`Spaces`). The relation goes along with
appending (`Respaced.append`), and two changes of this kind are one (`Respaced.trans`).
-/

set_option autoImplicit false

namespace XmlTemplate

open Text

variable {ends : Char → Bool} {s t u w v x y z : Text} {c : Char}

/-! ## Runs of blanks -/

/-- A run of blanks that may stand where another one stood. -/
structure Spaces (ends : Char → Bool) (w v : Text) : Prop where
  before : w ≠ [] ∧ ∀ c ∈ w, isBlank c = true
  after : v ≠ [] ∧ ∀ c ∈ v, isBlank c = true
  same : (∀ c ∈ w, ends c = false) → v = w
  line : '\n' ∈ w ↔ '\n' ∈ v
  head : ∀ w', w = '\n' :: w' → '\n' ∉ w' → ∃ v', v = '\n' :: v' ∧ '\n' ∉ v'

namespace Spaces

theorem refl (hne : w ≠ []) (hw : ∀ c ∈ w, isBlank c = true) : Spaces ends w w :=
  ⟨⟨hne, hw⟩, ⟨hne, hw⟩, fun _ => rfl, Iff.rfl, fun w' h hw' => ⟨w', h, hw'⟩⟩

theorem trans (h : Spaces ends w v) (h' : Spaces ends v u) : Spaces ends w u where
  before := h.before
  after := h'.after
  same hw := by
    have hv := h.same hw
    rw [h'.same (by rwa [hv]), hv]
  line := h.line.trans h'.line
  head w' heq hw' := by
    obtain ⟨v', hv, hv'⟩ := h.head w' heq hw'
    exact h'.head v' hv hv'

theorem append (h : Spaces ends w v) (h' : Spaces ends x y) : Spaces ends (w ++ x) (v ++ y) where
  before := ⟨by simp [h.before.1], List.forall_mem_append.2 ⟨h.before.2, h'.before.2⟩⟩
  after := ⟨by simp [h.after.1], List.forall_mem_append.2 ⟨h.after.2, h'.after.2⟩⟩
  same hall := by
    obtain ⟨hw, hx⟩ := List.forall_mem_append.1 hall
    rw [h.same hw, h'.same hx]
  line := by rw [List.mem_append, List.mem_append, h.line, h'.line]
  head z heq hz := by
    cases hw : w with
    | nil => exact absurd hw h.before.1
    | cons d w' =>
      rw [hw, List.cons_append] at heq
      obtain ⟨rfl, rfl⟩ := List.cons.inj heq
      simp only [List.mem_append, not_or] at hz
      obtain ⟨v', rfl, hv'⟩ := h.head w' hw hz.1
      exact ⟨v' ++ y, rfl, by simp [hv', mt h'.line.2 hz.2]⟩

/-- More characters may end a line. -/
theorem mono {ends' : Char → Bool} (hends : ∀ c, ends c = true → ends' c = true)
    (h : Spaces ends w v) : Spaces ends' w v where
  before := h.before
  after := h.after
  same hw := h.same fun c hc => by
    rw [Bool.eq_false_iff]
    intro hend
    have hend' := hends c hend
    rw [hw c hc] at hend'
    cases hend'
  line := h.line
  head := h.head

/-- Any run with a line feed may become a line feed and blanks of the next line. -/
theorem newline (hends : ends '\n' = true) (hw : ∀ c ∈ w, isBlank c = true) (hmem : '\n' ∈ w)
    (hv : ∀ c ∈ v, isBlank c = true) (hline : '\n' ∉ v) : Spaces ends w ('\n' :: v) where
  before := ⟨List.ne_nil_of_mem hmem, hw⟩
  after := ⟨List.cons_ne_nil _ _, List.forall_mem_cons.2 ⟨by decide, hv⟩⟩
  same hall := by
    rw [hall '\n' hmem] at hends
    cases hends
  line := by simp [hmem]
  head _ _ _ := ⟨v, rfl, hline⟩

/-- Behind the end of a line blanks of the same line may be added. -/
theorem added (hend : ends c = true) (hc : isBlank c = true) (hv : ∀ d ∈ v, isBlank d = true)
    (hline : '\n' ∉ v) : Spaces ends [c] (c :: v) where
  before := ⟨List.cons_ne_nil _ _, by simpa using hc⟩
  after := ⟨List.cons_ne_nil _ _, List.forall_mem_cons.2 ⟨hc, hv⟩⟩
  same hall := by
    rw [hall c (List.mem_singleton_self c)] at hend
    cases hend
  line := by simp [hline]
  head w' heq _ := by
    obtain ⟨rfl, -⟩ := List.cons.inj heq
    exact ⟨v, rfl, hline⟩

/-- Where only the first of some blanks may end a row, the same holds of the blanks in their place. -/
theorem tail_line {d : Char} (h : Spaces ends (c :: w) (d :: v)) (hw : '\n' ∉ w) : '\n' ∉ v := by
  by_cases hc : c = '\n'
  · obtain ⟨v', hv, hv'⟩ := h.head w (by rw [hc]) hw
    rwa [(List.cons.inj hv).2]
  · have hnone : '\n' ∉ d :: v := mt h.line.2 (by simp [Ne.symm hc, hw])
    exact fun hmem => hnone (List.mem_cons_of_mem _ hmem)

end Spaces

/-! ## Respaced texts -/

/-- No blank stands in front. -/
def StartsFilled (s : Text) : Prop := ∀ c ∈ s.head?, isBlank c = false

theorem startsFilled_nil : StartsFilled [] := fun _ h => by cases h

theorem startsFilled_cons (h : isBlank c = false) : StartsFilled (c :: s) := by
  rintro _ ⟨⟩
  exact h

theorem startsFilled_dropWhile (s : Text) : StartsFilled (s.dropWhile isBlank) := by
  intro c hc
  have hnot := List.head?_dropWhile_not isBlank s
  rwa [Option.mem_def.1 hc] at hnot

/-- The same text but for its runs of blanks. -/
inductive Respaced (ends : Char → Bool) : Text → Text → Prop
  | nil : Respaced ends [] []
  | cons {c : Char} {s t : Text} (filled : isBlank c = false) (rest : Respaced ends s t) :
      Respaced ends (c :: s) (c :: t)
  | gap {w v s t : Text} (spaces : Spaces ends w v) (filled : StartsFilled s)
      (filled' : StartsFilled t) (rest : Respaced ends s t) : Respaced ends (w ++ s) (v ++ t)

namespace Respaced

theorem of_spaces (h : Spaces ends w v) : Respaced ends w v := by
  have := gap h startsFilled_nil startsFilled_nil .nil
  rwa [List.append_nil, List.append_nil] at this

/-- Runs of blanks in front become one with those that follow. -/
theorem gap_append (hw : Spaces ends w v) (h : Respaced ends s t) : Respaced ends (w ++ s) (v ++ t) := by
  cases h with
  | nil => exact .gap hw startsFilled_nil startsFilled_nil .nil
  | cons filled rest =>
    exact .gap hw (startsFilled_cons filled) (startsFilled_cons filled) (.cons filled rest)
  | gap spaces filled filled' rest =>
    rw [← List.append_assoc, ← List.append_assoc]
    exact .gap (hw.append spaces) filled filled' rest

theorem append (h : Respaced ends s t) (h' : Respaced ends x y) :
    Respaced ends (s ++ x) (t ++ y) := by
  induction h with
  | nil => exact h'
  | cons filled _ ih => exact .cons filled ih
  | gap spaces _ _ _ ih =>
    rw [List.append_assoc, List.append_assoc]
    exact gap_append spaces ih

theorem refl (ends : Char → Bool) (s : Text) : Respaced ends s s := by
  induction s with
  | nil => exact .nil
  | cons c s ih =>
    cases hc : isBlank c with
    | false => exact .cons hc ih
    | true =>
      have hone : Spaces ends [c] [c] := .refl (List.cons_ne_nil _ _) (by simpa using hc)
      exact gap_append hone ih

theorem mono {ends' : Char → Bool} (hends : ∀ c, ends c = true → ends' c = true)
    (h : Respaced ends s t) : Respaced ends' s t := by
  induction h with
  | nil => exact .nil
  | cons filled _ ih => exact .cons filled ih
  | gap spaces filled filled' _ ih => exact .gap (spaces.mono hends) filled filled' ih

/-! ### What stands in front -/

theorem cons_inv (hc : isBlank c = false) (h : Respaced ends (c :: s) u) :
    ∃ t, u = c :: t ∧ Respaced ends s t := by
  generalize hs : c :: s = x at h
  cases h with
  | nil => cases hs
  | cons _ rest =>
    cases hs
    exact ⟨_, rfl, rest⟩
  | gap spaces =>
    obtain ⟨hne, hw⟩ := spaces.before
    obtain ⟨d, w, rfl⟩ := List.exists_cons_of_ne_nil hne
    obtain ⟨rfl, -⟩ := List.cons.inj hs
    rw [hw c (List.mem_cons_self ..)] at hc
    cases hc

theorem cons_inv_right (hc : isBlank c = false) (h : Respaced ends u (c :: t)) :
    ∃ s, u = c :: s ∧ Respaced ends s t := by
  generalize ht : c :: t = x at h
  cases h with
  | nil => cases ht
  | cons _ rest =>
    cases ht
    exact ⟨_, rfl, rest⟩
  | gap spaces =>
    obtain ⟨hne, hv⟩ := spaces.after
    obtain ⟨d, v, rfl⟩ := List.exists_cons_of_ne_nil hne
    obtain ⟨rfl, -⟩ := List.cons.inj ht
    rw [hv c (List.mem_cons_self ..)] at hc
    cases hc

theorem gap_inv (hne : w ≠ []) (hw : ∀ c ∈ w, isBlank c = true) (hs : StartsFilled s)
    (h : Respaced ends (w ++ s) u) :
    ∃ v t, u = v ++ t ∧ Spaces ends w v ∧ StartsFilled t ∧ Respaced ends s t := by
  generalize hx : w ++ s = x at h
  cases h with
  | nil => exact absurd (List.append_eq_nil_iff.1 hx).1 hne
  | cons filled =>
    obtain ⟨d, w, rfl⟩ := List.exists_cons_of_ne_nil hne
    obtain ⟨rfl, -⟩ := List.cons.inj hx
    rw [hw _ (List.mem_cons_self ..)] at filled
    cases filled
  | @gap w' v s' t spaces filled filled' rest =>
    -- both runs end where the first character that is no blank stands
    have hrun : ∀ {a b : Text}, (∀ c ∈ a, isBlank c = true) → StartsFilled b →
        (a ++ b).takeWhile isBlank = a ∧ (a ++ b).dropWhile isBlank = b := by
      intro a b ha hb
      rw [List.takeWhile_append_of_pos ha, List.dropWhile_append_of_pos ha]
      cases b with
      | nil => simp
      | cons d b => simp [hb d rfl]
    obtain ⟨htake, hdrop⟩ := hrun hw hs
    obtain ⟨htake', hdrop'⟩ := hrun spaces.before.2 filled
    rw [hx] at htake hdrop
    obtain rfl := htake.symm.trans htake'
    obtain rfl := hdrop.symm.trans hdrop'
    exact ⟨v, t, rfl, spaces, filled', rest⟩

theorem nil_inv (h : Respaced ends [] u) : u = [] := by
  generalize hs : ([] : Text) = x at h
  cases h with
  | nil => rfl
  | cons => cases hs
  | gap spaces => exact absurd (List.append_eq_nil_iff.1 hs.symm).1 spaces.before.1

/-- Both texts start filled, or none of them does. -/
theorem startsFilled (h : Respaced ends s t) (hs : StartsFilled s) : StartsFilled t := by
  cases h with
  | nil => exact startsFilled_nil
  | cons filled => exact startsFilled_cons filled
  | gap spaces =>
    obtain ⟨hne, hw⟩ := spaces.before
    obtain ⟨d, w, rfl⟩ := List.exists_cons_of_ne_nil hne
    have hd : isBlank d = false := hs d rfl
    rw [hw d (List.mem_cons_self ..)] at hd
    cases hd

theorem trans (h : Respaced ends s t) (h' : Respaced ends t u) : Respaced ends s u := by
  induction h generalizing u with
  | nil =>
    rw [nil_inv h']
    exact .nil
  | cons filled _ ih =>
    obtain ⟨t', rfl, ht⟩ := cons_inv filled h'
    exact .cons filled (ih ht)
  | gap spaces filled filled' _ ih =>
    obtain ⟨v', t', rfl, hv, ht, hrest⟩ := gap_inv spaces.after.1 spaces.after.2 filled' h'
    exact .gap (spaces.trans hv) filled ht (ih hrest)

/-- A filled stretch in front is in both texts. -/
theorem append_inv (hw : ∀ c ∈ w, isBlank c = false) (h : Respaced ends (w ++ s) u) :
    ∃ t, u = w ++ t ∧ Respaced ends s t := by
  induction w generalizing u with
  | nil => exact ⟨u, rfl, h⟩
  | cons c w ih =>
    obtain ⟨hc, hw⟩ := List.forall_mem_cons.1 hw
    obtain ⟨t, rfl, ht⟩ := cons_inv hc h
    obtain ⟨t, rfl, hrest⟩ := ih hw ht
    exact ⟨t, rfl, hrest⟩

/-- Without any of the characters that end lines a text stays as it is. -/
theorem eq_of_no_ends (h : Respaced ends s t) (hs : ∀ c ∈ s, ends c = false) : t = s := by
  induction h with
  | nil => rfl
  | cons _ _ ih => rw [ih (List.forall_mem_cons.1 hs).2]
  | gap spaces _ _ _ ih =>
    obtain ⟨hw, hs⟩ := List.forall_mem_append.1 hs
    rw [spaces.same hw, ih hs]

/-! ### Without the blanks in front -/

theorem dropWhile_blank (h : Respaced ends s t) :
    Respaced ends (s.dropWhile isBlank) (t.dropWhile isBlank) := by
  cases h with
  | nil => exact .nil
  | cons filled rest =>
    rw [List.dropWhile_cons_of_neg (by simp [filled]), List.dropWhile_cons_of_neg (by simp [filled])]
    exact .cons filled rest
  | gap spaces filled filled' rest =>
    rw [List.dropWhile_append_of_pos spaces.before.2, List.dropWhile_append_of_pos spaces.after.2,
      dropWhile_eq_self filled, dropWhile_eq_self filled']
    exact rest

/-- The rest of the line in front, where there is a line feed after it, and what comes then. -/
theorem line_inv (hs : '\n' ∉ s) (h : Respaced ends (s ++ '\n' :: x) u) :
    ∃ t y, u = t ++ '\n' :: y ∧ '\n' ∉ t ∧
      Respaced ends (x.dropWhile isBlank) (y.dropWhile isBlank) := by
  generalize hx : s ++ '\n' :: x = z at h
  induction h generalizing s with
  | nil => simp at hx
  | @cons c _ t filled _ ih =>
    cases s with
    | nil =>
      obtain ⟨rfl, -⟩ := List.cons.inj hx
      exact absurd filled (by decide)
    | cons d s =>
      obtain ⟨rfl, htail⟩ := List.cons.inj hx
      simp only [List.mem_cons, not_or] at hs
      obtain ⟨t, y, rfl, ht, hrest⟩ := ih hs.2 htail
      exact ⟨d :: t, y, rfl, by simp [hs.1, ht], hrest⟩
  | @gap w v s' t spaces filled filled' rest ih =>
    by_cases hw : '\n' ∈ w
    · -- the line ends within the run, and what follows on both sides is blank up to its end
      obtain ⟨a, b, rfl, ha⟩ := List.eq_append_cons_of_mem hw
      obtain ⟨a', b', rfl, ha'⟩ := List.eq_append_cons_of_mem (spaces.line.1 hw)
      have hcut : s = a ∧ x = b ++ s' := by
        rw [List.append_assoc, List.cons_append] at hx
        rcases List.append_eq_append_iff.1 hx with ⟨m, rfl, hm⟩ | ⟨m, rfl, hm⟩
        · cases m with
          | nil => exact ⟨(List.append_nil s).symm, (List.cons.inj hm).2⟩
          | cons d m =>
            obtain ⟨rfl, -⟩ := List.cons.inj hm
            exact absurd (by simp) ha
        · cases m with
          | nil => exact ⟨List.append_nil a, (List.cons.inj hm).2.symm⟩
          | cons d m =>
            obtain ⟨rfl, -⟩ := List.cons.inj hm
            exact absurd (by simp) hs
      obtain ⟨rfl, rfl⟩ := hcut
      refine ⟨a', b' ++ t, by simp, ha', ?_⟩
      rw [List.dropWhile_append_of_pos fun c hc => spaces.before.2 c (by simp [hc]),
        List.dropWhile_append_of_pos fun c hc => spaces.after.2 c (by simp [hc])]
      exact rest.dropWhile_blank
    · obtain ⟨s, rfl, hx'⟩ : ∃ s₂, s = w ++ s₂ ∧ s₂ ++ '\n' :: x = s' := by
        rcases List.append_eq_append_iff.1 hx with ⟨m, rfl, hm⟩ | ⟨m, rfl, hm⟩
        · cases m with
          | nil => exact ⟨[], by simp, by simpa using hm⟩
          | cons d m =>
            obtain ⟨rfl, -⟩ := List.cons.inj hm
            exact absurd (by simp) hw
        · exact ⟨m, rfl, hm.symm⟩
      simp only [List.mem_append, not_or] at hs
      obtain ⟨t, y, rfl, ht, hrest⟩ := ih hs.2 hx'
      exact ⟨v ++ t, y, by simp, by simp [mt spaces.line.2 hw, ht], hrest⟩

end Respaced

end XmlTemplate
