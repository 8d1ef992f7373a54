import XmlTemplate.Proofs.Template.Body
import XmlTemplate.Proofs.Text.Spacing

/-!
# What becomes of the blanks of a body

The program of a body is the body with other runs of blanks (`respaced_bodySource`). Removing the
shared margin and the blanks around the lines changes runs that have a line feed, and putting the
lines into the block of the first one changes runs that have any end of a line.
-/

set_option autoImplicit false

namespace XmlTemplate

open Text

variable {ends : Char → Bool} {s t x m : Text} {c : Char}

/-! ## Margins -/

theorem Spaces.margins {m' : Text} (hends : ends '\n' = true) (hm : ∀ c ∈ m, isMargin c = true)
    (hm' : ∀ c ∈ m', isMargin c = true) : Spaces ends ('\n' :: m) ('\n' :: m') := by
  refine .newline hends ?_ (List.mem_cons_self ..) ?_ (notMem_of_isMargin hm')
  · exact List.forall_mem_cons.2 ⟨by decide, fun c hc => isBlank_of_isMargin (hm c hc)⟩
  · exact fun c hc => isBlank_of_isMargin (hm' c hc)

theorem ofRows_cons {r : Text} {rs : List Text} (h : rs ≠ []) :
    ofRows (r :: rs) = r ++ '\n' :: ofRows rs := by
  cases rs with
  | nil => exact absurd rfl h
  | cons => rfl

/-- The rows below a line feed may get other margins. -/
theorem respaced_rows {f : Text → Text} (hends : ends '\n' = true)
    (hf : ∀ r ∈ rows s, ∃ m m' core, r = m ++ core ∧ f r = m' ++ core ∧
      (∀ c ∈ m, isMargin c = true) ∧ ∀ c ∈ m', isMargin c = true) :
    Respaced ends ('\n' :: s) ('\n' :: ofRows ((rows s).map f)) := by
  have hrow : ∀ {r y z : Text}, (∃ m m' core, r = m ++ core ∧ f r = m' ++ core ∧
      (∀ c ∈ m, isMargin c = true) ∧ ∀ c ∈ m', isMargin c = true) → Respaced ends y z →
      Respaced ends ('\n' :: (r ++ y)) ('\n' :: (f r ++ z)) := by
    rintro r y z ⟨m, m', core, hr, hfr, hm, hm'⟩ hyz
    rw [hfr, hr, List.append_assoc, List.append_assoc, ← List.cons_append, ← List.cons_append]
    exact .gap_append (.margins hends hm hm') (.append (.refl ends core) hyz)
  induction s using rows_induction with
  | single r hr =>
    rw [rows_of_notMem hr] at hf ⊢
    have := hrow (hf r (List.mem_singleton_self r)) .nil
    rwa [List.append_nil, List.append_nil] at this
  | more r t hr ih =>
    rw [rows_append_cons, rows_of_notMem hr] at hf ⊢
    rw [List.singleton_append] at hf ⊢
    rw [List.map_cons, ofRows_cons (by simpa using rows_ne_nil t)]
    obtain ⟨hfirst, hf⟩ := List.forall_mem_cons.1 hf
    exact hrow hfirst (ih hf)

theorem respaced_unindent (hends : ends '\n' = true) (s : Text) :
    Respaced ends ('\n' :: s) ('\n' :: unindent s) := by
  refine respaced_rows hends fun r hr => ?_
  split
  · next hall => exact ⟨r, [], [], by simp, rfl, List.all_eq_true.1 hall, by simp⟩
  · next hfilled =>
    rw [Bool.not_eq_true] at hfilled
    obtain ⟨hmargin, hcut⟩ := sharedMargin_append_drop hr hfilled
    exact ⟨_, [], _, hcut.symm, rfl, hmargin, by simp⟩

/-! ## Blanks around the lines below -/

/-- A text between two line feeds, or one line feed if there is no text. -/
def between (s x : Text) : Text := if s = [] then '\n' :: x else '\n' :: (s ++ '\n' :: x)

/-- Blanks around lines that stand between line feeds may be left out. -/
theorem respaced_between {w e : Text} (hends : ends '\n' = true) (hw : ∀ c ∈ w, isBlank c = true)
    (he : ∀ c ∈ e, isBlank c = true) :
    Respaced ends ('\n' :: (w ++ (s ++ e) ++ '\n' :: x)) (between s x) := by
  have hnewline : ∀ c ∈ ['\n'], isBlank c = true := by simp [show isBlank '\n' = true from by decide]
  have hbefore : Spaces ends ('\n' :: w) ['\n'] := by
    refine .newline hends ?_ (List.mem_cons_self ..) (by simp) (by simp)
    exact List.forall_mem_cons.2 ⟨by decide, hw⟩
  have hafter : Spaces ends (e ++ ['\n']) ['\n'] :=
    .newline hends (List.forall_mem_append.2 ⟨he, hnewline⟩) (by simp) (by simp) (by simp)
  have hmerge : ∀ {a b : Text}, '\n' :: (w ++ (a ++ e) ++ '\n' :: b) =
      ('\n' :: w) ++ (a ++ ((e ++ ['\n']) ++ b)) := by simp
  rw [between, hmerge]
  split
  · next hs =>
    rw [hs, List.nil_append, ← List.append_assoc]
    refine .gap_append (v := ['\n']) ?_ (.refl ends x)
    refine .newline hends ?_ (by simp) (by simp) (by simp)
    exact List.forall_mem_append.2 ⟨hbefore.before.2, hafter.before.2⟩
  · refine .gap_append (v := ['\n']) hbefore (.append (.refl ends s) ?_)
    exact .gap_append (v := ['\n']) hafter (.refl ends x)

/-- What stands below the first line of a body, and what the program has of it. -/
theorem respaced_bodyBelow (hends : ends '\n' = true) (s x : Text) :
    Respaced ends (s.dropWhile (· != '\n') ++ '\n' :: x) (between (bodyBelow s) x) := by
  obtain ⟨w, hw, hblank, -⟩ := dropWhileEnd_spec isBlank
    ((Text.unindent (s.dropWhile (· != '\n')).tail).trimWhile (· == '\n'))
  rw [← Text.trimEnd, ← bodyBelow] at hw
  generalize hrows : Text.unindent (s.dropWhile (· != '\n')).tail = u at hw
  obtain ⟨e, he, hnewlines, -⟩ := dropWhileEnd_spec (· == '\n') (u.dropWhile (· == '\n'))
  rw [← Text.trimWhile, hw] at he
  have hu := List.takeWhile_append_dropWhile (p := (· == '\n')) (l := u)
  rw [he, List.append_assoc] at hu
  have hstart : ∀ c ∈ u.takeWhile (· == '\n'), isBlank c = true := fun c hc =>
    isBlank_of_beq_newline (List.all_eq_true.1 List.all_takeWhile c hc)
  have hend : ∀ c ∈ w ++ e, isBlank c = true :=
    List.forall_mem_append.2 ⟨hblank, fun c hc => isBlank_of_beq_newline (hnewlines c hc)⟩
  have hbetween := respaced_between (s := bodyBelow s) (x := x) hends hstart hend
  rw [hu] at hbetween
  rcases dropWhile_row s with hdrop | ⟨t, hdrop⟩
  · have hnone : bodyBelow s = [] := by rw [bodyBelow, hdrop]; rfl
    rw [hnone, hdrop]
    exact .refl ends _
  · rw [hdrop] at hrows ⊢
    have hunindent := respaced_unindent hends t
    rw [← hrows] at hbetween
    exact (hunindent.append (.refl ends ('\n' :: x))).trans hbetween

/-! ## Indented lines -/

/-- A text is a line without an end to it, or a line with its end and the lines of a text. -/
theorem lines_cases (s : Text) :
    s = [] ∨ lines s = [s] ∨
      ∃ l e t, s = l ++ e :: t ∧ isLineEnd e = true ∧ lines s = (l ++ [e]) :: lines t := by
  fun_induction lines s with
  | case1 => exact .inl rfl
  | case2 s => exact .inr (.inr ⟨['\r'], '\n', s, rfl, by decide, rfl⟩)
  | case3 c s _ hc => exact .inr (.inr ⟨[], c, s, rfl, hc, rfl⟩)
  | case4 c s _ hc hs ih =>
    rcases ih with rfl | hs' | ⟨l, e, t, -, -, hs'⟩
    · exact .inr (.inl rfl)
    · rw [hs] at hs'
      cases hs'
    · rw [hs] at hs'
      cases hs'
  | case5 c s _ hc l rest hs ih =>
    rcases ih with rfl | hs' | ⟨l', e, t, rfl, he, hs'⟩
    · cases hs
    · obtain ⟨rfl, rfl⟩ := List.cons.inj (hs.symm.trans hs')
      exact .inr (.inl rfl)
    · obtain ⟨rfl, rfl⟩ := List.cons.inj (hs.symm.trans hs')
      exact .inr (.inr ⟨c :: l', e, t, rfl, he, rfl⟩)

/-- Lines that follow the end of a line may get a margin. -/
theorem respaced_indentLines (hm : ∀ c ∈ m, isMargin c = true) (s : Text) (hc : isLineEnd c = true) :
    Respaced isLineEnd (c :: s) (c :: indentLines m s) := by
  have hmargin : ∀ {l : Text} {c : Char}, isLineEnd c = true →
      Respaced isLineEnd (c :: l) (c :: if l.allBlank then l else m ++ l) := by
    intro l c hc
    split
    · exact .refl isLineEnd _
    · rw [← List.cons_append, show c :: l = [c] ++ l from rfl]
      exact .gap_append (.added hc (isBlank_of_isLineEnd hc)
        (fun d hd => isBlank_of_isMargin (hm d hd)) (notMem_of_isMargin hm)) (.refl isLineEnd l)
  induction hn : s.length using Nat.strongRecOn generalizing s c with
  | _ n ih =>
    rcases lines_cases s with rfl | hlines | ⟨l, e, t, rfl, he, hlines⟩
    · exact .refl isLineEnd _
    · rw [indentLines, hlines, List.flatMap_singleton]
      exact hmargin hc
    · rw [indentLines, hlines, List.flatMap_cons, ← indentLines]
      have hrest := ih t.length (by rw [← hn, List.length_append, List.length_cons]; omega) t he rfl
      -- the line without its end, which goes to the lines that follow
      have hline : (if Text.allBlank (l ++ [e]) then l ++ [e] else m ++ (l ++ [e])) =
          (if Text.allBlank l then l else m ++ l) ++ [e] := by
        have hblank : Text.allBlank (l ++ [e]) = Text.allBlank l := by
          simp [Text.allBlank, isBlank_of_isLineEnd he]
        rw [hblank]
        split
        · rfl
        · rw [List.append_assoc]
      rw [hline, List.append_assoc, List.singleton_append, ← List.cons_append, ← List.cons_append]
      exact (hmargin hc).append hrest

/-! ## The program of a body -/

/-- The characters at which the program of a body may have other blanks: the ends of rows, and the
ends of lines where the lines below are made the block of the first one. -/
def bodyEnds (s : Text) : Char → Bool :=
  if (bodyFirst s).getLast? = some ':' then isLineEnd else (· == '\n')

theorem bodyEnds_newline (s : Text) : bodyEnds s '\n' = true := by
  rw [bodyEnds]
  split <;> rfl

/-- What stands on the line of the argument, before the end of that line. -/
theorem respaced_bodyFirst (hends : ends '\n' = true) (hne : bodyFirst s ≠ []) :
    Respaced ends ((s.takeWhile (· != '\n') ++ '\n' :: x).dropWhile isBlank)
      (bodyFirst s ++ '\n' :: x) := by
  obtain ⟨e, he, hblank, -⟩ := dropWhileEnd_spec isBlank ((s.takeWhile (· != '\n')).dropWhile isBlank)
  rw [← Text.trimWhile, ← Text.trim, ← bodyFirst] at he
  obtain ⟨-, ⟨c, hc, -⟩, -⟩ := bodyFirst_spec hne
  have hfilled : isBlank c = false :=
    (trimWhile_spec isBlank (s.takeWhile (· != '\n'))).1 c (by rwa [← Text.trim, ← bodyFirst])
  have hcut : (s.takeWhile (· != '\n') ++ '\n' :: x).dropWhile isBlank =
      bodyFirst s ++ ((e ++ ['\n']) ++ x) := by
    rw [List.dropWhile_append, he, if_neg (by simp [hne])]
    simp
  rw [hcut]
  refine .append (.refl ends _) (.gap_append (v := ['\n']) ?_ (.refl ends x))
  refine .newline hends ?_ (by simp) (by simp) (by simp)
  exact List.forall_mem_append.2 ⟨hblank, by simp [show isBlank '\n' = true from by decide]⟩

/-- Below a first line stands its block. -/
theorem stacked_append (hne : s ≠ []) (t x : Text) : stacked s t ++ '\n' :: x = s ++ between t x := by
  rw [stacked, if_neg (by simpa using hne), between]
  by_cases ht : t = []
  · simp [ht]
  · simp [ht]

theorem dropWhile_between (s x : Text) :
    (between s x).dropWhile isBlank = (s ++ '\n' :: x).dropWhile isBlank := by
  have hblank : isBlank '\n' = true := by decide
  rw [between]
  split
  · next hs => rw [hs, List.nil_append]
  · rw [List.dropWhile_cons_of_pos hblank]

/-- Lines below that are made a block get other blanks at the ends of lines alone. -/
theorem respaced_bodyBlock (s x : Text) :
    Respaced (bodyEnds s) (between (bodyBelow s) x) (between (bodyBlock s) x) := by
  rw [bodyBlock, bodyEnds]
  split
  · by_cases hbelow : bodyBelow s = []
    · rw [hbelow]
      exact .refl _ _
    · have hne := indentLines_ne_nil (m := blockMargin) (by decide) hbelow
      rw [between, between, if_neg hbelow, if_neg hne, ← List.cons_append, ← List.cons_append]
      exact (respaced_indentLines isMargin_of_mem_blockMargin _ (by decide)).append (.refl _ _)
  · exact .refl _ _

theorem dropWhile_bodyFirst (hnone : bodyFirst s = []) (x : Text) :
    (s.takeWhile (· != '\n') ++ x).dropWhile isBlank = x.dropWhile isBlank := by
  obtain ⟨w, hw, hblank, -⟩ := dropWhileEnd_spec isBlank ((s.takeWhile (· != '\n')).dropWhile isBlank)
  rw [← Text.trimWhile, ← Text.trim, ← bodyFirst, hnone, List.nil_append] at hw
  refine List.dropWhile_append_of_pos fun c hc => ?_
  rw [← List.takeWhile_append_dropWhile (p := isBlank) (l := s.takeWhile (· != '\n')), hw] at hc
  rcases List.mem_append.1 hc with hc | hc
  · exact List.all_eq_true.1 List.all_takeWhile c hc
  · exact hblank c hc

/-- The program of a body is the body with other runs of blanks, before a line feed and without the
blanks in front. -/
theorem respaced_bodySource (s x : Text) :
    Respaced (bodyEnds s) ((s ++ '\n' :: x).dropWhile isBlank)
      ((bodySource s ++ '\n' :: x).dropWhile isBlank) := by
  have hbelow := (respaced_bodyBelow (bodyEnds_newline s) s x).trans (respaced_bodyBlock s x)
  have hcut : s ++ '\n' :: x =
      s.takeWhile (· != '\n') ++ (s.dropWhile (· != '\n') ++ '\n' :: x) := by
    rw [← List.append_assoc, List.takeWhile_append_dropWhile]
  rw [bodySource_eq_stacked, hcut]
  by_cases hne : bodyFirst s = []
  · have hnone : stacked (bodyFirst s) (bodyBlock s) = bodyBlock s := by rw [hne]; rfl
    rw [hnone, dropWhile_bodyFirst hne, ← dropWhile_between (bodyBlock s)]
    exact hbelow.dropWhile_blank
  · obtain ⟨y, hy⟩ : ∃ y, s.dropWhile (· != '\n') ++ '\n' :: x = '\n' :: y := by
      rcases dropWhile_row s with hdrop | ⟨t, hdrop⟩
      · exact ⟨x, by rw [hdrop]; rfl⟩
      · exact ⟨t ++ '\n' :: x, by rw [hdrop]; rfl⟩
    rw [hy] at hbelow ⊢
    have hfirst := (respaced_bodyFirst (x := y) (bodyEnds_newline s) hne).trans
      (.append (.refl _ _) hbelow)
    rw [← stacked_append hne] at hfirst
    have hfilled := hfirst.startsFilled (startsFilled_dropWhile _)
    rwa [dropWhile_eq_self hfilled]

end XmlTemplate
