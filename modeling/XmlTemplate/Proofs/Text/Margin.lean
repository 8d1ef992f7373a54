import XmlTemplate.Text.Lines

/-!
# Rows and their margins

Text is looked at row by row (`rows_induction`). Removing the shared margin leaves rows that share
none and blank rows that are empty (`isFlush_unindent`), and from such a text it removes nothing
(`IsFlush.unindent_eq`).
-/

set_option autoImplicit false

namespace XmlTemplate.Text

variable {s t r : Text} {c : Char}

/-! ## Rows -/

theorem rows_cons_of_ne (hc : c ≠ '\n') (s : Text) :
    ∃ r rest, rows s = r :: rest ∧ rows (c :: s) = (c :: r) :: rest := by
  cases hs : rows s with
  | nil => exact absurd hs (rows_ne_nil s)
  | cons r rest => exact ⟨r, rest, rfl, by rw [rows, if_neg hc, hs]⟩

theorem rows_of_notMem (h : '\n' ∉ s) : rows s = [s] := by
  induction s with
  | nil => rfl
  | cons c s ih =>
    obtain ⟨hc, hs⟩ : '\n' ≠ c ∧ '\n' ∉ s := by simpa [not_or] using h
    rw [rows, if_neg (Ne.symm hc), ih hs]

/-- A line feed parts the rows of a text. -/
theorem rows_append_cons (s t : Text) : rows (s ++ '\n' :: t) = rows s ++ rows t := by
  induction s with
  | nil => rfl
  | cons c s ih =>
    by_cases hc : c = '\n'
    · rw [List.cons_append, rows, if_pos hc, ih, rows, if_pos hc]
      rfl
    · obtain ⟨r, rest, hs, hcons⟩ := rows_cons_of_ne hc s
      rw [List.cons_append, rows, if_neg hc, ih, hs, hcons]
      rfl

/-- A text is one row, or a row, a line feed and a text. -/
theorem rows_induction {motive : Text → Prop} (single : ∀ r, '\n' ∉ r → motive r)
    (more : ∀ r t, '\n' ∉ r → motive t → motive (r ++ '\n' :: t)) (s : Text) : motive s := by
  induction hn : s.length using Nat.strongRecOn generalizing s with
  | _ n ih =>
    by_cases h : '\n' ∈ s
    · obtain ⟨r, t, rfl, hr⟩ := List.eq_append_cons_of_mem h
      refine more r t hr (ih t.length ?_ t rfl)
      rw [← hn, List.length_append, List.length_cons]
      omega
    · exact single s h

theorem notMem_of_mem_rows (h : r ∈ rows s) : '\n' ∉ r := by
  induction s using rows_induction with
  | single s hs =>
    rw [rows_of_notMem hs, List.mem_singleton] at h
    rwa [h]
  | more s t hs ih =>
    rw [rows_append_cons, rows_of_notMem hs] at h
    rcases List.mem_cons.1 h with rfl | h
    · exact hs
    · exact ih h

theorem mem_of_mem_rows (hr : r ∈ rows s) (hc : c ∈ r) : c ∈ s := by
  induction s using rows_induction with
  | single s hs =>
    rw [rows_of_notMem hs, List.mem_singleton] at hr
    exact hr ▸ hc
  | more s t hs ih =>
    rw [rows_append_cons, rows_of_notMem hs] at hr
    rcases List.mem_cons.1 hr with rfl | hr
    · exact List.mem_append_left _ hc
    · exact List.mem_append_right _ (List.mem_cons_of_mem _ (ih hr))

theorem rows_ofRows {rs : List Text} (hne : rs ≠ []) (hrs : ∀ r ∈ rs, '\n' ∉ r) :
    rows (ofRows rs) = rs := by
  induction rs with
  | nil => exact absurd rfl hne
  | cons r rs ih =>
    obtain ⟨hr, hrs⟩ := List.forall_mem_cons.1 hrs
    cases rs with
    | nil => exact rows_of_notMem hr
    | cons r' rs =>
      rw [ofRows, rows_append_cons, rows_of_notMem hr, ih (List.cons_ne_nil r' rs) hrs]
      · rfl
      · exact List.cons_ne_nil r' rs

/-! ## Trimming -/

section

variable {p : Char → Bool}

/-- A text is what is left of it without an end in the class, and that end. -/
theorem dropWhileEnd_spec (p : Char → Bool) (s : Text) :
    ∃ w, s = dropWhileEnd p s ++ w ∧ (∀ c ∈ w, p c = true) ∧
      ∀ c ∈ (dropWhileEnd p s).getLast?, p c = false := by
  refine ⟨(s.reverse.takeWhile p).reverse, ?_, ?_, ?_⟩
  · rw [dropWhileEnd, ← List.reverse_append, List.takeWhile_append_dropWhile, List.reverse_reverse]
  · intro c hc
    exact List.all_eq_true.1 List.all_takeWhile c (List.mem_reverse.1 hc)
  · intro c hc
    rw [dropWhileEnd, List.getLast?_reverse] at hc
    have hnot := List.head?_dropWhile_not p s.reverse
    rwa [Option.mem_def.1 hc] at hnot

theorem dropWhileEnd_eq_self (h : ∀ c ∈ s.getLast?, p c = false) : dropWhileEnd p s = s := by
  rw [dropWhileEnd]
  cases hs : s.reverse with
  | nil =>
    obtain rfl := List.reverse_eq_nil_iff.1 hs
    rfl
  | cons c t =>
    have hc : p c = false := h c (by rw [← List.head?_reverse, hs]; rfl)
    rw [List.dropWhile_cons_of_neg (by simp [hc]), ← hs, List.reverse_reverse]

theorem dropWhileEnd_append (hs : ∀ c ∈ s.getLast?, p c = false) (ht : ∀ c ∈ t, p c = true) :
    dropWhileEnd p (s ++ t) = s := by
  rw [dropWhileEnd, List.reverse_append,
    List.dropWhile_append_of_pos fun c hc => ht c (List.mem_reverse.1 hc)]
  exact dropWhileEnd_eq_self hs

theorem dropWhile_eq_self (h : ∀ c ∈ s.head?, p c = false) : s.dropWhile p = s := by
  cases s with
  | nil => rfl
  | cons c s => exact List.dropWhile_cons_of_neg (by simp [h c rfl])

/-- A trimmed text neither starts nor ends in the class. -/
theorem trimWhile_spec (p : Char → Bool) (s : Text) :
    (∀ c ∈ (trimWhile p s).head?, p c = false) ∧ ∀ c ∈ (trimWhile p s).getLast?, p c = false := by
  obtain ⟨w, hw, -, hlast⟩ := dropWhileEnd_spec p (s.dropWhile p)
  refine ⟨fun c hc => ?_, hlast⟩
  have hnot := List.head?_dropWhile_not p s
  have hhead : (s.dropWhile p).head? = some c := by
    rw [hw, List.head?_append, ← trimWhile, Option.mem_def.1 hc]
    rfl
  rwa [hhead] at hnot

end

/-! ## Shared margins -/

theorem commonStart_prefix (s t : Text) : commonStart s t <+: s ∧ commonStart s t <+: t := by
  fun_induction commonStart s t with
  | case1 c s t ih => exact ⟨List.cons_prefix_cons.2 ⟨rfl, ih.1⟩, List.cons_prefix_cons.2 ⟨rfl, ih.2⟩⟩
  | case2 => exact ⟨List.nil_prefix, List.nil_prefix⟩
  | case3 => exact ⟨List.nil_prefix, List.nil_prefix⟩

theorem prefix_commonStart {p : Text} (hs : p <+: s) (ht : p <+: t) : p <+: commonStart s t := by
  induction p generalizing s t with
  | nil => exact List.nil_prefix
  | cons c p ih =>
    obtain ⟨s, rfl⟩ := hs
    obtain ⟨t, rfl⟩ := ht
    rw [List.cons_append, List.cons_append, commonStart, if_pos rfl]
    exact List.cons_prefix_cons.2 ⟨rfl, ih (List.prefix_append p s) (List.prefix_append p t)⟩

/-- The margins of the filled rows. -/
def margins (s : Text) : List Text := (rows s).filterMap margin?

/-- What every text of a list starts with is what the first one starts with and the others do. -/
theorem prefix_foldl_iff {p m : Text} {ms : List Text} :
    p <+: ms.foldl commonStart m ↔ p <+: m ∧ ∀ n ∈ ms, p <+: n := by
  induction ms generalizing m with
  | nil => simp
  | cons n ms ih =>
    rw [List.foldl_cons, ih, List.forall_mem_cons]
    constructor
    · rintro ⟨h, hms⟩
      obtain ⟨hm, hn⟩ := commonStart_prefix m n
      exact ⟨h.trans hm, h.trans hn, hms⟩
    · rintro ⟨hm, hn, hms⟩
      exact ⟨prefix_commonStart hm hn, hms⟩

/-- The shared margin of the rows is the longest text that every margin starts with. -/
theorem prefix_sharedMargin_iff {p : Text} (h : margins s ≠ []) :
    p <+: sharedMargin (rows s) ↔ ∀ m ∈ margins s, p <+: m := by
  rw [sharedMargin, ← margins]
  cases hs : margins s with
  | nil => exact absurd hs h
  | cons m ms =>
    show p <+: ms.foldl commonStart m ↔ _
    rw [prefix_foldl_iff, List.forall_mem_cons]

theorem sharedMargin_eq_of_margins_eq (h : margins s = margins t) :
    sharedMargin (rows s) = sharedMargin (rows t) := by
  rw [sharedMargin, sharedMargin, ← margins, ← margins, h]

/-! ## Removing the shared margin -/

/-- Blank rows are empty, and the filled ones share no margin. -/
structure IsFlush (s : Text) : Prop where
  blankRows : ∀ r ∈ rows s, r.all isMargin = true → r = []
  noMargin : sharedMargin (rows s) = []

theorem IsFlush.unindent_eq (h : IsFlush s) : unindent s = s := by
  have hrows : (rows s).map (fun r => if r.all isMargin then [] else r.drop 0) = rows s := by
    refine (List.map_congr_left fun r hr => ?_).trans (List.map_id _)
    split
    · next hall => exact (h.blankRows r hr hall).symm
    · rfl
  rw [unindent]
  simp only [h.noMargin, List.length_nil, hrows, ofRows_rows]

theorem margin?_eq_some {m : Text} :
    margin? r = some m ↔ r.all isMargin = false ∧ r.takeWhile isMargin = m := by
  rw [margin?]
  cases r.all isMargin <;> simp

/-- The margin of a row from which a part of it has been removed. -/
theorem margin?_drop {m p : Text} (hm : margin? r = some m) (hp : p <+: m) :
    margin? (r.drop p.length) = some (m.drop p.length) := by
  obtain ⟨hfilled, hm⟩ := margin?_eq_some.1 hm
  obtain ⟨n, rfl⟩ := hp
  have hcut : r = p ++ (n ++ r.dropWhile isMargin) := by
    rw [← List.append_assoc, ← hm, List.takeWhile_append_dropWhile]
  have hmargin : ∀ c ∈ p ++ n, isMargin c = true := by
    rw [← hm]
    exact fun c hc => List.all_eq_true.1 List.all_takeWhile c hc
  cases hrest : r.dropWhile isMargin with
  | nil =>
    rw [hrest, List.append_nil] at hcut
    rw [hcut, List.all_eq_true.2 hmargin] at hfilled
    cases hfilled
  | cons c t =>
    have hc : isMargin c = false := by
      have hnot := List.head?_dropWhile_not isMargin r
      rw [hrest] at hnot
      exact hnot
    rw [hcut, hrest, List.drop_left, List.drop_left, margin?_eq_some]
    refine ⟨by simp [hc], ?_⟩
    rw [List.takeWhile_append_of_pos fun d hd => hmargin d (List.mem_append_right _ hd),
      List.takeWhile_cons_of_neg (by simp [hc]), List.append_nil]

theorem sharedMargin_starts {m : Text} (h : m ∈ margins s) : sharedMargin (rows s) <+: m :=
  (prefix_sharedMargin_iff (List.ne_nil_of_mem h)).1 (List.prefix_refl _) m h

/-- A filled row is the shared margin and what is left of the row without it. -/
theorem sharedMargin_append_drop (hr : r ∈ rows s) (hfilled : r.all isMargin = false) :
    (∀ c ∈ sharedMargin (rows s), isMargin c = true) ∧
      sharedMargin (rows s) ++ r.drop (sharedMargin (rows s)).length = r := by
  obtain ⟨u, hu⟩ :=
    sharedMargin_starts (List.mem_filterMap.2 ⟨r, hr, margin?_eq_some.2 ⟨hfilled, rfl⟩⟩)
  constructor
  · intro c hc
    refine List.all_eq_true.1 (List.all_takeWhile (p := isMargin) (l := r)) c ?_
    rw [← hu]
    exact List.mem_append_left _ hc
  · have hcut := List.takeWhile_append_dropWhile (p := isMargin) (l := r)
    rw [← hu, List.append_assoc] at hcut
    rw [← hcut, List.drop_left]

theorem rows_unindent (s : Text) :
    rows (unindent s) = (rows s).map fun r =>
      if r.all isMargin then [] else r.drop (sharedMargin (rows s)).length := by
  refine rows_ofRows (by simpa using rows_ne_nil s) ?_
  intro r hr
  obtain ⟨r, hmem, rfl⟩ := List.mem_map.1 hr
  split
  · exact List.not_mem_nil
  · exact fun h => notMem_of_mem_rows hmem (List.mem_of_mem_drop h)

/-- Blank rows stay without a margin, and filled rows keep theirs but for the shared part. -/
theorem margin?_unindent (hr : r ∈ rows s) :
    margin? (if r.all isMargin then [] else r.drop (sharedMargin (rows s)).length) =
      (margin? r).map (List.drop (sharedMargin (rows s)).length) := by
  cases hm : margin? r with
  | none =>
    rw [margin?] at hm
    split at hm
    · next hall => rw [if_pos hall]; rfl
    · cases hm
  | some m =>
    have hmem : m ∈ margins s := List.mem_filterMap.2 ⟨r, hr, hm⟩
    rw [if_neg (by simp [(margin?_eq_some.1 hm).1]), margin?_drop hm (sharedMargin_starts hmem)]
    rfl

theorem margins_unindent (s : Text) :
    margins (unindent s) = (margins s).map (List.drop (sharedMargin (rows s)).length) := by
  have hrows := List.map_congr_left fun r hr => margin?_unindent (s := s) (r := r) hr
  have hid : ∀ (f : Text → Option Text) (rs : List Text), rs.filterMap f = (rs.map f).filterMap id :=
    fun f rs => by rw [List.filterMap_map, Function.id_comp]
  rw [margins, rows_unindent, List.filterMap_map, margins, List.map_filterMap, hid,
    hid (fun r => (margin? r).map _)]
  exact congrArg _ hrows

/-- Without their shared margin the rows share none. -/
theorem isFlush_unindent (s : Text) : IsFlush (unindent s) where
  blankRows r hr hall := by
    rw [rows_unindent] at hr
    obtain ⟨r, hmem, rfl⟩ := List.mem_map.1 hr
    have hmargin := margin?_unindent hmem
    split
    · rfl
    · next hfilled =>
      rw [if_neg hfilled] at hall hmargin
      rw [margin?, if_pos hall, margin?, if_neg hfilled] at hmargin
      cases hmargin
  noMargin := by
    by_cases hnone : margins s = []
    · rw [sharedMargin, ← margins, margins_unindent, hnone]
      rfl
    · have hunindent : margins (unindent s) ≠ [] := by
        rw [margins_unindent]
        simpa using hnone
      have hlonger : sharedMargin (rows s) ++ sharedMargin (rows (unindent s)) <+:
          sharedMargin (rows s) := by
        rw [prefix_sharedMargin_iff hnone]
        intro m hm
        obtain ⟨n, rfl⟩ := sharedMargin_starts hm
        refine (List.prefix_append_right_inj _).2 ?_
        refine (prefix_sharedMargin_iff hunindent).1 (List.prefix_refl _) n ?_
        rw [margins_unindent]
        exact List.mem_map.2 ⟨_, hm, List.drop_left⟩
      have := hlonger.length_le
      rw [List.length_append] at this
      exact List.length_eq_zero_iff.1 (by omega)

/-! ## Empty rows -/

theorem margins_append_cons (s t : Text) : margins (s ++ '\n' :: t) = margins s ++ margins t := by
  rw [margins, rows_append_cons, List.filterMap_append, margins, margins]

theorem margins_nil : margins [] = [] := rfl

/-- Whether rows are flush depends on the filled ones, if the others are empty. -/
theorem IsFlush.of_margins (h : IsFlush s) (hmargins : margins t = margins s)
    (hblank : ∀ r ∈ rows t, r.all isMargin = true → r = []) : IsFlush t :=
  ⟨hblank, (sharedMargin_eq_of_margins_eq hmargins).trans h.noMargin⟩

theorem IsFlush.append_newline (h : IsFlush s) : IsFlush (s ++ ['\n']) := by
  refine h.of_margins (by rw [margins_append_cons, margins_nil, List.append_nil]) ?_
  intro r hr hall
  rw [rows_append_cons] at hr
  rcases List.mem_append.1 hr with hr | hr
  · exact h.blankRows r hr hall
  · exact List.mem_singleton.1 hr

theorem margins_of_newlines {w : Text} (hw : ∀ c ∈ w, (c == '\n') = true) : margins w = [] := by
  induction w with
  | nil => rfl
  | cons c w ih =>
    obtain ⟨hc, hw⟩ := List.forall_mem_cons.1 hw
    rw [eq_of_beq hc, show '\n' :: w = [] ++ '\n' :: w from rfl, margins_append_cons, ih hw]
    rfl

/-- Line feeds at both ends are empty rows. -/
theorem IsFlush.trimWhile (h : IsFlush s) : IsFlush (s.trimWhile (· == '\n')) := by
  have hstart : ∀ {w t : Text}, (∀ c ∈ w, (c == '\n') = true) → IsFlush (w ++ t) → IsFlush t := by
    intro w t hw h
    induction w with
    | nil => exact h
    | cons c w ih =>
      obtain ⟨hc, hw⟩ := List.forall_mem_cons.1 hw
      rw [eq_of_beq hc] at h
      refine ih hw (h.of_margins (margins_append_cons [] (w ++ t)).symm fun r hr hall => ?_)
      refine h.blankRows r ?_ hall
      rw [show '\n' :: w ++ t = [] ++ '\n' :: (w ++ t) from rfl, rows_append_cons]
      exact List.mem_append_right _ hr
  have hdrop : IsFlush (s.dropWhile (· == '\n')) := by
    rw [← List.takeWhile_append_dropWhile (p := (· == '\n')) (l := s)] at h
    exact hstart (fun c hc => List.all_eq_true.1 List.all_takeWhile c hc) h
  obtain ⟨w, hw, hnewlines, -⟩ := dropWhileEnd_spec (· == '\n') (s.dropWhile (· == '\n'))
  rw [hw] at hdrop
  rw [Text.trimWhile]
  cases w with
  | nil => rwa [List.append_nil] at hdrop
  | cons c w =>
    obtain ⟨hc, hnewlines⟩ := List.forall_mem_cons.1 hnewlines
    rw [eq_of_beq hc] at hdrop
    refine hdrop.of_margins ?_ fun r hr hall => hdrop.blankRows r ?_ hall
    · rw [margins_append_cons, margins_of_newlines hnewlines, List.append_nil]
    · rw [rows_append_cons]
      exact List.mem_append_left _ hr

/-- The last row of a text goes on with what is added to the text. -/
theorem exists_last_row (s : Text) :
    ∃ rs r, rows s = rs ++ [r] ∧ (∀ w, '\n' ∉ w → rows (s ++ w) = rs ++ [r ++ w]) ∧
      (r = [] → s = [] ∨ s.getLast? = some '\n') ∧ (r ≠ [] → s.getLast? = r.getLast?) := by
  induction s using rows_induction with
  | single r hr =>
    exact ⟨[], r, rows_of_notMem hr, fun w hw => rows_of_notMem (by simp [hr, hw]), .inl, fun _ => rfl⟩
  | more r t hr ih =>
    obtain ⟨rs, u, hrows, hadd, hempty, hlast⟩ := ih
    refine ⟨r :: rs, u, ?_, fun w hw => ?_, fun hu => .inr ?_, fun hu => ?_⟩
    · rw [rows_append_cons, rows_of_notMem hr, hrows]
      rfl
    · rw [List.append_assoc, List.cons_append, rows_append_cons, rows_of_notMem hr, hadd w hw]
      rfl
    · rcases hempty hu with rfl | h
      · rw [List.getLast?_append]
        rfl
      · rw [List.getLast?_append, List.getLast?_cons, h]
        rfl
    · rw [List.getLast?_append, List.getLast?_cons, hlast hu]
      cases hr : u.getLast? with
      | none => exact absurd (List.getLast?_eq_none_iff.1 hr) hu
      | some c => rfl

/-- A text with a line feed has a last one. -/
theorem exists_last_newline (h : '\n' ∈ s) : ∃ a b, s = a ++ '\n' :: b ∧ '\n' ∉ b := by
  induction s using rows_induction with
  | single r hr => exact absurd h hr
  | more r t hr ih =>
    by_cases ht : '\n' ∈ t
    · obtain ⟨a, b, rfl, hb⟩ := ih ht
      exact ⟨r ++ '\n' :: a, b, by simp, hb⟩
    · exact ⟨r, t, rfl, ht⟩

theorem mem_of_mem_trimWhile {p : Char → Bool} (h : c ∈ s.trimWhile p) : c ∈ s := by
  obtain ⟨w, hw, -⟩ := dropWhileEnd_spec p (s.dropWhile p)
  rw [← List.takeWhile_append_dropWhile (p := p) (l := s), hw]
  exact List.mem_append_right _ (List.mem_append_left w h)

/-- A row that starts at the left margin leaves the rows below no margin to share. -/
theorem isFlush_cons (hr : '\n' ∉ r) (hfilled : ∃ c ∈ r.head?, isMargin c = false)
    (ht : ∀ u ∈ rows t, u.all isMargin = true → u = []) : IsFlush (r ++ '\n' :: t) := by
  obtain ⟨c, hc, hmargin⟩ := hfilled
  obtain ⟨r, rfl⟩ : ∃ r', r = c :: r' := by
    cases r with
    | nil => cases hc
    | cons d r =>
      cases hc
      exact ⟨r, rfl⟩
  have hnone : [] ∈ margins (c :: r ++ '\n' :: t) := by
    rw [margins_append_cons, margins, rows_of_notMem hr]
    simp [margin?, hmargin]
  refine ⟨fun u hu hall => ?_, List.prefix_nil.1 (sharedMargin_starts hnone)⟩
  rw [rows_append_cons, rows_of_notMem hr] at hu
  rcases List.mem_cons.1 hu with rfl | hu
  · simp [hmargin] at hall
  · exact ht u hu hall

end XmlTemplate.Text
