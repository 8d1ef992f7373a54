import Mathlib.Data.List.Basic
import XmlTemplate.Proofs.Template.Body

/-!
# Bodies with a margin

The margin of a body is taken off again, whatever it is: where every row of a block of code has the
same margin put in front of it, and the block stands below the line of the argument, with the closing
brace on a line of its own, the program has the block as it was (`bodySource_indentRows`). If the
line of the argument ends with a colon, the block gets the margin of a block in place of the one that
it had.
-/

set_option autoImplicit false

namespace XmlTemplate

open Text

variable {s m m' f r : Text}

namespace Text

/-- The text with a margin before every row that is not blank. -/
def indentRows (m s : Text) : Text := ofRows ((rows s).map (padRow m))

theorem notMem_padRow (hm : '\n' ∉ m) (hr : '\n' ∉ r) : '\n' ∉ padRow m r := by
  rw [padRow]
  split
  · exact hr
  · simp [hm, hr]

theorem rows_indentRows (hm : '\n' ∉ m) (s : Text) :
    rows (indentRows m s) = (rows s).map (padRow m) := by
  apply rows_ofRows
  · simpa using rows_ne_nil s
  · intro r hr
    obtain ⟨r, hmem, rfl⟩ := List.mem_map.1 hr
    exact notMem_padRow hm (notMem_of_mem_rows hmem)

/-- Where only line feeds end lines, a margin before the rows is one before the lines. -/
theorem indentLines_eq_indentRows (hm : '\n' ∉ m) (hends : ∀ c ∈ s, isLineEnd c = true → c = '\n') :
    indentLines m s = indentRows m s := by
  have hrows : (rows s).map (indentLines m) = (rows s).map (padRow m) := by
    apply List.map_congr_left
    intro r hr
    apply indentLines_of_row
    intro c hc
    rw [Bool.eq_false_iff]
    intro hend
    obtain rfl := hends c (mem_of_mem_rows hr hc) hend
    exact notMem_of_mem_rows hr hc
  rw [indentRows, ← hrows, ← rows_indentLines hm, ofRows_rows]

/-! ## The margin that the rows share -/

/-- The margin that the rows get comes before those that they have. -/
theorem margins_indentRows (hm : ∀ c ∈ m, isMargin c = true)
    (hempty : ∀ r ∈ rows s, r.allBlank = true → r = []) :
    margins (indentRows m s) = (margins s).map (m ++ ·) := by
  have hrow : ∀ r ∈ rows s, margin? (padRow m r) = (margin? r).map (m ++ ·) := by
    intro r hr
    cases hblank : r.allBlank with
    | true =>
      rw [hempty r hr hblank]
      rfl
    | false =>
      have hfilled := all_isMargin_of_filled hblank
      have hpadded : (m ++ r).all isMargin = false := by
        rw [List.all_append, hfilled, Bool.and_false]
      rw [padRow_of_filled hblank, margin?, hpadded, if_neg Bool.false_ne_true, margin?, hfilled,
        if_neg Bool.false_ne_true, List.takeWhile_append_of_pos hm]
      rfl
  rw [margins, rows_indentRows (notMem_of_isMargin hm), List.filterMap_map, margins,
    List.map_filterMap]
  exact List.filterMap_congr hrow

/-- Rows that share no margin share the one that they get. -/
theorem sharedMargin_of_margins_eq_map {t : Text} (hmargins : margins t = (margins s).map (m ++ ·))
    (hfilled : margins s ≠ []) (hnone : sharedMargin (rows s) = []) : sharedMargin (rows t) = m := by
  have hfilled' : margins t ≠ [] := by
    rw [hmargins]
    simpa using hfilled
  -- the new margin is part of the shared one, and what is left of that was shared before
  have hstart : m <+: sharedMargin (rows t) := by
    rw [prefix_sharedMargin_iff hfilled', hmargins]
    intro n hn
    obtain ⟨n, -, rfl⟩ := List.mem_map.1 hn
    exact List.prefix_append m n
  obtain ⟨q, hq⟩ := hstart
  have hrest : q <+: sharedMargin (rows s) := by
    rw [prefix_sharedMargin_iff hfilled]
    intro n hn
    have hmem : m ++ n ∈ margins t := by
      rw [hmargins]
      exact List.mem_map.2 ⟨n, hn, rfl⟩
    have hprefix := sharedMargin_starts hmem
    rw [← hq] at hprefix
    exact (List.prefix_append_right_inj m).1 hprefix
  rw [hnone] at hrest
  rw [← hq, List.prefix_nil.1 hrest, List.append_nil]

/-- What is removed from rows with a margin is that margin, if they shared none before. -/
theorem unindent_indentRows (hm : ∀ c ∈ m, isMargin c = true) (hm' : ∀ c ∈ m', isMargin c = true)
    (hempty : ∀ r ∈ rows s, r.allBlank = true → r = []) (hfilled : margins s ≠ [])
    (hnone : sharedMargin (rows s) = []) :
    unindent (indentRows m s ++ '\n' :: m') = s ++ ['\n'] := by
  have hline := notMem_of_isMargin hm
  have hlast : m'.all isMargin = true := List.all_eq_true.2 hm'
  have hrows : rows (indentRows m s ++ '\n' :: m') = (rows s).map (padRow m) ++ [m'] := by
    rw [rows_append_cons, rows_indentRows hline, rows_of_notMem (notMem_of_isMargin hm')]
  have hmargins : margins (indentRows m s ++ '\n' :: m') = (margins s).map (m ++ ·) := by
    have hnothing : margins m' = [] := by
      rw [margins, rows_of_notMem (notMem_of_isMargin hm')]
      simp [margin?, hlast]
    rw [margins_append_cons, hnothing, List.append_nil, margins_indentRows hm hempty]
  have hshared := sharedMargin_of_margins_eq_map hmargins hfilled hnone
  have hrow : ∀ r ∈ rows s, (if (padRow m r).all isMargin then [] else (padRow m r).drop m.length) = r := by
    intro r hr
    cases hblank : r.allBlank with
    | true =>
      rw [hempty r hr hblank]
      rfl
    | false =>
      have hpadded : (m ++ r).all isMargin = false := by
        rw [List.all_append, all_isMargin_of_filled hblank, Bool.and_false]
      rw [padRow_of_filled hblank, hpadded, if_neg Bool.false_ne_true, List.drop_left]
  have hmap : (rows s).map ((fun r => if r.all isMargin then [] else r.drop m.length) ∘ padRow m) =
      rows s := by
    conv_rhs => rw [← List.map_id (rows s)]
    exact List.map_congr_left hrow
  rw [unindent]
  simp only [hshared]
  rw [hrows, List.map_append, List.map_map, hmap, List.map_singleton, if_pos hlast]
  have hjoin := ofRows_rows (s ++ ['\n'])
  rwa [rows_append_cons] at hjoin

end Text

/-! ## Blocks of code -/

/-- A block of code at the left margin: only line feeds end its lines, its rows are empty or filled,
the first one and the last one are filled, no blank stands at its end, and the filled rows share no
margin. -/
structure IsBlock (s : Text) : Prop where
  lineEnds : ∀ c ∈ s, isLineEnd c = true → c = '\n'
  emptyRows : ∀ r ∈ rows s, r.allBlank = true → r = []
  firstRow : ∀ r ∈ (rows s).head?, r.allBlank = false
  lastRow : ∀ r ∈ (rows s).getLast?, r.allBlank = false ∧ ∀ c ∈ r.getLast?, isBlank c = false
  noMargin : ∀ p : Text, p.all isMargin = true →
    (∀ r ∈ rows s, r.allBlank = false → p <+: r) → p = []

namespace IsBlock

/-- The first row of a block. -/
theorem exists_first (hs : IsBlock s) : ∃ r ∈ rows s, r.allBlank = false := by
  cases hrows : rows s with
  | nil => exact absurd hrows (rows_ne_nil s)
  | cons r rest =>
    refine ⟨r, List.mem_cons_self, hs.firstRow r ?_⟩
    rw [hrows]
    rfl

theorem margins_ne_nil (hs : IsBlock s) : margins s ≠ [] := by
  obtain ⟨r, hr, hblank⟩ := hs.exists_first
  exact margins_ne_nil_of_filled hr hblank

theorem sharedMargin_eq_nil (hs : IsBlock s) : sharedMargin (rows s) = [] := by
  -- the shared margin is one that every filled row starts with
  have hstarts : ∀ r ∈ rows s, r.allBlank = false →
      (∀ c ∈ sharedMargin (rows s), isMargin c = true) ∧ sharedMargin (rows s) <+: r := by
    intro r hr hblank
    obtain ⟨hmargin, hcut⟩ := sharedMargin_append_drop hr (all_isMargin_of_filled hblank)
    exact ⟨hmargin, ⟨_, hcut⟩⟩
  obtain ⟨r, hr, hblank⟩ := hs.exists_first
  apply hs.noMargin
  · exact List.all_eq_true.2 (hstarts r hr hblank).1
  · intro r hr hblank
    exact (hstarts r hr hblank).2

theorem ne_nil (hs : IsBlock s) : s ≠ [] := by
  rintro rfl
  have := hs.firstRow [] rfl
  cases this

theorem isSettled (hs : IsBlock s) : IsSettled s := by
  refine ⟨⟨?_, hs.sharedMargin_eq_nil⟩, ?_, ?_⟩
  · intro r hr hall
    exact hs.emptyRows r hr (allBlank_of_isMargin (List.all_eq_true.1 hall))
  · -- a line feed in front would make the first row empty
    intro c hc
    rw [Bool.eq_false_iff]
    intro hnewline
    obtain ⟨t, rfl⟩ : ∃ t, s = '\n' :: t := by
      cases s with
      | nil => cases hc
      | cons d t =>
        obtain rfl : d = c := by simpa using hc
        exact ⟨t, by rw [eq_of_beq hnewline]⟩
    have := hs.firstRow [] (by rw [rows, if_pos rfl]; rfl)
    cases this
  · intro c hc
    obtain ⟨rs, r, hrows, -, -, hlast⟩ := exists_last_row s
    obtain ⟨hblank, hend⟩ := hs.lastRow r (by rw [hrows, List.getLast?_concat]; rfl)
    have hr : r ≠ [] := by
      rintro rfl
      cases hblank
    exact hend c (hlast hr ▸ hc)

end IsBlock

/-! ## The program of a body with a margin -/

theorem bodyBelow_indentRows (hs : IsBlock s) (hm : ∀ c ∈ m, isMargin c = true)
    (hm' : ∀ c ∈ m', isMargin c = true) :
    bodyBelow ('\n' :: (indentRows m s ++ '\n' :: m')) = s := by
  rw [bodyBelow_newline,
    unindent_indentRows hm hm' hs.emptyRows hs.margins_ne_nil hs.sharedMargin_eq_nil]
  exact hs.isSettled.trim_append_newline

/-- A block of code below the line of the argument is in the program without the margin that its rows
have, whatever margin that is and wherever the closing brace stands. Behind a colon it gets the margin
of a block. -/
theorem bodySource_indentRows (hs : IsBlock s) (hm : ∀ c ∈ m, isMargin c = true)
    (hm' : ∀ c ∈ m', isMargin c = true) :
    bodySource ('\n' :: (indentRows m s ++ '\n' :: m')) = s ∧
      ∀ f : Text, '\n' ∉ f → f.allBlank = false →
        bodySource (f ++ '\n' :: (indentRows m s ++ '\n' :: m')) =
          f.trim ++ '\n' :: if f.trim.getLast? = some ':' then indentRows blockMargin s else s := by
  have hbelow := bodyBelow_indentRows hs hm hm'
  constructor
  · have hfirst : bodyFirst ('\n' :: (indentRows m s ++ '\n' :: m')) = [] := rfl
    rw [bodySource_eq_stacked, bodyBlock, hfirst, hbelow]
    rfl
  · intro f hf hfilled
    have hfirst : f.trim ≠ [] := by
      intro hnil
      have hblank := allBlank_trimWhile (q := isBlank) (fun _ => id) f
      rw [← trim, hnil, hfilled] at hblank
      cases hblank
    have hblock : indentLines blockMargin s = indentRows blockMargin s :=
      indentLines_eq_indentRows notMem_blockMargin hs.lineEnds
    rw [bodySource_eq_stacked, bodyBlock, bodyFirst_append_cons hf, bodyBelow_append_cons hf, hbelow,
      hblock, stacked, if_neg (by simpa using hfirst), if_neg]
    split
    · rw [← hblock]
      simpa using indentLines_ne_nil (by decide) hs.ne_nil
    · simpa using hs.ne_nil

/-- A block with an empty row in it, whose first row is the deeper one. -/
def mixedBlock : Text := "  a\n\n\tb".toList

theorem isBlock_mixedBlock : IsBlock mixedBlock where
  lineEnds c hc hend := by
    have hall : (mixedBlock.all fun c => !isLineEnd c || c == '\n') = true := by decide
    simpa [hend] using List.all_eq_true.1 hall c hc
  emptyRows := by decide
  firstRow := by decide
  lastRow := by
    have hlast : (rows mixedBlock).getLast? = some "\tb".toList := by decide
    intro r hr
    rw [hlast] at hr
    obtain rfl := Option.some.inj hr
    exact ⟨by decide, fun c hc => Option.some.inj hc ▸ by decide⟩
  noMargin p _ hstarts := by
    have hspaces : p <+: "  a".toList := hstarts _ (by decide) (by decide)
    have htab : p <+: "\tb".toList := hstarts _ (by decide) (by decide)
    cases p with
    | nil => rfl
    | cons c p =>
      -- one of the two rows starts with a space, the other one with a tab
      obtain ⟨hspace, -⟩ := List.cons_prefix_cons.1 hspaces
      obtain ⟨htab, -⟩ := List.cons_prefix_cons.1 htab
      rw [hspace] at htab
      exact absurd htab (by decide)

theorem bodySource_indentRows_mixedBlock :
    (IsBlock mixedBlock ∧ (∀ c ∈ "\t ".toList, isMargin c = true) ∧
        ∀ c ∈ "  ".toList, isMargin c = true) ∧
      bodySource "\n\t   a\n\n\t \tb\n  ".toList = mixedBlock ∧
      bodySource " for x in y: \n\t   a\n\n\t \tb\n  ".toList =
        "for x in y:\n      a\n\n    \tb".toList := by
  have hm : ∀ c ∈ "\t ".toList, isMargin c = true := by simp [isMargin]
  have hm' : ∀ c ∈ "  ".toList, isMargin c = true := by simp [isMargin]
  obtain ⟨hblock, hfirst⟩ := bodySource_indentRows isBlock_mixedBlock hm hm'
  exact ⟨⟨isBlock_mixedBlock, hm, hm'⟩, hblock, hfirst " for x in y: ".toList (by decide) (by decide)⟩

end XmlTemplate
