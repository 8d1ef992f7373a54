import XmlTemplate.Proofs.Literal.Calm
import XmlTemplate.Proofs.Template.Grammar
import XmlTemplate.Proofs.Text.Indentation
import XmlTemplate.Proofs.Token.Lexeme

/-!
# The program in a body

The statements of a continuation are made out of its body by moving its lines to the left margin. If
the body has no other blanks than spaces, tabs and line feeds, what comes out is settled
(`isSettled_bodySource`): written as a body of its own, on lines of its own, it is made into itself
(`IsSettled.bodySource_eq`). Whatever holds of a body row by row holds of its program
(`IsRowwise.bodySource`).
-/

set_option autoImplicit false

namespace XmlTemplate

open Text

variable {s t r : Text} {c : Char}

/-! ## What holds row by row -/

/-- A property that a text has if its rows have it, whatever their margins are. -/
structure IsRowwise (P : Text → Prop) : Prop where
  newline : ∀ {s t}, P (s ++ '\n' :: t) ↔ P s ∧ P t
  margin : ∀ {m s}, (∀ c ∈ m, isMargin c = true) → (P (m ++ s) ↔ P s)
  start : ∀ {s t}, P (s ++ t) → P s
  blanks : ∀ {b s}, (∀ c ∈ b, isBlank c = true) → P (b ++ s) → P s

/-- No other blanks than spaces, tabs and line feeds. -/
def HasPlainBlanks (s : Text) : Prop := ∀ c ∈ s, isBlank c = true → c = ' ' ∨ c = '\t' ∨ c = '\n'

theorem isRowwise_hasPlainBlanks : IsRowwise HasPlainBlanks where
  newline {s t} := by
    simp only [HasPlainBlanks, List.mem_append, List.mem_cons]
    constructor
    · exact fun h => ⟨fun c hc => h c (.inl hc), fun c hc => h c (.inr (.inr hc))⟩
    · rintro ⟨hs, ht⟩ c (hc | rfl | hc)
      · exact hs c hc
      · exact fun _ => .inr (.inr rfl)
      · exact ht c hc
  margin {m s} hm := by
    simp only [HasPlainBlanks, List.mem_append]
    constructor
    · exact fun h c hc => h c (.inr hc)
    · rintro h c (hc | hc)
      · intro
        have := hm c hc
        simp only [isMargin, Bool.or_eq_true, beq_iff_eq] at this
        rcases this with h | h
        · exact .inl h
        · exact .inr (.inl h)
      · exact h c hc
  start h c hc := h c (List.mem_append_left _ hc)
  blanks _ h c hc := h c (List.mem_append_right _ hc)

theorem isRowwise_calm {q : Char} (hq : isQuote q = true) : IsRowwise (Calm q) where
  newline {s t} := by
    refine calm_append_cons (ne_backslash_of_isQuote hq) ?_ (by decide) s t
    rintro rfl
    exact absurd hq (by decide)
  margin {m s} hm := by
    refine calm_append_of_plain fun c hc => ⟨?_, ?_⟩ <;> rintro rfl
    · have := hm c hc
      rcases isQuote_iff.1 hq with rfl | rfl <;> exact absurd this (by decide)
    · exact absurd (hm '\\' hc) (by decide)
  start h := h.of_append (ne_backslash_of_isQuote hq)
  blanks {b s} hb h := by
    refine (calm_append_of_plain fun c hc => ⟨?_, ?_⟩).1 h <;> rintro rfl
    · have := hb c hc
      rw [isBlank_of_isQuote hq] at this
      cases this
    · exact absurd (hb '\\' hc) (by decide)

namespace IsRowwise

variable {P : Text → Prop}

theorem nil (hP : IsRowwise P) (h : P s) : P [] := hP.start (s := []) h

theorem iff_rows (hP : IsRowwise P) : P s ↔ ∀ r ∈ rows s, P r := by
  induction s using rows_induction with
  | single r hr => simp [rows_of_notMem hr]
  | more r t hr ih => rw [rows_append_cons, rows_of_notMem hr, hP.newline, ih]; simp

theorem trimWhile (hP : IsRowwise P) {p : Char → Bool} (hp : ∀ c, p c = true → isBlank c = true)
    (h : P s) : P (s.trimWhile p) := by
  obtain ⟨w, hw, -⟩ := dropWhileEnd_spec p (s.dropWhile p)
  rw [← List.takeWhile_append_dropWhile (p := p) (l := s), hw] at h
  exact hP.start (hP.blanks (fun c hc => hp c (List.all_eq_true.1 List.all_takeWhile c hc)) h)

theorem trimEnd (hP : IsRowwise P) (h : P s) : P s.trimEnd := by
  obtain ⟨w, hw, -⟩ := dropWhileEnd_spec isBlank s
  rw [hw] at h
  exact hP.start h

theorem unindent (hP : IsRowwise P) (h : P s) : P s.unindent := by
  rw [hP.iff_rows, rows_unindent]
  intro r hr
  obtain ⟨r, hmem, rfl⟩ := List.mem_map.1 hr
  have hr := hP.iff_rows.1 h r hmem
  split
  · exact hP.nil hr
  · next hfilled =>
    rw [Bool.not_eq_true] at hfilled
    obtain ⟨hmargin, hcut⟩ := sharedMargin_append_drop hmem hfilled
    rw [← hcut] at hr
    exact (hP.margin hmargin).1 hr

end IsRowwise

/-! ## Indented lines -/

/-- Rows without other blanks than spaces and tabs end no line. -/
theorem isLineEnd_of_hasPlainBlanks (h : HasPlainBlanks s) (hline : '\n' ∉ s) :
    ∀ c ∈ s, isLineEnd c = false := by
  intro c hc
  rw [Bool.eq_false_iff]
  intro hend
  rcases h c hc (isBlank_of_isLineEnd hend) with rfl | rfl | rfl
  · exact absurd hend (by decide)
  · exact absurd hend (by decide)
  · exact hline hc

theorem rows_indentLines_of_hasPlainBlanks {m : Text} (hm : '\n' ∉ m) (h : HasPlainBlanks s) :
    rows (indentLines m s) = (rows s).map (padRow m) := by
  rw [rows_indentLines hm]
  refine List.map_congr_left fun r hr => indentLines_of_row ?_
  exact isLineEnd_of_hasPlainBlanks (isRowwise_hasPlainBlanks.iff_rows.1 h r hr)
    (notMem_of_mem_rows hr)

theorem IsRowwise.indentLines {P : Text → Prop} (hP : IsRowwise P) {m : Text} (hm : '\n' ∉ m)
    (hmargin : ∀ c ∈ m, isMargin c = true) (hs : HasPlainBlanks s) (h : P s) :
    P (Text.indentLines m s) := by
  rw [hP.iff_rows, rows_indentLines_of_hasPlainBlanks hm hs]
  intro r hr
  obtain ⟨r, hmem, rfl⟩ := List.mem_map.1 hr
  have hr := hP.iff_rows.1 h r hmem
  rw [padRow]
  split
  · exact hr
  · exact (hP.margin hmargin).2 hr

/-! ## The parts of a program -/

/-- After its first row a text is at its end, or goes on with a line feed. -/
theorem dropWhile_row (s : Text) :
    s.dropWhile (· != '\n') = [] ∨ ∃ t, s.dropWhile (· != '\n') = '\n' :: t := by
  cases hdrop : s.dropWhile (· != '\n') with
  | nil => exact .inl rfl
  | cons c t =>
    have hc := List.head?_dropWhile_not (· != '\n') s
    rw [hdrop] at hc
    obtain rfl : c = '\n' := by simpa using hc
    exact .inr ⟨t, rfl⟩

/-- What stands on the line of the argument. -/
def bodyFirst (s : Text) : Text := Text.trim (s.takeWhile (· != '\n'))

/-- The lines below, without their shared margin. -/
def bodyBelow (s : Text) : Text :=
  ((Text.unindent (s.dropWhile (· != '\n')).tail).trimWhile (· == '\n')).trimEnd

theorem bodyFirst_append_cons (hr : '\n' ∉ r) : bodyFirst (r ++ '\n' :: t) = r.trim := by
  rw [bodyFirst, List.takeWhile_append_of_pos]
  · simp
  · exact fun d hd => bne_iff_ne.2 fun heq => hr (heq ▸ hd)

/-- The lines below do not depend on the first one. -/
theorem bodyBelow_append_cons (hr : '\n' ∉ r) : bodyBelow (r ++ '\n' :: t) = bodyBelow ('\n' :: t) := by
  rw [bodyBelow, bodyBelow, List.dropWhile_append_of_pos]
  exact fun d hd => bne_iff_ne.2 fun heq => hr (heq ▸ hd)

theorem bodyBelow_newline (t : Text) :
    bodyBelow ('\n' :: t) = (Text.trimWhile (· == '\n') t.unindent).trimEnd := rfl

/-- The program is one of its parts, or both, the second one with a margin or as it is. -/
theorem bodySource_cases (s : Text) :
    (bodyFirst s = [] ∧ bodySource s = bodyBelow s) ∨
      (bodyFirst s ≠ [] ∧ bodySource s = bodyFirst s) ∨
      (bodyFirst s ≠ [] ∧ bodyBelow s ≠ [] ∧
        (bodySource s = bodyFirst s ++ '\n' :: indentLines blockMargin (bodyBelow s) ∨
          bodySource s = bodyFirst s ++ '\n' :: bodyBelow s)) := by
  by_cases hfirst : bodyFirst s = []
  · refine .inl ⟨hfirst, ?_⟩
    rw [bodySource, ← bodyFirst, hfirst]
    rfl
  · have hfirst' : ¬(bodyFirst s).isEmpty = true := by simpa using hfirst
    rw [bodySource, ← bodyFirst, ← bodyBelow]
    simp only [if_neg hfirst']
    by_cases hbelow : bodyBelow s = []
    · exact .inr (.inl ⟨hfirst, by simp [hbelow]⟩)
    · have hbelow' : ¬(bodyBelow s).isEmpty = true := by simpa using hbelow
      simp only [if_neg hbelow']
      refine .inr (.inr ⟨hfirst, hbelow, ?_⟩)
      split
      · exact .inl rfl
      · exact .inr rfl

/-- The lines below as they stand in the program: with a margin if the first line opens a block. -/
def bodyBlock (s : Text) : Text :=
  if (bodyFirst s).getLast? = some ':' then indentLines blockMargin (bodyBelow s) else bodyBelow s

/-- Two parts of a program, one below the other unless one of them is empty. -/
def stacked (first block : Text) : Text :=
  if first.isEmpty then block else if block.isEmpty then first else first ++ '\n' :: block

/-- A program is what stands on the line of the argument, and its block. -/
theorem bodySource_eq_stacked (s : Text) : bodySource s = stacked (bodyFirst s) (bodyBlock s) := by
  rw [bodySource, ← bodyFirst, ← bodyBelow, stacked, bodyBlock]
  by_cases hfirst : bodyFirst s = []
  · simp [hfirst]
  · by_cases hbelow : bodyBelow s = []
    · simp [hfirst, hbelow, indentLines, lines]
    · have hindent := indentLines_ne_nil (m := blockMargin) (by decide) hbelow
      simp only [List.isEmpty_iff, hfirst, hbelow, if_false]
      split
      · simp
      · simp

theorem isBlank_of_beq_newline {c : Char} (h : (c == '\n') = true) : isBlank c = true := by
  rw [eq_of_beq h]
  decide

theorem IsRowwise.bodyFirst {P : Text → Prop} (hP : IsRowwise P) (h : P s) : P (bodyFirst s) := by
  rw [← List.takeWhile_append_dropWhile (p := (· != '\n')) (l := s)] at h
  exact hP.trimWhile (fun _ => id) (hP.start h)

theorem IsRowwise.bodyBelow {P : Text → Prop} (hP : IsRowwise P) (h : P s) : P (bodyBelow s) := by
  have hbelow : P (s.dropWhile (· != '\n')).tail := by
    rcases dropWhile_row s with hdrop | ⟨t, hdrop⟩
    · rw [hdrop]
      exact hP.nil h
    · rw [← List.takeWhile_append_dropWhile (p := (· != '\n')) (l := s), hdrop] at h
      rw [hdrop]
      exact (hP.newline.1 h).2
  exact hP.trimEnd (hP.trimWhile (fun _ => isBlank_of_beq_newline) (hP.unindent hbelow))

theorem notMem_blockMargin : '\n' ∉ blockMargin := by decide

theorem isMargin_of_mem_blockMargin : ∀ c ∈ blockMargin, isMargin c = true :=
  List.all_eq_true.1 (by decide)

/-- What holds of a body row by row holds of the program that it is made into. -/
theorem IsRowwise.bodySource {P : Text → Prop} (hP : IsRowwise P) (hs : HasPlainBlanks s)
    (h : P s) : P (bodySource s) := by
  have hfirst := hP.bodyFirst h
  have hbelow := hP.bodyBelow h
  rcases bodySource_cases s with ⟨-, heq⟩ | ⟨-, heq⟩ | ⟨-, -, heq | heq⟩ <;> rw [heq]
  · exact hbelow
  · exact hfirst
  · exact hP.newline.2 ⟨hfirst, hP.indentLines notMem_blockMargin isMargin_of_mem_blockMargin
      (isRowwise_hasPlainBlanks.bodyBelow hs) hbelow⟩
  · exact hP.newline.2 ⟨hfirst, hbelow⟩

/-! ## Settled programs -/

/-- A text at the left margin with nothing to trim. -/
structure IsSettled (s : Text) : Prop where
  flush : IsFlush s
  head : ∀ c ∈ s.head?, (c == '\n') = false
  last : ∀ c ∈ s.getLast?, isBlank c = false

theorem isMargin_of_isBlank (h : HasPlainBlanks s) (hline : '\n' ∉ s) (hs : ∀ c ∈ s, isBlank c = true) :
    s.all isMargin = true := by
  rw [List.all_eq_true]
  intro c hc
  rcases h c hc (hs c hc) with rfl | rfl | rfl
  · rfl
  · rfl
  · exact absurd hc hline

/-- Behind a settled text there is a line feed to trim, and nothing else. -/
theorem IsSettled.trim_append_newline (h : IsSettled s) :
    (Text.trimWhile (· == '\n') (s ++ ['\n'])).trimEnd = s := by
  have hlast : ∀ c ∈ s.getLast?, (c == '\n') = false := by
    intro c hc
    rw [Bool.eq_false_iff]
    intro hn
    have := h.last c hc
    rw [isBlank_of_beq_newline hn] at this
    cases this
  have htrim : Text.trimWhile (· == '\n') (s ++ ['\n']) = s := by
    cases s with
    | nil => rfl
    | cons c s =>
      rw [Text.trimWhile, dropWhile_eq_self (s := c :: s ++ ['\n']) (fun d hd => h.head d hd)]
      exact dropWhileEnd_append hlast (by simp)
  rw [htrim]
  exact dropWhileEnd_eq_self h.last

/-- On lines of its own, a settled text is the program of a body. -/
theorem IsSettled.bodySource_eq (h : IsSettled s) : bodySource ('\n' :: (s ++ ['\n'])) = s := by
  have hfirst : XmlTemplate.bodyFirst ('\n' :: (s ++ ['\n'])) = [] := rfl
  have hbelow : XmlTemplate.bodyBelow ('\n' :: (s ++ ['\n'])) = s := by
    have htail : (('\n' :: (s ++ ['\n'])).dropWhile (· != '\n')).tail = s ++ ['\n'] := rfl
    rw [XmlTemplate.bodyBelow, htail, h.flush.append_newline.unindent_eq]
    exact h.trim_append_newline
  rcases bodySource_cases ('\n' :: (s ++ ['\n'])) with ⟨-, heq⟩ | ⟨hne, -⟩ | ⟨hne, -⟩
  · rw [heq, hbelow]
  · exact absurd hfirst hne
  · exact absurd hfirst hne

/-- What is left of a flush text without the blanks at its end is flush. -/
theorem isFlush_trimEnd (hs : HasPlainBlanks s) (h : IsFlush s)
    (hlast : ∀ c ∈ s.getLast?, (c == '\n') = false) : IsFlush s.trimEnd := by
  obtain ⟨w, hw, hblanks, hend⟩ := dropWhileEnd_spec isBlank s
  rw [← Text.trimEnd] at hw hend
  generalize s.trimEnd = v at hw hend ⊢
  subst hw
  -- a new line among the trimmed blanks would leave a blank last row, which is empty because the
  -- text is flush: the text would end with a new line
  have hline : '\n' ∉ w := by
    intro hmem
    obtain ⟨a, b, rfl, hb⟩ := exists_last_newline hmem
    have hrow : b ∈ rows (v ++ (a ++ '\n' :: b)) := by
      rw [← List.append_assoc, rows_append_cons, rows_of_notMem hb]
      simp
    have hall : b.all isMargin = true := by
      refine isMargin_of_isBlank (fun c hc => hs c ?_) hb fun c hc => hblanks c ?_
      · simp [hc]
      · simp [hc]
    rw [h.blankRows b hrow hall, ← List.append_assoc] at hlast
    have := hlast '\n' (by rw [List.getLast?_append]; rfl)
    exact absurd this (by decide)
  obtain ⟨rs, r, hrows, hadd, hempty, hr⟩ := exists_last_row v
  by_cases hnil : r = []
  · rcases hempty hnil with rfl | hnewline
    · exact ⟨by simp [rows], rfl⟩
    · exact absurd (hend _ hnewline) (by decide)
  · -- the last row has a character after its margin
    obtain ⟨c, hc⟩ : ∃ c, r.getLast? = some c := by
      cases h : r.getLast? with
      | none => exact absurd (List.getLast?_eq_none_iff.1 h) hnil
      | some c => exact ⟨c, rfl⟩
    have hblank : isBlank c = false := hend c ((hr hnil).trans hc)
    have hmargin : isMargin c = false := by
      rw [Bool.eq_false_iff]
      intro hm
      simp only [isMargin, Bool.or_eq_true, beq_iff_eq] at hm
      rcases hm with rfl | rfl <;> exact absurd hblank (by decide)
    have hfilled : r.all isMargin = false := by
      rw [List.all_eq_false]
      exact ⟨c, List.mem_of_getLast? hc, by simp [hmargin]⟩
    refine h.of_margins ?_ fun u hu hall => ?_
    · rw [margins, margins, hrows, hadd w hline, List.filterMap_append, List.filterMap_append]
      have htake : (r ++ w).takeWhile isMargin = r.takeWhile isMargin := by
        rw [List.takeWhile_append, if_neg]
        intro hlength
        have hall := (List.takeWhile_sublist isMargin (l := r)).eq_of_length hlength
        have := List.all_takeWhile (p := isMargin) (l := r)
        rw [hall, hfilled] at this
        cases this
      have hsame : margin? (r ++ w) = margin? r := by
        rw [margin?_eq_some.2 ⟨hfilled, rfl⟩, margin?_eq_some]
        exact ⟨by simp [hfilled], htake⟩
      simp only [List.filterMap_cons, hsame]
    · rw [hrows] at hu
      rcases List.mem_append.1 hu with hu | hu
      · exact h.blankRows u (by rw [hadd w hline]; exact List.mem_append_left _ hu) hall
      · rw [List.mem_singleton.1 hu, hfilled] at hall
        cases hall

theorem isSettled_bodyBelow (h : HasPlainBlanks s) : IsSettled (bodyBelow s) := by
  have htail : HasPlainBlanks (s.dropWhile (· != '\n')).tail := fun c hc =>
    h c ((List.dropWhile_sublist _).mem (List.mem_of_mem_tail hc))
  have hplain := isRowwise_hasPlainBlanks.trimWhile (fun _ => isBlank_of_beq_newline)
    (isRowwise_hasPlainBlanks.unindent htail)
  obtain ⟨hhead, hlast⟩ := trimWhile_spec (· == '\n')
    (Text.unindent (s.dropWhile (· != '\n')).tail)
  have hflush := isFlush_trimEnd hplain (isFlush_unindent _).trimWhile hlast
  obtain ⟨w, hw, -, hend⟩ := dropWhileEnd_spec isBlank
    ((Text.unindent (s.dropWhile (· != '\n')).tail).trimWhile (· == '\n'))
  refine ⟨hflush, fun c hc => hhead c ?_, hend⟩
  rw [hw, List.head?_append]
  show c ∈ (bodyBelow s).head?.or w.head?
  rw [Option.mem_def.1 hc]
  rfl

/-- The first row of a program, if there is one on the line of the argument. -/
theorem bodyFirst_spec (hne : bodyFirst s ≠ []) :
    '\n' ∉ bodyFirst s ∧ (∃ c ∈ (bodyFirst s).head?, isMargin c = false ∧ (c == '\n') = false) ∧
      ∀ c ∈ (bodyFirst s).getLast?, isBlank c = false := by
  obtain ⟨hhead, hlast⟩ := trimWhile_spec isBlank (s.takeWhile (· != '\n'))
  refine ⟨fun hmem => ?_, ?_, hlast⟩
  · have := List.all_eq_true.1 List.all_takeWhile _ (mem_of_mem_trimWhile hmem)
    exact absurd this (by decide)
  · obtain ⟨c, t, hcut⟩ := List.exists_cons_of_ne_nil hne
    have hc : isBlank c = false := hhead c (by rw [← Text.trim, ← bodyFirst, hcut]; rfl)
    refine ⟨c, by rw [hcut]; rfl, ?_, ?_⟩ <;> rw [Bool.eq_false_iff] <;> intro h
    · simp only [isMargin, Bool.or_eq_true, beq_iff_eq] at h
      rcases h with rfl | rfl <;> exact absurd hc (by decide)
    · rw [isBlank_of_beq_newline h] at hc
      cases hc

/-- A row at the left margin with settled rows below, or with none. -/
theorem isSettled_cons (hfirst : bodyFirst s ≠ []) {t : Text} (hne : t ≠ [])
    (ht : ∀ u ∈ rows t, u.all isMargin = true → u = []) (hlast : ∀ c ∈ t.getLast?, isBlank c = false) :
    IsSettled (bodyFirst s ++ '\n' :: t) := by
  obtain ⟨hline, ⟨c, hc, hmargin, hnewline⟩, -⟩ := bodyFirst_spec hfirst
  refine ⟨isFlush_cons hline ⟨c, hc, hmargin⟩ ht, fun d hd => ?_, fun d hd => ?_⟩
  · rw [List.head?_append, Option.mem_def.1 hc] at hd
    cases hd
    exact hnewline
  · rw [List.getLast?_append, List.getLast?_cons] at hd
    cases h : t.getLast? with
    | none => exact absurd (List.getLast?_eq_none_iff.1 h) hne
    | some e =>
      rw [h] at hd
      cases hd
      exact hlast _ h

theorem isSettled_bodyFirst (hfirst : bodyFirst s ≠ []) : IsSettled (bodyFirst s) := by
  obtain ⟨hline, ⟨c, hc, hmargin, hnewline⟩, hlast⟩ := bodyFirst_spec hfirst
  refine ⟨?_, fun d hd => ?_, hlast⟩
  · have hrow : bodyFirst s ∈ rows (bodyFirst s ++ '\n' :: []) := by
      rw [rows_append_cons, rows_of_notMem hline]
      simp
    have hflush := isFlush_cons (t := []) hline ⟨c, hc, hmargin⟩ fun u hu _ => List.mem_singleton.1 hu
    refine hflush.of_margins (by rw [margins_append_cons, margins_nil, List.append_nil]) ?_
    intro u hu hall
    rw [rows_of_notMem hline, List.mem_singleton] at hu
    exact hflush.blankRows u (hu ▸ hrow) hall
  · rw [Option.mem_def.1 hc] at hd
    cases hd
    exact hnewline

/-- What a body without other blanks than spaces, tabs and line feeds is made into is settled. -/
theorem isSettled_bodySource (h : HasPlainBlanks s) : IsSettled (bodySource s) := by
  have hbelow := isSettled_bodyBelow h
  rcases bodySource_cases s with ⟨-, heq⟩ | ⟨hfirst, heq⟩ | ⟨hfirst, hne, heq | heq⟩ <;> rw [heq]
  · exact hbelow
  · exact isSettled_bodyFirst hfirst
  · have hplain := isRowwise_hasPlainBlanks.bodyBelow h
    have hlast := getLast?_indentLines blockMargin (bodyBelow s)
    refine isSettled_cons hfirst (fun hnil => hne ?_) (fun u hu hall => ?_) fun c hc => ?_
    · rw [hnil] at hlast
      exact List.getLast?_eq_none_iff.1 hlast.symm
    · rw [rows_indentLines_of_hasPlainBlanks notMem_blockMargin hplain] at hu
      obtain ⟨u, hmem, rfl⟩ := List.mem_map.1 hu
      rw [padRow] at hall ⊢
      split at hall
      · next hblank =>
        rw [if_pos hblank]
        exact hbelow.flush.blankRows u hmem hall
      · next hfilled =>
        rw [List.all_append, Bool.and_eq_true] at hall
        rw [hbelow.flush.blankRows u hmem hall.2] at hfilled
        exact absurd rfl hfilled
    · exact hbelow.last c (hlast ▸ hc)
  · exact isSettled_cons hfirst hne hbelow.flush.blankRows hbelow.last

open Grammar in
/-- On lines of its own, the program of a body without other blanks than spaces, tabs and line feeds
is the program of a body again. -/
theorem statementsOf_statementsOf (h : HasPlainBlanks s) :
    statementsOf ('\n' :: (statementsOf s ++ ['\n'])) = statementsOf s := by
  have hsettled := (isSettled_bodySource h).bodySource_eq
  by_cases hempty : (bodySource s).isEmpty = true
  · have hpass : statementsOf s = "pass".toList := by rw [statementsOf, if_pos hempty]
    rw [hpass]
    decide
  · have hsource : statementsOf s = bodySource s := by rw [statementsOf, if_neg hempty]
    rw [hsource, statementsOf, hsettled, if_neg hempty]

open Grammar in
theorem IsRowwise.statementsOf {P : Text → Prop} (hP : IsRowwise P) (hs : HasPlainBlanks s)
    (h : P s) (hpass : P "pass".toList) : P (statementsOf s) := by
  rw [Grammar.statementsOf]
  split
  · exact hpass
  · exact hP.bodySource hs h

theorem allBlank_eq_false (hc : c ∈ t) (hfilled : isBlank c = false) : t.allBlank = false :=
  List.all_eq_false.2 ⟨c, hc, Bool.eq_false_iff.1 hfilled⟩

/-- The lines below are none, or not all blank. -/
theorem allBlank_bodyBelow (hne : bodyBelow s ≠ []) : (bodyBelow s).allBlank = false := by
  obtain ⟨c, hc⟩ := List.getLast?_isSome.2 hne |> Option.isSome_iff_exists.1
  obtain ⟨-, -, -, hlast⟩ := dropWhileEnd_spec isBlank
    ((Text.unindent (s.dropWhile (· != '\n')).tail).trimWhile (· == '\n'))
  exact allBlank_eq_false (List.mem_of_getLast? hc) (hlast c hc)

/-- What a continuation is made to run is never blank: its first row is trimmed, what is left of the
rows below ends in something that is no blank, and an empty body does nothing. -/
theorem allBlank_statementsOf (s : Text) : (Grammar.statementsOf s).allBlank = false := by
  have hhead : bodyFirst s ≠ [] → ∃ c ∈ bodyFirst s, isBlank c = false := by
    intro hne
    obtain ⟨c, hc⟩ := List.getLast?_isSome.2 hne |> Option.isSome_iff_exists.1
    obtain ⟨-, -, hlast⟩ := bodyFirst_spec hne
    exact ⟨c, List.mem_of_getLast? hc, hlast c hc⟩
  rw [Grammar.statementsOf]
  split
  · decide
  next hempty =>
    have hne : bodySource s ≠ [] := fun hnil => hempty (List.isEmpty_iff.2 hnil)
    rcases bodySource_cases s with ⟨-, heq⟩ | ⟨hfirst, heq⟩ | ⟨hfirst, -, heq | heq⟩
    · rw [heq] at hne ⊢
      exact allBlank_bodyBelow hne
    all_goals
      obtain ⟨c, hc, hblank⟩ := hhead hfirst
      rw [heq]
    · exact allBlank_eq_false hc hblank
    · exact allBlank_eq_false (List.mem_append_left _ hc) hblank
    · exact allBlank_eq_false (List.mem_append_left _ hc) hblank

end XmlTemplate
