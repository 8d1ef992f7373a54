import Mathlib.Data.List.TakeWhile
import XmlTemplate.Proofs.Template.Body
import XmlTemplate.Proofs.Text.FilledRows
import XmlTemplate.Script.Parser

/-!
# Bodies with carriage returns

A row that holds nothing but a carriage return is not blank when margins are measured, although it is
blank otherwise. So a body with a carriage return before every line feed keeps its lines and their
indentation exactly if the blank rows in it, but for the last one, start with the margin that the
other rows share (`filledRows_bodySource_withReturns_iff`): an empty row between two indented ones
leaves both of them indented.
-/

set_option autoImplicit false

namespace XmlTemplate

open Text

variable {b s t r m p q : Text} {c : Char}

namespace Text

/-- The text with a carriage return before every line feed. -/
def withReturns (s : Text) : Text := s.flatMap fun c => if c = '\n' then ['\r', '\n'] else [c]

/-- The text without a carriage return at its end. -/
def dropReturn (r : Text) : Text := if r.getLast? = some '\r' then r.dropLast else r

/-! ## Rows with carriage returns -/

theorem withReturns_of_notMem (h : '\n' ∉ s) : withReturns s = s := by
  induction s with
  | nil => rfl
  | cons c s ih =>
    simp only [List.mem_cons, not_or] at h
    rw [withReturns, List.flatMap_cons, ← withReturns, ih h.2, if_neg (Ne.symm h.1)]
    rfl

theorem withReturns_append_cons (hr : '\n' ∉ r) (t : Text) :
    withReturns (r ++ '\n' :: t) = (r ++ ['\r']) ++ '\n' :: withReturns t := by
  rw [withReturns, List.flatMap_append, ← withReturns, withReturns_of_notMem hr, List.flatMap_cons,
    ← withReturns, if_pos rfl, List.append_assoc]
  rfl

theorem notMem_concat_return (hr : '\n' ∉ r) : '\n' ∉ r ++ ['\r'] := by simp [hr]

theorem dropReturn_concat (r : Text) : dropReturn (r ++ ['\r']) = r := by
  rw [dropReturn, List.getLast?_concat, if_pos rfl, List.dropLast_concat]

theorem dropReturn_of_notMem (h : '\r' ∉ r) : dropReturn r = r := by
  rw [dropReturn, if_neg]
  intro hlast
  exact h (List.mem_of_getLast? hlast)

theorem dropReturn_cases (r : Text) :
    dropReturn r = r ∧ r.getLast? ≠ some '\r' ∨ ∃ q, r = q ++ ['\r'] ∧ dropReturn r = q := by
  by_cases hlast : r.getLast? = some '\r'
  · obtain ⟨q, rfl⟩ := List.getLast?_eq_some_iff.1 hlast
    exact .inr ⟨q, rfl, dropReturn_concat q⟩
  · exact .inl ⟨if_neg hlast, hlast⟩

theorem trimEnd_concat (hc : isBlank c = true) (r : Text) : trimEnd (r ++ [c]) = r.trimEnd := by
  rw [trimEnd_append, if_pos (by simp [allBlank, hc])]

/-- Without the blanks at its end a row has no carriage return there either. -/
theorem dropReturn_trimEnd (r : Text) : dropReturn r.trimEnd = r.trimEnd := by
  rw [dropReturn, if_neg]
  intro hlast
  obtain ⟨w, -, -, hend⟩ := dropWhileEnd_spec isBlank r
  exact absurd (hend '\r' hlast) (by decide)

theorem trimEnd_dropReturn (r : Text) : (dropReturn r).trimEnd = r.trimEnd := by
  rcases dropReturn_cases r with ⟨hr, -⟩ | ⟨q, rfl, hq⟩
  · rw [hr]
  · rw [hq, trimEnd_concat (by decide)]

/-- A carriage return at the end of a row stays there when the row is indented. -/
theorem dropReturn_indentLines (m r : Text) :
    dropReturn (indentLines m r) = indentLines m (dropReturn r) := by
  rcases dropReturn_cases r with ⟨hr, hlast⟩ | ⟨q, rfl, hq⟩
  · rw [hr, dropReturn, getLast?_indentLines, if_neg hlast]
  · rw [hq, indentLines_concat (by decide), dropReturn_concat]

/-! ## What the rows share -/

theorem margins_concat_return (hr : '\n' ∉ r) :
    margins (r ++ ['\r']) = [r.takeWhile isMargin] := by
  have hfilled : List.all (r ++ ['\r']) isMargin = false := by
    rw [List.all_append, show List.all ['\r'] isMargin = false from rfl, Bool.and_false]
  have htake : (r ++ ['\r']).takeWhile isMargin = r.takeWhile isMargin := by
    rw [List.takeWhile_append]
    split
    · next hall => rw [(List.takeWhile_sublist isMargin).eq_of_length hall]; simp [isMargin]
    · rfl
  rw [margins, rows_of_notMem (notMem_concat_return hr)]
  simp [margin?, hfilled, htake]

theorem margins_of_notMem (hr : '\n' ∉ r) :
    margins r = if r.all isMargin then [] else [r.takeWhile isMargin] := by
  rw [margins, rows_of_notMem hr]
  cases hall : r.all isMargin <;> simp [margin?, hall]

/-- With carriage returns, the blank rows but for the last one have a margin, too. -/
theorem forall_margins_withReturns (s : Text) (P : Text → Prop) :
    (∀ m ∈ margins (withReturns s), P m) ↔
      (∀ m ∈ margins s, P m) ∧ ∀ r ∈ (rows s).dropLast, r.all isMargin = true → P r := by
  induction s using rows_induction with
  | single r hr =>
    rw [withReturns_of_notMem hr, rows_of_notMem hr]
    simp
  | more r t hr ih =>
    have hdrop : (r :: rows t).dropLast = r :: (rows t).dropLast :=
      List.dropLast_cons_of_ne_nil (rows_ne_nil t)
    rw [withReturns_append_cons hr, margins_append_cons, margins_append_cons, rows_append_cons,
      rows_of_notMem hr, List.singleton_append, hdrop, List.forall_mem_append,
      List.forall_mem_append, List.forall_mem_cons, ih, margins_concat_return hr,
      margins_of_notMem hr, List.forall_mem_singleton]
    cases hall : r.all isMargin with
    | true =>
      have htake : r.takeWhile isMargin = r :=
        List.takeWhile_eq_self_iff.2 (List.all_eq_true.1 hall)
      simp [htake, and_left_comm]
    | false => simp [and_assoc]

theorem margins_withReturns_ne_nil (h : margins s ≠ []) : margins (withReturns s) ≠ [] := by
  intro hnil
  have hall := (forall_margins_withReturns s fun _ => False).1 (by simp [hnil])
  obtain ⟨m, hm⟩ := List.exists_mem_of_ne_nil _ h
  exact hall.1 m hm

theorem sharedMargin_withReturns_starts (h : margins s ≠ []) :
    sharedMargin (rows (withReturns s)) <+: sharedMargin (rows s) := by
  have hstarts : ∀ m ∈ margins (withReturns s), sharedMargin (rows (withReturns s)) <+: m :=
    fun m hm => sharedMargin_starts hm
  rw [prefix_sharedMargin_iff h]
  exact ((forall_margins_withReturns s (sharedMargin (rows (withReturns s)) <+: ·)).1 hstarts).1

/-- The rows share the same margin with carriage returns exactly if the blank ones start with it. -/
theorem sharedMargin_withReturns_eq_iff (h : margins s ≠ []) :
    sharedMargin (rows (withReturns s)) = sharedMargin (rows s) ↔
      ∀ r ∈ (rows s).dropLast, r.all isMargin = true → sharedMargin (rows s) <+: r := by
  have hall := forall_margins_withReturns s (sharedMargin (rows s) <+: ·)
  constructor
  · intro heq
    refine (hall.1 fun m hm => ?_).2
    rw [← heq]
    exact sharedMargin_starts hm
  · intro hblank
    -- each of the two starts with the other one
    have hle := sharedMargin_withReturns_starts h
    have hge : sharedMargin (rows s) <+: sharedMargin (rows (withReturns s)) := by
      rw [prefix_sharedMargin_iff (margins_withReturns_ne_nil h), hall]
      exact ⟨fun m hm => sharedMargin_starts hm, hblank⟩
    exact hle.eq_of_length (Nat.le_antisymm hle.length_le hge.length_le)

/-- Behind a part of their margin the rows are the same with carriage returns. -/
theorem filledRows_withReturns (hs : '\r' ∉ s) {n : Nat}
    (hn : ∀ r ∈ filledRows s, n ≤ r.length) :
    (filledRows (withReturns s)).map (fun r => dropReturn (r.drop n)) =
      (filledRows s).map (List.drop n) := by
  have hrow : ∀ r : Text, '\r' ∉ r → dropReturn (r.drop n) = r.drop n := by
    intro r hr
    apply dropReturn_of_notMem
    exact fun hmem => hr (List.mem_of_mem_drop hmem)
  induction s using rows_induction with
  | single r hr =>
    rw [withReturns_of_notMem hr]
    apply List.map_congr_left
    intro q hq
    apply hrow
    intro hmem
    exact hs (mem_of_mem_rows (mem_filledRows.1 hq).1 hmem)
  | more r t hr ih =>
    simp only [List.mem_append, List.mem_cons, not_or] at hs
    rw [filledRows_append_cons] at hn
    obtain ⟨hnr, hnt⟩ := List.forall_mem_append.1 hn
    rw [withReturns_append_cons hr, filledRows_append_cons, filledRows_append_cons, List.map_append,
      List.map_append, ih hs.2.2 hnt]
    congr 1
    have hblank : allBlank (r ++ ['\r']) = r.allBlank := by
      rw [allBlank_append, show allBlank ['\r'] = true by decide, Bool.and_true]
    rw [filledRows_of_notMem hr] at hnr ⊢
    rw [filledRows_of_notMem (notMem_concat_return hr), hblank]
    cases hfilled : r.allBlank with
    | true => rfl
    | false =>
      have hle : n ≤ r.length := hnr r (by simp [hfilled])
      simp only [Bool.false_eq_true, if_false, List.map_cons, List.map_nil]
      rw [List.drop_append_of_le_length hle, dropReturn_concat]

end Text

/-! ## The parts of a body with carriage returns -/

/-- What stands below the line of the argument, as it is written. -/
def bodyRest (s : Text) : Text := (s.dropWhile (· != '\n')).tail

theorem bodyRest_of_notMem (hr : '\n' ∉ r) : bodyRest r = [] := by
  have hdrop : r.dropWhile (· != '\n') = [] :=
    List.dropWhile_eq_nil_iff.2 fun d hd => bne_iff_ne.2 fun heq => hr (heq ▸ hd)
  rw [bodyRest, hdrop]
  rfl

theorem bodyRest_append_cons (hr : '\n' ∉ r) (t : Text) : bodyRest (r ++ '\n' :: t) = t := by
  rw [bodyRest, List.dropWhile_append_of_pos]
  · rfl
  · exact fun d hd => bne_iff_ne.2 fun heq => hr (heq ▸ hd)

theorem bodyRest_withReturns (b : Text) : bodyRest (withReturns b) = withReturns (bodyRest b) := by
  induction b using rows_induction with
  | single r hr =>
    rw [withReturns_of_notMem hr, bodyRest_of_notMem hr]
    rfl
  | more r t hr _ =>
    rw [withReturns_append_cons hr, bodyRest_append_cons (notMem_concat_return hr),
      bodyRest_append_cons hr]

/-- The carriage return at the end of the line of the argument is trimmed. -/
theorem bodyFirst_withReturns (b : Text) : bodyFirst (withReturns b) = bodyFirst b := by
  induction b using rows_induction with
  | single r hr => rw [withReturns_of_notMem hr]
  | more r t hr _ =>
    rw [withReturns_append_cons hr, bodyFirst_append_cons (notMem_concat_return hr),
      bodyFirst_append_cons hr, trim, trim, trimWhile, trimWhile, List.dropWhile_append]
    split
    · next hblank =>
      have hall : r.dropWhile isBlank = [] := List.isEmpty_iff.1 hblank
      rw [hall]
      rfl
    · exact trimEnd_concat (by decide) _

/-- The rows of the lines below in a program: they have lost their shared margin, and the last one
the blanks at its end. -/
theorem filledRows_bodyBelow (s : Text) :
    filledRows (bodyBelow s) = trimLast ((filledRows (bodyRest s)).map
      (List.drop (sharedMargin (rows (bodyRest s))).length)) := by
  rw [bodyBelow, filledRows_trimEnd, filledRows_trimWhile, ← bodyRest, filledRows_unindent]

/-- Rows that are indented if they are the block of the first line. -/
def blockRows (s : Text) (rs : List Text) : List Text :=
  if (bodyFirst s).getLast? = some ':' then rs.map (indentLines blockMargin) else rs

theorem filledRows_stacked (s t : Text) :
    filledRows (stacked s t) = filledRows s ++ filledRows t := by
  rw [stacked]
  split
  · next hs =>
    rw [List.isEmpty_iff.1 hs]
    rfl
  · split
    · next ht => rw [List.isEmpty_iff.1 ht, filledRows_nil, List.append_nil]
    · exact filledRows_append_cons s t

/-- The rows of a program that are not blank. -/
theorem filledRows_bodySource (s : Text) :
    filledRows (bodySource s) = filledRows (bodyFirst s) ++ blockRows s (filledRows (bodyBelow s)) := by
  rw [bodySource_eq_stacked, filledRows_stacked, bodyBlock, blockRows]
  split
  · rw [filledRows_indentLines isMargin_of_mem_blockMargin]
  · rfl

theorem dropReturn_bodyFirst (s : Text) :
    (filledRows (bodyFirst s)).map dropReturn = filledRows (bodyFirst s) := by
  by_cases hne : bodyFirst s = []
  · rw [hne]
    rfl
  · obtain ⟨hline, -, hlast⟩ := bodyFirst_spec hne
    have hdrop : dropReturn (bodyFirst s) = bodyFirst s := by
      rw [dropReturn, if_neg]
      intro hreturn
      exact absurd (hlast '\r' hreturn) (by decide)
    rw [filledRows_of_notMem hline]
    split
    · rfl
    · rw [List.map_singleton, hdrop]

theorem blockRows_map_dropReturn (s : Text) (rs : List Text) :
    (blockRows s rs).map dropReturn = blockRows s (rs.map dropReturn) := by
  rw [blockRows, blockRows]
  split
  · rw [List.map_map, List.map_map]
    exact List.map_congr_left fun r _ => dropReturn_indentLines blockMargin r
  · rfl

theorem blockRows_withReturns (b : Text) (rs : List Text) :
    blockRows (withReturns b) rs = blockRows b rs := by
  rw [blockRows, bodyFirst_withReturns, blockRows]

/-- A row that is not blank starts with the shared margin. -/
theorem sharedMargin_prefix_of_filled (hr : r ∈ filledRows s) : sharedMargin (rows s) <+: r := by
  obtain ⟨hmem, hblank⟩ := mem_filledRows.1 hr
  exact ⟨_, (sharedMargin_append_drop hmem (all_isMargin_of_filled hblank)).2⟩

/-- With carriage returns, the rows of a program are the same but for the part of their margin that
they keep, since the blank rows do not have it. -/
theorem filledRows_bodySource_withReturns (hb : '\r' ∉ b) :
    (filledRows (bodySource (withReturns b))).map dropReturn =
      filledRows (bodyFirst b) ++ blockRows b (trimLast ((filledRows (bodyRest b)).map
        (List.drop (sharedMargin (rows (withReturns (bodyRest b)))).length))) := by
  have hrest : '\r' ∉ bodyRest b := fun hmem =>
    hb ((List.dropWhile_sublist _).mem (List.mem_of_mem_tail hmem))
  have hlength : ∀ r ∈ filledRows (bodyRest b),
      (sharedMargin (rows (withReturns (bodyRest b)))).length ≤ r.length := by
    intro r hr
    obtain ⟨hmem, hblank⟩ := mem_filledRows.1 hr
    have hless := sharedMargin_withReturns_starts (margins_ne_nil_of_filled hmem hblank)
    exact (hless.trans (sharedMargin_prefix_of_filled hr)).length_le
  have htrim : ∀ r : Text, (dropReturn r).trimEnd = dropReturn r.trimEnd := by
    intro r
    rw [trimEnd_dropReturn, dropReturn_trimEnd]
  rw [filledRows_bodySource, List.map_append, bodyFirst_withReturns, dropReturn_bodyFirst,
    blockRows_withReturns, blockRows_map_dropReturn, filledRows_bodyBelow, bodyRest_withReturns,
    ← trimLast_map htrim, List.map_map, ← filledRows_withReturns hrest hlength]
  rfl

/-! ## When the rows are the same -/

theorem bodyBelow_eq_nil_iff : bodyBelow s = [] ↔ filledRows (bodyRest s) = [] := by
  have hrows := filledRows_bodyBelow s
  constructor
  · intro hnil
    rw [hnil, filledRows_nil] at hrows
    cases hfilled : filledRows (bodyRest s) with
    | nil => rfl
    | cons r rs =>
      rw [hfilled] at hrows
      cases rs <;> cases hrows
  · intro hnil
    rw [hnil] at hrows
    by_contra hne
    have hblank := allBlank_bodyBelow hne
    rw [filledRows_eq_nil_iff.1 hrows] at hblank
    cases hblank

theorem drop_of_append (h : p ++ q = r) : r.drop p.length = q := by rw [← h, List.drop_left]

/-- Trimming the last of some rows leaves the first one its margin. -/
theorem head?_trimLast_margin (hq : q.allBlank = false) (p : Text) (rs : List Text)
    (f g : Text → Text) :
    ∃ u, (trimLast ((p ++ q) :: rs.map f)).head? = some (p ++ u) ∧
      (trimLast (q :: rs.map g)).head? = some u := by
  cases rs with
  | nil =>
    have htrim : trimEnd (p ++ q) = p ++ q.trimEnd := by
      rw [trimEnd_append, hq, if_neg Bool.false_ne_true]
    exact ⟨q.trimEnd, by rw [← htrim]; rfl, rfl⟩
  | cons r rs => exact ⟨q, rfl, rfl⟩

theorem head?_blockRows (s : Text) (rs : List Text) :
    (blockRows s rs).head? = rs.head?.map
      (if (bodyFirst s).getLast? = some ':' then indentLines blockMargin else id) := by
  rw [blockRows]
  split
  · rw [List.head?_map]
  · rw [Option.map_id, id]

/-- Rows of which the first one has a longer margin are others, in a block, too. -/
theorem blockRows_ne_of_margin (hp : ∀ c ∈ p, isMargin c = true) (hne : p ≠ [])
    (hq : q.allBlank = false) (rs : List Text) (f g : Text → Text) :
    blockRows s (trimLast ((p ++ q) :: rs.map f)) ≠ blockRows s (trimLast (q :: rs.map g)) := by
  obtain ⟨u, hleft, hright⟩ := head?_trimLast_margin hq p rs f g
  intro heq
  have hhead := congrArg List.head? heq
  rw [head?_blockRows, head?_blockRows, hleft, hright, Option.map_some, Option.map_some,
    Option.some.injEq] at hhead
  have hlength := congrArg List.length hhead
  have hpos := List.length_pos_iff.2 hne
  split at hlength
  · rw [length_indentLines_append hp] at hlength
    omega
  · simp only [id, List.length_append] at hlength
    omega

/-- Rows that keep a part of the margin that they share are others. -/
theorem blockRows_ne_of_shorter (hr : r ∈ filledRows t) (hm : m <+: sharedMargin (rows t))
    (hne : m ≠ sharedMargin (rows t)) (rs : List Text) :
    blockRows s (trimLast ((r :: rs).map (List.drop m.length))) ≠
      blockRows s (trimLast ((r :: rs).map (List.drop (sharedMargin (rows t)).length))) := by
  obtain ⟨p, hp⟩ := hm
  obtain ⟨q, hq⟩ := sharedMargin_prefix_of_filled hr
  obtain ⟨hmem, hblank⟩ := mem_filledRows.1 hr
  obtain ⟨hmargin, -⟩ := sharedMargin_append_drop hmem (all_isMargin_of_filled hblank)
  have hpne : p ≠ [] := by
    rintro rfl
    rw [List.append_nil] at hp
    exact hne hp
  have hpmargin : ∀ c ∈ p, isMargin c = true := by
    intro c hc
    apply hmargin
    rw [← hp]
    exact List.mem_append_right _ hc
  have hqblank : Text.allBlank q = false := by
    rw [← hq, allBlank_append, allBlank_of_isMargin hmargin, Bool.true_and] at hblank
    exact hblank
  have hshort : r.drop (sharedMargin (rows t)).length = q := drop_of_append hq
  have hlong : r.drop m.length = p ++ q := by
    apply drop_of_append
    rw [← List.append_assoc, hp, hq]
  rw [List.map_cons, List.map_cons, hshort, hlong]
  exact blockRows_ne_of_margin hpmargin hpne hqblank rs _ _

/-- With a carriage return before every line feed a program has the same rows, but for carriage
returns at their ends and for blank rows, exactly if there are no lines below the line of the argument
or the blank ones among them, the last one apart, start with the margin that the others share. -/
theorem filledRows_bodySource_withReturns_iff (hb : '\r' ∉ b) :
    (filledRows (bodySource (withReturns b))).map dropReturn = filledRows (bodySource b) ↔
      bodyBelow b = [] ∨ ∀ r ∈ (rows (bodyRest b)).dropLast, r.all isMargin = true →
        sharedMargin (rows (bodyRest b)) <+: r := by
  rw [filledRows_bodySource_withReturns hb, filledRows_bodySource, filledRows_bodyBelow,
    List.append_right_inj, bodyBelow_eq_nil_iff]
  cases hrows : filledRows (bodyRest b) with
  | nil => simp
  | cons r rs =>
    have hr : r ∈ filledRows (bodyRest b) := by
      rw [hrows]
      exact List.mem_cons_self
    obtain ⟨hmem, hblank⟩ := mem_filledRows.1 hr
    have hmargins := margins_ne_nil_of_filled hmem hblank
    rw [← sharedMargin_withReturns_eq_iff hmargins]
    constructor
    · intro heq
      right
      by_contra hne
      -- with carriage returns the first row would have a longer margin
      exact blockRows_ne_of_shorter hr (sharedMargin_withReturns_starts hmargins) hne rs heq
    · rintro (hnil | hshared)
      · cases hnil
      · rw [hshared]

/-- A body with an empty row between two indented ones. -/
def gappedBody : Text := "\n    d.text(1)\n\n    d.text(2)\n".toList

/-- With carriage returns the empty row of the body leaves the rows around it indented, and the body,
which was a program, is none any more. -/
theorem filledRows_bodySource_withReturns_gappedBody :
    '\r' ∉ gappedBody ∧
      (filledRows (bodySource (withReturns gappedBody))).map dropReturn ≠
        filledRows (bodySource gappedBody) ∧
      (Script.program? (bodySource gappedBody)).isSome = true ∧
      (Script.program? (bodySource (withReturns gappedBody))).isSome = false := by
  have hb : '\r' ∉ gappedBody := by decide
  refine ⟨hb, ?_, by decide +kernel, by decide +kernel⟩
  intro heq
  rcases (filledRows_bodySource_withReturns_iff hb).1 heq with hnil | hblank
  · revert hnil
    decide
  · have hempty := hblank [] (by decide) rfl
    revert hempty
    decide

end XmlTemplate
