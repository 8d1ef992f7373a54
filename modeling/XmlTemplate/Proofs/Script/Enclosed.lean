import XmlTemplate.Proofs.Token.Enclosed
import XmlTemplate.Script.Parser

/-!
# The brackets of a script

Scripts and templates agree on strings, comments and brackets: where a script can be read, its
strings end and its brackets close one another (`enclosed_of_lex`). Words, numbers and marks differ
between the two, but all of them are plain characters.
-/

set_option autoImplicit false

namespace XmlTemplate.Script

/-- The text, or what is left of it after plain characters at its head. -/
def Passes (s rest : Text) : Prop := ∃ a, s = a ++ rest ∧ ∀ c ∈ a, IsPlain c

theorem Passes.refl (s : Text) : Passes s s := ⟨[], rfl, by simp⟩

theorem Passes.cons {c : Char} {s rest : Text} (hc : IsPlain c) (h : Passes s rest) :
    Passes (c :: s) rest := by
  obtain ⟨a, rfl, ha⟩ := h
  exact ⟨c :: a, rfl, List.forall_mem_cons.2 ⟨hc, ha⟩⟩

theorem Passes.trans {s t u : Text} (h : Passes s t) (h' : Passes t u) : Passes s u := by
  obtain ⟨a, rfl, ha⟩ := h
  obtain ⟨b, rfl, hb⟩ := h'
  refine ⟨a ++ b, by simp, fun c hc => ?_⟩
  rcases List.mem_append.1 hc with hc | hc
  · exact ha c hc
  · exact hb c hc

theorem Passes.enclosed {ds : List Delimiter} {s rest : Text} (h : Passes s rest)
    (hrest : Enclosed ds rest) : Enclosed ds s := by
  obtain ⟨a, rfl, ha⟩ := h
  induction a with
  | nil => exact hrest
  | cons c a ih =>
    obtain ⟨hc, ha⟩ := List.forall_mem_cons.1 ha
    exact .plain hc (ih ha)

theorem passes_dropWhile {p : Char → Bool} (hp : ∀ c, p c = true → IsPlain c) (s : Text) :
    Passes s (s.dropWhile p) :=
  ⟨s.takeWhile p, List.takeWhile_append_dropWhile.symm, fun c hc =>
    hp c (List.all_eq_true.1 List.all_takeWhile c hc)⟩

/-! ## Words and numbers -/

theorem isPlain_of_isWordPart {c : Char} (h : isWordPart c = true) : IsPlain c :=
  isPlain_of_apart (by decide) h

theorem isPlain_of_isDigitOf {base : Nat} {c : Char} (h : isDigitOf base c = true) : IsPlain c := by
  have hno : (bracketing.all fun d => (digit? d).isNone) = true := by decide
  refine isPlain_of_apart (p := isDigitOf base) (List.all_eq_true.2 fun d hd => ?_) h
  simp [isDigitOf, Option.isNone_iff_eq_none.1 (List.all_eq_true.1 hno d hd)]

theorem passes_readDigits {base : Nat} {s : Text} {r : Text × Text}
    (h : readDigits base s = some r) : Passes s r.2 := by
  simp only [readDigits] at h
  split at h
  · cases h
    refine passes_dropWhile (fun c hc => ?_) s
    rw [Bool.or_eq_true] at hc
    rcases hc with hc | hc
    · exact isPlain_of_isDigitOf hc
    · rw [eq_of_beq hc]
      decide
  · cases h

theorem passes_readFraction {s rest : Text} (hs : s.head? = some '.')
    (h : readFraction s = some rest) : Passes s rest := by
  unfold readFraction at h
  split at h
  · next d s =>
    split at h
    · next hd =>
      obtain ⟨r, hr, rfl⟩ := Option.map_eq_some_iff.1 h
      exact .cons (by decide) (passes_readDigits hr)
    · cases h
      exact .cons (by decide) (.refl _)
  · cases h
    cases s with
    | nil => cases hs
    | cons c s =>
      cases hs
      exact .cons (by decide) (.refl _)

theorem passes_readPower {s : Text} {r : Bool × Text} (h : readPower s = some r) :
    Passes s r.2 := by
  unfold readPower at h
  split at h
  · next e s =>
    split at h
    · next he =>
      have hplain : IsPlain e := by
        simp only [Bool.or_eq_true, decide_eq_true_eq] at he
        rcases he with rfl | rfl <;> decide
      split at h
      · cases h
        exact .refl _
      · next d s =>
        split at h
        · obtain ⟨r, hr, rfl⟩ := Option.map_eq_some_iff.1 h
          exact .cons hplain (passes_readDigits hr)
        · split at h
          · next hd =>
            obtain ⟨r, hr, rfl⟩ := Option.map_eq_some_iff.1 h
            have hsign : IsPlain d := by
              simp only [Bool.or_eq_true, decide_eq_true_eq] at hd
              rcases hd with rfl | rfl <;> decide
            exact .cons hplain (.cons hsign (passes_readDigits hr))
          · cases h
            exact .refl _
    · cases h
      exact .refl _
  · cases h
    exact .refl _

/-- A number ends where its digits end, or with the letter of imaginary numbers. -/
theorem passes_numberEnd {real : Bool} {digits s : Text} {r : Tok × Text}
    (h : (match s with
      | c :: after =>
        if (decide (c = 'j') || decide (c = 'J')) = true then
          if endsNumber after = true then some (Tok.imaginary, after) else none
        else if (!endsNumber s) = true then none
        else if real = true then some (Tok.real, s)
        else (wholeNumber? digits).map fun n => (Tok.int n, s)
      | [] =>
        if real = true then some (Tok.real, [])
        else (wholeNumber? digits).map fun n => (Tok.int n, [])) = some r) : Passes s r.2 := by
  split at h
  · next c after =>
    split at h
    · next hj =>
      have hplain : IsPlain c := by
        simp only [Bool.or_eq_true, decide_eq_true_eq] at hj
        rcases hj with rfl | rfl <;> decide
      split at h
      · cases h
        exact .cons hplain (.refl _)
      · cases h
    · split at h
      · cases h
      · split at h
        · cases h
          exact .refl _
        · obtain ⟨n, -, rfl⟩ := Option.map_eq_some_iff.1 h
          exact .refl _
  · split at h
    · cases h
      exact .refl _
    · obtain ⟨n, -, rfl⟩ := Option.map_eq_some_iff.1 h
      exact .refl _

theorem ite_bind {α β : Type} {p : Prop} [Decidable p] (a b : Option α) (f : α → Option β) :
    (if p then a.bind f else b.bind f) = (if p then a else b).bind f := by
  split <;> rfl

theorem passes_readDecimal {s : Text} {r : Tok × Text} (h : readNumber.readDecimal s = some r) :
    Passes s r.2 := by
  simp only [readNumber.readDecimal, Option.bind_eq_bind, ite_bind] at h
  obtain ⟨⟨digits, t⟩, ht, h⟩ := Option.bind_eq_some_iff.1 h
  obtain ⟨u, hu, h⟩ := Option.bind_eq_some_iff.1 h
  obtain ⟨⟨powered, v⟩, hv, h⟩ := Option.bind_eq_some_iff.1 h
  have hdigits : Passes s t := by
    split at ht
    · cases ht
      exact .refl _
    · exact passes_readDigits ht
  have hfraction : Passes t u := by
    split at hu
    · next hpoint => exact passes_readFraction hpoint hu
    · cases hu
      exact .refl _
  exact hdigits.trans (hfraction.trans ((passes_readPower hv).trans (passes_numberEnd h)))

theorem isPlain_of_baseOf? {c : Char} {base : Nat} (h : baseOf? c = some base) : IsPlain c := by
  refine isPlain_of_apart (p := fun c => (baseOf? c).isSome) (by decide) ?_
  rw [h]
  rfl

theorem passes_readNumber {s : Text} {r : Tok × Text} (h : readNumber s = some r) :
    Passes s r.2 := by
  unfold readNumber at h
  split at h
  · next c rest =>
    split at h
    · next base hbase =>
      split at h
      · next digits after hdigits =>
        split at h
        · cases h
          have hrest : Passes rest after := by
            split at hdigits
            · next hunder =>
              cases rest with
              | nil => cases hunder
              | cons d rest =>
                cases hunder
                exact .cons (by decide) (passes_readDigits hdigits)
            · exact passes_readDigits hdigits
          exact .cons (by decide) (.cons (isPlain_of_baseOf? hbase) hrest)
        · cases h
      · cases h
    · exact passes_readDecimal h
  · exact passes_readDecimal h

/-! ## Margins -/

theorem passes_readMargin {m m' : Margin} {joined : Nat} {s rest : Text}
    (h : readMargin m joined s = some (m', rest)) : Passes s rest := by
  fun_induction readMargin m joined s with
  | case1 =>
    cases h
    exact .refl _
  | case2 _ _ _ ih => exact .cons (by decide) (ih h)
  | case3 _ _ _ ih => exact .cons (by decide) (ih h)
  | case4 _ _ _ ih => exact .cons (by decide) (ih h)
  | case5 => cases h
  | case6 _ _ _ _ ih => exact .cons (by decide) (.cons (by decide) (ih h))
  | case7 => cases h
  | case8 =>
    cases h
    exact .refl _

/-! ## Scripts -/

theorem passes_doubleMark {s : Text} (h : doubleMarks.contains (s.take 2) = true) :
    Passes s (s.drop 2) := by
  refine ⟨s.take 2, (List.take_append_drop 2 s).symm, ?_⟩
  have hmarks : (doubleMarks.all fun t => t.all fun c => decide (IsPlain c)) = true := by decide
  have hmark := List.all_eq_true.1 hmarks _ (List.contains_iff_mem.1 h)
  exact fun c hc => of_decide_eq_true (List.all_eq_true.1 hmark c hc)

theorem exists_opener {c closer : Char} (h : closingBracket? c = some closer) :
    ∃ d : Delimiter, c = d.opener ∧ closer = d.closer := by
  unfold closingBracket? at h
  split at h
  · next hc => exact ⟨.round, hc, (Option.some.inj h).symm⟩
  · split at h
    · next hc => exact ⟨.square, hc, (Option.some.inj h).symm⟩
    · split at h
      · next hc => exact ⟨.curly, hc, (Option.some.inj h).symm⟩
      · cases h

theorem isPlain_of_singleMarks {c : Char} (h : singleMarks.contains c = true)
    (hopen : closingBracket? c = none) (hclose : isClosingBracket c = false) : IsPlain c := by
  have hmarks : (singleMarks.all fun c => (closingBracket? c).isSome || isClosingBracket c ||
      decide (IsPlain c)) = true := by decide
  have hmark := List.all_eq_true.1 hmarks c (List.contains_iff_mem.1 h)
  rw [hopen, hclose] at hmark
  exact of_decide_eq_true hmark

theorem length_le_of_body? {q : Char} {s body : Text} {n : Nat}
    (h : Literal.body? q s = some (body, n)) : n ≤ s.length := by
  rw [Literal.body?] at h
  split at h
  · next htake =>
    obtain ⟨m, hm, heq⟩ := Option.map_eq_some_iff.1 h
    obtain rfl : m + 2 = n := congrArg Prod.snd heq
    have hbound := (longEnd_bounds q _ m hm).2
    have hlength := congrArg List.length htake
    simp only [List.length_drop, List.length_take, List.length_cons, List.length_nil] at *
    omega
  · obtain ⟨m, hm, heq⟩ := Option.map_eq_some_iff.1 h
    obtain rfl : m = n := congrArg Prod.snd heq
    exact (shortEnd_bounds q _ m hm).2

/-- A literal that can be read ends. -/
theorem enclosed_of_read {ds : List Delimiter} {s : Text} {m : Literal.Meaning} {n : Nat}
    (h : Literal.read s = some (m, n)) (hrest : Enclosed ds (s.drop n)) : Enclosed ds s := by
  rw [Literal.read] at h
  split at h
  · next flavour q rest _ hdrop =>
    split at h
    · next hq =>
      split at h
      · next body k hbody =>
        obtain ⟨_, -, heq⟩ := Option.map_eq_some_iff.1 h
        obtain rfl : stringMarks s + 1 + k = n := congrArg Prod.snd heq
        have hcut : s = s.take (stringMarks s) ++ q :: (rest.take k ++ rest.drop k) := by
          rw [List.take_append_drop, ← hdrop, List.take_append_drop]
        have hk : (rest.take k).length = k := by
          rw [List.length_take]
          have := length_le_of_body? hbody
          omega
        have hleft : s.drop (stringMarks s + 1 + k) = rest.drop k := by
          rw [← List.drop_drop, ← List.drop_drop, hdrop]
          rfl
        rw [hleft] at hrest
        rw [hcut]
        have hstring : Literal.body? q (rest.take k ++ rest.drop k) =
            some (body, (rest.take k).length) := by rw [List.take_append_drop, hk, hbody]
        exact Passes.enclosed ⟨_, rfl, fun c hc => isPlain_of_isWord
          (isWord_of_isStringMark ((stringMarks_spec s).1 c hc))⟩ (.string hq hstring hrest)
      · cases h
    · cases h
  · cases h

theorem enclosed_of_line {ds : List Delimiter} {s : Text}
    (h : Enclosed ds (s.dropWhile (· != '\n'))) : Enclosed ds ('#' :: s) := by
  have hcut : '#' :: s = '#' :: (s.takeWhile (· != '\n') ++ s.dropWhile (· != '\n')) := by
    rw [List.takeWhile_append_dropWhile]
  rw [hcut]
  refine .comment (fun c hc => ?_) (fun c hc => ?_) h
  · simpa using List.all_eq_true.1 List.all_takeWhile c hc
  · have hnot := List.head?_dropWhile_not (· != '\n') s
    rw [Option.mem_def.1 hc] at hnot
    simpa using hnot

/-- Whatever can be read in so many steps closes the brackets that are open where it starts. -/
def ReadsEnclosed (steps : Nat) : Prop :=
  ∀ {st : LexState} {s : Text} {toks : List Tok}, lexFrom steps st s = some toks →
    ∀ {ds : List Delimiter}, st.brackets = ds.map Delimiter.closer → Enclosed ds s

section

variable {steps : Nat} {st : LexState} {s : Text} {toks : List Tok} {ds : List Delimiter}

theorem ReadsEnclosed.map (ih : ReadsEnclosed steps) {f : List Tok → List Tok}
    (h : (lexFrom steps st s).map f = some toks) (hds : st.brackets = ds.map Delimiter.closer) :
    Enclosed ds s := by
  obtain ⟨toks', h, -⟩ := Option.map_eq_some_iff.1 h
  exact ih h hds

theorem enclosed_of_lineStart (ih : ReadsEnclosed steps)
    (h : lexFrom (steps + 1) st s = some toks) (hst : st.lineStart = true)
    (hds : st.brackets = ds.map Delimiter.closer) : Enclosed ds s := by
  rw [lexFrom.eq_def] at h
  change (if st.lineStart = true then _ else _) = some toks at h
  rw [if_pos hst] at h
  split at h
  · cases h
  · next m rest hmargin =>
    refine (passes_readMargin hmargin).enclosed ?_
    split at h
    · exact .plain (by decide) (ih h hds)
    · next rest' =>
      split at h
      · next hline =>
        rw [List.dropWhile_cons_of_pos (by decide)] at hline
        refine enclosed_of_line ?_
        rw [hline]
        exact ih h hds
      · next c rest'' hline =>
        rw [List.dropWhile_cons_of_pos (by decide)] at hline
        have hc := List.head?_dropWhile_not (· != '\n') rest'
        rw [hline] at hc
        refine enclosed_of_line ?_
        rw [hline]
        have hplain : IsPlain c := by
          obtain rfl : c = '\n' := by simpa using hc
          decide
        exact .plain hplain (ih h hds)
    · split at h
      · cases h
      · exact ih.map h hds

theorem enclosed_of_inLine (ih : ReadsEnclosed steps)
    (h : lexFrom (steps + 1) st s = some toks) (hst : ¬st.lineStart = true)
    (hds : st.brackets = ds.map Delimiter.closer) : Enclosed ds s := by
  rw [lexFrom.eq_def] at h
  change (if st.lineStart = true then _ else _) = some toks at h
  rw [if_neg hst] at h
  cases s with
  | nil =>
    change (if _ then _ else _) = some toks at h
    split at h
    · next hempty =>
      rw [List.isEmpty_iff.1 hempty] at hds
      rw [List.map_eq_nil_iff.1 hds.symm]
      exact .nil
    · cases h
  | cons c rest =>
    change (if (c = ' ' || c = '\t' || c = '\x0c') = true then _ else _) = some toks at h
    -- the branches of the reader in their order, each passing on the brackets that it leaves open
    by_cases hspace : (c = ' ' || c = '\t' || c = '\x0c') = true
    · rw [if_pos hspace] at h
      have hplain : IsPlain c := isPlain_of_apart (p := fun c => c = ' ' || c = '\t' || c = '\x0c')
        (by decide) hspace
      exact .plain hplain (ih h hds)
    rw [if_neg hspace] at h
    by_cases hsign : c = '#'
    · rw [if_pos hsign] at h
      subst hsign
      exact enclosed_of_line (ih h hds)
    rw [if_neg hsign] at h
    by_cases hline : c = '\n'
    · rw [if_pos hline] at h
      have hplain : IsPlain c := by
        rw [hline]
        decide
      -- a new line ends a logical line only outside of brackets; the reading goes on either way
      by_cases hempty : st.brackets.isEmpty = true
      · rw [if_pos hempty] at h
        exact .plain hplain (ih.map h hds)
      · rw [if_neg hempty] at h
        exact .plain hplain (ih h hds)
    rw [if_neg hline] at h
    by_cases hjoin : c = '\\'
    · rw [if_pos hjoin] at h
      subst hjoin
      split at h
      · exact .plain (by decide) (.plain (by decide) (ih h hds))
      · cases h
    rw [if_neg hjoin] at h
    by_cases hliteral : Literal.startsAt (c :: rest) = true
    · rw [if_pos hliteral] at h
      split at h
      · next hread => exact enclosed_of_read hread (ih.map h hds)
      · next hread => exact enclosed_of_read hread (ih.map h hds)
      · cases h
    rw [if_neg hliteral] at h
    by_cases hnumber : startsNumber (c :: rest) = true
    · rw [if_pos hnumber] at h
      split at h
      · next hread => exact (passes_readNumber hread).enclosed (ih.map h hds)
      · cases h
    rw [if_neg hnumber] at h
    by_cases hword : isWordPart c = true
    · rw [if_pos hword] at h
      change (if isIdentifier _ = true then _ else _) = some toks at h
      split at h
      · exact (passes_dropWhile (fun _ => isPlain_of_isWordPart) _).enclosed (ih.map h hds)
      · cases h
    rw [if_neg hword] at h
    by_cases hpoints : (c :: rest).take 3 = ['.', '.', '.']
    · rw [if_pos hpoints] at h
      have hpoint : ∀ d ∈ ['.', '.', '.'], IsPlain d := by
        intro d hd
        obtain rfl : d = '.' := by simpa using hd
        decide
      have hpasses : Passes (c :: rest) ((c :: rest).drop 3) :=
        ⟨_, (List.take_append_drop 3 _).symm, hpoints ▸ hpoint⟩
      exact hpasses.enclosed (ih.map h hds)
    rw [if_neg hpoints] at h
    by_cases hdouble : doubleMarks.contains ((c :: rest).take 2) = true
    · rw [if_pos hdouble] at h
      exact (passes_doubleMark hdouble).enclosed (ih.map h hds)
    rw [if_neg hdouble] at h
    by_cases hsingle : singleMarks.contains c = true
    · rw [if_pos hsingle] at h
      -- only here do the open brackets change
      split at h
      · next closer hopens =>
        obtain ⟨d, rfl, rfl⟩ := exists_opener hopens
        split at h
        · exact .opening d (ih.map h (by simp [hds]))
        · cases h
      · next hopens =>
        split at h
        · split at h
          · next closer brackets hbrackets =>
            rw [hbrackets] at hds
            obtain ⟨d, ds, rfl, rfl, hmap⟩ := List.map_eq_cons_iff.1 hds.symm
            split at h
            · next hc =>
              rw [hc]
              exact .closing d (ih.map h hmap.symm)
            · cases h
          · cases h
        · next hcloses =>
          rw [Bool.not_eq_true] at hcloses
          exact .plain (isPlain_of_singleMarks hsingle hopens hcloses) (ih.map h hds)
    · rw [if_neg hsingle] at h
      cases h

/-- A script that can be read from a state on closes the brackets that are open there. The induction
is on the steps. -/
theorem enclosed_of_lexFrom (h : lexFrom steps st s = some toks)
    (hds : st.brackets = ds.map Delimiter.closer) : Enclosed ds s := by
  induction steps generalizing st s toks ds with
  | zero => cases h
  | succ steps ih =>
    by_cases hst : st.lineStart = true
    · exact enclosed_of_lineStart (fun h ds hds => ih h hds) h hst hds
    · exact enclosed_of_inLine (fun h ds hds => ih h hds) h hst hds

/-- A script that can be read has its strings ended and its brackets closed. -/
theorem enclosed_of_lex (h : lex s = some toks) (hs : '\r' ∉ s) : Enclosed [] s := by
  rw [lex] at h
  split at h
  · cases h
  · rw [unifyLineEnds_of_notMem hs] at h
    exact enclosed_of_lexFrom h rfl

end

end XmlTemplate.Script
