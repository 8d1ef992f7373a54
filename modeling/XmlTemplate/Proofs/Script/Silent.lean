import XmlTemplate.Proofs.Script.Enclosed

/-!
# Scripts without tokens

A text of blanks and comments alone gives no tokens (`Silent`). Read as an embedded expression it is
not refused: what is read are the round brackets that are put around it, and a pair of brackets with
nothing between them is the empty tuple (`expression?_silent_iff`). Scripts have fewer blanks than
templates; where another one stands outside of a comment, the text is no script.
-/

set_option autoImplicit false

namespace XmlTemplate

/-- Blanks of the given class and comments, each with the line feed that ends it. -/
inductive Silent (blank : Char → Bool) : Text → Prop
  | nil : Silent blank []
  | blank {c : Char} {s : Text} (hc : blank c = true) (after : Silent blank s) : Silent blank (c :: s)
  | comment {r s : Text} (hr : '\n' ∉ r) (after : Silent blank s) :
      Silent blank ('#' :: (r ++ '\n' :: s))

theorem Silent.append {blank : Char → Bool} {s t : Text} (hs : ∀ c ∈ s, blank c = true)
    (h : Silent blank t) : Silent blank (s ++ t) := by
  induction s with
  | nil => exact h
  | cons c s ih =>
    obtain ⟨hc, hs⟩ := List.forall_mem_cons.1 hs
    exact .blank hc (ih hs)

theorem Silent.mono {p q : Char → Bool} {s : Text} (hpq : ∀ c, p c = true → q c = true)
    (h : Silent p s) : Silent q s := by
  induction h with
  | nil => exact .nil
  | blank hc _ ih => exact .blank (hpq _ hc) ih
  | comment hr _ ih => exact .comment hr ih

/-- What is not blank in such a text stands in a comment. -/
theorem Silent.mem_sign {blank : Char → Bool} {s : Text} (h : Silent blank s)
    (hs : s.all blank = false) : '#' ∈ s := by
  induction h with
  | nil => cases hs
  | blank hc _ ih =>
    rw [List.all_cons, hc, Bool.true_and] at hs
    exact List.mem_cons_of_mem _ (ih hs)
  | comment => exact List.mem_cons_self

namespace Script

/-- The blanks of scripts, inside of brackets. -/
def isScriptBlank (c : Char) : Bool := c = ' ' || c = '\t' || c = '\x0c' || c = '\n'

theorem isBlank_of_isScriptBlank {c : Char} (h : isScriptBlank c = true) : isBlank c = true := by
  simp only [isScriptBlank, Bool.or_eq_true, decide_eq_true_eq] at h
  rcases h with ((rfl | rfl) | rfl) | rfl <;> decide

variable {n : Nat} {st : LexState} {c : Char} {r s t : Text} {toks : List Tok}

/-! ## Steps inside of brackets -/

theorem lexFrom_blank (hst : st.lineStart = false) (hbrackets : st.brackets ≠ [])
    (hc : isScriptBlank c = true) : lexFrom (n + 1) st (c :: s) = lexFrom n st s := by
  have hopen : ¬st.brackets.isEmpty = true := by simp [hbrackets]
  rw [lexFrom.eq_def]
  change (if st.lineStart = true then _ else _) = _
  rw [if_neg (by simp [hst])]
  change (if (c = ' ' || c = '\t' || c = '\x0c') = true then _ else _) = _
  by_cases hline : c = '\n'
  · subst hline
    change (if st.brackets.isEmpty = true then _ else _) = _
    rw [if_neg hopen]
  · have hspace : (c = ' ' || c = '\t' || c = '\x0c') = true := by
      simpa [isScriptBlank, hline] using hc
    rw [if_pos hspace]

/-- A comment is skipped up to the line feed, which stays. -/
theorem lexFrom_comment (hst : st.lineStart = false) (hr : '\n' ∉ r) :
    lexFrom (n + 1) st ('#' :: (r ++ '\n' :: s)) = lexFrom n st ('\n' :: s) := by
  have hdrop : (r ++ '\n' :: s).dropWhile (· != '\n') = '\n' :: s := by
    rw [List.dropWhile_append_of_pos]
    · rfl
    · exact fun d hd => bne_iff_ne.2 fun heq => hr (heq ▸ hd)
  rw [lexFrom.eq_def]
  change (if st.lineStart = true then _ else _) = _
  rw [if_neg (by simp [hst])]
  change lexFrom n st ((r ++ '\n' :: s).dropWhile (· != '\n')) = _
  rw [hdrop]

theorem isIdentifierStart_of_isBlank (hc : isBlank c = true) : isIdentifierStart c = false :=
  not_inRanges_of_apart (by decide +kernel) hc

theorem isDigit_of_isBlank (hc : isBlank c = true) : c.isDigit = false := by
  rw [Bool.eq_false_iff]
  intro hdigit
  simp only [Char.isDigit, Bool.and_eq_true, decide_eq_true_eq] at hdigit
  have hzero : 48 ≤ c.toNat := UInt32.le_iff_toNat_le.1 hdigit.1
  have hnine : c.toNat ≤ 57 := UInt32.le_iff_toNat_le.1 hdigit.2
  simp only [isBlank, inRanges, blankRanges, List.any_cons, List.any_nil, Bool.or_eq_true,
    Bool.and_eq_true, decide_eq_true_eq, Bool.or_false] at hc
  omega

theorem startsAt_of_notMark (hmark : isStringMark c = false) (hquote : isQuote c = false)
    (s : Text) : Literal.startsAt (c :: s) = false := by
  rw [Literal.startsAt, stringMarks_of_notMark hmark]
  exact hquote

theorem startsAt_of_isBlank (hc : isBlank c = true) (s : Text) :
    Literal.startsAt (c :: s) = false := by
  have hmark : isStringMark c = false := by
    rw [Bool.eq_false_iff]
    intro hmark
    rw [isBlank_of_isWord (isWord_of_isStringMark hmark)] at hc
    cases hc
  exact startsAt_of_notMark hmark (isPlain_of_isBlank hc).notQuote s

/-- A class of characters that are not blank has no blank in it. -/
theorem notMem_of_isBlank {cs : List Char} (hcs : (cs.all fun c => !isBlank c) = true)
    (hc : isBlank c = true) : c ∉ cs := by
  intro hmem
  have hno := List.all_eq_true.1 hcs c hmem
  rw [hc] at hno
  cases hno

/-- No script goes on with any other blank. -/
theorem lexFrom_otherBlank (hst : st.lineStart = false) (hc : isBlank c = true)
    (hother : isScriptBlank c = false) : lexFrom n st (c :: s) = none := by
  cases n with
  | zero => rfl
  | succ n =>
    rw [lexFrom.eq_def]
    change (if st.lineStart = true then _ else _) = none
    rw [if_neg (by simp [hst])]
    change (if (c = ' ' || c = '\t' || c = '\x0c') = true then _ else _) = none
    simp only [isScriptBlank, Bool.or_eq_false_iff, decide_eq_false_iff_not] at hother
    obtain ⟨⟨⟨hspace, htab⟩, hfeed⟩, hline⟩ := hother
    have hnot : c ∉ ['#', '\\', '.'] := notMem_of_isBlank (by decide) hc
    simp only [List.mem_cons, List.not_mem_nil, or_false, not_or] at hnot
    obtain ⟨hsign, hjoin, hpoint⟩ := hnot
    -- no token starts with the character; it may count as a part of a word, but not as its start
    rw [if_neg (by simp [hspace, htab, hfeed]), if_neg hsign, if_neg hline, if_neg hjoin,
      if_neg (by rw [startsAt_of_isBlank hc]; exact Bool.false_ne_true)]
    have hnumber : startsNumber (c :: s) = false := by
      rw [startsNumber]
      · exact isDigit_of_isBlank hc
      · exact fun _ _ heq _ => hpoint heq
    rw [if_neg (by rw [hnumber]; exact Bool.false_ne_true)]
    by_cases hword : isWordPart c = true
    · have hidentifier : isIdentifier ((c :: s).takeWhile isWordPart) = false := by
        rw [List.takeWhile_cons_of_pos hword, isIdentifier, isIdentifierStart_of_isBlank hc,
          Bool.false_and]
      rw [if_pos hword]
      change (if isIdentifier _ = true then _ else _) = none
      rw [if_neg (by rw [hidentifier]; exact Bool.false_ne_true)]
    · have hpoints : (c :: s).take 3 ≠ ['.', '.', '.'] := by
        intro heq
        exact hpoint (List.cons.inj heq).1
      have hdouble : ¬doubleMarks.contains ((c :: s).take 2) = true := by
        intro hmark
        have hheads : c ∈ doubleMarks.flatten :=
          List.mem_flatten.2 ⟨_, List.contains_iff_mem.1 hmark, List.mem_cons_self⟩
        exact notMem_of_isBlank (by decide) hc hheads
      have hsingle : ¬singleMarks.contains c = true := by
        intro hmark
        exact notMem_of_isBlank (by decide) hc (List.contains_iff_mem.1 hmark)
      rw [if_neg hword, if_neg hpoints, if_neg hdouble, if_neg hsingle]

/-! ## Runs over blanks and comments -/

/-- A text of blanks of scripts and comments is skipped, in no more steps than it has characters. -/
theorem lexFrom_silent (hst : st.lineStart = false) (hbrackets : st.brackets ≠ [])
    (h : Silent isScriptBlank s) (t : Text) :
    ∃ k ≤ s.length, ∀ n, lexFrom (n + k) st (s ++ t) = lexFrom n st t := by
  induction h with
  | nil => exact ⟨0, Nat.le_refl 0, fun n => rfl⟩
  | @blank c s hc _ ih =>
    obtain ⟨k, hk, hskip⟩ := ih
    refine ⟨k + 1, Nat.succ_le_succ hk, fun n => ?_⟩
    rw [← Nat.add_assoc, List.cons_append, lexFrom_blank hst hbrackets hc, hskip]
  | @comment r s hr _ ih =>
    obtain ⟨k, hk, hskip⟩ := ih
    refine ⟨k + 2, ?_, fun n => ?_⟩
    · simp only [List.length_cons, List.length_append]
      omega
    · rw [← Nat.add_assoc, List.cons_append, List.append_assoc, List.cons_append,
        lexFrom_comment hst hr, lexFrom_blank hst hbrackets rfl, hskip]

/-- Where the reading goes on behind it, the blanks of the text are blanks of scripts. -/
theorem silent_of_lexFrom (hst : st.lineStart = false) (hbrackets : st.brackets ≠ [])
    (h : Silent isBlank s) (hlex : lexFrom n st (s ++ t) = some toks) : Silent isScriptBlank s := by
  induction h generalizing n with
  | nil => exact .nil
  | @blank c s hc _ ih =>
    cases hscript : isScriptBlank c with
    | false =>
      rw [List.cons_append, lexFrom_otherBlank hst hc hscript] at hlex
      cases hlex
    | true =>
      cases n with
      | zero => cases hlex
      | succ n =>
        rw [List.cons_append, lexFrom_blank hst hbrackets hscript] at hlex
        exact .blank hscript (ih hlex)
  | @comment r s hr _ ih =>
    rw [List.cons_append, List.append_assoc, List.cons_append] at hlex
    cases n with
    | zero => cases hlex
    | succ n =>
      rw [lexFrom_comment hst hr] at hlex
      cases n with
      | zero => cases hlex
      | succ n =>
        rw [lexFrom_blank hst hbrackets rfl] at hlex
        exact .comment hr (ih hlex)

/-! ## Between round brackets -/

/-- The state behind an opening round bracket. -/
def inBrackets : LexState := ⟨false, [')'], [⟨0, 0⟩]⟩

theorem lexFrom_opening (n : Nat) (t : Text) :
    lexFrom (n + 3) ⟨true, [], [⟨0, 0⟩]⟩ ('(' :: '\n' :: t) =
      (lexFrom n inBrackets t).map (.mark ['('] :: ·) := by
  have hline : lexFrom (n + 3) ⟨true, [], [⟨0, 0⟩]⟩ ('(' :: '\n' :: t) =
      (lexFrom (n + 2) ⟨false, [], [⟨0, 0⟩]⟩ ('(' :: '\n' :: t)).map ([] ++ ·) := rfl
  have hbracket : lexFrom (n + 2) ⟨false, [], [⟨0, 0⟩]⟩ ('(' :: '\n' :: t) =
      (lexFrom (n + 1) inBrackets ('\n' :: t)).map (.mark ['('] :: ·) := by
    have hliteral : ¬Literal.startsAt ('(' :: '\n' :: t) = true := by
      rw [startsAt_of_notMark rfl rfl]
      exact Bool.false_ne_true
    rw [lexFrom.eq_def]
    change (if Literal.startsAt ('(' :: '\n' :: t) = true then _ else _) = _
    rw [if_neg hliteral]
    rfl
  rw [hline, hbracket, lexFrom_blank rfl (by decide) rfl, Option.map_map]
  rfl

theorem lexFrom_closing (n : Nat) :
    lexFrom (n + 3) inBrackets ['\n', ')'] = some [.mark [')']] := by
  rw [lexFrom_blank rfl (by decide) rfl]
  rfl

/-- The brackets that are put around an expression are on lines of their own. -/
theorem lex_bracketed (hreturn : '\r' ∉ s) (hnull : '\x00' ∉ s) :
    lex ('(' :: '\n' :: s ++ ['\n', ')']) =
      (lexFrom (2 * s.length + 7) inBrackets (s ++ ['\n', ')'])).map (.mark ['('] :: ·) := by
  have hcontains : List.contains ('(' :: '\n' :: s ++ ['\n', ')']) '\x00' = false := by
    simpa using hnull
  have hunify : unifyLineEnds ('(' :: '\n' :: s ++ ['\n', ')']) = '(' :: '\n' :: s ++ ['\n', ')'] :=
    unifyLineEnds_of_notMem (by simpa using hreturn)
  have hsteps : 2 * List.length ('(' :: '\n' :: s ++ ['\n', ')']) + 2 = 2 * s.length + 7 + 3 := by
    simp only [List.length_append, List.length_cons, List.length_nil]
    omega
  rw [lex, hcontains, if_neg Bool.false_ne_true, hunify]
  dsimp only
  rw [hsteps]
  exact lexFrom_opening _ _

theorem expressions_brackets :
    (expressions (fuelFor [.mark ['('], .mark [')']])).run [.mark ['('], .mark [')']] =
      some (.tuple [], []) := rfl

/-- A text of blanks and comments is read as an embedded expression exactly if its blanks are those
of scripts and it has no null character, and then as the empty tuple. -/
theorem expression?_silent_iff {code : Expr} (h : Silent isBlank s) (hreturn : '\r' ∉ s) :
    expression? s = some code ↔ code = .tuple [] ∧ Silent isScriptBlank s ∧ '\x00' ∉ s := by
  have hread : Silent isScriptBlank s → '\x00' ∉ s → expression? s = some (.tuple []) := by
    intro hs hnull
    have hline : inBrackets.lineStart = false := rfl
    obtain ⟨k, hk, hskip⟩ := lexFrom_silent hline (by decide) hs ['\n', ')']
    have hsteps : 2 * s.length + 7 = 2 * s.length - k + 4 + 3 + k := by omega
    have hlex : lex ('(' :: '\n' :: s ++ ['\n', ')']) = some [.mark ['('], .mark [')']] := by
      rw [lex_bracketed hreturn hnull, hsteps, hskip, lexFrom_closing]
      rfl
    rw [expression?, wholeExpression?, hlex]
    rfl
  constructor
  · intro hcode
    have hlexes : ∃ toks, lex ('(' :: '\n' :: s ++ ['\n', ')']) = some toks := by
      rw [expression?, wholeExpression?] at hcode
      obtain ⟨toks, hlex, -⟩ := Option.bind_eq_some_iff.1 hcode
      exact ⟨toks, hlex⟩
    obtain ⟨toks, hlex⟩ := hlexes
    have hnull : '\x00' ∉ s := by
      intro hmem
      rw [lex, if_pos (by simp [hmem])] at hlex
      cases hlex
    rw [lex_bracketed hreturn hnull] at hlex
    obtain ⟨_, hinside, -⟩ := Option.map_eq_some_iff.1 hlex
    have hs := silent_of_lexFrom rfl (by decide) h hinside
    rw [hread hs hnull] at hcode
    exact ⟨(Option.some.inj hcode).symm, hs, hnull⟩
  · rintro ⟨rfl, hs, hnull⟩
    exact hread hs hnull

end Script

end XmlTemplate
