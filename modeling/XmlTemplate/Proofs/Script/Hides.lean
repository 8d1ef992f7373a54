import XmlTemplate.Proofs.Literal.LineEnds
import XmlTemplate.Proofs.Script.Local

/-!
# Scripts with and without comments

`Hides` pairs a text with what is left of it when comments are taken out, a line feed standing for
each. Both are read alike inside of brackets (`lexFrom_hides`): in strings and brackets they are the
same, a blank or a comment stops every other token, and what stands between two tokens is passed
over in both. The brackets that the text opens and closes are listed beside it; where a script can
be read, they are its brackets.
-/

set_option autoImplicit false

namespace XmlTemplate.Script

/-- The second text is the first one without comments; the delimiters in the list are open before
both, and the last list holds the brackets in them. -/
inductive Hides : List Delimiter → Text → Text → List Text → Prop
  | nil : Hides [] [] [] []
  | plain {ds : List Delimiter} {c : Char} {s t : Text} {bs : List Text} (hc : IsPlain c)
      (after : Hides ds s t bs) : Hides ds (c :: s) (c :: t) bs
  | string {ds : List Delimiter} {q : Char} {b s t : Text} {bs : List Text} (hq : isQuote q = true)
      (unit : IsUnit q b (s ++ [')'])) (after : Hides ds s t bs) :
      Hides ds (q :: (b ++ s)) (q :: (b ++ t)) bs
  | gap {ds : List Delimiter} {g s t : Text} {bs : List Text} (silent : Silent isScriptBlank g)
      (head : g.head? = some '#' ∨ g.head? = some '\n') (after : Hides ds s t bs) :
      Hides ds (g ++ s) ('\n' :: t) bs
  | opening {ds : List Delimiter} {s t : Text} {bs : List Text} (d : Delimiter)
      (after : Hides (d :: ds) s t bs) : Hides ds (d.opener :: s) (d.opener :: t) ([d.opener] :: bs)
  | closing {ds : List Delimiter} {s t : Text} {bs : List Text} (d : Delimiter)
      (after : Hides ds s t bs) : Hides (d :: ds) (d.closer :: s) (d.closer :: t) ([d.closer] :: bs)

/-- The state in which the delimiters are open inside of round brackets. -/
def waiting (ds : List Delimiter) : LexState :=
  ⟨false, ds.map Delimiter.closer ++ [')'], [⟨0, 0⟩]⟩

theorem waiting_brackets_ne (ds : List Delimiter) : (waiting ds).brackets ≠ [] := by
  simp [waiting]

section

variable {ds : List Delimiter} {s t u w : Text} {bs : List Text} {c q : Char} {n m : Nat}
  {st : LexState} {toks : List Tok}

/-! ## How the two texts begin -/

theorem isInner_opener (d : Delimiter) : isInner d.opener = false := by cases d <;> decide

theorem isInner_closer (d : Delimiter) : isInner d.closer = false := by cases d <;> decide

theorem isInner_of_isQuote (hq : isQuote q = true) : isInner q = false := by
  rcases isQuote_iff.1 hq with rfl | rfl <;> decide

/-- The characters of a word or mark belong to both texts. -/
theorem Hides.append_plain (hw : ∀ c ∈ w, IsPlain c) (h : Hides ds s t bs) :
    Hides ds (w ++ s) (w ++ t) bs := by
  induction w with
  | nil => exact h
  | cons c w ih =>
    obtain ⟨hc, hw⟩ := List.forall_mem_cons.1 hw
    exact .plain hc (ih hw)

/-- The two texts go on alike up to something that stops every token in both. -/
theorem Hides.inner (h : Hides ds s t bs) :
    ∃ w s' t', s = w ++ s' ∧ t = w ++ t' ∧ (∀ c ∈ w, isInner c = true) ∧ Hides ds s' t' bs ∧
      Stops (s' ++ [')']) ∧ Stops (t' ++ [')']) := by
  -- where the texts stop tokens themselves, nothing is passed over
  have hhere : ∀ {s t : Text} {ds : List Delimiter} {bs : List Text}, Hides ds s t bs →
      Stops (s ++ [')']) → Stops (t ++ [')']) →
      ∃ w s' t', s = w ++ s' ∧ t = w ++ t' ∧ (∀ c ∈ w, isInner c = true) ∧ Hides ds s' t' bs ∧
        Stops (s' ++ [')']) ∧ Stops (t' ++ [')']) :=
    fun h hs ht => ⟨[], _, _, rfl, rfl, List.forall_mem_nil _, h, hs, ht⟩
  induction h with
  | nil => exact hhere .nil (stops_cons (by decide)) (stops_cons (by decide))
  | @plain ds c s t bs hc after ih =>
    by_cases hinner : isInner c = true
    · obtain ⟨w, s', t', rfl, rfl, hw, h⟩ := ih
      exact ⟨c :: w, s', t', rfl, rfl, List.forall_mem_cons.2 ⟨hinner, hw⟩, h⟩
    · rw [Bool.not_eq_true] at hinner
      exact hhere (.plain hc after) (stops_cons hinner) (stops_cons hinner)
  | string hq unit after =>
    have hstop := isInner_of_isQuote hq
    exact hhere (.string hq unit after) (stops_cons hstop) (stops_cons hstop)
  | @gap ds g s t bs silent head after =>
    refine hhere (.gap silent head after) ?_ (stops_cons (by decide))
    rcases head with head | head <;> obtain ⟨g, rfl⟩ := List.head?_eq_some_iff.1 head <;>
      exact stops_cons (by decide)
  | opening d after =>
    have hstop := isInner_opener d
    exact hhere (.opening d after) (stops_cons hstop) (stops_cons hstop)
  | closing d after =>
    have hstop := isInner_closer d
    exact hhere (.closing d after) (stops_cons hstop) (stops_cons hstop)

/-- A first character that is the same in both texts is what one of them begins with. -/
theorem eq_of_head {d : Char} (h : (d :: s).head? = some c ∨ (d :: t).head? = some c) : d = c := by
  rcases h with h | h <;> exact Option.some.inj h

/-- Where one of the texts goes on with a gap, the first character is a number sign or a line
feed. -/
theorem eq_of_head_gap {g : Text} (head : g.head? = some '#' ∨ g.head? = some '\n')
    (h : (g ++ s).head? = some c ∨ ('\n' :: t).head? = some c) : c = '#' ∨ c = '\n' := by
  rcases h with h | h
  · rcases head with head | head <;> obtain ⟨g, rfl⟩ := List.head?_eq_some_iff.1 head
    · exact .inl (Option.some.inj h).symm
    · exact .inr (Option.some.inj h).symm
  · exact .inr (Option.some.inj h).symm

/-- If one of the two texts begins with a letter of those that stand before strings, both do. -/
theorem Hides.of_mark (h : Hides ds s t bs) (hc : isStringMark c = true)
    (hhead : s.head? = some c ∨ t.head? = some c) :
    ∃ s' t', s = c :: s' ∧ t = c :: t' ∧ Hides ds s' t' bs := by
  have hword := isWord_of_isStringMark hc
  cases h with
  | nil => rcases hhead with h | h <;> cases h
  | plain _ after =>
    obtain rfl := eq_of_head hhead
    exact ⟨_, _, rfl, rfl, after⟩
  | string hq =>
    obtain rfl := eq_of_head hhead
    rw [isWord_of_isQuote hq] at hword
    cases hword
  | gap _ head => rcases eq_of_head_gap head hhead with rfl | rfl <;> exact absurd hc (by decide)
  | opening d =>
    obtain rfl := eq_of_head hhead
    rw [d.isLone_opener.notWord] at hword
    cases hword
  | closing d =>
    obtain rfl := eq_of_head hhead
    rw [d.isLone_closer.notWord] at hword
    cases hword

/-- If one of the two texts begins with a quote, both begin with the same string. -/
theorem Hides.of_quote (h : Hides ds s t bs) (hq : isQuote q = true)
    (hhead : s.head? = some q ∨ t.head? = some q) :
    ∃ b s' t', s = q :: (b ++ s') ∧ t = q :: (b ++ t') ∧ IsUnit q b (s' ++ [')']) ∧
      Hides ds s' t' bs := by
  cases h with
  | nil => rcases hhead with h | h <;> cases h
  | plain hc =>
    obtain rfl := eq_of_head hhead
    rw [hc.notQuote] at hq
    cases hq
  | string _ unit after =>
    obtain rfl := eq_of_head hhead
    exact ⟨_, _, _, rfl, rfl, unit, after⟩
  | gap _ head => rcases eq_of_head_gap head hhead with rfl | rfl <;> exact absurd hq (by decide)
  | opening d =>
    obtain rfl := eq_of_head hhead
    rw [d.isLone_opener.notQuote] at hq
    cases hq
  | closing d =>
    obtain rfl := eq_of_head hhead
    rw [d.isLone_closer.notQuote] at hq
    cases hq

/-- If one of the two texts begins with letters and a quote, both begin with the same string. -/
theorem Hides.of_string {marks : Text} (hmarks : ∀ c ∈ marks, isStringMark c = true)
    (hq : isQuote q = true) (h : Hides ds s t bs)
    (hhead : (∃ u, s = marks ++ q :: u) ∨ ∃ u, t = marks ++ q :: u) :
    ∃ b s' t', s = marks ++ q :: (b ++ s') ∧ t = marks ++ q :: (b ++ t') ∧
      IsUnit q b (s' ++ [')']) ∧ Hides ds s' t' bs := by
  induction marks generalizing s t with
  | nil =>
    refine h.of_quote hq ?_
    rcases hhead with ⟨u, rfl⟩ | ⟨u, rfl⟩
    · exact .inl rfl
    · exact .inr rfl
  | cons c marks ih =>
    obtain ⟨hc, hmarks⟩ := List.forall_mem_cons.1 hmarks
    have hfirst : s.head? = some c ∨ t.head? = some c := by
      rcases hhead with ⟨u, rfl⟩ | ⟨u, rfl⟩
      · exact .inl rfl
      · exact .inr rfl
    obtain ⟨s, t, rfl, rfl, hafter⟩ := h.of_mark hc hfirst
    have hrest : (∃ u, s = marks ++ q :: u) ∨ ∃ u, t = marks ++ q :: u := by
      rcases hhead with ⟨u, hu⟩ | ⟨u, hu⟩
      · exact .inl ⟨u, (List.cons.inj hu).2⟩
      · exact .inr ⟨u, (List.cons.inj hu).2⟩
    obtain ⟨b, s', t', rfl, rfl, hunit, hlater⟩ := ih hmarks hafter hrest
    exact ⟨b, s', t', rfl, rfl, hunit, hlater⟩

/-- Letters, two at most, and a quote at the head of a text. -/
theorem startsAt_iff : Literal.startsAt s = true ↔ ∃ marks q u, s = marks ++ q :: u ∧
    (∀ c ∈ marks, isStringMark c = true) ∧ marks.length ≤ 2 ∧ isQuote q = true := by
  constructor
  · intro h
    obtain ⟨hmarks, hle⟩ := stringMarks_spec s
    rw [Literal.startsAt] at h
    split at h
    · cases h
    · next q u hdrop =>
      refine ⟨s.take (stringMarks s), q, u, ?_, hmarks, ?_, h⟩
      · rw [← hdrop, List.take_append_drop]
      · rw [List.length_take]
        omega
  · rintro ⟨marks, q, u, rfl, hmarks, hle, hq⟩
    rw [Literal.startsAt, stringMarks_append hmarks hle hq, List.drop_left]
    exact hq

theorem isPlain_of_isStringMark (hc : isStringMark c = true) : IsPlain c :=
  isPlain_of_isWord (isWord_of_isStringMark hc)

/-- Before a closing bracket a string starts where one starts in the text. -/
theorem startsAt_append_closer : Literal.startsAt (s ++ [')']) = true ↔
    Literal.startsAt s = true := by
  rw [startsAt_iff, startsAt_iff]
  constructor
  · rintro ⟨marks, q, u, heq, hmarks, hle, hq⟩
    obtain ⟨b, rfl, hb⟩ := exists_of_plain (d := .round)
      (fun c hc => isPlain_of_isStringMark (hmarks c hc)) heq
    cases b with
    | nil =>
      obtain ⟨rfl, -⟩ := List.cons.inj hb
      exact absurd hq (by decide)
    | cons e b =>
      obtain ⟨rfl, -⟩ := List.cons.inj hb
      exact ⟨marks, q, b, rfl, hmarks, hle, hq⟩
  · rintro ⟨marks, q, u, rfl, hmarks, hle, hq⟩
    exact ⟨marks, q, u ++ [')'], by simp, hmarks, hle, hq⟩

/-- A string starts in both texts or in none. -/
theorem Hides.startsAt_eq (h : Hides ds s t bs) :
    Literal.startsAt (t ++ [')']) = Literal.startsAt (s ++ [')']) := by
  rw [Bool.eq_iff_iff, startsAt_append_closer, startsAt_append_closer, startsAt_iff, startsAt_iff]
  constructor
  · rintro ⟨marks, q, u, ht, hmarks, hle, hq⟩
    obtain ⟨b, s', t', hs, -⟩ := h.of_string hmarks hq (.inr ⟨u, ht⟩)
    exact ⟨marks, q, _, hs, hmarks, hle, hq⟩
  · rintro ⟨marks, q, u, hs, hmarks, hle, hq⟩
    obtain ⟨b, s', t', -, ht, -⟩ := h.of_string hmarks hq (.inl ⟨u, hs⟩)
    exact ⟨marks, q, _, ht, hmarks, hle, hq⟩

/-- Where the text without comments goes on with a quote, the other one does. -/
theorem Hides.head_quote (h : Hides ds s t bs) (hq : isQuote q = true)
    (hhead : (t ++ [')']).head? = some q) : (s ++ [')']).head? = some q := by
  have ht : t.head? = some q := by
    cases t with
    | nil =>
      cases hhead
      exact absurd hq (by decide)
    | cons d t => exact hhead
  obtain ⟨b, s', t', rfl, -⟩ := h.of_quote hq (.inr ht)
  rfl

/-! ## Steps of the reader -/

/-- A text of blanks and comments takes a step at least, if there is anything in it. -/
theorem lexFrom_of_silent (hst : st.lineStart = false) (hbrackets : st.brackets ≠ [])
    (h : Silent isScriptBlank s) (hlex : lexFrom n st (s ++ t) = some toks) :
    ∃ k ≤ n, (s ≠ [] → k < n) ∧ lexFrom k st t = some toks := by
  induction h generalizing n with
  | nil => exact ⟨n, Nat.le_refl n, fun hs => absurd rfl hs, hlex⟩
  | @blank c s hc _ ih =>
    cases n with
    | zero => cases hlex
    | succ n =>
      rw [List.cons_append, lexFrom_blank hst hbrackets hc] at hlex
      obtain ⟨k, hk, -, hrest⟩ := ih hlex
      exact ⟨k, Nat.le_succ_of_le hk, fun _ => Nat.lt_succ_of_le hk, hrest⟩
  | @comment r s hr _ ih =>
    rw [List.cons_append, List.append_assoc, List.cons_append] at hlex
    rcases n with _ | _ | n
    · cases hlex
    · rw [lexFrom_comment hst hr] at hlex
      cases hlex
    · rw [lexFrom_comment hst hr, lexFrom_blank hst hbrackets rfl] at hlex
      obtain ⟨k, hk, -, hrest⟩ := ih hlex
      exact ⟨k, by omega, fun _ => by omega, hrest⟩

/-- The token that a string is. -/
def tokOf : Literal.Meaning → Tok
  | .text value => .str value
  | .bytes => .bytes

theorem lexFrom_string (hst : st.lineStart = false) (hliteral : Literal.startsAt s = true) :
    lexFrom (n + 1) st s =
      (Literal.read s).bind fun r => (lexFrom n st (s.drop r.2)).map (tokOf r.1 :: ·) := by
  obtain ⟨c, rest, rfl, hc⟩ : ∃ c rest, s = c :: rest ∧ (isStringMark c || isQuote c) = true := by
    obtain ⟨marks, q, u, rfl, hmarks, -, hq⟩ := startsAt_iff.1 hliteral
    cases marks with
    | nil => exact ⟨q, u, rfl, by rw [hq, Bool.or_true]⟩
    | cons c marks => exact ⟨c, _, rfl, by rw [hmarks c List.mem_cons_self, Bool.true_or]⟩
  have hno : ([' ', '\t', '\x0c', '#', '\n', '\\'].all fun c => !(isStringMark c || isQuote c)) =
      true := by decide
  have hne : ∀ d ∈ [' ', '\t', '\x0c', '#', '\n', '\\'], c ≠ d := by
    rintro d hd rfl
    have := List.all_eq_true.1 hno c hd
    rw [hc] at this
    cases this
  simp only [List.forall_mem_cons] at hne
  obtain ⟨hspace, htab, hfeed, hsign, hline, hback, -⟩ := hne
  rw [lexFrom.eq_def]
  change (if st.lineStart = true then _ else _) = _
  rw [if_neg (by rw [hst]; exact Bool.false_ne_true)]
  change (if (c = ' ' || c = '\t' || c = '\x0c') = true then _ else _) = _
  rw [if_neg (by simp [hspace, htab, hfeed]), if_neg hsign, if_neg hline, if_neg hback,
    if_pos hliteral]
  cases Literal.read (c :: rest) with
  | none => rfl
  | some r =>
    obtain ⟨value | _, k⟩ := r <;> rfl

/-- A backslash joins its line with the next one, if there is anything on that. -/
theorem lexFrom_join (hst : st.lineStart = false) :
    lexFrom (n + 1) st ('\\' :: s) = some toks ↔
      ∃ u, s = '\n' :: u ∧ u ≠ [] ∧ lexFrom n st u = some toks := by
  rw [lexFrom.eq_def]
  change (if st.lineStart = true then _ else _) = _ ↔ _
  rw [if_neg (by rw [hst]; exact Bool.false_ne_true)]
  change (if ('\\' = ' ' || '\\' = '\t' || '\\' = '\x0c') = true then _ else _) = _ ↔ _
  rw [if_neg (by decide), if_neg (by decide), if_neg (by decide), if_pos rfl]
  constructor
  · intro h
    split at h
    · next d rest => exact ⟨d :: rest, rfl, List.cons_ne_nil d rest, h⟩
    · cases h
  · rintro ⟨u, rfl, hu, h⟩
    cases u with
    | nil => exact absurd rfl hu
    | cons d u => exact h

/-! ### Brackets -/

/-- The characters that open and close groups. -/
def bracketChars : List Char := ['(', ')', '[', ']', '\x7b', '\x7d']

theorem mem_bracketChars (d : Delimiter) :
    d.opener ∈ bracketChars ∧ d.closer ∈ bracketChars := by
  cases d <;> decide

/-- One step over a bracket. -/
theorem lexFrom_bracket (hst : st.lineStart = false) (hc : c ∈ bracketChars) :
    lexFrom (n + 1) st (c :: s) =
      match closingBracket? c with
      | some closer =>
        if st.brackets.length < maxBrackets then
          (lexFrom n { st with brackets := closer :: st.brackets } s).map (.mark [c] :: ·)
        else none
      | none =>
        if isClosingBracket c then
          match st.brackets with
          | closer :: brackets =>
            if c = closer then (lexFrom n { st with brackets } s).map (.mark [c] :: ·) else none
          | [] => none
        else (lexFrom n st s).map (.mark [c] :: ·) := by
  have hall : (bracketChars.all fun c => !([' ', '\t', '\x0c', '#', '\n', '\\', '.'].contains c ||
      isStringMark c || isQuote c || c.isDigit || isWordPart c ||
        doubleMarks.flatten.contains c) && singleMarks.contains c) = true := by decide
  have hno := List.all_eq_true.1 hall c hc
  simp only [Bool.and_eq_true, Bool.not_eq_true', Bool.or_eq_false_iff] at hno
  obtain ⟨⟨⟨⟨⟨⟨hne, hmark⟩, hquote⟩, hdigit⟩, hword⟩, hdouble⟩, hsingle⟩ := hno
  have hother : ∀ d ∈ [' ', '\t', '\x0c', '#', '\n', '\\', '.'], c ≠ d := by
    rintro d hd rfl
    rw [List.contains_iff_mem.2 hd] at hne
    cases hne
  simp only [List.forall_mem_cons] at hother
  obtain ⟨hspace, htab, hfeed, hsign, hline, hback, hpoint, -⟩ := hother
  have hnumber : startsNumber (c :: s) = false := by
    rw [startsNumber]
    · exact hdigit
    · exact fun _ _ h _ => hpoint h
  have hpoints : (c :: s).take 3 ≠ ['.', '.', '.'] := fun h => hpoint (List.cons.inj h).1
  have hdoubles : ¬doubleMarks.contains ((c :: s).take 2) = true := by
    intro hmem
    have hflat : c ∈ doubleMarks.flatten :=
      List.mem_flatten.2 ⟨_, List.contains_iff_mem.1 hmem, List.mem_cons_self⟩
    rw [List.contains_iff_mem.2 hflat] at hdouble
    cases hdouble
  rw [lexFrom.eq_def]
  change (if st.lineStart = true then _ else _) = _
  rw [if_neg (by rw [hst]; exact Bool.false_ne_true)]
  change (if (c = ' ' || c = '\t' || c = '\x0c') = true then _ else _) = _
  rw [if_neg (by simp [hspace, htab, hfeed]), if_neg hsign, if_neg hline, if_neg hback,
    if_neg (by rw [startsAt_of_notMark hmark hquote]; exact Bool.false_ne_true),
    if_neg (by rw [hnumber]; exact Bool.false_ne_true),
    if_neg (by rw [hword]; exact Bool.false_ne_true), if_neg hpoints, if_neg hdoubles]
  exact if_pos hsingle

theorem lexFrom_opener (d : Delimiter) (s : Text) :
    lexFrom (n + 1) (waiting ds) (d.opener :: s) =
      if (waiting ds).brackets.length < maxBrackets then
        (lexFrom n (waiting (d :: ds)) s).map (.mark [d.opener] :: ·)
      else none := by
  have hopens : closingBracket? d.opener = some d.closer := by cases d <;> rfl
  rw [lexFrom_bracket rfl (mem_bracketChars d).1, hopens]
  rfl

theorem lexFrom_closer (d : Delimiter) (s : Text) :
    lexFrom (n + 1) (waiting (d :: ds)) (d.closer :: s) =
      (lexFrom n (waiting ds) s).map (.mark [d.closer] :: ·) := by
  have hopens : closingBracket? d.closer = none := by cases d <;> rfl
  have hcloses : isClosingBracket d.closer = true := by cases d <;> rfl
  rw [lexFrom_bracket rfl (mem_bracketChars d).2, hopens]
  dsimp only
  rw [if_pos hcloses]
  change (if d.closer = d.closer then _ else _) = _
  rw [if_pos rfl]
  rfl

theorem bracket?_opener (d : Delimiter) : (Tok.mark [d.opener]).bracket? = some [d.opener] := by
  cases d <;> rfl

theorem bracket?_closer (d : Delimiter) : (Tok.mark [d.closer]).bracket? = some [d.closer] := by
  cases d <;> rfl

theorem bracket?_tokOf (m : Literal.Meaning) : (tokOf m).bracket? = none := by
  cases m <;> rfl

/-- The literal that letters and a quote start. -/
theorem read_marks {marks : Text} (hmarks : ∀ c ∈ marks, isStringMark c = true)
    (hlength : marks.length ≤ 2) (hq : isQuote q = true) (u : Text) :
    Literal.read (marks ++ q :: u) =
      (Literal.flavour? marks).bind fun f => (Literal.body? q u).bind fun b =>
        (Literal.meaning? f b.1).map fun m => (m, marks.length + 1 + b.2) := by
  rw [Literal.read, stringMarks_append hmarks hlength hq, List.take_left, List.drop_left]
  cases Literal.flavour? marks with
  | none => rfl
  | some f =>
    dsimp only [Option.bind_some]
    rw [if_pos hq]
    cases Literal.body? q u <;> rfl

/-- One step over a string. -/
theorem lexFrom_unit (hst : st.lineStart = false) {marks b v : Text} {f : Literal.Flavour}
    {value : Literal.Meaning} (hmarks : ∀ c ∈ marks, isStringMark c = true)
    (hlength : marks.length ≤ 2) (hq : isQuote q = true)
    (hflavour : Literal.flavour? marks = some f)
    (hbody : Literal.body? q (b ++ u) = some (v, b.length))
    (hvalue : Literal.meaning? f v = some value) :
    lexFrom (n + 1) st (marks ++ q :: (b ++ u)) = (lexFrom n st u).map (tokOf value :: ·) := by
  have hstarts : Literal.startsAt (marks ++ q :: (b ++ u)) = true :=
    startsAt_iff.2 ⟨marks, q, _, rfl, hmarks, hlength, hq⟩
  have hdrop : (marks ++ q :: (b ++ u)).drop (marks.length + 1 + b.length) = u := by
    have hsplit : marks ++ q :: (b ++ u) = marks ++ [q] ++ b ++ u := by simp
    rw [hsplit]
    refine List.drop_left' ?_
    simp only [List.length_append, List.length_cons, List.length_nil]
  rw [lexFrom_string hst hstarts, read_marks hmarks hlength hq, hflavour, Option.bind_some, hbody,
    Option.bind_some, hvalue, Option.map_some, Option.bind_some, hdrop]

/-! ## Both texts are read alike -/

/-- With the delimiters open, the text is read as the tokens; a round bracket comes after it, and
between the tokens before that one stand the brackets. -/
structure ReadsAs (ds : List Delimiter) (t : Text) (bs : List Text) (toks : List Tok) : Prop where
  brackets : ∃ us, toks = us ++ [.mark [')']] ∧ us.filterMap Tok.bracket? = bs
  read : ∀ m, t.length + 2 ≤ m → lexFrom m (waiting ds) (t ++ [')']) = some toks

/-- A step that passes over something and gives no token. -/
theorem ReadsAs.skip (h : ReadsAs ds t bs toks) (hlength : t.length < u.length)
    (hstep : ∀ m, lexFrom (m + 1) (waiting ds) (u ++ [')']) = lexFrom m (waiting ds) (t ++ [')'])) :
    ReadsAs ds u bs toks := by
  refine ⟨h.brackets, fun m hm => ?_⟩
  obtain ⟨m, rfl⟩ : ∃ k, m = k + 1 := ⟨m - 1, by omega⟩
  rw [hstep]
  exact h.read m (by omega)

/-- A step that gives a token. -/
theorem ReadsAs.token {ds' : List Delimiter} (ds : List Delimiter) (u : Text) (k : Tok)
    (h : ReadsAs ds' t bs toks)
    (hlength : t.length < u.length)
    (hstep : ∀ m, lexFrom (m + 1) (waiting ds) (u ++ [')']) =
      (lexFrom m (waiting ds') (t ++ [')'])).map (k :: ·)) :
    ReadsAs ds u (k.bracket?.toList ++ bs) (k :: toks) := by
  constructor
  · obtain ⟨us, rfl, rfl⟩ := h.brackets
    refine ⟨k :: us, rfl, ?_⟩
    rw [List.filterMap_cons]
    cases k.bracket? <;> rfl
  · intro m hm
    obtain ⟨m, rfl⟩ : ∃ k, m = k + 1 := ⟨m - 1, by omega⟩
    rw [hstep, h.read m (by omega)]
    rfl

/-- At the end of the text, the bracket after it is read. -/
theorem readsAs_nil (h : lexFrom n (waiting []) [')'] = some toks) : ReadsAs [] [] [] toks := by
  have htwo : ∀ m, lexFrom (m + 2) (waiting []) [')'] = some [.mark [')']] := fun _ => rfl
  rcases n with _ | _ | n
  · cases h
  · cases h
  · rw [htwo] at h
    cases h
    refine ⟨⟨[], rfl, rfl⟩, fun m hm => ?_⟩
    obtain ⟨m, rfl⟩ : ∃ k, m = k + 2 := ⟨m - 2, by simpa using by omega⟩
    exact htwo m

/-- A text that goes on with a line feed, once the other one is read up to what comes after it. -/
theorem Hides.of_lineEnd (h : Hides ds s t bs) (hs : s ++ [')'] = '\n' :: u) :
    ∃ g s' t', u = g ++ (s' ++ [')']) ∧ Silent isScriptBlank g ∧ t = '\n' :: t' ∧
      Hides ds s' t' bs := by
  cases h with
  | nil => cases hs
  | plain _ after =>
    obtain ⟨rfl, rfl⟩ := List.cons.inj hs
    exact ⟨[], _, _, rfl, .nil, rfl, after⟩
  | string hq =>
    obtain ⟨rfl, -⟩ := List.cons.inj hs
    exact absurd hq (by decide)
  | gap silent head after =>
    rcases head with head | head
    · obtain ⟨g, rfl⟩ := List.head?_eq_some_iff.1 head
      cases hs
    · obtain ⟨g, rfl⟩ := List.head?_eq_some_iff.1 head
      rw [List.cons_append, List.cons_append, List.append_assoc] at hs
      obtain ⟨-, rfl⟩ := List.cons.inj hs
      cases silent with
      | blank _ hg => exact ⟨g, _, _, rfl, hg, rfl, after⟩
  | opening d =>
    obtain ⟨hd, -⟩ := List.cons.inj hs
    cases d <;> cases hd
  | closing d =>
    obtain ⟨hd, -⟩ := List.cons.inj hs
    cases d <;> cases hd

end

section

variable {ds : List Delimiter} {s t : Text} {bs : List Text} {c : Char} {n : Nat} {toks : List Tok}

/-- What a step over a string does to both texts, given that the rest of them is read alike. -/
theorem Hides.reads_string (h : Hides ds s t bs) (hstarts : Literal.startsAt (s ++ [')']) = true)
    (hlex : lexFrom (n + 1) (waiting ds) (s ++ [')']) = some toks)
    (ih : ∀ {s t toks}, Hides ds s t bs → lexFrom n (waiting ds) (s ++ [')']) = some toks →
      ReadsAs ds t bs toks) : ReadsAs ds t bs toks := by
  obtain ⟨marks, q, u, hu, hmarks, hlength, hq⟩ := startsAt_iff.1 (startsAt_append_closer.1 hstarts)
  obtain ⟨b, s, t, rfl, rfl, hunit, hafter⟩ := h.of_string hmarks hq (.inl ⟨u, hu⟩)
  have hplace : ∀ v : Text,
      marks ++ q :: (b ++ v) ++ [')'] = marks ++ q :: (b ++ (v ++ [')'])) := by
    intro v
    simp
  have hread := hlex
  rw [hplace, lexFrom_string rfl (hplace s ▸ hstarts), read_marks hmarks hlength hq] at hread
  obtain ⟨r, hr, -⟩ := Option.bind_eq_some_iff.1 hread
  obtain ⟨f, hflavour, hr⟩ := Option.bind_eq_some_iff.1 hr
  obtain ⟨⟨v, k⟩, hbody, hr⟩ := Option.bind_eq_some_iff.1 hr
  obtain ⟨value, hvalue, -⟩ := Option.map_eq_some_iff.1 hr
  -- the string ends where it did, whatever comes after it
  obtain ⟨rfl, hboth⟩ := hunit v k hbody
  rw [hplace, lexFrom_unit rfl hmarks hlength hq hflavour hbody hvalue] at hlex
  obtain ⟨toks, hinside, rfl⟩ := Option.map_eq_some_iff.1 hlex
  have hrest := (ih hafter hinside).token ds (marks ++ q :: (b ++ t)) (tokOf value) ?_ ?_
  · rwa [bracket?_tokOf] at hrest
  · simp only [List.length_append, List.length_cons]
    omega
  · intro m
    rw [hplace]
    exact lexFrom_unit rfl hmarks hlength hq hflavour (hboth _ (hafter.head_quote hq)) hvalue

/-- What a step over a word, a number or a mark does to both texts. -/
theorem Hides.reads_inner (h : Hides ds (c :: s) t bs) (hc : isInner c = true)
    (hstarts : Literal.startsAt (c :: s ++ [')']) = false)
    (hlex : lexFrom (n + 1) (waiting ds) (c :: s ++ [')']) = some toks)
    (ih : ∀ {s t toks}, Hides ds s t bs → lexFrom n (waiting ds) (s ++ [')']) = some toks →
      ReadsAs ds t bs toks) : ReadsAs ds t bs toks := by
  have hstarts' := h.startsAt_eq.trans hstarts
  obtain ⟨w, s', t', hs, rfl, hw, hafter, hstops, hstops'⟩ := h.inner
  -- the part that both texts have is not empty
  obtain ⟨w, rfl⟩ : ∃ w', w = c :: w' := by
    cases w with
    | nil =>
      subst hs
      have hno := hstops c rfl
      rw [hc] at hno
      cases hno
    | cons d w => exact ⟨w, by rw [(List.cons.inj hs).1]⟩
  have hne : c :: w ≠ [] := List.cons_ne_nil c w
  rw [hs] at hstarts hlex
  rw [List.append_assoc] at hstarts hlex hstarts'
  rw [List.cons_append] at hstarts hstarts'
  rw [List.cons_append, lexFrom_inner rfl hc hstarts, ← List.cons_append,
    readInner_append hstops hne, Option.bind_map] at hlex
  obtain ⟨r, hread, hstep⟩ := Option.bind_eq_some_iff.1 hlex
  obtain ⟨toks, hinside, rfl⟩ := Option.map_eq_some_iff.1 hstep
  obtain ⟨⟨a, ha, hfilled, -⟩, hbracket⟩ := readInner_covers hc hread
  have hleft : ∀ d ∈ r.2, IsPlain d := by
    intro d hd
    refine isPlain_of_isInner (hw d ?_)
    rw [ha]
    exact List.mem_append_right a hd
  dsimp only at hinside
  rw [← List.append_assoc] at hinside
  have hrest := (ih (hafter.append_plain hleft) hinside).token ds (c :: w ++ t') r.1 ?_ ?_
  · rwa [hbracket] at hrest
  · have := List.length_pos_iff.2 hfilled
    rw [ha]
    simp only [List.length_append]
    omega
  · intro m
    rw [List.append_assoc, List.cons_append, lexFrom_inner rfl hc hstarts', ← List.cons_append,
      readInner_append hstops' hne, hread, Option.map_some, Option.bind_some]
    dsimp only
    rw [List.append_assoc]

/-- A text with comments is read like the one without them, and its brackets are those listed. -/
theorem lexFrom_hides (h : Hides ds s t bs)
    (hlex : lexFrom n (waiting ds) (s ++ [')']) = some toks) : ReadsAs ds t bs toks := by
  -- on the steps and not on the texts: a step over a token takes several characters of both
  induction n using Nat.strongRecOn generalizing ds s t bs toks with
  | _ n ih =>
    cases n with
    | zero => cases hlex
    | succ n =>
      by_cases hstarts : Literal.startsAt (s ++ [')']) = true
      · exact h.reads_string hstarts hlex fun h => ih n (Nat.lt_succ_self n) h
      rw [Bool.not_eq_true] at hstarts
      cases h with
      | nil => exact readsAs_nil hlex
      | @plain _ c s t _ hc after =>
        by_cases hblank : isScriptBlank c = true
        · rw [List.cons_append, lexFrom_blank rfl (waiting_brackets_ne ds) hblank] at hlex
          refine (ih n (Nat.lt_succ_self n) after hlex).skip (Nat.lt_succ_self _) fun m => ?_
          rw [List.cons_append, lexFrom_blank rfl (waiting_brackets_ne ds) hblank]
        by_cases hback : c = '\\'
        · -- the backslash and the line feed go, and with them the rest of what is passed over
          subst hback
          obtain ⟨u, hu, -, hlex⟩ := (lexFrom_join rfl).1 hlex
          obtain ⟨g, s, t, rfl, hsilent, rfl, hafter⟩ := after.of_lineEnd hu
          obtain ⟨k, hk, -, hlex⟩ := lexFrom_of_silent rfl (waiting_brackets_ne ds) hsilent hlex
          refine (ih k (Nat.lt_succ_of_le hk) hafter hlex).skip ?_ fun m => ?_
          · simp only [List.length_cons]
            omega
          · refine Option.ext fun toks => ?_
            rw [List.cons_append, lexFrom_join rfl]
            constructor
            · rintro ⟨v, hv, -, hlex⟩
              obtain ⟨-, rfl⟩ := List.cons.inj hv
              exact hlex
            · intro hlex
              exact ⟨_, rfl, by simp, hlex⟩
        · have hinner : isInner c = true := by
            have hnot : c ∉ bracketing := hc
            rw [Bool.not_eq_true] at hblank
            simp [isInner, hblank, hback, hnot]
          exact (Hides.plain hc after).reads_inner hinner hstarts hlex fun h =>
            ih n (Nat.lt_succ_self n) h
      | @string _ q b s t _ hq unit after =>
        -- a quote starts a string
        have : Literal.startsAt (q :: (b ++ s) ++ [')']) = true :=
          startsAt_iff.2 ⟨[], q, _, rfl, List.forall_mem_nil _, Nat.zero_le 2, hq⟩
        rw [this] at hstarts
        cases hstarts
      | @gap _ g s t _ silent head after =>
        -- what is left out takes a step at least, and the line feed for it takes one
        have hfilled : g ≠ [] := by
          rintro rfl
          rcases head with h | h <;> cases h
        rw [List.append_assoc] at hlex
        obtain ⟨k, -, hk, hlex⟩ := lexFrom_of_silent rfl (waiting_brackets_ne ds) silent hlex
        refine (ih k (hk hfilled) after hlex).skip (Nat.lt_succ_self _) fun m => ?_
        rw [List.cons_append, lexFrom_blank rfl (waiting_brackets_ne ds) rfl]
      | @opening _ s t bs d after =>
        rw [List.cons_append, lexFrom_opener] at hlex
        by_cases hroom : (waiting ds).brackets.length < maxBrackets
        · rw [if_pos hroom] at hlex
          obtain ⟨toks, hinside, rfl⟩ := Option.map_eq_some_iff.1 hlex
          have hrest := (ih n (Nat.lt_succ_self n) after hinside).token ds (d.opener :: t)
            (.mark [d.opener]) (Nat.lt_succ_self _) ?_
          · rwa [bracket?_opener] at hrest
          · intro m
            rw [List.cons_append, lexFrom_opener, if_pos hroom]
        -- both are refused where too many brackets are open
        · rw [if_neg hroom] at hlex
          cases hlex
      | @closing ds s t bs d after =>
        rw [List.cons_append, lexFrom_closer] at hlex
        obtain ⟨toks, hinside, rfl⟩ := Option.map_eq_some_iff.1 hlex
        have hrest := (ih n (Nat.lt_succ_self n) after hinside).token (d :: ds) (d.closer :: t)
          (.mark [d.closer]) (Nat.lt_succ_self _) ?_
        · rwa [bracket?_closer] at hrest
        · intro m
          rw [List.cons_append, lexFrom_closer]

/-! ## Between round brackets -/

/-- The text between round brackets on lines of their own, as embedded expressions are read. -/
def bracketed (s : Text) : Text := '(' :: '\n' :: s ++ ['\n', ')']

theorem lex_bracketed_unified (hnull : '\x00' ∉ s) :
    lex (bracketed s) =
      (lexFrom (2 * (unifyLineEnds (s ++ ['\n'])).length + 5) inBrackets
        (unifyLineEnds (s ++ ['\n']) ++ [')'])).map (.mark ['('] :: ·) := by
  have hcontains : (bracketed s).contains '\x00' = false := by
    simpa [bracketed] using hnull
  have hunify : unifyLineEnds (bracketed s) =
      '(' :: '\n' :: (unifyLineEnds (s ++ ['\n']) ++ [')']) := by
    have hplace : bracketed s = '(' :: '\n' :: (s ++ ['\n'] ++ [')']) := by simp [bracketed]
    have hlast : (s ++ ['\n']).getLast? = some '\r' → [')'].head? ≠ some '\n' := by simp
    rw [hplace, unifyLineEnds_cons (by decide), unifyLineEnds_cons (by decide),
      unifyLineEnds_append hlast, unifyLineEnds_cons (s := []) (by decide)]
    rfl
  have hsteps : 2 * List.length ('(' :: '\n' :: (unifyLineEnds (s ++ ['\n']) ++ [')'])) + 2 =
      2 * (unifyLineEnds (s ++ ['\n'])).length + 5 + 3 := by
    simp only [List.length_append, List.length_cons, List.length_nil]
    omega
  rw [lex, hcontains, if_neg Bool.false_ne_true, hunify]
  dsimp only
  rw [hsteps]
  exact lexFrom_opening _ _

theorem notMem_null_of_lex (h : lex s = some toks) : '\x00' ∉ s := by
  intro hmem
  rw [lex, if_pos (List.contains_iff_mem.2 hmem)] at h
  cases h

/-- An embedded expression is read with its comments as without them: its tokens, apart from the
round brackets around it, have the brackets that are listed. -/
theorem lex_bracketed_hides
    (h : Hides [] (unifyLineEnds (s ++ ['\n'])) (unifyLineEnds (t ++ ['\n'])) bs)
    (ht : ∀ c ∈ t, c ∈ s) (hlex : lex (bracketed s) = some toks) :
    lex (bracketed t) = some toks ∧
      ∃ us, toks = .mark ['('] :: (us ++ [.mark [')']]) ∧ us.filterMap Tok.bracket? = bs := by
  have hnull : '\x00' ∉ s := by
    have hno := notMem_null_of_lex hlex
    simpa [bracketed] using hno
  rw [lex_bracketed_unified hnull] at hlex
  obtain ⟨inside, hinside, rfl⟩ := Option.map_eq_some_iff.1 hlex
  have hreads := lexFrom_hides h hinside
  obtain ⟨us, rfl, hbrackets⟩ := hreads.brackets
  refine ⟨?_, us, rfl, hbrackets⟩
  rw [lex_bracketed_unified fun hmem => hnull (ht _ hmem)]
  refine Option.map_eq_some_iff.2 ⟨_, hreads.read _ ?_, rfl⟩
  omega

theorem expression?_congr (h : lex (bracketed s) = lex (bracketed t)) :
    expression? s = expression? t := by
  change (lex (bracketed s)).bind _ = (lex (bracketed t)).bind _
  rw [h]

theorem exists_lex_of_expression? {code : Expr} (h : expression? s = some code) :
    ∃ toks, lex (bracketed s) = some toks := by
  obtain ⟨toks, hlex, -⟩ := Option.bind_eq_some_iff.1 h
  exact ⟨toks, hlex⟩

end

end XmlTemplate.Script
