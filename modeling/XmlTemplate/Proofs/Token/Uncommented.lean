import XmlTemplate.Proofs.Script.Hides
import XmlTemplate.Proofs.Text.Margin
import XmlTemplate.Proofs.Token.Portions
import XmlTemplate.Proofs.Token.Stretch

/-!
# Portions without their comments

A comment of a template ends at the next line feed, and a comment of a script at a carriage return
as well. A comment is hidden if its lines, as scripts have them, are blank or comments of their own
(`Portion.isHidden`). Where all comments are hidden, a script that is made of portions is read as
without them (`Cuts.lex_uncommented`): to the character, what is left of a comment is the line feed
after it (`Strips`), and ends of lines that meet when a comment between them goes become one
(`Strips.hides`).
-/

set_option autoImplicit false

namespace XmlTemplate

open Script (unifyLineEnds isScriptBlank)

/-- What portions cover, without the comments. -/
def uncommented (ps : List Portion) : Text := textOf (ps.filter fun p => p.kind != .comment)

/-- The delimiter that a portion is. -/
def Portion.bracket? (p : Portion) : Option Text :=
  match p.kind with
  | .opening d => some [d.opener]
  | .closing d => some [d.closer]
  | _ => none

/-- Whether a row has nothing in it for a script, being blank or a comment. -/
def isSilentRow (row : Text) : Bool := (row.dropWhile isScriptBlank).head?.all (· == '#')

/-- Whether a portion has nothing in it for a script. -/
def Portion.isHidden (p : Portion) : Bool := (Text.rows (unifyLineEnds p.text)).all isSilentRow

/-- Whether a portion is the mark that starts a directive. -/
def Portion.isSign (p : Portion) : Bool := p.kind == .leaf .punctuation && p.text == ['#']

section

variable {ps qs : List Portion} {p : Portion}

theorem uncommented_of_comment (h : p.kind = .comment) (ps : List Portion) :
    uncommented (p :: ps) = uncommented ps := by
  rw [uncommented, List.filter_cons_of_neg (by simp [h]), uncommented]

theorem uncommented_cons (h : p.kind ≠ .comment) (ps : List Portion) :
    uncommented (p :: ps) = p.text ++ uncommented ps := by
  rw [uncommented, List.filter_cons_of_pos (by simp [h]), textOf_cons, uncommented]

theorem mem_of_mem_uncommented {c : Char} (h : c ∈ uncommented ps) : c ∈ textOf ps := by
  obtain ⟨p, hp, hc⟩ := List.mem_flatMap.1 h
  exact List.mem_flatMap.2 ⟨p, (List.mem_filter.1 hp).1, hc⟩

end

/-! ## Rows without anything for a script -/

/-- Rows that are blank or comments are blanks and comments, once the last one ends. -/
theorem silent_of_rows {s : Text} (h : (Text.rows s).all isSilentRow = true) :
    Silent isScriptBlank (s ++ ['\n']) := by
  -- a row in front of what is blanks and comments already
  have hrow : ∀ {r t : Text}, '\n' ∉ r → isSilentRow r = true → Silent isScriptBlank t →
      Silent isScriptBlank (r ++ '\n' :: t) := by
    intro r t hline hr ht
    have hblanks : ∀ c ∈ r.takeWhile isScriptBlank, isScriptBlank c = true := fun c hc =>
      List.all_eq_true.1 List.all_takeWhile c hc
    rw [← List.takeWhile_append_dropWhile (p := isScriptBlank) (l := r), List.append_assoc]
    refine .append hblanks ?_
    rw [isSilentRow] at hr
    cases hrest : r.dropWhile isScriptBlank with
    | nil => exact .blank rfl ht
    | cons c u =>
      obtain rfl : c = '#' := by simpa [hrest] using hr
      refine .comment (fun hmem => hline ?_) ht
      exact (List.dropWhile_sublist _).mem (hrest ▸ List.mem_cons_of_mem _ hmem)
  induction s using Text.rows_induction with
  | single r hr =>
    rw [Text.rows_of_notMem hr] at h
    exact hrow hr (by simpa using h) .nil
  | more r t hr ih =>
    rw [Text.rows_append_cons, Text.rows_of_notMem hr, List.all_append, Bool.and_eq_true] at h
    rw [List.append_assoc, List.cons_append]
    exact hrow hr (by simpa using h.1) (ih h.2)

/-- A hidden comment is made of comments and blanks for a script. -/
theorem silent_of_isHidden {p : Portion} (h : p.isHidden = true) :
    Silent isScriptBlank (unifyLineEnds (p.text ++ ['\n'])) := by
  have hsilent := silent_of_rows h
  -- a carriage return at the end of the comment goes together with the line feed
  by_cases hlast : p.text.getLast? = some '\r'
  · obtain ⟨s, hs⟩ : ∃ s, p.text = s ++ ['\r'] := List.getLast?_eq_some_iff.1 hlast
    have hjoin : unifyLineEnds (s ++ ['\r', '\n']) = unifyLineEnds s ++ ['\n'] := by
      rw [unifyLineEnds_append (by simp), unifyLineEnds_pair]
      rfl
    have hapart : unifyLineEnds (s ++ ['\r']) = unifyLineEnds s ++ ['\n'] := by
      rw [unifyLineEnds_append (by simp), unifyLineEnds_return (by simp)]
      rfl
    rw [Portion.isHidden, hs, hapart, Text.rows_append_cons, List.all_append, Bool.and_eq_true] at h
    rw [hs, List.append_assoc]
    change Silent isScriptBlank (unifyLineEnds (s ++ ['\r', '\n']))
    rw [hjoin]
    exact silent_of_rows h.1
  · rw [unifyLineEnds_append fun h => absurd h hlast]
    exact hsilent

/-! ## To the character -/

/-- The second text is the first one without comments, each of which is hidden and ends before a
line feed; the delimiters in the list are open before both, and the last list holds the brackets in
them. -/
inductive Strips : List Delimiter → Text → Text → List Text → Prop
  | nil : Strips [] [] [] []
  | plain {ds : List Delimiter} {c : Char} {s t : Text} {bs : List Text} (hc : IsPlain c)
      (after : Strips ds s t bs) : Strips ds (c :: s) (c :: t) bs
  | comment {ds : List Delimiter} {r s t : Text} {bs : List Text}
      (silent : Silent isScriptBlank (unifyLineEnds ('#' :: (r ++ ['\n']))))
      (after : Strips ds s t bs) : Strips ds ('#' :: (r ++ '\n' :: s)) ('\n' :: t) bs
  | string {ds : List Delimiter} {q : Char} {b s t : Text} {bs : List Text} (hq : isQuote q = true)
      (ends : quotedEnd q (b ++ s) = some b.length) (after : Strips ds s t bs) :
      Strips ds (q :: (b ++ s)) (q :: (b ++ t)) bs
  | opening {ds : List Delimiter} {s t : Text} {bs : List Text} (d : Delimiter)
      (after : Strips (d :: ds) s t bs) :
      Strips ds (d.opener :: s) (d.opener :: t) ([d.opener] :: bs)
  | closing {ds : List Delimiter} {s t : Text} {bs : List Text} (d : Delimiter)
      (after : Strips ds s t bs) :
      Strips (d :: ds) (d.closer :: s) (d.closer :: t) ([d.closer] :: bs)

section

variable {ds : List Delimiter} {s t w : Text} {bs : List Text}

theorem Strips.append_plain (hw : ∀ c ∈ w, IsPlain c) (h : Strips ds s t bs) :
    Strips ds (w ++ s) (w ++ t) bs := by
  induction w with
  | nil => exact h
  | cons c w ih =>
    obtain ⟨hc, hw⟩ := List.forall_mem_cons.1 hw
    exact .plain hc (ih hw)

/-- A line feed at the head of the text is no part of a comment. -/
theorem Strips.of_lineEnd (h : Strips ds ('\n' :: s) t bs) :
    ∃ u, t = '\n' :: u ∧ Strips ds s u bs := by
  generalize hs : '\n' :: s = v at h
  cases h with
  | nil => cases hs
  | plain _ after =>
    obtain ⟨rfl, rfl⟩ := List.cons.inj hs
    exact ⟨_, rfl, after⟩
  | comment => cases hs
  | string hq =>
    obtain ⟨rfl, -⟩ := List.cons.inj hs
    exact absurd hq (by decide)
  | opening d =>
    obtain ⟨hd, -⟩ := List.cons.inj hs
    cases d <;> cases hd
  | closing d =>
    obtain ⟨hd, -⟩ := List.cons.inj hs
    cases d <;> cases hd

theorem opener_ne_lineEnd (d : Delimiter) : d.opener ≠ '\r' ∧ d.opener ≠ '\n' := by
  cases d <;> decide

theorem closer_ne_lineEnd (d : Delimiter) : d.closer ≠ '\r' ∧ d.closer ≠ '\n' := by
  cases d <;> decide

/-- A comment keeps the line feed after it to itself. -/
theorem unifyLineEnds_comment (r s : Text) :
    unifyLineEnds ('#' :: (r ++ '\n' :: s)) =
      unifyLineEnds ('#' :: (r ++ ['\n'])) ++ unifyLineEnds s := by
  have hlast : ('#' :: (r ++ ['\n'])).getLast? = some '\r' → s.head? ≠ some '\n' := by
    rw [← List.cons_append, List.getLast?_append]
    intro h
    cases h
  rw [← unifyLineEnds_append hlast, List.cons_append, List.append_assoc]
  rfl

/-- A string ends with a quote, so that no end of a line reaches beyond it. -/
theorem unifyLineEnds_string {q : Char} {b : Text} (hq : isQuote q = true)
    (ends : quotedEnd q (b ++ s) = some b.length) (u : Text) :
    unifyLineEnds (q :: (b ++ u)) = q :: (unifyLineEnds b ++ unifyLineEnds u) := by
  have hne := (ne_lineEnd_of_isQuote hq).1
  obtain ⟨b', r, heq, hlength⟩ := exists_of_quotedEnd hq ends
  have hb : b = b' ++ [q] := by
    have hsplit : b ++ s = (b' ++ [q]) ++ r := by
      rw [heq, List.append_assoc]
      rfl
    exact (List.append_inj hsplit (by rw [hlength, List.length_append]; rfl)).1
  have hlast : b.getLast? = some '\r' → u.head? ≠ some '\n' := by
    rw [hb, List.getLast?_append]
    intro h
    exact absurd (Option.some.inj h) hne
  rw [unifyLineEnds_cons hne, unifyLineEnds_append hlast]

/-- A carriage return in front of both texts is the end of a line in both, alone or with the line
feeds that they start with. -/
theorem Script.Hides.after_return {c : Char} (hc : c ≠ '\n')
    (h : Script.Hides ds (unifyLineEnds (c :: s)) (unifyLineEnds (c :: t)) bs) :
    Script.Hides ds (unifyLineEnds ('\r' :: c :: s)) (unifyLineEnds ('\r' :: c :: t)) bs := by
  have hhead : ∀ u : Text, (c :: u).head? ≠ some '\n' := fun _ h => hc (Option.some.inj h)
  rw [unifyLineEnds_return (hhead s), unifyLineEnds_return (hhead t)]
  exact .plain (by decide) h

/-- Once lines end alike, a script is read in both texts alike. Both are looked at with a carriage
return before them as well, which may make one end of a line with what comes next. -/
theorem Strips.hides (h : Strips ds s t bs) :
    Script.Hides ds (unifyLineEnds s) (unifyLineEnds t) bs ∧
      Script.Hides ds (unifyLineEnds ('\r' :: s)) (unifyLineEnds ('\r' :: t)) bs := by
  induction h with
  | nil => exact ⟨.nil, .plain (by decide) .nil⟩
  | @plain ds c s t bs hc _ ih =>
    by_cases hreturn : c = '\r'
    · subst hreturn
      exact ⟨ih.2, ih.2.after_return (by decide)⟩
    · have hhere : Script.Hides ds (unifyLineEnds (c :: s)) (unifyLineEnds (c :: t)) bs := by
        rw [unifyLineEnds_cons hreturn, unifyLineEnds_cons hreturn]
        exact .plain hc ih.1
      refine ⟨hhere, ?_⟩
      by_cases hline : c = '\n'
      · subst hline
        rw [unifyLineEnds_pair, unifyLineEnds_pair]
        exact .plain hc ih.1
      · exact hhere.after_return hline
  | @comment ds r s t bs silent _ ih =>
    have hcut := unifyLineEnds_comment r s
    have hsign : ∃ g, unifyLineEnds ('#' :: (r ++ ['\n'])) = '#' :: g :=
      ⟨_, unifyLineEnds_cons (by decide) _⟩
    obtain ⟨g, hg⟩ := hsign
    rw [hg] at silent hcut
    constructor
    · rw [hcut, unifyLineEnds_cons (by decide)]
      exact .gap silent (.inl rfl) ih.1
    · -- the end of the line before the comment goes with it
      rw [unifyLineEnds_return (by simp), hcut, unifyLineEnds_pair]
      exact .gap (g := '\n' :: '#' :: g) (.blank rfl silent) (.inr rfl) ih.1
  | @string ds q b s t bs hq ends _ ih =>
    have hne := ne_lineEnd_of_isQuote hq
    have hhere : Script.Hides ds (unifyLineEnds (q :: (b ++ s)))
        (unifyLineEnds (q :: (b ++ t))) bs := by
      rw [unifyLineEnds_string hq ends, unifyLineEnds_string hq ends]
      exact .string hq (isUnit_unifyLineEnds hq ends) ih.1
    exact ⟨hhere, hhere.after_return hne.2⟩
  | @opening ds s t bs d _ ih =>
    have hne := opener_ne_lineEnd d
    have hhere : Script.Hides ds (unifyLineEnds (d.opener :: s)) (unifyLineEnds (d.opener :: t))
        ([d.opener] :: bs) := by
      rw [unifyLineEnds_cons hne.1, unifyLineEnds_cons hne.1]
      exact .opening d ih.1
    exact ⟨hhere, hhere.after_return hne.2⟩
  | @closing ds s t bs d _ ih =>
    have hne := closer_ne_lineEnd d
    have hhere : Script.Hides (d :: ds) (unifyLineEnds (d.closer :: s))
        (unifyLineEnds (d.closer :: t)) ([d.closer] :: bs) := by
      rw [unifyLineEnds_cons hne.1, unifyLineEnds_cons hne.1]
      exact .closing d ih.1
    exact ⟨hhere, hhere.after_return hne.2⟩

end

/-! ## Portions to the character -/

/-- The delimiters that are open after portions, if those before them are open in front: nothing
where one is closed that is not the last one open, or where a quote is left open. -/
def openAfter (ds : List Delimiter) : List Portion → Option (List Delimiter)
  | [] => some ds
  | p :: ps =>
    match p.kind, ds with
    | .opening d, ds => openAfter (d :: ds) ps
    | .closing _, [] => none
    | .closing d, e :: ds => if e = d then openAfter ds ps else none
    | .openQuote, _ => none
    | _, ds => openAfter ds ps

theorem openAfter_filter (ds : List Delimiter) (ps : List Portion) :
    openAfter ds (ps.filter Portion.isSolid) = openAfter ds ps := by
  induction ps generalizing ds with
  | nil => rfl
  | cons p ps ih =>
    obtain ⟨k, start, text⟩ := p
    cases k with
    | blanks | comment => exact ih ds
    | leaf | opening => exact ih _
    | openQuote => rfl
    | closing d =>
      cases ds with
      | nil => rfl
      | cons e ds =>
        change (if e = d then openAfter ds (ps.filter Portion.isSolid) else none) =
          if e = d then openAfter ds ps else none
        rw [ih]

mutual

/-- A token closes what it opens. -/
theorem openAfter_portions : ∀ (t : Token) (ds : List Delimiter) (ps : List Portion),
    openAfter ds (t.portions ++ ps) = openAfter ds ps
  | .leaf _ _ _, _, _ => rfl
  | .group d text p children, ds, ps => by
    have hinside := openAfter_portionsAll children (d :: ds)
      (⟨.closing d, p.stop - 1, [d.closer]⟩ :: ps)
    have hclose : openAfter (d :: ds) (⟨.closing d, p.stop - 1, [d.closer]⟩ :: ps) =
        openAfter ds ps := if_pos rfl
    rw [Token.portions, List.cons_append, List.append_assoc]
    exact hinside.trans hclose

theorem openAfter_portionsAll : ∀ (ts : List Token) (ds : List Delimiter) (ps : List Portion),
    openAfter ds (Token.portionsAll ts ++ ps) = openAfter ds ps
  | [], _, _ => rfl
  | t :: ts, ds, ps => by
    rw [Token.portionsAll, List.append_assoc, openAfter_portions, openAfter_portionsAll]

end

/-- Where portions are those of tokens, they close what they open. -/
theorem openAfter_of_solid {ps : List Portion} {ts : List Token}
    (h : ps.filter Portion.isSolid = Token.portionsAll ts) : openAfter [] ps = some [] := by
  rw [← openAfter_filter, h, ← List.append_nil (Token.portionsAll ts), openAfter_portionsAll]
  rfl

theorem stringLength_of_lexeme {grouped : Bool} {c : Char} {s : Text} {n : Nat}
    (h : lexeme grouped c s = (.leaf .string, n)) : stringLength (c :: s) = some n := by
  cases lexeme_eq_iff.1 h with
  | string h => exact h

/-- A string, letter by letter. -/
theorem exists_string {c : Char} {s v : Text}
    (h : stringLength (c :: (s ++ v)) = some (s.length + 1)) :
    ∃ marks q b, c :: s = marks ++ q :: b ∧ (∀ c ∈ marks, isStringMark c = true) ∧
      isQuote q = true ∧ quotedEnd q (b ++ v) = some b.length := by
  obtain ⟨marks, q, rest, k, heq, hmarks, -, hq, hk, hlength⟩ := stringLength_eq_some h
  obtain ⟨-, hle⟩ := quotedEnd_bounds q rest k hk
  have hcut : (c :: s) ++ v = (marks ++ q :: rest.take k) ++ rest.drop k := by
    rw [List.cons_append, heq, List.append_assoc, List.cons_append, List.take_append_drop]
  have hsame : (c :: s).length = (marks ++ q :: rest.take k).length := by
    rw [List.length_append, List.length_cons, List.length_cons, List.length_take]
    omega
  obtain ⟨hhead, hrest⟩ := List.append_inj hcut hsame
  refine ⟨marks, q, rest.take k, hhead, hmarks, hq, ?_⟩
  rw [hrest, List.take_append_drop, List.length_take, hk]
  simp [hle]

/-- A leaf that is neither a string nor the mark of a directive starts with a plain character. -/
theorem isPlain_of_leaf {grouped : Bool} {c : Char} {s : Text} {kind : Kind} {n : Nat}
    (h : lexeme grouped c s = (.leaf kind, n)) (hkind : kind ≠ .string) (hc : c ≠ '#') :
    IsPlain c := by
  rw [lexeme_eq_iff] at h
  generalize hk : Lexeme.leaf kind = k at h
  cases h with
  | blanks | comment | openQuote | opening | closing => cases hk
  | sign hsign => exact absurd hsign hc
  | string => exact absurd (Lexeme.leaf.inj hk) hkind
  | number hd => exact isPlain_of_isWord (isWord_of_isDecimal hd)
  | identifier hw => exact isPlain_of_isWord hw
  | punctuation hlone hopen hclose =>
    intro hmem
    simp only [bracketing, List.mem_cons, List.not_mem_nil, or_false] at hmem
    rcases hmem with rfl | rfl | rfl | rfl | rfl | rfl | rfl | rfl | rfl
    · exact absurd hlone.notQuote (by decide)
    · exact absurd hlone.notQuote (by decide)
    · exact hc rfl
    all_goals first | exact absurd hopen (by decide) | exact absurd hclose (by decide)

section

variable {depth start : Nat} {ds : List Delimiter} {ps : List Portion} {x : Char} {r : Text}

/-- Portions with hidden comments alone, up to something that stops tokens, are stripped of them. -/
theorem Cuts.strips (hx : IsStop x) (h : Cuts depth start ps (x :: r))
    (hopen : openAfter ds ps = some [])
    (hhidden : ∀ p ∈ ps, p.kind = .comment → p.isHidden = true)
    (hsign : ∀ p ∈ ps, p.isSign = false) :
    Strips ds (textOf ps ++ ['\n']) (uncommented ps ++ ['\n']) (ps.filterMap Portion.bracket?) := by
  generalize hrest : x :: r = rest at h
  induction h generalizing ds with
  | nil =>
    cases hopen
    exact .plain (by decide) .nil
  | @cons depth start c s _ k ps here _ ih =>
    subst hrest
    obtain ⟨hthis, hothers⟩ := List.forall_mem_cons.1 hhidden
    obtain ⟨hmark, hmarks⟩ := List.forall_mem_cons.1 hsign
    have hafter : ∀ {ds : List Delimiter}, openAfter ds ps = some [] →
        Strips ds (textOf ps ++ ['\n']) (uncommented ps ++ ['\n'])
          (ps.filterMap Portion.bracket?) := fun h => ih h hothers hmarks rfl
    -- a portion that is no comment stands in both texts
    have hboth : k ≠ .comment →
        textOf (⟨k, start, c :: s⟩ :: ps) ++ ['\n'] = c :: s ++ (textOf ps ++ ['\n']) ∧
          uncommented (⟨k, start, c :: s⟩ :: ps) ++ ['\n'] =
            c :: s ++ (uncommented ps ++ ['\n']) := by
      intro hk
      rw [textOf_cons, uncommented_cons hk, List.append_assoc, List.append_assoc]
      exact ⟨rfl, rfl⟩
    cases k with
    | blanks =>
      obtain ⟨hc, -⟩ := lexeme_eq_blanks here
      obtain ⟨-, hs⟩ := isPlain_of_lexeme (isPlain_of_isBlank hc) here (by simp)
      obtain ⟨hfirst, hsecond⟩ := hboth (by simp)
      rw [hfirst, hsecond]
      exact (hafter hopen).append_plain (List.forall_mem_cons.2 ⟨isPlain_of_isBlank hc, hs⟩)
    | comment =>
      obtain ⟨rfl, hlength⟩ := lexeme_eq_comment here
      obtain ⟨-, hend⟩ := takeWhile_cut (Nat.succ.inj hlength).symm
      -- a line feed comes after the comment, in the portions or behind them
      obtain ⟨v, hv⟩ : ∃ v, textOf ps ++ ['\n'] = '\n' :: v := by
        cases htext : textOf ps with
        | nil => exact ⟨[], rfl⟩
        | cons d u =>
          rw [htext] at hend
          obtain rfl : d = '\n' := by simpa using hend d rfl
          exact ⟨u ++ ['\n'], rfl⟩
      have hstrips := hafter hopen
      rw [hv] at hstrips
      obtain ⟨u, hu, hstrips⟩ := hstrips.of_lineEnd
      have hsilent := silent_of_isHidden (hthis rfl)
      rw [textOf_cons, uncommented_of_comment rfl, hu, List.append_assoc, hv]
      exact .comment hsilent hstrips
    | openQuote => cases hopen
    | opening d =>
      obtain ⟨rfl, hlength⟩ := lexeme_eq_opening here
      obtain rfl : s = [] := List.length_eq_zero_iff.1 (Nat.succ.inj hlength)
      exact .opening d (hafter hopen)
    | closing d =>
      obtain ⟨rfl, hlength⟩ := lexeme_eq_closing here
      obtain rfl : s = [] := List.length_eq_zero_iff.1 (Nat.succ.inj hlength)
      -- it closes the last delimiter that is open, or the portions would not close what they open
      cases ds with
      | nil => cases hopen
      | cons e ds =>
        change (if e = d then openAfter ds ps else none) = some [] at hopen
        split at hopen
        · next hd =>
          subst hd
          exact .closing e (hafter hopen)
        · cases hopen
    | leaf kind =>
      obtain ⟨hfirst, hsecond⟩ := hboth (by simp)
      rw [hfirst, hsecond]
      by_cases hstring : kind = .string
      · subst hstring
        obtain ⟨marks, q, b, hcut, hletters, hq, hends⟩ :=
          exists_string (stringLength_of_lexeme here)
        have hline : IsStop '\n' := isStop_of_mark (by decide) (by decide)
        have hkeep : quotedEnd q (b ++ (textOf ps ++ ['\n'])) = some b.length :=
          quotedEnd_swap hq hx hline (fun _ _ _ => rfl) hends
        rw [hcut, List.append_assoc, List.append_assoc, List.cons_append, List.cons_append]
        refine (Strips.string hq hkeep (hafter hopen)).append_plain fun c hc => ?_
        exact isPlain_of_isWord (isWord_of_isStringMark (hletters c hc))
      · -- a number sign among the tokens would be the mark of a directive
        have hc : c ≠ '#' := by
          rintro rfl
          obtain ⟨-, -, rfl, hlength⟩ := lexeme_eq_sign here
          obtain rfl : s = [] := List.length_eq_zero_iff.1 (Nat.succ.inj hlength)
          cases hmark
        have hplain := isPlain_of_leaf here hstring hc
        obtain ⟨-, hs⟩ := isPlain_of_lexeme hplain here (by simpa using hstring)
        exact (hafter hopen).append_plain (List.forall_mem_cons.2 ⟨hplain, hs⟩)

/-- An expression that is made of portions with hidden comments alone is read as without them, and
its brackets are those of the portions. -/
theorem Cuts.lex_uncommented (hx : IsStop x) (h : Cuts depth start ps (x :: r))
    (hopen : openAfter [] ps = some []) (hhidden : ∀ p ∈ ps, p.kind = .comment → p.isHidden = true)
    (hsign : ∀ p ∈ ps, p.isSign = false) {toks : List Script.Tok}
    (hlex : Script.lex (Script.bracketed (textOf ps)) = some toks) :
    Script.lex (Script.bracketed (uncommented ps)) = some toks ∧
      ∃ us, toks = .mark ['('] :: (us ++ [.mark [')']]) ∧
        us.filterMap Script.Tok.bracket? = ps.filterMap Portion.bracket? :=
  Script.lex_bracketed_hides (h.strips hx hopen hhidden hsign).hides.1
    (fun _ hc => mem_of_mem_uncommented hc) hlex

/-- Where there is a token, something is left when the comments go. -/
theorem Cuts.allBlank_uncommented {rest : Text} (h : Cuts depth start ps rest) {p : Portion}
    (hp : p ∈ ps) (hsolid : p.isSolid = true) : (uncommented ps).allBlank = false := by
  obtain ⟨grouped, c, s, after, htext, hlexeme⟩ := h.lexeme_of_mem hp
  have hkind : p.kind ≠ .comment := by
    intro hkind
    rw [Portion.isSolid, hkind] at hsolid
    cases hsolid
  have hfilled : isBlank c = false := by
    rw [Bool.eq_false_iff]
    intro hc
    obtain ⟨hblanks, -⟩ := Prod.mk.inj (hlexeme.symm.trans (lexeme_eq_iff.2 (.blanks hc)))
    rw [Portion.isSolid, hblanks] at hsolid
    cases hsolid
  have hmem : c ∈ uncommented ps := by
    refine List.mem_flatMap.2 ⟨p, List.mem_filter.2 ⟨hp, by simpa using hkind⟩, ?_⟩
    rw [htext]
    exact List.mem_cons_self
  rw [Text.allBlank, List.all_eq_false]
  exact ⟨c, hmem, by rw [hfilled]; exact Bool.false_ne_true⟩

end

end XmlTemplate
