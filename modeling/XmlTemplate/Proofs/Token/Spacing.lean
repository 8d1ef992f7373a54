import Mathlib.Data.List.Forall2
import XmlTemplate.Proofs.Literal.Spacing
import XmlTemplate.Proofs.Token.Shows

/-!
# Tokens with other blanks between them

The content of a group with its runs of blanks exchanged has the same tokens, one for one, but for
the runs of blanks inside of its strings (`Lexes.respaced`). What is compared are the parts of the
tokens: the leaves with their kinds and texts, and the delimiters of the groups around them.
-/

set_option autoImplicit false

namespace XmlTemplate

variable {ends : Char → Bool} {q c : Char} {s t w x y u : Text}

/-! ## Parts of tokens -/

/-- What a source has of its tokens, without their places. -/
inductive Token.Part where
  | leaf (kind : Kind) (text : Text)
  | opening (delimiter : Delimiter)
  | closing (delimiter : Delimiter)
  deriving DecidableEq, Repr

mutual

/-- A leaf, or the delimiters of a group with the parts of its tokens between them. -/
def Token.parts : Token → List Token.Part
  | .leaf kind text _ => [.leaf kind text]
  | .group d _ _ children => .opening d :: (Token.partsAll children ++ [.closing d])

/-- The parts of tokens, from left to right. -/
def Token.partsAll : List Token → List Token.Part
  | [] => []
  | t :: ts => t.parts ++ Token.partsAll ts

end

/-- The same part, but for the runs of blanks in a string. -/
inductive Token.Part.Respaced (ends : Char → Bool) : Token.Part → Token.Part → Prop
  | same (p : Token.Part) : Token.Part.Respaced ends p p
  | string {s t : Text} (text : XmlTemplate.Respaced ends s t) :
      Token.Part.Respaced ends (.leaf .string s) (.leaf .string t)

/-- Without strings that go over the end of a line the parts are the same. -/
theorem parts_eq_of_respaced {ps qs : List Token.Part}
    (h : List.Forall₂ (Token.Part.Respaced ends) ps qs)
    (hplain : ∀ s, Token.Part.leaf .string s ∈ ps → ∀ c ∈ s, ends c = false) : qs = ps := by
  induction h with
  | nil => rfl
  | cons hpart _ ih =>
    rw [ih fun s hs => hplain s (List.mem_cons_of_mem _ hs)]
    cases hpart with
    | same => rfl
    | string text => rw [text.eq_of_no_ends (hplain _ (List.mem_cons_self ..))]

/-! ## Strings -/

/-- A string keeps its end behind the opening quote. -/
theorem quotedEnd_respaced (hq : isQuote q = true) (h : Respaced ends s t) {n : Nat}
    (hs : quotedEnd q s = some n) : ∃ m, quotedEnd q t = some m ∧ CutAlike ends s t n m := by
  have hfilled := isBlank_of_isQuote hq
  have htwo := h.take_two hfilled
  by_cases htake : s.take 2 = [q, q]
  · have htake' := htwo.1 htake
    obtain ⟨r, rfl⟩ : ∃ r, s = [q, q] ++ r := ⟨s.drop 2, by rw [← htake, List.take_append_drop]⟩
    obtain ⟨r', rfl, hr⟩ := h.append_inv (by simpa using hfilled)
    rw [quotedEnd_of_take htake] at hs
    rw [quotedEnd_of_take htake']
    have hrel : Option.Rel (CutAlike ends r r') (longEnd q r) (longEnd q r') := longEnd_respaced hq hr
    have hdrop : ∀ u : Text, ([q, q] ++ u).drop 2 = u := fun _ => rfl
    rw [hdrop] at hs ⊢
    cases hlong : longEnd q r with
    | none =>
      rw [hlong] at hrel hs
      cases hlong' : longEnd q r' with
      | some => rw [hlong'] at hrel; cases hrel
      | none =>
        cases hs
        obtain ⟨t', ht', hcut⟩ := h.cons_inv hfilled
        obtain rfl := (List.cons.inj ht').2
        exact ⟨1, rfl, CutAlike.of_append (w := [q]) (v := [q]) (.refl ends _) hcut⟩
    | some k =>
      rw [hlong] at hrel hs
      cases hlong' : longEnd q r' with
      | none => rw [hlong'] at hrel; cases hrel
      | some k' =>
        rw [hlong'] at hrel
        cases hrel with
        | some hcut =>
          cases hs
          exact ⟨k' + 2, rfl, hcut.append (w := [q, q]) (v := [q, q]) (.refl ends _)⟩
  · rw [quotedEnd, if_neg htake] at hs
    rw [quotedEnd, if_neg (mt htwo.2 htake)]
    exact shortEnd_respaced hq h hs

theorem stringLength_respaced (h : Respaced ends s t) {n : Nat} (hs : stringLength s = some n) :
    ∃ m, stringLength t = some m ∧ CutAlike ends s t n m := by
  obtain ⟨marks, q, rest, k, rfl, hmarks, hlength, hq, hk, rfl⟩ := stringLength_eq_some hs
  have hfilled : ∀ c ∈ marks ++ [q], isBlank c = false := by
    intro c hc
    rcases List.mem_append.1 hc with hc | hc
    · exact isBlank_of_isWord (isWord_of_isStringMark (hmarks c hc))
    · rw [List.mem_singleton.1 hc]
      exact isBlank_of_isQuote hq
  have hfront : ∀ v, marks ++ q :: v = (marks ++ [q]) ++ v := by simp
  rw [hfront] at h ⊢
  obtain ⟨rest', rfl, hrest⟩ := h.append_inv hfilled
  obtain ⟨m, hm, hcut⟩ := quotedEnd_respaced hq hrest hk
  have hmark : (marks ++ [q]).length = marks.length + 1 := by simp
  refine ⟨m + (marks.length + 1), ?_, ?_⟩
  · rw [← hfront, stringLength_append hmarks hlength hq, hm]
    rfl
  · rw [← hmark]
    exact hcut.append (.refl ends _)

/-! ## Words and numbers -/

theorem head_respaced (h : Respaced ends x y) (hx : ∀ c ∈ x.head?, isWord c = false) :
    ∀ c ∈ y.head?, isWord c = false := by
  intro c hc
  cases y with
  | nil => cases hc
  | cons d y =>
    cases hc
    rw [Bool.eq_false_iff]
    intro hw
    obtain ⟨x, rfl, -⟩ := h.cons_inv_right (isBlank_of_isWord hw)
    have hno : isWord c = false := hx c rfl
    rw [hno] at hw
    cases hw

/-- A word that no string starts with starts none with other blanks after it, unless a quote follows
it that no string starts with. -/
theorem stringLength_none_respaced (h : Respaced ends x y) (hw : ∀ c ∈ w, isWord c = true)
    (hx : ∀ c ∈ x.head?, isWord c = false)
    (hnext : ∀ q u, x = q :: u → isQuote q = true → stringLength x ≠ none)
    (hnone : stringLength (w ++ x) = none) : stringLength (w ++ y) = none := by
  cases hs : stringLength (w ++ y) with
  | none => rfl
  | some n =>
    obtain ⟨q, u, rfl, hq, hlength⟩ := stringLength_word_quote hw (head_respaced h hx) hs
    obtain ⟨x, rfl, -⟩ := h.cons_inv_right (isBlank_of_isQuote hq)
    have hsome := hnext q x rfl hq
    rw [hlength, Option.map_eq_none_iff] at hnone
    rw [stringLength_of_isQuote hq, hnone] at hsome
    exact absurd rfl hsome

theorem numberLength_respaced (h : Respaced ends x y) (hx : numberLength (w ++ x) = w.length) :
    numberLength (w ++ y) = w.length := by
  obtain ⟨hnext, ⟨hw, hf⟩ | ⟨w₁, d, u, rfl, hw₁, hd, hu⟩⟩ := numberLength_cases hx
  · refine numberLength_whole hw (head_respaced h hnext) ?_
    rw [Bool.eq_false_iff]
    intro hfraction
    unfold startsFraction at hfraction
    split at hfraction
    · next d v =>
      obtain ⟨x, rfl, hrest⟩ := h.cons_inv_right (by decide)
      obtain ⟨x, rfl, -⟩ := hrest.cons_inv_right (isBlank_of_isWord (isWord_of_isDecimal hfraction))
      rw [startsFraction, hfraction] at hf
      cases hf
    · cases hfraction
  · rw [List.append_assoc, List.cons_append, List.cons_append,
      numberLength_fraction hw₁ hd hu (head_respaced h hnext)]
    simp only [List.length_append, List.length_cons]
    omega

/-- The characters of a number are no blanks. -/
theorem filled_of_numberLength (h : numberLength (w ++ x) = w.length) :
    ∀ c ∈ w, isBlank c = false := by
  obtain ⟨-, ⟨hw, -⟩ | ⟨w₁, d, u, rfl, hw₁, hd, hu⟩⟩ := numberLength_cases h
  · exact fun c hc => isBlank_of_isWord (hw c hc)
  · intro c hc
    simp only [List.mem_append, List.mem_cons] at hc
    rcases hc with hc | rfl | rfl | hc
    · exact isBlank_of_isWord (hw₁ c hc)
    · decide
    · exact isBlank_of_isWord (isWord_of_isDecimal hd)
    · exact isBlank_of_isWord (hu c hc)

/-! ## One token -/

/-- A token of a group keeps its end and its text, but for the blanks in a string. What comes after it
must not start with a quote that no string starts with. -/
theorem lexeme_leaf_respaced {kind : Kind} (h : Respaced ends (c :: (s ++ x)) u)
    (hnext : ∀ q v, x = q :: v → isQuote q = true → stringLength x ≠ none)
    (here : lexeme true c (s ++ x) = (.leaf kind, s.length + 1)) :
    ∃ t y, u = c :: (t ++ y) ∧ lexeme true c (t ++ y) = (.leaf kind, t.length + 1) ∧
      Token.Part.Respaced ends (.leaf kind (c :: s)) (.leaf kind (c :: t)) ∧ Respaced ends x y := by
  rw [lexeme_eq_iff] at here
  generalize hn : s.length + 1 = n at here
  generalize hk : Lexeme.leaf kind = k at here
  -- a token without blanks stands in both texts
  have hword : (∀ d ∈ c :: s, isBlank d = false) → ∃ y, u = c :: (s ++ y) ∧ Respaced ends x y :=
    fun hfilled => h.append_inv (w := c :: s) hfilled
  cases here with
  | blanks | comment | openQuote | opening | closing => cases hk
  | sign _ hg => cases hg
  | string hs =>
    cases hk
    obtain ⟨m, hm, hcut⟩ := stringLength_respaced h hs
    have hlength : (c :: s).length = n := hn
    have hbefore := hcut.before
    have hafter := hcut.after
    rw [← List.cons_append, ← hlength, List.take_left] at hbefore
    rw [← List.cons_append, ← hlength, List.drop_left] at hafter
    have hc : isBlank c = false := by
      rcases quote_or_word_of_stringLength hs with hc | hc
      · exact isBlank_of_isQuote hc
      · exact isBlank_of_isWord hc
    obtain ⟨t, ht, -⟩ := hbefore.cons_inv hc
    have hu : u = c :: (t ++ u.drop m) := by
      rw [← List.cons_append, ← ht, List.take_append_drop]
    have hm' : m = t.length + 1 := by
      have := (stringLength_bounds u m hm).2
      have htake := congrArg List.length ht
      rw [List.length_take, List.length_cons] at htake
      omega
    refine ⟨t, u.drop m, hu, ?_, .string (ht ▸ hbefore), hafter⟩
    rw [hu] at hm
    rw [lexeme_eq_iff, ← hm']
    exact .string hm
  | number hd hs =>
    have hlength : numberLength (c :: s ++ x) = (c :: s).length := hn.symm
    obtain ⟨y, rfl, hy⟩ := hword (filled_of_numberLength hlength)
    have hnumber : IsLexeme true c (s ++ y) (.leaf .number) (numberLength (c :: s ++ y)) :=
      .number hd (stringLength_of_notMark (isStringMark_of_isDecimal hd)
        (isQuote_of_isWord (isWord_of_isDecimal hd)) _)
    rw [numberLength_respaced hy hlength] at hnumber
    cases hk
    exact ⟨s, y, rfl, lexeme_eq_iff.2 hnumber, .same _, hy⟩
  | identifier hw hd hs =>
    obtain ⟨hwords, hstop⟩ := takeWhile_cut (s := c :: s) hn.symm
    obtain ⟨y, rfl, hy⟩ := hword fun d hd => isBlank_of_isWord (hwords d hd)
    have hidentifier : IsLexeme true c (s ++ y) (.leaf .identifier) (wordLength (c :: s ++ y)) :=
      .identifier hw hd (stringLength_none_respaced hy hwords hstop hnext hs)
    rw [wordLength_append hwords (head_respaced hy hstop)] at hidentifier
    cases hk
    exact ⟨s, y, rfl, lexeme_eq_iff.2 hidentifier, .same _, hy⟩
  | punctuation hl ho hd =>
    obtain rfl : s = [] := List.length_eq_zero_iff.1 (Nat.succ.inj hn)
    obtain ⟨y, rfl, hy⟩ := hword (by simpa using hl.notBlank)
    cases hk
    exact ⟨[], y, rfl, lexeme_eq_iff.2 (.punctuation hl ho hd), .same _, hy⟩

/-! ## The content of a group -/

/-- Blanks before a stretch. -/
theorem Lexes.blanks_append {rest : Text} {pos : Position} {ts : List Token}
    (hw : ∀ c ∈ w, isBlank c = true) (hfilled : StartsFilled (t ++ rest))
    (h : Lexes true t rest (pos.after w) ts) : Lexes true (w ++ t) rest pos ts := by
  cases w with
  | nil => exact h
  | cons c w =>
    obtain ⟨hc, hw⟩ := List.forall_mem_cons.1 hw
    refine .skip (.inl rfl) ?_ h
    have hrun : ((w ++ (t ++ rest)).takeWhile isBlank).length = w.length := by
      rw [List.takeWhile_append_of_pos hw]
      cases htr : t ++ rest with
      | nil => simp
      | cons d v => simp [hfilled d (by rw [htr]; rfl)]
    rw [lexeme_eq_iff, ← hrun]
    exact .blanks hc

/-- A line feed after a stretch, before a character that no token goes on with. -/
theorem Lexes.append_newline {shown rest : Text} {pos : Position} {ts : List Token}
    (h : Lexes true shown rest pos ts) {x : Char} {r : Text} (hrest : rest = x :: r) (hx : IsStop x)
    (hfilled : isBlank x = false) : Lexes true (shown ++ ['\n']) (x :: r) pos ts := by
  have hnewline : IsStop '\n' := isStop_of_mark (by decide) (by decide)
  have hcalm : Calmer (x :: r) r := fun q hq h =>
    (calm_cons_of_plain (hx.ne_of_isQuote hq) hx.notBackslash).2 h
  have hblanks : ∀ {w : Text} {pos : Position}, (∀ c ∈ w, isBlank c = true) →
      Lexes true (w ++ ['\n']) (x :: r) pos [] := by
    intro w pos hw
    rw [← List.append_nil (w ++ ['\n'])]
    refine .blanks_append ?_ (startsFilled_cons hfilled) (.nil _ _ _)
    exact List.forall_mem_append.2 ⟨hw, by simp [show isBlank '\n' = true from by decide]⟩
  generalize hg : true = grouped at h
  induction h with
  | nil =>
    subst hg
    exact hblanks (w := []) (by simp)
  | @skip grouped c s t rest pos ts k hk here after ih =>
    subst hg hrest
    cases t with
    | nil =>
      obtain rfl : ts = [] := by
        generalize ht : ([] : Text) = t at after
        cases after with
        | nil => rfl
        | skip => cases ht
        | leaf => cases ht
        | group => cases ht
      rcases hk with rfl | rfl
      · obtain ⟨hc, hlength⟩ := lexeme_eq_blanks here
        obtain ⟨hs, -⟩ := takeWhile_cut (Nat.succ.inj hlength).symm
        rw [List.append_nil]
        exact hblanks (List.forall_mem_cons.2 ⟨hc, hs⟩)
      · -- a comment ends with its line
        obtain ⟨-, hlength⟩ := lexeme_eq_comment here
        obtain ⟨-, hline⟩ := takeWhile_cut (Nat.succ.inj hlength).symm
        have hnone := hline x rfl
        simp only [bne_eq_false_iff_eq] at hnone
        rw [hnone] at hfilled
        exact absurd hfilled (by decide)
    | cons e t =>
      rw [List.cons_append, List.append_assoc]
      refine .skip hk (lexeme_skip_swap hk ?_ (by simp) here) (ih rfl rfl)
      rfl
  | @leaf grouped c s t rest pos ts kind here after ih =>
    subst hg hrest
    have hc : c ≠ '#' := by
      rintro rfl
      rw [lexeme_eq_iff.2 (.comment rfl rfl)] at here
      cases here
    rw [List.cons_append, List.append_assoc]
    refine .leaf ?_ (ih rfl rfl)
    rw [List.append_assoc]
    refine lexeme_leaf_swap hx hnewline hcalm hc ?_ here
    rintro q u rfl hq
    exact after.stringLength_ne_none hq
  | @group grouped d inner t rest pos children ts inside after ihInside ihAfter =>
    subst hg hrest
    have hinside := inside.keep rfl d.isStop_closer (hcalm.append_cons hx hnewline t)
    rw [List.cons_append, List.append_assoc, List.cons_append]
    refine .group d ?_ (ihAfter rfl rfl)
    rwa [List.append_assoc]

/-- The source starts with a stretch that has the tokens, but for the blanks in strings, and goes on
with the rest, but for its blanks. -/
def Relexes (ends : Char → Bool) (ts : List Token) (rest u : Text) : Prop :=
  ∀ pos, ∃ shown rest' us, u = shown ++ rest' ∧ Lexes true shown rest' pos us ∧
    Respaced ends rest rest' ∧
      List.Forall₂ (Token.Part.Respaced ends) (Token.partsAll ts) (Token.partsAll us)

theorem Relexes.of_dropWhile {ts : List Token} {rest : Text}
    (h : Relexes ends ts rest (u.dropWhile isBlank)) : Relexes ends ts rest u := by
  intro pos
  obtain ⟨shown, rest', us, hu, hlexes, hrest, hparts⟩ := h (pos.after (u.takeWhile isBlank))
  refine ⟨u.takeWhile isBlank ++ shown, rest', us, ?_, ?_, hrest, hparts⟩
  · rw [List.append_assoc, ← hu, List.takeWhile_append_dropWhile]
  · refine .blanks_append (fun c hc => List.all_eq_true.1 List.all_takeWhile c hc) ?_ hlexes
    rw [← hu]
    exact startsFilled_dropWhile u

/-- The content of a group, with the blanks in and around it exchanged, keeps its tokens. The
induction is on the content; blanks in front of what is left of it do not matter. -/
theorem Lexes.respaced {shown rest : Text} {pos : Position} {ts : List Token}
    (h : Lexes true shown rest pos ts) {d : Delimiter} {r : Text} (hrest : rest = d.closer :: r)
    (hu : Respaced ends ((shown ++ rest).dropWhile isBlank) (u.dropWhile isBlank)) :
    Relexes ends ts rest u := by
  generalize hg : true = grouped at h
  induction h generalizing d r u with
  | nil =>
    subst hrest
    refine .of_dropWhile fun pos => ⟨[], _, [], rfl, .nil _ _ _, ?_, .nil⟩
    rwa [List.nil_append, Text.dropWhile_eq_self (startsFilled_cons d.isLone_closer.notBlank)] at hu
  | @skip grouped c s t rest pos ts k hk here after ih =>
    subst hg hrest
    rw [List.cons_append, List.append_assoc] at hu
    rcases hk with rfl | rfl
    · obtain ⟨hc, hlength⟩ := lexeme_eq_blanks here
      obtain ⟨hs, -⟩ := takeWhile_cut (Nat.succ.inj hlength).symm
      rw [← List.cons_append, List.dropWhile_append_of_pos (List.forall_mem_cons.2 ⟨hc, hs⟩)] at hu
      exact ih rfl hu rfl
    · obtain ⟨rfl, hlength⟩ := lexeme_eq_comment here
      obtain ⟨hs, hline⟩ := takeWhile_cut (Nat.succ.inj hlength).symm
      -- the comment ends with its line, since a delimiter comes later
      obtain ⟨v, hv⟩ : ∃ v, t ++ d.closer :: r = '\n' :: v := by
        cases hrest : t ++ d.closer :: r with
        | nil => simp at hrest
        | cons e v =>
          have he := hline e (by rw [hrest]; rfl)
          simp only [bne_eq_false_iff_eq] at he
          exact ⟨v, by rw [he]⟩
      rw [hv] at hu
      rw [Text.dropWhile_eq_self (startsFilled_cons (by decide))] at hu
      refine .of_dropWhile fun pos => ?_
      generalize u.dropWhile isBlank = u' at hu
      obtain ⟨u₁, rfl, hu₁⟩ := hu.cons_inv (by decide)
      have hsign : '\n' ∉ s := fun hmem => absurd (hs _ hmem) (by decide)
      obtain ⟨s', y, rfl, hs', hy⟩ := hu₁.line_inv hsign
      have hrest : Respaced ends ((t ++ d.closer :: r).dropWhile isBlank)
          (('\n' :: y).dropWhile isBlank) := by
        rw [hv, List.dropWhile_cons_of_pos (by decide), List.dropWhile_cons_of_pos (by decide)]
        exact hy
      obtain ⟨shown, rest', us, heq, hlexes, hrest', hparts⟩ := ih rfl hrest rfl (pos.after ('#' :: s'))
      refine ⟨'#' :: (s' ++ shown), rest', us, ?_, .skip (.inr rfl) ?_ hlexes, hrest', hparts⟩
      · rw [heq, List.cons_append, List.append_assoc]
      · rw [← heq, lexeme_eq_iff]
        have hcut : ((s' ++ '\n' :: y).takeWhile (· != '\n')).length = s'.length := by
          rw [List.takeWhile_append_of_pos]
          · simp
          · exact fun c hc => bne_iff_ne.2 fun heq => hs' (heq ▸ hc)
        rw [← hcut]
        exact .comment rfl rfl
  | @leaf grouped c s t rest pos ts kind here after ih =>
    subst hg hrest
    have hc : isBlank c = false := by
      rw [Bool.eq_false_iff]
      intro hc
      rw [lexeme_eq_iff.2 (.blanks hc)] at here
      cases here
    rw [List.cons_append, List.append_assoc, Text.dropWhile_eq_self (startsFilled_cons hc)] at hu
    have hnext : ∀ q v, t ++ d.closer :: r = q :: v → isQuote q = true →
        stringLength (t ++ d.closer :: r) ≠ none := by
      intro q v hqv hq
      cases t with
      | nil =>
        obtain ⟨rfl, -⟩ := List.cons.inj hqv
        rw [d.isLone_closer.notQuote] at hq
        cases hq
      | cons e t =>
        obtain ⟨rfl, -⟩ := List.cons.inj hqv
        exact after.stringLength_ne_none hq
    refine .of_dropWhile fun pos => ?_
    generalize u.dropWhile isBlank = u' at hu
    obtain ⟨s', y, rfl, here', hpart, hy⟩ := lexeme_leaf_respaced hu hnext here
    obtain ⟨shown, rest', us, rfl, hlexes, hrest', hparts⟩ :=
      ih rfl hy.dropWhile_blank rfl (pos.after (c :: s'))
    refine ⟨c :: (s' ++ shown), rest', _, ?_, .leaf here' hlexes, hrest', ?_⟩
    · rw [List.cons_append, List.append_assoc]
    · exact .cons hpart hparts
  | @group grouped d' inner t rest pos children ts inside after ihInside ihAfter =>
    subst hg hrest
    rw [List.cons_append, List.append_assoc, List.cons_append,
      Text.dropWhile_eq_self (startsFilled_cons d'.isLone_opener.notBlank)] at hu
    refine .of_dropWhile fun pos => ?_
    generalize u.dropWhile isBlank = u' at hu
    obtain ⟨u₁, rfl, hu₁⟩ := hu.cons_inv d'.isLone_opener.notBlank
    obtain ⟨inner', v, children', rfl, hinside, hv, hchildren⟩ :=
      ihInside rfl hu₁.dropWhile_blank rfl (pos.next d'.opener)
    obtain ⟨u₂, rfl, hu₂⟩ := hv.cons_inv d'.isLone_closer.notBlank
    obtain ⟨shown, rest', us, rfl, hlexes, hrest', hparts⟩ :=
      ihAfter rfl hu₂.dropWhile_blank rfl (((pos.next d'.opener).after inner').next d'.closer)
    refine ⟨d'.opener :: (inner' ++ d'.closer :: shown), rest', _, ?_, .group d' hinside hlexes,
      hrest', ?_⟩
    · simp
    · refine .cons (.same _) (List.rel_append ?_ hparts)
      exact List.rel_append hchildren (.cons (.same _) .nil)

end XmlTemplate
