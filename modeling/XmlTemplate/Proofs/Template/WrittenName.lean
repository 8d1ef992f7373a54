import XmlTemplate.Proofs.Template.Moved
import XmlTemplate.Proofs.Template.Readers
import XmlTemplate.Proofs.Token.Written

/-!
# Writing names

A name of word characters, colons, hyphens and full stops may be written as it is. The lexer cuts
it into words, numbers and marks: a number takes a full stop and the decimal digits after it along,
and digits of other scripts may even start a name. Put together again, the tokens are the name, since
inside of it every word is followed by a mark, and the last word is followed by something that is
not taken for a part of the name. Every other name can be written as a string; nothing in a name
needs an escape. Both ways of writing are read back by `readName` (`readName_written`).
-/

set_option autoImplicit false

namespace XmlTemplate

/-- The punctuation that names may hold. -/
def nameMarks : List Char := [':', '-', '.']

theorem isMark_of_mem_nameMarks {c : Char} (h : c ∈ nameMarks) : IsMark c := by
  simp only [nameMarks, List.mem_cons, List.not_mem_nil, or_false] at h
  rcases h with rfl | rfl | rfl <;>
    exact ⟨⟨by decide, by decide, by decide, isWord_of_mark (by decide)⟩, by decide, by decide,
      by decide⟩

/-- Texts that the lexer leaves in words, numbers and marks. -/
def IsBare (s : Text) : Prop := ∀ c ∈ s, isWord c = true ∨ c ∈ nameMarks

/-- What may come right after a name that is written as it is: nothing, a blank, an equals sign, or
the end of a tag. -/
def EndsName (r : Text) : Prop := ∀ c ∈ r.head?, isBlank c = true ∨ c ∈ ['=', '>', '/']

/-- Nothing that ends a name is taken for more of a word or a number. -/
theorem EndsName.apart {r : Text} (h : EndsName r) {c : Char} (hc : c ∈ r.head?) :
    isWord c = false ∧ isQuote c = false ∧ c ≠ '.' := by
  rcases h c hc with hblank | hmem
  · refine ⟨?_, ?_, ?_⟩
    · rw [Bool.eq_false_iff]
      intro hword
      rw [isBlank_of_isWord hword] at hblank
      cases hblank
    · rw [Bool.eq_false_iff]
      intro hquote
      rw [isBlank_of_isQuote hquote] at hblank
      cases hblank
    · rintro rfl
      exact absurd hblank (by decide)
  · have hmark : c ∈ ['<', '>', '/', '=', '?', ',', '.', '|'] := by
      revert hmem
      simp only [List.mem_cons, List.not_mem_nil, or_false]
      rintro (rfl | rfl | rfl) <;> decide
    refine ⟨(isMark_of_mem hmark).lone.notWord, (isMark_of_mem hmark).lone.notQuote, ?_⟩
    rintro rfl
    exact absurd hmem (by decide)

/-- Whether a word after the text would belong to the name, given whether one before it would. -/
def wordAfter (wordNext : Bool) (s : Text) : Bool :=
  match s.getLast? with
  | some c => nameMarks.contains c
  | none => wordNext

theorem wordAfter_append (wordNext : Bool) (w s : Text) :
    wordAfter wordNext (w ++ s) = wordAfter (wordAfter wordNext w) s := by
  cases hs : s.getLast? with
  | none =>
    obtain rfl := List.getLast?_eq_none_iff.1 hs
    rw [List.append_nil]
    rfl
  | some c => simp [wordAfter, List.getLast?_append, hs]

theorem wordAfter_word {wordNext : Bool} {w : Text} (hw : ∀ c ∈ w, isWord c = true) (hne : w ≠ []) :
    wordAfter wordNext w = false := by
  have hlast := List.getLast?_eq_some_getLast hne
  rw [wordAfter, hlast]
  simp only [List.contains_eq_mem, decide_eq_false_iff_not]
  intro hmark
  have hword := hw _ (List.getLast_mem hne)
  rw [(isMark_of_mem_nameMarks hmark).lone.notWord] at hword
  cases hword

/-! ## Words and numbers in a name -/

/-- The longest word at the head of a text. -/
theorem exists_word (s : Text) :
    ∃ w t : Text, s = w ++ t ∧ (∀ c ∈ w, isWord c = true) ∧ ∀ c ∈ t.head?, isWord c = false := by
  refine ⟨s.takeWhile isWord, s.dropWhile isWord, List.takeWhile_append_dropWhile.symm, ?_, ?_⟩
  · exact List.all_eq_true.1 List.all_takeWhile
  · intro c hc
    have hnot := List.head?_dropWhile_not isWord s
    rw [Option.mem_def.1 hc] at hnot
    exact hnot

/-- No fraction starts in what is left of a name unless it lies in the name as a whole. -/
theorem startsFraction_append {t r : Text} (hr : EndsName r) :
    startsFraction (t ++ r) = startsFraction t := by
  rcases t with _ | ⟨c, _ | ⟨d, t⟩⟩
  · rw [List.nil_append]
    cases r with
    | nil => rfl
    | cons c r => exact startsFraction_cons_of_ne (hr.apart rfl).2.2 r
  · by_cases hc : c = '.'
    · subst hc
      cases r with
      | nil => rfl
      | cons d r => exact isDecimal_of_notWord (hr.apart rfl).1
    · rw [List.singleton_append, startsFraction_cons_of_ne hc, startsFraction_cons_of_ne hc]
  · by_cases hc : c = '.'
    · subst hc
      rfl
    · rw [List.cons_append, startsFraction_cons_of_ne hc, startsFraction_cons_of_ne hc]

/-- Where a name goes on without a word, something comes that is neither a word nor a quote. -/
theorem EndsName.append {t r : Text} (hr : EndsName r) (hbare : IsBare t)
    (ht : ∀ c ∈ t.head?, isWord c = false) :
    ∀ c ∈ (t ++ r).head?, isWord c = false ∧ isQuote c = false := by
  intro c hc
  cases t with
  | nil => exact ⟨(hr.apart hc).1, (hr.apart hc).2.1⟩
  | cons d t =>
    obtain rfl : d = c := Option.some.inj hc
    rcases hbare d (by simp) with hword | hmark
    · exact absurd hword (by simp [ht d rfl])
    · exact ⟨ht d rfl, (isMark_of_mem_nameMarks hmark).lone.notQuote⟩

/-- What starts with a word character in a name is one token, and no word comes right after it. -/
theorem exists_nameWord {c : Char} {s r : Text} (hbare : IsBare (c :: s)) (hr : EndsName r)
    (hc : isWord c = true) :
    ∃ (w t : Text) (kind : Kind), s = w ++ t ∧
      lexeme false c (w ++ (t ++ r)) = (.leaf kind, w.length + 1) ∧
      (∀ p, (Token.leaf kind (c :: w) p).isNameWord = true) ∧
      wordAfter true (c :: w) = false ∧ ∀ d ∈ t.head?, isWord d = false := by
  obtain ⟨w, t, rfl, hw, ht⟩ := exists_word s
  have hcw : ∀ d ∈ c :: w, isWord d = true := List.forall_mem_cons.2 ⟨hc, hw⟩
  have hnext : ∀ d ∈ (t ++ r).head?, isWord d = false ∧ isQuote d = false :=
    hr.append (fun d hd => hbare d (by simp [hd])) ht
  have hstring : stringLength (c :: (w ++ (t ++ r))) = none := stringLength_word hcw hnext
  by_cases hd : isDecimal c = true
  · by_cases hf : startsFraction t = true
    · -- the number goes on after a full stop
      obtain ⟨d, v, rfl, hdecimal⟩ : ∃ d v, t = '.' :: d :: v ∧ isDecimal d = true := by
        unfold startsFraction at hf
        split at hf
        · next d v => exact ⟨d, v, rfl, hf⟩
        · cases hf
      obtain ⟨u, v, rfl, hu, hv⟩ := exists_word v
      have hdu : ∀ e ∈ d :: u, isWord e = true :=
        List.forall_mem_cons.2 ⟨isWord_of_isDecimal hdecimal, hu⟩
      have hend : ∀ e ∈ (v ++ r).head?, isWord e = false := fun e he =>
        (hr.append (fun e he => hbare e (by simp [he])) hv e he).1
      have hlength : numberLength (c :: w ++ '.' :: d :: (u ++ (v ++ r))) =
          (w ++ '.' :: d :: u).length + 1 := by
        rw [numberLength_fraction hcw hdecimal hu hend]
        simp only [List.length_append, List.length_cons]
        omega
      refine ⟨w ++ '.' :: d :: u, v, .number, by simp, ?_, fun _ => hd, ?_, hv⟩
      · have hshown : (w ++ '.' :: d :: u) ++ (v ++ r) = w ++ '.' :: d :: (u ++ (v ++ r)) := by simp
        rw [hshown, lexeme_eq_iff, ← hlength]
        exact .number hd (by simpa using hstring)
      · rw [show c :: (w ++ '.' :: d :: u) = (c :: w ++ ['.']) ++ d :: u by simp, wordAfter_append]
        exact wordAfter_word hdu (List.cons_ne_nil d u)
    · rw [Bool.not_eq_true] at hf
      have hlength : numberLength (c :: w ++ (t ++ r)) = (c :: w).length :=
        numberLength_whole hcw (fun d hd => (hnext d hd).1) ((startsFraction_append hr).trans hf)
      refine ⟨w, t, .number, rfl, ?_, fun _ => hd, wordAfter_word hcw (List.cons_ne_nil c w), ht⟩
      rw [lexeme_eq_iff, ← List.length_cons, ← hlength]
      exact .number hd hstring
  · rw [Bool.not_eq_true] at hd
    have hlength : wordLength (c :: w ++ (t ++ r)) = (c :: w).length :=
      wordLength_append hcw fun d hd => (hnext d hd).1
    refine ⟨w, t, .identifier, rfl, ?_, fun _ => rfl, wordAfter_word hcw (List.cons_ne_nil c w), ht⟩
    rw [lexeme_eq_iff, ← List.length_cons, ← hlength]
    exact .identifier hc hd hstring

/-! ## The tokens of a name -/

/-- The first of the tokens is not taken for more of a name, where a word may come next or not. -/
def StopsRun (wordNext : Bool) (ts : List Token) : Prop :=
  ∀ t ∈ ts.head?, t.isNameMark = false ∧ (wordNext = true → t.isNameWord = false)

section

variable {wordNext : Bool} {t : Token} {ts run us : List Token}

theorem nameRun_word (ht : t.isNameWord = true) (h : nameRun false ts = (run, us)) :
    nameRun true (t :: ts) = (t :: run, us) := by
  rw [nameRun, ht, Bool.and_self, if_pos rfl, h]

theorem nameRun_mark (ht : t.isNameMark = true) (h : nameRun true ts = (run, us)) :
    nameRun wordNext (t :: ts) = (t :: run, us) := by
  have hno : t.isNameWord = false := by
    rw [Bool.eq_false_iff]
    intro hword
    rw [Parse.isNameMark_of_isNameWord hword] at ht
    cases ht
  rw [nameRun, hno, Bool.false_and, if_neg Bool.false_ne_true, if_pos ht, h]

theorem nameRun_stop (h : StopsRun wordNext ts) : nameRun wordNext ts = ([], ts) := by
  cases ts with
  | nil => rfl
  | cons t ts =>
    obtain ⟨hmark, hword⟩ := h t rfl
    have hno : (t.isNameWord && wordNext) = false := by
      cases wordNext with
      | false => rw [Bool.and_false]
      | true => rw [hword rfl, Bool.false_and]
    rw [nameRun, hno, hmark]
    rfl

end

/-- The tokens of a name that is written as it is are taken for the name, if the next token is not
taken for more of it. The induction is on the text that is left, from token to token; after a word,
something else comes first. -/
theorem nameRun_of_bare {s r : Text} (wordNext : Bool) {pos : Position} {ts : List Token}
    (hbare : IsBare s) (hr : EndsName r)
    (hnext : wordNext = false → ∀ c ∈ s.head?, isWord c = false)
    (h : Lexes false (s ++ r) [] pos ts) :
    ∃ us, Lexes false r [] (pos.after s) us ∧
      (StopsRun (wordAfter wordNext s) us →
        ∃ run, nameRun wordNext ts = (run, us) ∧ run.flatMap Token.text = s) := by
  induction hn : s.length using Nat.strongRecOn generalizing s wordNext pos ts with
  | _ n ih =>
    cases s with
    | nil =>
      exact ⟨ts, h, fun hall => ⟨[], nameRun_stop hall, rfl⟩⟩
    | cons c s =>
      by_cases hc : isWord c = true
      · -- no word comes after a word, so that one may come here
        obtain rfl : wordNext = true := by
          cases wordNext with
          | true => rfl
          | false => exact absurd hc (by simp [hnext rfl c rfl])
        obtain ⟨w, t, kind, rfl, here, hword, hafter, ht⟩ := exists_nameWord hbare hr hc
        rw [List.cons_append, List.append_assoc] at h
        obtain ⟨us, rfl, hus⟩ := h.of_leaf (by rwa [List.append_nil])
        have hshorter : t.length < n := by
          rw [← hn, List.length_cons, List.length_append]
          omega
        obtain ⟨vs, hvs, hrun⟩ := ih t.length hshorter false
          (fun d hd => hbare d (by simp [hd])) (fun _ => ht) hus rfl
        refine ⟨vs, by rwa [← Position.after_append] at hvs, fun hall => ?_⟩
        rw [← List.cons_append, wordAfter_append, hafter] at hall
        obtain ⟨run, hrun, htext⟩ := hrun hall
        refine ⟨_, nameRun_word (hword _) hrun, ?_⟩
        rw [List.flatMap_cons, htext]
        rfl
      · have hmark : c ∈ nameMarks := (hbare c (by simp)).resolve_left hc
        obtain ⟨us, rfl, hus⟩ := Lexes.of_mark (isMark_of_mem_nameMarks hmark) h
        have hshorter : s.length < n := by
          rw [← hn, List.length_cons]
          omega
        obtain ⟨vs, hvs, hrun⟩ := ih s.length hshorter true
          (fun d hd => hbare d (by simp [hd])) (by simp) hus rfl
        refine ⟨vs, hvs, fun hall => ?_⟩
        have hafter : wordAfter wordNext [c] = true := by simp [wordAfter, hmark]
        rw [← List.singleton_append, wordAfter_append, hafter] at hall
        obtain ⟨run, hrun, htext⟩ := hrun hall
        have htoken : (Token.leaf .punctuation [c] (pos.span 1)).isNameMark = true := by
          simpa [Token.isNameMark, nameMarks, or_assoc] using hmark
        refine ⟨_, nameRun_mark htoken hrun, ?_⟩
        rw [List.flatMap_cons, htext]
        rfl

/-! ## Names -/

/-- The token is not taken for more of a name that ends with the text: it is no mark of a name, and
no identifier or number where the name ends with a mark. -/
structure Token.StartsApart (name : Text) (t : Token) : Prop where
  notMark : t.isNameMark = false
  notWord : (∃ c ∈ name.getLast?, c ∈ nameMarks) →
    t.isKind .identifier = false ∧ t.isKind .number = false

theorem Token.isNameWord_of_isKind {t : Token} (hi : t.isKind .identifier = false)
    (hn : t.isKind .number = false) : t.isNameWord = false := by
  rcases t with ⟨_ | _ | _ | _, _, _⟩ | _
  · cases hi
  · cases hn
  · rfl
  · rfl
  · rfl

theorem Token.StartsApart.moved {name : Text} {t : Token} (h : t.StartsApart name)
    (hname : name ≠ []) (base : Position) : (t.moved base).isNameMark = false ∧
      (wordAfter true name = true → (t.moved base).isNameWord = false) := by
  rw [isNameMark_moved, isNameWord_moved]
  refine ⟨h.notMark, fun hafter => ?_⟩
  have hlast : ∃ c ∈ name.getLast?, c ∈ nameMarks := by
    rw [wordAfter, List.getLast?_eq_some_getLast hname] at hafter
    exact ⟨_, List.getLast?_eq_some_getLast hname, by simpa using hafter⟩
  obtain ⟨hi, hn⟩ := h.notWord hlast
  exact isNameWord_of_isKind hi hn

theorem head?_movedAll (base : Position) (ts : List Token) :
    (Token.movedAll base ts).head? = ts.head?.map (Token.moved base) := by
  cases ts <;> rfl

theorem ne_nil_of_isName {s : Text} (h : isName s = true) : s ≠ [] := by
  rintro rfl
  cases h

open Grammar in
/-- A name that is written as it is. -/
theorem name_of_bare {s r : Text} {ts : List Token} (hs : isName s = true) (hbare : IsBare s)
    (hr : EndsName r) (h : Token.lex (s ++ r) = .ok ts) :
    ∃ us, Token.lex r = .ok us ∧
      ((∀ u ∈ us.head?, u.StartsApart s) →
        Name ts s (Token.movedAll (Position.first.after s) us)) := by
  obtain ⟨vs, hvs, hrun⟩ := nameRun_of_bare true hbare hr (by simp) (Token.lex_eq_ok_iff.1 h)
  obtain ⟨us, hus, rfl⟩ := hvs.exists_lex
  refine ⟨us, hus, fun hall => ?_⟩
  have hapart : StopsRun (wordAfter true s) (Token.movedAll (Position.first.after s) us) := by
    intro u hu
    rw [head?_movedAll] at hu
    obtain ⟨v, hv, rfl⟩ := Option.map_eq_some_iff.1 hu
    exact (hall v hv).moved (ne_nil_of_isName hs) (Position.first.after s)
  obtain ⟨run, hrun, rfl⟩ := hrun hapart
  obtain ⟨rfl, joined, longest⟩ := Parse.nameRun_eq_iff.1 hrun
  refine .run ?_ joined longest hs
  rintro rfl
  exact ne_nil_of_isName hs rfl

/-- No character of a name needs an escape. -/
theorem isBody_of_isName {s : Text} (h : isName s = true) : Literal.IsBody s s := by
  have hpart : ∀ c ∈ s, isNamePart c.toNat = true := by
    cases s with
    | nil => cases h
    | cons c s =>
      simp only [isName, Bool.and_eq_true, List.all_eq_true] at h
      refine List.forall_mem_cons.2 ⟨?_, h.2⟩
      rw [isNamePart, h.1, Bool.true_or]
  have hne : ∀ c ∈ s, ∀ d : Char, isNamePart d.toNat = false → c ≠ d := by
    rintro c hc d hd rfl
    rw [hpart c hc] at hd
    cases hd
  refine .of_plain fun c hc => .plain (hne c hc _ ?_) (hne c hc _ ?_) (hne c hc _ ?_)
    (hne c hc _ ?_) (hne c hc _ ?_) <;> decide

open Grammar in
/-- A name that is written as a string. -/
theorem name_of_literal {s r : Text} {ts : List Token} (hs : isName s = true)
    (h : Token.lex ('"' :: (s ++ '"' :: r)) = .ok ts) :
    ∃ us, Token.lex r = .ok us ∧
      Name ts s (Token.movedAll (Position.first.after ('"' :: (s ++ ['"']))) us) := by
  have hbody := isBody_of_isName hs
  have hlexes := Token.lex_eq_ok_iff.1 h
  rw [show s ++ '"' :: r = (s ++ ['"']) ++ r by simp] at hlexes
  obtain ⟨vs, rfl, hvs⟩ := hlexes.of_doubleQuoted hbody (.inl (ne_nil_of_isName hs))
  obtain ⟨us, hus, rfl⟩ := hvs.exists_lex
  exact ⟨us, hus, .string (.string rfl (Script.readConstant_of_isBody hbody)) hs⟩

/-- Every name can be written. As it is, it is read back if it is bare, something comes next that
ends it, and the next token is not taken for more of it; as a string, it is always read back.
Either way, what is left to be read are the tokens of what comes next, at their place. -/
theorem readName_written {s : Text} (hs : isName s = true) (r : Text) :
    (IsBare s → EndsName r → ∀ ts, Token.lex (s ++ r) = .ok ts →
      ∃ us, Token.lex r = .ok us ∧ ((∀ u ∈ us.head?, u.StartsApart s) →
        ∀ enclosing, Parse.readName ⟨ts, enclosing⟩ =
          .ok s ⟨Token.movedAll (Position.first.after s) us, enclosing⟩)) ∧
    ∀ ts, Token.lex ('"' :: (s ++ '"' :: r)) = .ok ts →
      ∃ us, Token.lex r = .ok us ∧ ∀ enclosing, Parse.readName ⟨ts, enclosing⟩ =
        .ok s ⟨Token.movedAll (Position.first.after ('"' :: (s ++ ['"']))) us, enclosing⟩ := by
  constructor
  · intro hbare hr ts h
    obtain ⟨us, hus, hname⟩ := name_of_bare hs hbare hr h
    refine ⟨us, hus, fun hall enclosing => ?_⟩
    exact (Parse.reads_readName ts enclosing s _).2 ⟨_, hname hall, rfl⟩
  · intro ts h
    obtain ⟨us, hus, hname⟩ := name_of_literal hs h
    refine ⟨us, hus, fun enclosing => ?_⟩
    exact (Parse.reads_readName ts enclosing s _).2 ⟨_, hname, rfl⟩

/-- A name with a hyphen and a number with a fraction. -/
def fractionName : Text := ['a', '-', '1', '.', '5']

/-- The name before an equals sign, as it is and as a string. -/
theorem readName_written_fraction :
    isName fractionName = true ∧ IsBare fractionName ∧ EndsName ['='] ∧
      (∃ ts, Token.lex (fractionName ++ ['=']) = .ok ts ∧
        Parse.readName ⟨ts, none⟩ =
          .ok fractionName ⟨[.leaf .punctuation ['='] ⟨1, 6, 5, 6⟩], none⟩) ∧
      ∃ ts, Token.lex ('"' :: (fractionName ++ '"' :: ['='])) = .ok ts ∧
        Parse.readName ⟨ts, none⟩ =
          .ok fractionName ⟨[.leaf .punctuation ['='] ⟨1, 8, 7, 8⟩], none⟩ := by
  have hname : isName fractionName = true := by decide
  have hbare : IsBare fractionName := by
    intro c hc
    simp only [fractionName, List.mem_cons, List.not_mem_nil, or_false] at hc
    rcases hc with rfl | rfl | rfl | rfl | rfl
    · exact .inl (by decide +kernel)
    · exact .inr (by decide)
    · exact .inl (by decide +kernel)
    · exact .inr (by decide)
    · exact .inl (by decide +kernel)
  have hends : EndsName ['='] := by
    rintro _ ⟨⟩
    exact .inr (by decide)
  have heq : ∀ pos, Lexes false ['='] [] pos [.leaf .punctuation ['='] (pos.span 1)] := fun pos =>
    .mark (isMark_of_mem (by decide)) (.nil _ _ _)
  have hrest : ∀ us, Token.lex ['='] = .ok us → us = [.leaf .punctuation ['='] ⟨1, 1, 0, 1⟩] := by
    intro us hus
    rw [Token.lex_eq_ok_iff.2 (heq .first)] at hus
    cases hus
    rfl
  obtain ⟨hwritten, hquoted⟩ := readName_written hname ['=']
  refine ⟨hname, hbare, hends, ?_, ?_⟩
  · have hlex : Lexes false (fractionName ++ ['=']) [] .first
        [.leaf .identifier ['a'] ⟨1, 1, 0, 1⟩, .leaf .punctuation ['-'] ⟨1, 2, 1, 2⟩,
          .leaf .number ['1', '.', '5'] ⟨1, 3, 2, 5⟩, .leaf .punctuation ['='] ⟨1, 6, 5, 6⟩] :=
      .leaf (s := []) (by decide +kernel) (.leaf (s := []) (by decide +kernel)
        (.leaf (s := ['.', '5']) (by decide +kernel) (heq _)))
    obtain ⟨us, hus, hread⟩ := hwritten hbare hends _ (Token.lex_eq_ok_iff.2 hlex)
    obtain rfl := hrest us hus
    refine ⟨_, Token.lex_eq_ok_iff.2 hlex, hread ?_ none⟩
    rintro _ ⟨⟩
    exact ⟨rfl, fun _ => ⟨rfl, rfl⟩⟩
  · have hlex : Lexes false ('"' :: (fractionName ++ '"' :: ['='])) [] .first
        [.leaf .string ('"' :: (fractionName ++ ['"'])) ⟨1, 1, 0, 7⟩,
          .leaf .punctuation ['='] ⟨1, 8, 7, 8⟩] :=
      .leaf (s := fractionName ++ ['"']) (by decide +kernel) (heq _)
    obtain ⟨us, hus, hread⟩ := hquoted _ (Token.lex_eq_ok_iff.2 hlex)
    obtain rfl := hrest us hus
    exact ⟨_, Token.lex_eq_ok_iff.2 hlex, hread none⟩

end XmlTemplate
