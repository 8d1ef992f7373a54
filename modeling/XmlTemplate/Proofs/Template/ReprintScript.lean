import XmlTemplate.Proofs.Script.Enclosed
import XmlTemplate.Proofs.Template.Body
import XmlTemplate.Proofs.Template.Reprint
import XmlTemplate.Proofs.Template.Unparse

/-!
# Scripts printed as they stand

A group can be printed for a group if its content can be printed for the content that stands there
(`Regroups`). Expressions are printed character by character, whether they fill a group or follow
other tokens in it, so that their tokens are the same in another place. The statements of a
continuation are not those of its body; they have tokens since they can be read as a program, which
ends its strings and closes its brackets (`lexes_statements`).
-/

set_option autoImplicit false

namespace XmlTemplate

open Grammar

/-- In a group with the given content, `printed` can be written for that content: it is as calm, and
the group that it makes is as asked for. -/
def Regroups (d : Delimiter) (inner : Text) (p : Span) (children : List Token) (printed : Text)
    (S : Token → Prop) : Prop :=
  ∀ (left rest : Text) (pos : Position), p.start = pos.offset → Calmer left rest →
    Lexes true inner (d.closer :: rest) (pos.next d.opener) children →
      Calmer (printed ++ d.closer :: left) (inner ++ d.closer :: rest) ∧
        ∀ pos' : Position, ∃ children',
          Lexes true printed (d.closer :: left) (pos'.next d.opener) children' ∧
            S (.group d printed (pos'.span (printed.length + 2)) children')

section

variable {old new : Text} {all us ts : List Token} {left : Text} {Q : List Token → Prop}
  {d : Delimiter} {inner printed : Text} {p : Span} {children : List Token} {S : Token → Prop}

theorem Regroups.mono {S' : Token → Prop} (h : Regroups d inner p children printed S)
    (hS : ∀ g, S g → S' g) : Regroups d inner p children printed S' := by
  intro left rest pos hp hcalm hinner
  obtain ⟨hcalm', hnew⟩ := h left rest pos hp hcalm hinner
  refine ⟨hcalm', fun pos' => ?_⟩
  obtain ⟨children', hchildren, hg⟩ := hnew pos'
  exact ⟨children', hchildren, hS _ hg⟩

/-- A group is written for a group of the source. -/
theorem Reprints.group (hinner : Regroups d inner p children printed S)
    (h : Reprints old new all ts left Q) :
    Reprints old new all (.group d inner p children :: ts)
      (d.opener :: (printed ++ d.closer :: left)) fun us => ∃ g vs, us = g :: vs ∧ S g ∧ Q vs := by
  intro shown pos hshown
  obtain ⟨f, s, rest, rfl, -, hs, hrest⟩ := hshown.split
  cases hs with
  | group d inside =>
    obtain ⟨hleft, hnew⟩ := h rest _ hrest
    obtain ⟨hcalm, hgroup⟩ := hinner left rest (pos.after f) rfl hleft inside
    refine ⟨?_, fun pos' hpos' => ?_⟩
    · rw [List.cons_append, List.append_assoc]
      exact (hcalm.after d.isStop_opener f).cons d.isStop_opener.notQuote d.isStop_opener.notBackslash
    · obtain ⟨children', hchildren, hg⟩ := hgroup pos'
      have hafter : (((pos'.next d.opener).after printed).next d.closer).IsBefore new left :=
        (Position.IsBefore.after printed hpos'.next).next
      obtain ⟨us, hus, hq⟩ := hnew _ hafter
      refine ⟨_, .group d ?_ hus, _, _, rfl, hg, hq⟩
      rwa [List.append_nil]

/-! ## Expressions -/

theorem Shifted.start {i j : Nat} {t t' : Token} (h : Shifted i j t t') :
    t.span.start + j = t'.span.start + i := by
  cases h <;> assumption

theorem Shifted.stop {i j : Nat} {t t' : Token} (h : Shifted i j t t') :
    t.span.stop + j = t'.span.stop + i := by
  cases h <;> assumption

theorem Shifted.isPunctuation {i j : Nat} {t t' : Token} (h : Shifted i j t t') (s : Text) :
    t'.isPunctuation s = t.isPunctuation s := by
  cases h with
  | @leaf kind => cases kind <;> rfl
  | group => rfl

/-- The content of a group is written as it stands. -/
theorem regroups_same (d : Delimiter) (inner : Text) (p : Span) (children : List Token) :
    Regroups d inner p children inner fun g => ∃ p' children' i j,
      g = .group d inner p' children' ∧ ShiftedAll i j children children' := by
  intro left rest pos _ hcalm hinner
  refine ⟨hcalm.append_cons d.isStop_closer d.isStop_closer inner, fun pos' => ?_⟩
  obtain ⟨children', hchildren, hshift⟩ := hinner.swap rfl d.isStop_closer hcalm
    (Nat.add_comm (pos.next d.opener).offset (pos'.next d.opener).offset)
  exact ⟨children', hchildren, _, children', _, _, rfl, hshift⟩

/-- The content of a group from one of its tokens on is written as it stands, after something that
is written for the tokens before. -/
theorem regroups_from (us : List Token) {g first : Token} {more : List Token} {w : Text} {T : List Token → Prop}
    (hg : g = .group d inner p (us ++ first :: more))
    (hus : ∀ v ∈ us.getLast?, v.isPunctuation ['\\'] = false)
    (hw : ∀ {s t}, Calmer s t → Calmer (w ++ s) t)
    (hlexes : ∀ {s rest} {pos : Position} {ts}, Lexes true s rest (pos.after w) ts →
      ∃ vs, Lexes true (w ++ s) rest pos (vs ++ ts) ∧ T vs) :
    Regroups d inner p (us ++ first :: more) (w ++ g.innerFrom first) fun g' =>
      ∃ text p' vs first' more', g' = .group d text p' (vs ++ first' :: more') ∧ T vs ∧
        g'.innerFrom first' = g.innerFrom first := by
  intro left rest pos hp hcalm hinner
  obtain ⟨a, b, rfl, hb, hstart, ha⟩ := hinner.split_before hus
  have hfrom : g.innerFrom first = b := by
    have hdrop : first.span.start - p.start - 1 = a.length := by
      rw [hstart, hp, Position.offset_after, Position.offset_next]
      omega
    rw [hg, Token.innerFrom]
    simp only [Token.text, Token.span] at hdrop ⊢
    rw [hdrop, List.drop_left]
  rw [hfrom, List.append_assoc, List.append_assoc]
  refine ⟨hw ((hcalm.append_cons d.isStop_closer d.isStop_closer b).trans ha), fun pos' => ?_⟩
  obtain ⟨ts', hts', hshift⟩ := hb.swap rfl d.isStop_closer hcalm
    (Nat.add_comm ((pos.next d.opener).after a).offset ((pos'.next d.opener).after w).offset)
  cases hshift with
  | @cons _ first' _ more' hfirst _ =>
    obtain ⟨vs, hvs, hT⟩ := hlexes hts'
    refine ⟨_, hvs, _, _, vs, first', more', rfl, hT, ?_⟩
    have hplace : first'.span.start - pos'.offset - 1 = w.length := by
      have := hfirst.start
      rw [hstart, Position.offset_after _ w, Position.offset_next] at this
      omega
    rw [Token.innerFrom]
    simp only [Token.text, Token.span, Position.span] at hplace ⊢
    rw [hplace, List.drop_left]

/-- An expression can stand in another place. -/
theorem Grammar.Expression.move {source : Text} {p : Span} {e : Embedded}
    (h : Expression source p e) (p' : Span) :
    e.source = source ∧ ∃ e', Expression source p' e' ∧ e'.unplaced = e.unplaced := by
  cases h with
  | intro filled valid => exact ⟨rfl, _, .intro filled valid, rfl⟩

theorem isContinuation_of_shifted {i j : Nat} {text text' : Text} {p' : Span}
    {children' : List Token} (h : ShiftedAll i j children children') :
    Parse.isContinuation (.group d text' p' children') =
      Parse.isContinuation (.group d text p children) := by
  cases h with
  | nil => rfl
  | cons hfirst _ => exact hfirst.isPunctuation ['|']

/-- A group that is an expression from end to end. -/
theorem reprints_groupExpression {g : Token} {e : Embedded} (hg : GroupExpression g e)
    (h : Reprints old new all ts left Q) :
    Reprints old new all (g :: ts) (e.unparse ++ left) fun us => ∃ g' vs, us = g' :: vs ∧
      (∃ e', GroupExpression g' e' ∧ e'.unplaced = e.unplaced ∧
        Parse.isContinuation g' = Parse.isContinuation g) ∧ Q vs := by
  cases hg with
  | @intro text p inside _ he =>
    have hprinted : e.unparse ++ left = '{' :: (text ++ '}' :: left) := by
      rw [Embedded.unparse, (he.move p).1]
      simp
    rw [hprinted]
    refine Reprints.group (d := .curly) ((regroups_same _ _ _ _).mono ?_) h
    rintro _ ⟨p', children', i, j, rfl, hshift⟩
    obtain ⟨-, e', he', hsame⟩ := he.move p'
    exact ⟨e', .intro he', hsame, isContinuation_of_shifted hshift⟩

/-- A fill: two full stops and an expression. -/
theorem reprints_fill {g : Token} {e : Embedded} (hg : Fill g e)
    (h : Reprints old new all ts left Q) :
    Reprints old new all (g :: ts) ('{' :: '.' :: '.' :: (e.source ++ '}' :: left)) fun us =>
      ∃ g' vs, us = g' :: vs ∧ (∃ e', Fill g' e' ∧ e'.unplaced = e.unplaced) ∧ Q vs := by
  cases hg with
  | @intro a b first text p inside _ hg ha hb he =>
    have hpoint : IsMark '.' := isMark_of_mem (by decide)
    have hregroups := regroups_from [a, b] (w := ['.', '.']) (T := fun vs =>
        ∃ a b, vs = [a, b] ∧ a.isPunctuation ['.'] = true ∧ b.isPunctuation ['.'] = true) hg
      (by rintro _ ⟨⟩; exact not_backslash_of_isPunctuation hb (by decide))
      (fun hst => (hst.cons (by decide) (by decide)).cons (by decide) (by decide))
      fun hlexes => ⟨[_, _], .mark hpoint (.mark hpoint hlexes), _, _, rfl,
        Token.isPunctuation_leaf _ _, Token.isPunctuation_leaf _ _⟩
    rw [(he.move p).1]
    subst hg
    refine Reprints.group (d := .curly) (hregroups.mono ?_) h
    rintro _ ⟨text', p', _, first', more', rfl, ⟨a', b', rfl, ha', hb'⟩, hfrom⟩
    rw [← hfrom] at he
    obtain ⟨-, e', he', hsame⟩ := he.move first'.span
    exact ⟨e', .intro rfl ha' hb' he', hsame⟩

/-! ## Statements -/

/-- The text of a group after the third token in it, which is the second bar of a continuation. -/
def Token.body (g : Token) : Text :=
  match g.children with
  | _ :: _ :: bar :: _ => g.innerAfter bar
  | _ => []

/-- The statements of a body that has no other blanks than spaces, tabs and line feeds do not have
any others, and do not end with a blank. -/
theorem statementsOf_spec {s : Text} (h : HasPlainBlanks s) :
    HasPlainBlanks (statementsOf s) ∧ ∀ c ∈ (statementsOf s).getLast?, isBlank c = false := by
  refine ⟨isRowwise_hasPlainBlanks.statementsOf h h ?_, ?_⟩
  · intro c hc hblank
    have hword : ("pass".toList.all fun c => !isBlank c) = true := by decide
    have hno := List.all_eq_true.1 hword c hc
    rw [hblank] at hno
    cases hno
  · rw [statementsOf]
    split
    · rintro _ ⟨⟩
      decide
    · exact (isSettled_bodySource h).last

/-- The statements of a body have tokens, on lines of their own. -/
theorem lexes_statements {s : Text} {code : List Script.Stmt} (h : HasPlainBlanks s)
    (hcode : Script.program? (statementsOf s) = some code) (rest : Text) (pos : Position) :
    ∃ ts, Lexes true ('\n' :: (statementsOf s ++ ['\n'])) (d.closer :: rest) pos ts := by
  obtain ⟨hplain, hlast⟩ := statementsOf_spec h
  have hend : (statementsOf s).getLast? ≠ some '\n' := by
    intro hend
    exact absurd (hlast _ hend) (by decide)
  obtain ⟨toks, htoks⟩ : ∃ toks, Script.lex (statementsOf s ++ ['\n']) = some toks := by
    rw [Script.program?, if_neg hend] at hcode
    cases htoks : Script.lex (statementsOf s ++ ['\n']) with
    | none =>
      rw [htoks] at hcode
      cases hcode
    | some toks => exact ⟨toks, rfl⟩
  have hreturn : '\r' ∉ statementsOf s ++ ['\n'] := by
    intro hmem
    rcases List.mem_append.1 hmem with hmem | hmem
    · exact absurd (hplain _ hmem (by decide)) (by decide)
    · exact absurd hmem (by decide)
  have henclosed : Enclosed [] ('\n' :: (statementsOf s ++ ['\n'])) :=
    .plain (by decide) (Script.enclosed_of_lex htoks hreturn)
  refine henclosed.lexes (fun c hc => ?_) pos
  rw [← List.cons_append, List.getLast?_concat] at hc
  exact (Option.some.inj hc).symm

/-- A token that is an identifier is a word. -/
theorem Lexes.isWordText {grouped : Bool} {shown rest : Text} {pos : Position}
    (h : Lexes grouped shown rest pos ts) :
    ∀ t ∈ ts, t.isKind .identifier = true → IsWordText t.text := by
  induction h with
  | nil => simp
  | skip _ _ _ ih => exact ih
  | @leaf _ c s t rest _ _ kind here _ ih =>
    refine List.forall_mem_cons.2 ⟨fun hkind => ?_, ih⟩
    obtain rfl : kind = .identifier := by simpa [Token.isKind] using hkind
    rw [lexeme_eq_iff] at here
    generalize hn : s.length + 1 = n at here
    cases here with
    | identifier _ hdigit =>
      obtain ⟨hword, -⟩ := takeWhile_cut (s := c :: s) hn.symm
      exact ⟨List.cons_ne_nil c s, hword, by rintro _ ⟨⟩; exact hdigit⟩
  | group _ _ _ _ ih =>
    refine List.forall_mem_cons.2 ⟨fun hkind => ?_, ih⟩
    cases hkind

/-- The statements of a body are calm where the body is. -/
theorem calmer_statements {s rest : Text} (h : HasPlainBlanks s) (hcalm : Calmer left rest) :
    Calmer ('\n' :: (statementsOf s ++ '\n' :: '}' :: left)) (s ++ '}' :: rest) := by
  intro q hq hs
  have hb := ne_backslash_of_isQuote hq
  have hline : IsStop '\n' := isStop_of_mark (by decide) (by decide)
  have hbrace : IsStop '}' := Delimiter.isStop_closer .curly
  obtain ⟨hbody, hrest⟩ :=
    (calm_append_cons hb (hbrace.ne_of_isQuote hq) hbrace.notBackslash s rest).1 hs
  have hpass : Calm q "pass".toList := by
    rcases isQuote_iff.1 hq with rfl | rfl <;> rfl
  have hstatements : Calm q (statementsOf s) := (isRowwise_calm hq).statementsOf h hbody hpass
  refine (calm_cons_of_plain (hline.ne_of_isQuote hq) hline.notBackslash).2 ?_
  refine (calm_append_cons hb (hline.ne_of_isQuote hq) hline.notBackslash _ _).2 ⟨hstatements, ?_⟩
  exact (calm_cons_of_plain (hbrace.ne_of_isQuote hq) hbrace.notBackslash).2 (hcalm q hq hrest)

/-- An argument and the statements of a body make a continuation with the same statements. -/
theorem exists_body {w s : Text} {code : List Script.Stmt} (hw : IsWordText w) (h : HasPlainBlanks s)
    (hcode : Script.program? (statementsOf s) = some code) (rest : Text) (pos : Position) :
    let inner := '|' :: (w ++ '|' :: '\n' :: (statementsOf s ++ ['\n']))
    ∃ children, Lexes true inner ('}' :: rest) (pos.next '{') children ∧
      Body (.group .curly inner (pos.span (inner.length + 2)) children)
        ⟨w, statementsOf s, code, some (pos.span (inner.length + 2))⟩ := by
  intro inner
  have hbar : IsMark '|' := isMark_of_mem (by decide)
  have hnext : ∀ c ∈ ('|' :: '\n' :: (statementsOf s ++ ['\n']) ++ '}' :: rest).head?,
      isWord c = false ∧ isQuote c = false := by
    rintro _ ⟨⟩
    exact ⟨hbar.lone.notWord, hbar.lone.notQuote⟩
  obtain ⟨ts, hts⟩ := lexes_statements (d := .curly) h hcode rest
    ((((pos.next '{').next '|').after w).next '|')
  refine ⟨_, .mark hbar (.word hw hnext (.mark hbar hts)), ?_⟩
  generalize hg : Token.group .curly inner _ _ = g
  generalize hb : Token.leaf .punctuation ['|'] ((((pos.next '{').next '|').after w).span 1) = b at hg
  have hafter : g.innerAfter b = '\n' :: (statementsOf s ++ ['\n']) := by
    have hdrop : ((((pos.next '{').next '|').after w).span 1).stop - pos.offset - 1 =
        ('|' :: (w ++ ['|'])).length := by
      simp only [Position.span, Position.offset_after, Position.offset_next, List.length_cons,
        List.length_append, List.length_nil]
      omega
    have hinner : inner = ('|' :: (w ++ ['|'])) ++ '\n' :: (statementsOf s ++ ['\n']) := by
      simp [inner]
    rw [← hg, ← hb, Token.innerAfter]
    simp only [Token.text, Token.span, Position.span] at hdrop ⊢
    rw [hdrop, hinner, List.drop_left]
  have hsame : statementsOf (g.innerAfter b) = statementsOf s := by
    rw [hafter, statementsOf_statementsOf h]
  rw [← hsame] at hcode ⊢
  subst hb
  exact .intro hg.symm (Token.isPunctuation_leaf _ _) rfl (Token.isPunctuation_leaf _ _) hcode

/-- The content of a continuation is written with the statements on lines of their own. -/
theorem regroups_body {g : Token} {c : Continuation} (hc : Body g c)
    (hg : g = .group .curly inner p children) (hplain : HasPlainBlanks g.body) :
    Regroups .curly inner p children ('|' :: (c.argument ++ '|' :: '\n' :: (c.source ++ ['\n'])))
      fun g' => ∃ c', Body g' c' ∧ c'.unplaced = c.unplaced := by
  cases hc with
  | @intro a x b text p' inside code hg' ha hx hb valid =>
    obtain ⟨-, rfl, rfl, rfl⟩ := Token.group.inj (hg.symm.trans hg')
    have hbody : g.body = g.innerAfter b := by
      rw [Token.body, hg]
      rfl
    rw [hbody] at hplain
    intro left rest pos hp hcalm hinner
    have hword : IsWordText x.text := hinner.isWordText x (by simp) hx
    have hinside : a :: x :: b :: inside = [a, x, b] ++ inside := rfl
    rw [hinside] at hinner
    obtain ⟨before, raw, rfl, -, -, -, hlast⟩ := hinner.split_append [a, x, b]
    obtain ⟨f, s, rfl, hs⟩ := hlast b rfl
    have hraw : g.innerAfter b = raw := by
      have hdrop : b.span.stop - p.start - 1 = (f ++ s).length := by
        rw [hs.span_eq.2, hp, List.length_append]
        simp only [Position.span, Position.offset_after, Position.offset_next]
        omega
      rw [hg, Token.innerAfter]
      simp only [Token.text, Token.span] at hdrop ⊢
      rw [hdrop, List.drop_left]
    rw [hraw] at hplain valid ⊢
    refine ⟨?_, fun pos' => ?_⟩
    · have hbar : isQuote '|' = false := rfl
      have hbefore : Calmer (raw ++ '}' :: rest) (f ++ s ++ (raw ++ '}' :: rest)) := by
        rw [List.append_assoc]
        exact hs.calmer (not_backslash_of_isPunctuation hb (by decide)) f
      have hstatements := (calmer_statements hplain hcalm).trans hbefore
      simpa [Delimiter.closer] using (Calmer.word hword.word (hstatements.cons hbar (by decide))).cons hbar (by decide)
    · obtain ⟨children', hchildren, hbody'⟩ := exists_body hword hplain valid left pos'
      exact ⟨children', hchildren, _, hbody', rfl⟩

/-- A continuation. -/
theorem reprints_body {g : Token} {c : Continuation} (hc : Body g c) (hplain : HasPlainBlanks g.body)
    (h : Reprints old new all ts left Q) :
    Reprints old new all (g :: ts) (c.unparse ++ left) fun us => ∃ g' vs, us = g' :: vs ∧
      (∃ c', Body g' c' ∧ c'.unplaced = c.unplaced) ∧ Q vs := by
  obtain ⟨text, p, inside, rfl⟩ : ∃ text p inside, g = .group .curly text p inside := by
    cases hc with
    | intro hg => exact ⟨_, _, _, hg⟩
  have hprinted : c.unparse ++ left =
      '{' :: ('|' :: (c.argument ++ '|' :: '\n' :: (c.source ++ ['\n'])) ++ '}' :: left) := by
    simp [Continuation.unparse]
  rw [hprinted]
  exact Reprints.group (d := .curly) (regroups_body hc rfl hplain) h

end

end XmlTemplate
