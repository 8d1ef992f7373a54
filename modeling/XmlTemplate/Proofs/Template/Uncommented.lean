import XmlTemplate.Proofs.Render.Orderly
import XmlTemplate.Proofs.Template.ReprintHead
import XmlTemplate.Proofs.Template.Scripts
import XmlTemplate.Proofs.Token.Uncommented

/-!
# Expressions without their comments

The expressions of a template are read from its source, comments included, and each of them is a
stretch of the source that is cut into portions (`Embedded.StandsAt`). A script ends its comments at
a carriage return, a template does not: so code can stand in what is a comment for the template.
Where no comment has any code in it, the expression without its comments is read as the same tokens
and comes to the same code (`Template.uncommented_of_parse`). Whatever is read is then a token of
the template, and the brackets that are read are its delimiters, each of which is closed.

Outside of groups there is another difference. The number sign of a directive is a mark for a
template, and starts a comment for a script; in a destination it hides the delimiter after it.
-/

set_option autoImplicit false

namespace XmlTemplate

/-! ## Stretches of the source as portions -/

/-- The portions of a source that start between two offsets. -/
def Text.portionsBetween (source : Text) (i j : Nat) : List Portion :=
  source.portions.filter fun p => i ≤ p.start && p.start < j

/-- The source is cut into portions up to a place in so many groups, and there the rest starts. -/
structure Reaches (source : Text) (depth : Nat) (before : List Portion) (rest : Text) : Prop where
  cut : Cuts 0 0 before rest
  inside : depthAfter 0 before = depth
  whole : textOf before ++ rest = source

section

variable {source shown rest : Text} {depth : Nat} {before ps : List Portion} {ts us : List Token}
  {pos : Position} {u : Token} {grouped : Bool}

theorem reaches_first (source : Text) : Reaches source 0 [] source := ⟨.nil _ _ _, rfl, rfl⟩

/-- Tokens take the cut on to where they end. -/
theorem Reaches.stretch (h : Reaches source depth before (shown ++ rest))
    (hlexes : Lexes grouped shown rest pos ts) (hdepth : (depth != 0) = grouped)
    (hpos : pos.offset = (textOf before).length) :
    ∃ ps, Reaches source depth (before ++ ps) rest ∧ Cuts depth pos.offset ps rest ∧
      textOf ps = shown ∧ ps.filter Portion.isSolid = Token.portionsAll ts := by
  obtain ⟨ps, hps, rfl, hafter, hsolid⟩ := hlexes.cuts hdepth
  refine ⟨ps, ⟨h.cut.append ?_, ?_, ?_⟩, hps, rfl, hsolid⟩
  · rwa [h.inside, Nat.zero_add, ← hpos]
  · rw [depthAfter_append, h.inside, hafter]
  · rw [textOf_append, List.append_assoc]
    exact h.whole

/-- So does an opening delimiter, and it leads into a group. -/
theorem Reaches.opening {d : Delimiter} (h : Reaches source depth before (d.opener :: rest)) :
    Reaches source (depth + 1)
      (before ++ [⟨.opening d, (textOf before).length, [d.opener]⟩]) rest := by
  have hcut : Cuts 0 0 before (textOf [⟨.opening d, (textOf before).length, [d.opener]⟩] ++ rest) :=
    h.cut
  refine ⟨hcut.append ?_, ?_, ?_⟩
  · rw [h.inside, Nat.zero_add]
    exact .cons (s := []) (lexeme_opener _ d _) (.nil _ _ _)
  · rw [depthAfter_append, h.inside]
    rfl
  · rw [textOf_append, List.append_assoc]
    exact h.whole

theorem Cuts.start_bounds {start : Nat} (h : Cuts depth start ps rest) :
    ∀ p ∈ ps, start ≤ p.start ∧ p.start < start + (textOf ps).length := by
  induction h with
  | nil => exact List.forall_mem_nil _
  | @cons depth start c s rest k ps _ _ ih =>
    have hlength : (textOf (⟨k, start, c :: s⟩ :: ps)).length =
        s.length + 1 + (textOf ps).length := by
      rw [textOf_cons, List.length_append, List.length_cons]
    refine List.forall_mem_cons.2 ⟨⟨Nat.le_refl _, ?_⟩, fun p hp => ?_⟩
    · dsimp only
      omega
    · obtain ⟨hstart, hstop⟩ := ih p hp
      omega

/-- The portions after some others are those that start where they stand. -/
theorem Reaches.portionsBetween_eq (h : Reaches source depth (before ++ ps) rest)
    (hlex : Token.lex source = .ok ts) :
    source.portionsBetween (textOf before).length
      ((textOf before).length + (textOf ps).length) = ps := by
  obtain ⟨hwhole, -, -⟩ := cuts_portions hlex
  have hportions : source.portions = before ++ (ps ++
      portionsFrom (depthAfter 0 (before ++ ps)) (0 + (textOf (before ++ ps)).length) rest) := by
    rw [Text.portions, ← List.append_assoc, ← h.cut.portionsFrom_eq, h.whole]
  have hzero : 0 + (textOf (before ++ ps)).length = (textOf (before ++ ps)).length :=
    Nat.zero_add _
  rw [hzero] at hportions
  rw [hportions] at hwhole
  have hbefore := hwhole.left.start_bounds
  have hthese := hwhole.right.left.start_bounds
  have hafter := hwhole.right.right.start_bounds
  rw [Nat.zero_add] at hbefore hthese hafter
  rw [Text.portionsBetween, hportions, List.filter_append, List.filter_append]
  have hnone : before.filter (fun p => (textOf before).length ≤ p.start &&
      p.start < (textOf before).length + (textOf ps).length) = [] := by
    refine List.filter_eq_nil_iff.2 fun p hp => ?_
    have := hbefore p hp
    simp
    omega
  have hall : ps.filter (fun p => (textOf before).length ≤ p.start &&
      p.start < (textOf before).length + (textOf ps).length) = ps := by
    refine List.filter_eq_self.2 fun p hp => ?_
    have := hthese p hp
    simp
    omega
  rw [hnone, hall, List.nil_append]
  refine (List.append_right_eq_self).2 (List.filter_eq_nil_iff.2 fun p hp => ?_)
  have := (hafter p hp).1
  simp
  omega

/-- No mark of a directive is among the tokens of a group. -/
theorem Lexes.isSign_eq_false (h : Lexes grouped shown rest pos ts) (hgrouped : grouped = true) :
    ∀ p ∈ Token.portionsAll ts, p.isSign = false := by
  have hbracket : ∀ (k : Lexeme) (i : Nat) (s : Text), (∀ kind, k ≠ .leaf kind) →
      Portion.isSign ⟨k, i, s⟩ = false := by
    intro k i s hk
    simp [Portion.isSign, hk]
  induction h with
  | nil => exact List.forall_mem_nil _
  | skip _ _ _ ih => exact ih hgrouped
  | @leaf _ c s t rest pos ts kind here _ ih =>
    refine List.forall_mem_cons.2 ⟨?_, ih hgrouped⟩
    rw [Bool.eq_false_iff]
    intro hsign
    rw [Portion.isSign, Bool.and_eq_true, beq_iff_eq, beq_iff_eq] at hsign
    obtain ⟨rfl, -⟩ := List.cons.inj hsign.2
    have hnot := (lexeme_eq_sign here).1
    rw [hgrouped] at hnot
    cases hnot
  | @group _ d inner t rest pos children ts _ _ ihInside ihAfter =>
    intro p hp
    rw [Token.portionsAll, Token.portions, List.cons_append, List.append_assoc] at hp
    rcases List.mem_cons.1 hp with rfl | hp
    · exact hbracket _ _ _ (by simp)
    · rcases List.mem_append.1 hp with hp | hp
      · exact ihInside rfl p hp
      · rcases List.mem_cons.1 hp with rfl | hp
        · exact hbracket _ _ _ (by simp)
        · exact ihAfter hgrouped p hp

/-- Nor is there one among its portions, since blanks and comments are no marks. -/
theorem Lexes.isSign_of_solid (h : Lexes true shown rest pos ts)
    (hsolid : ps.filter Portion.isSolid = Token.portionsAll ts) : ∀ p ∈ ps, p.isSign = false := by
  intro p hp
  rw [Bool.eq_false_iff]
  intro hsign
  have hkind : p.kind = .leaf .punctuation := by
    rw [Portion.isSign, Bool.and_eq_true, beq_iff_eq] at hsign
    exact hsign.1
  have hmem : p ∈ Token.portionsAll ts := by
    rw [← hsolid]
    exact List.mem_filter.2 ⟨hp, by rw [Portion.isSolid, hkind]⟩
  rw [h.isSign_eq_false rfl p hmem] at hsign
  cases hsign

end

/-! ## Expressions in their places -/

namespace Embedded

/-- The portions of a source that an expression is made of which starts at the offset. -/
def portions (source : Text) (i : Nat) (e : Embedded) : List Portion :=
  source.portionsBetween i (i + e.source.length)

/-- The expression starts at the offset, which is that of its place or the one behind a brace there,
and is made of the portions from there on; apart from blanks and comments these are the tokens. -/
structure StandsAt (source : Text) (i : Nat) (us : List Token) (e : Embedded) : Prop where
  place : ∃ p ∈ e.span, i = p.start ∨ i = p.start + 1 ∧ source[p.start]? = some '{'
  whole : textOf (e.portions source i) = e.source
  solid : (e.portions source i).filter Portion.isSolid = Token.portionsAll us

/-- The expression and what is left of it without the comments among its portions: what is left is
read as the same code, of the same tokens, whose brackets are delimiters of the template; and there
is something left if there is a token. -/
structure ReadsUncommented (ps : List Portion) (e : Embedded) : Prop where
  code : Script.expression? (uncommented ps) = some e.code
  tokens : ∃ toks,
    Script.lex (Script.bracketed e.source) = some (.mark ['('] :: (toks ++ [.mark [')']])) ∧
      Script.lex (Script.bracketed (uncommented ps)) =
        some (.mark ['('] :: (toks ++ [.mark [')']])) ∧
      toks.filterMap Script.Tok.bracket? = ps.filterMap Portion.bracket?
  filled : (∃ p ∈ ps, p.isSolid = true) → (uncommented ps).allBlank = false

/-- The expression stands in the source, and its comments can go if none of them has anything in it
for a script; where directives may be, none may be in the expression. -/
def Uncomments (source : Text) (directives : Prop) (e : Embedded) : Prop :=
  ∃ i us, e.StandsAt source i us ∧
    ((∀ p ∈ e.portions source i, p.kind = .comment → p.isHidden = true) →
      (directives → ∀ p ∈ e.portions source i, p.isSign = false) →
        e.ReadsUncommented (e.portions source i))

theorem Uncomments.mono {source : Text} {P Q : Prop} {e : Embedded} (hPQ : P → Q)
    (h : e.Uncomments source P) : e.Uncomments source Q := by
  obtain ⟨i, us, hstands, hreads⟩ := h
  exact ⟨i, us, hstands, fun hhidden hsign => hreads hhidden fun hP => hsign (hPQ hP)⟩

end Embedded

section

variable {source shown r : Text} {depth : Nat} {before : List Portion} {ts us : List Token}
  {pos : Position} {grouped : Bool} {x : Char} {p : Span} {e : Embedded}

/-- An expression that is a stretch of tokens up to something that stops them. -/
theorem Reaches.uncomments (h : Reaches source depth before (shown ++ x :: r))
    (hlex : Token.lex source = .ok ts) (hlexes : Lexes grouped shown (x :: r) pos us)
    (hdepth : (depth != 0) = grouped) (hpos : pos.offset = (textOf before).length) (hx : IsStop x)
    (he : Grammar.Expression shown p e)
    (hplace : pos.offset = p.start ∨ pos.offset = p.start + 1 ∧ source[p.start]? = some '{') :
    e.Uncomments source (grouped = false) := by
  obtain ⟨ps, hreaches, hcuts, rfl, hsolid⟩ := h.stretch hlexes hdepth hpos
  obtain ⟨filled, valid⟩ := he
  rename_i code
  have hportions : Embedded.portions source pos.offset ⟨textOf ps, code, some p⟩ = ps := by
    rw [Embedded.portions, hpos]
    exact hreaches.portionsBetween_eq hlex
  refine ⟨pos.offset, us, ⟨⟨p, rfl, hplace⟩, ?_, ?_⟩, ?_⟩
  · rw [hportions]
  · rw [hportions, hsolid]
  · rw [hportions]
    intro hhidden hsign
    have hmarks : ∀ q ∈ ps, q.isSign = false := by
      cases grouped with
      | false => exact hsign rfl
      -- in a group every number sign starts a comment
      | true => exact hlexes.isSign_of_solid hsolid
    obtain ⟨toks, hread⟩ := Script.exists_lex_of_expression? valid
    obtain ⟨hless, inside, rfl, hbrackets⟩ :=
      hcuts.lex_uncommented hx (openAfter_of_solid hsolid) hhidden hmarks hread
    refine ⟨?_, ⟨inside, hread, hless, hbrackets⟩, ?_⟩
    · rw [← valid]
      exact Script.expression?_congr (hless.trans hread.symm)
    · rintro ⟨q, hq, htoken⟩
      exact hcuts.allBlank_uncommented hq htoken

/-- The content of a group is reached behind its opening delimiter. -/
theorem exists_reaches {d : Delimiter} {text : Text} {inside : List Token}
    (hlex : Token.lex source = .ok ts) (hg : .group d text p inside ∈ ts) :
    ∃ before after pos, Reaches source 1 before (text ++ d.closer :: after) ∧
      Lexes true text (d.closer :: after) pos inside ∧ pos.offset = (textOf before).length ∧
        pos.offset = p.start + 1 ∧ source[p.start]? = some d.opener := by
  obtain ⟨us, vs, rfl⟩ := List.append_of_mem hg
  obtain ⟨f, s, t, rfl, hf, hs, -⟩ := (Token.lex_eq_ok_iff.1 hlex).split_at us
  have hfirst := reaches_first (f ++ (s ++ t))
  rw [List.append_nil] at hf hs
  obtain ⟨ps, hreaches, -, rfl, -⟩ := hfirst.stretch hf rfl rfl
  cases hs with
  | group _ hinside =>
    have hsplit : d.opener :: (text ++ [d.closer]) ++ t = d.opener :: (text ++ d.closer :: t) := by
      simp
    rw [hsplit] at hreaches ⊢
    have hopened := hreaches.opening
    have hstart : (Position.first.after (textOf ps)).offset = (textOf ps).length := by
      rw [Position.offset_after]
      exact Nat.zero_add _
    refine ⟨_, t, _, hopened, hinside, ?_, ?_, ?_⟩
    · rw [Position.offset_next, hstart, textOf_append, List.length_append]
      rfl
    · rw [Position.offset_next]
      rfl
    · change (textOf ps ++ _)[(Position.first.after (textOf ps)).offset]? = _
      rw [hstart, List.getElem?_append_right (Nat.le_refl _), Nat.sub_self]
      rfl

/-- A group that is an expression from end to end. -/
theorem uncomments_group {text : Text} {inside : List Token} (hlex : Token.lex source = .ok ts)
    (hg : .group .curly text p inside ∈ ts) (he : Grammar.Expression text p e) :
    e.Uncomments source False := by
  obtain ⟨before, after, pos, hreaches, hlexes, hpos, hstart, hopener⟩ := exists_reaches hlex hg
  have huncomments := hreaches.uncomments hlex hlexes rfl hpos (Delimiter.isStop_closer _) he
    (.inr ⟨hstart, hopener⟩)
  exact huncomments.mono Bool.noConfusion

/-- An expression from a token of a group on. -/
theorem uncomments_innerFrom (us : List Token) {d : Delimiter} {text : Text} {first : Token}
    {more : List Token} (hlex : Token.lex source = .ok ts)
    (hg : .group d text p (us ++ first :: more) ∈ ts)
    (he : Grammar.Expression ((Token.group d text p (us ++ first :: more)).innerFrom first)
      first.span e) : e.Uncomments source False := by
  obtain ⟨before, after, pos, hreaches, hlexes, hpos, hstart, -⟩ := exists_reaches hlex hg
  obtain ⟨f, s, t, rfl, hf, hs, ht⟩ := hlexes.split_at us
  rw [← List.append_assoc] at hf
  rw [List.append_assoc] at hreaches
  obtain ⟨ps, hfirst, -, rfl, -⟩ := hreaches.stretch hf rfl hpos
  have hplace : (pos.after (textOf ps)).offset = first.span.start := by
    rw [hs.span_eq.2]
    rfl
  have hinner : (Token.group d (textOf ps ++ (s ++ t)) p (us ++ first :: more)).innerFrom first =
      s ++ t := by
    have hdrop : first.span.start - p.start - 1 = (textOf ps).length := by
      rw [← hplace, Position.offset_after, hstart]
      omega
    change (textOf ps ++ (s ++ t)).drop (first.span.start - p.start - 1) = s ++ t
    rw [hdrop, List.drop_left]
  rw [hinner] at he
  have hlength : (pos.after (textOf ps)).offset = (textOf (before ++ ps)).length := by
    rw [Position.offset_after, hpos, textOf_append, List.length_append]
  have hdepth : ((1 : Nat) != 0) = true := rfl
  have huncomments := hfirst.uncomments hlex (.cons hs ht) hdepth hlength
    (Delimiter.isStop_closer _) he (.inl hplace)
  exact huncomments.mono Bool.noConfusion

/-- The tokens in front of a comma outside of groups are reached behind those before them. What
comes after them begins with something that stops tokens. -/
theorem exists_reaches_comma (us : List Token) {first comma : Token} {more rest : List Token}
    (hlex : Token.lex source = .ok (us ++ (first :: more ++ comma :: rest)))
    (hcomma : comma.isPunctuation [','] = true) :
    ∃ before a x r pos, Reaches source 0 before (a ++ x :: r) ∧ IsStop x ∧
      Lexes false a (x :: r) pos (first :: more) ∧ pos.offset = (textOf before).length ∧
        pos.offset = first.span.start ∧
          ∀ last ∈ (first :: more).getLast?, last.span.stop = pos.offset + a.length := by
  obtain ⟨f, s, t, rfl, hf, hs, ht⟩ := (Token.lex_eq_ok_iff.1 hlex).split_at us
  have hfrom : Lexes false (s ++ t) [] (Position.first.after f)
      (first :: more ++ comma :: rest) := .cons hs ht
  obtain ⟨a, b, hab, ha, hb, -, hend⟩ := hfrom.split_append (first :: more)
  obtain ⟨g, c, v, rfl, hg, hc, -⟩ := hb.split
  obtain rfl : c = [','] := hc.eq_of_isPunctuation hcomma
  have hgap : Lexes false g (',' :: v) ((Position.first.after f).after a) [] := by
    simpa using hg
  have hcalm : Calmer v v := fun _ _ hv => hv
  obtain ⟨x, r, hxr, hx, -⟩ := exists_stop_of_comma hgap hcalm
  have hbehind : g ++ ([','] ++ v) = x :: r := hxr
  rw [hbehind] at hab ha
  rw [List.append_nil] at ha hf
  have hreaches := reaches_first (f ++ (s ++ t))
  obtain ⟨ps, hreaches, -, rfl, -⟩ := hreaches.stretch hf rfl rfl
  have hoffset : (Position.first.after (textOf ps)).offset = (textOf ps).length := by
    rw [Position.offset_after]
    exact Nat.zero_add _
  refine ⟨ps, a, x, r, _, hab ▸ hreaches, hx, ha, hoffset, ?_, fun last hlast => ?_⟩
  · rw [hs.span_eq.2]
    rfl
  · obtain ⟨f', s', rfl, hshows⟩ := hend last hlast
    rw [hshows.span_eq.2]
    change ((Position.first.after (textOf ps)).after f').offset + s'.length = _
    rw [Position.offset_after, List.length_append, Nat.add_assoc]

/-- A destination, up to its last token. -/
theorem uncomments_destination {all rest : List Token} (us : List Token)
    (hlex : Token.lex source = .ok (us ++ all)) (h : Grammar.Destination source all e rest) :
    e.Uncomments source True := by
  cases h with
  | @intro taken _ first last comma _ hfirst hlast _ _ _ hcomma he =>
    obtain ⟨more, rfl⟩ : ∃ more, taken = first :: more := List.head?_eq_some_iff.1 hfirst
    obtain ⟨before, a, x, r, pos, hreaches, hx, hlexes, hpos, hstart, hstop⟩ :=
      exists_reaches_comma us hlex hcomma
    have hshown : (source.drop first.span.start).take (last.span.stop - first.span.start) = a := by
      rw [hstop last hlast, ← hstart, hpos, ← hreaches.whole, List.drop_left,
        Nat.add_sub_cancel_left, List.take_left]
    rw [hshown] at he
    exact (hreaches.uncomments hlex hlexes rfl hpos hx he (.inl hstart)).mono fun _ => trivial

end

/-! ## The expressions of a template -/

/-- The expression that a script in the markup is. -/
def EmbeddedScript.expression? : EmbeddedScript → Option Embedded
  | whole e => some e
  | fill e => some e
  | continuation _ => none

theorem AttributeItem.expressions_eq (item : AttributeItem) :
    item.expressions = item.scripts.filterMap EmbeddedScript.expression? := by
  match item with
  | .named _ (.literal _) => rfl
  | .named _ (.expression _) => rfl
  | .fill _ => rfl

theorem AttributeItem.flatMap_expressions (items : List AttributeItem) :
    items.flatMap AttributeItem.expressions =
      (items.flatMap AttributeItem.scripts).filterMap EmbeddedScript.expression? := by
  induction items with
  | nil => rfl
  | cons i items ih =>
    rw [List.flatMap_cons, List.flatMap_cons, List.filterMap_append, i.expressions_eq, ih]

mutual

/-- The expressions of an element are its scripts, except for the continuations. -/
theorem Element.expressions_eq : ∀ e : Element,
    e.expressions = e.scripts.filterMap EmbeddedScript.expression?
  | .empty _ items => AttributeItem.flatMap_expressions items
  | .node _ items content => by
    rw [Element.expressions, Element.scripts, List.filterMap_append,
      AttributeItem.flatMap_expressions, Child.allExpressions_eq]

theorem Child.expressions_eq : ∀ c : Child,
    c.expressions = c.scripts.filterMap EmbeddedScript.expression?
  | .text _ => rfl
  | .expression _ => rfl
  | .element e => e.expressions_eq
  | .continuation _ => rfl

theorem Child.allExpressions_eq : ∀ cs : List Child,
    Child.allExpressions cs = (Child.allScripts cs).filterMap EmbeddedScript.expression?
  | [] => rfl
  | c :: cs => by
    rw [Child.allExpressions, Child.allScripts, List.filterMap_append, c.expressions_eq,
      Child.allExpressions_eq cs]

end

namespace Grammar

/-- The expressions of a head stand among its tokens. -/
theorem Head.exists_of_mem {source : Text} {ts rest : List Token} {into : Option Embedded}
    {layout : Option LayoutDirective} (h : Head source ts into layout rest) :
    (∀ l ∈ layout, ∃ g ∈ ts, Directive g l) ∧
      ∀ e ∈ into, ∃ us all rest', ts = us ++ all ∧ Destination source all e rest' := by
  induction h with
  | nil => exact ⟨fun _ hl => (by cases hl), fun _ he => (by cases he)⟩
  | @directive sign group ts _ _ _ _ h _ ih =>
    refine ⟨?_, fun e he => ?_⟩
    · rintro _ ⟨⟩
      exact ⟨group, by simp, h⟩
    · obtain ⟨us, all, rest', rfl, he⟩ := ih.2 e he
      exact ⟨sign :: group :: us, all, rest', rfl, he⟩
  | destination h _ ih =>
    refine ⟨fun l hl => ?_, ?_⟩
    · obtain ⟨g, hg, hdirective⟩ := ih.1 l hl
      obtain ⟨taken, -, hts, -⟩ := h.taken
      exact ⟨g, hts ▸ List.mem_append_right taken hg, hdirective⟩
    · rintro _ ⟨⟩
      exact ⟨[], _, _, rfl, h⟩

variable {source : Text} {ts : List Token} {g : Token} {e : Embedded}

theorem Embeds.uncomments {s : EmbeddedScript} (h : Embeds g s) (hlex : Token.lex source = .ok ts)
    (hg : g ∈ ts) (he : s.expression? = some e) : e.Uncomments source False := by
  cases h with
  | whole h =>
    cases he
    cases h with
    | intro h => exact uncomments_group hlex hg h
  | fill h =>
    cases he
    cases h with
    | @intro a b first _ _ _ _ heq _ _ h =>
      subst heq
      exact uncomments_innerFrom [a, b] hlex hg h
  | continuation => cases he

theorem Directive.uncomments {l : LayoutDirective} (h : Directive g l)
    (hlex : Token.lex source = .ok ts) (hg : g ∈ ts) (he : e ∈ l.expressions) :
    e.Uncomments source False := by
  cases h with
  | unit => cases he
  | @format _ key eq first _ _ _ _ heq _ _ _ h =>
    obtain rfl := List.mem_singleton.1 he
    subst heq
    exact uncomments_innerFrom [key, eq] hlex hg h

end Grammar

namespace Template

open Grammar

variable {permission : Permission} {room : Nat} {source : Text} {t : Template}

/-- Every expression of a template that has been read is a stretch of tokens in its source. If each
of its comments is blank, or a comment line by line, for a script, the expression is read without
them as the same tokens and comes to the same code. In a destination there may be no directive for
that. -/
theorem uncommented_of_parse (h : parse permission room source = .ok t) :
    ∀ e ∈ t.expressions, e.Uncomments source (t.destination = some e) := by
  obtain ⟨ts, hlex, hderives, -⟩ := derives_of_parse h
  obtain ⟨ts', rest, hlex', -, -, hembeds⟩ := embeds_of_parse h
  obtain rfl : ts = ts' := Except.ok.inj (hlex.symm.trans hlex')
  intro e he
  rw [expressions, List.mem_append, List.mem_append] at he
  obtain ⟨hlayout, hdestination⟩ : (∀ l ∈ t.layout, ∃ g ∈ ts, Directive g l) ∧
      ∀ e ∈ t.destination, ∃ us all rest', ts = us ++ all ∧ Destination source all e rest' := by
    cases hderives with
    | intro hhead => exact hhead.exists_of_mem
  rcases he with (he | he) | he
  · have hinto : t.destination = some e := Option.mem_toList.1 he
    obtain ⟨us, all, rest', rfl, hd⟩ := hdestination e hinto
    exact (uncomments_destination us hlex hd).mono fun _ => hinto
  · obtain ⟨l, hl, he⟩ := List.mem_flatMap.1 he
    obtain ⟨g, hg, hd⟩ := hlayout l (Option.mem_toList.1 hl)
    exact (hd.uncomments hlex hg he).mono False.elim
  · rw [Element.expressions_eq] at he
    obtain ⟨s, hs, he⟩ := List.mem_filterMap.1 he
    obtain ⟨i, hi, rfl⟩ := List.getElem_of_mem hs
    have hlength : i < (braces rest).length := by rwa [hembeds.length_eq]
    obtain ⟨hg, hembed⟩ := hembeds.get hlength hi
    exact (hembed.uncomments hlex hg he).mono False.elim

-- behind a carriage return, a comment of the template has code for a script
example : Script.lex (Script.bracketed "1 # one\r+ 1\n".toList) ≠
    Script.lex (Script.bracketed "1 \n".toList) := by
  decide +kernel

/-- A destination, and an attribute with three comments, two of them with carriage returns. -/
def remarkedSource : Text :=
  "d, <a b=\x7b(1 # one\r\n + [2] # two\r # three\n)[0] # \n\x7d/>".toList

/-- What stands in the attribute, and what is left of it. -/
def remarkedText : Text := "(1 # one\r\n + [2] # two\r # three\n)[0] # \n".toList

theorem uncommented_of_parse_remarked :
    ∃ t e i us, parse .granted maxRoom remarkedSource = .ok t ∧ e ∈ t.expressions ∧
      e.source = remarkedText ∧ e.StandsAt remarkedSource i us ∧
      uncommented (e.portions remarkedSource i) = "(1 \n + [2] \n)[0] \n".toList ∧
      e.ReadsUncommented (e.portions remarkedSource i) := by
  have hread : (parse .granted maxRoom remarkedSource).toOption.map (fun t =>
      t.expressions.map fun e => (e.source, e.span)) =
      some [("d".toList, some ⟨1, 1, 0, 1⟩), (remarkedText, some ⟨1, 9, 8, 50⟩)] := by
    decide +kernel
  have hhidden : (remarkedSource.portions.all fun p =>
      p.kind != .comment || p.isHidden) = true := by
    decide +kernel
  have hsign : (remarkedSource.portions.all fun p => !p.isSign) = true := by
    decide +kernel
  cases h : parse .granted maxRoom remarkedSource with
  | error e =>
    rw [h] at hread
    cases hread
  | ok t =>
    rw [h] at hread
    obtain ⟨_, _, hlist, -, hrest⟩ := List.map_eq_cons_iff.1 (Option.some.inj hread)
    obtain ⟨e, _, rfl, he, -⟩ := List.map_eq_cons_iff.1 hrest
    obtain ⟨hsource, hspan⟩ := Prod.mk.inj he
    have hmem : e ∈ t.expressions := by
      rw [hlist]
      simp
    obtain ⟨i, us, hstands, hreads⟩ := uncommented_of_parse h e hmem
    -- the attribute starts behind its brace
    obtain ⟨p, hp, hplace⟩ := hstands.place
    obtain rfl : p = ⟨1, 9, 8, 50⟩ := by
      rw [hspan] at hp
      exact (Option.some.inj hp).symm
    have hwhole := hstands.whole
    rw [Embedded.portions, hsource] at hwhole
    obtain rfl : i = 9 := by
      rcases hplace with rfl | ⟨rfl, -⟩
      · revert hwhole
        decide +kernel
      · rfl
    have hall : ∀ q ∈ e.portions remarkedSource 9, q ∈ remarkedSource.portions := fun q hq =>
      (List.mem_filter.1 hq).1
    refine ⟨t, e, 9, us, rfl, hmem, hsource, hstands, ?_, hreads (fun q hq hcomment => ?_)
      fun _ q hq => ?_⟩
    · rw [Embedded.portions, hsource]
      decide +kernel
    · simpa [hcomment] using List.all_eq_true.1 hhidden q (hall q hq)
    · simpa using List.all_eq_true.1 hsign q (hall q hq)

end Template

end XmlTemplate
