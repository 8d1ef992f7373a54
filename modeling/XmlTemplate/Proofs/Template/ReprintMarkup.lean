import XmlTemplate.Proofs.Template.ReprintScript

/-!
# Markup printed anew

Each rule of the grammar for markup is printed as `Element.unparse` has it, and what is printed
derives the same again, up to places (`reprints_element`). Names lose the form in which the source
has them: words and marks are left out and a string is written. The recursion is on the element that
is printed.
-/

set_option autoImplicit false

namespace XmlTemplate

open Grammar

section

variable {old new : Text} {all ts us rest : List Token} {left : Text} {Q : List Token → Prop}

/-! ## Names and values -/

theorem Grammar.Spells.not_backslash {t : Token} {s : Text} (h : Spells t s) :
    t.isPunctuation ['\\'] = false := by
  cases h
  rfl

theorem Grammar.IsNameRun.not_backslash {wordNext : Bool} (h : IsNameRun wordNext ts) :
    ∀ t ∈ ts, t.isPunctuation ['\\'] = false := by
  induction h with
  | nil => simp
  | @word t _ ht _ ih =>
    refine List.forall_mem_cons.2 ⟨?_, ih⟩
    rcases t with ⟨_ | _ | _ | _, _, _⟩ | _ <;> try rfl
    cases ht
  | @mark _ t _ ht _ ih =>
    refine List.forall_mem_cons.2 ⟨?_, ih⟩
    rcases t with ⟨_ | _ | _ | _, s, p⟩ | _ <;> try rfl
    rw [Token.isPunctuation, decide_eq_false_iff_not]
    rintro rfl
    cases ht

theorem Grammar.Name.skips {name : Text} (h : Name ts name rest) : Skips ts rest := by
  cases h with
  | run _ joined => exact .append joined.not_backslash rest
  | string value => exact .cons value.not_backslash (.refl rest)

theorem Grammar.Name.valid {name : Text} (h : Name ts name rest) : isName name = true := by
  cases h <;> assumption

theorem reprints_name {name : Text} (hname : Name ts name rest) (hleft : left.head? ≠ some '"')
    (h : Reprints old new all rest left Q) :
    Reprints old new all ts (Literal.quote name ++ left) fun us =>
      ∃ vs, Name us name vs ∧ Q vs := by
  refine ((h.quote (s := name) hleft).skip hname.skips).mono ?_
  rintro _ ⟨t, vs, rfl, ht, hq⟩
  exact ⟨vs, .string ht hname.valid, hq⟩

theorem reprints_value {t : Token} {value : AttributeValue} (hvalue : Grammar.Value t value)
    (hleft : left.head? ≠ some '"') (h : Reprints old new all ts left Q) :
    Reprints old new all (t :: ts) (value.unparse ++ left) fun us => ∃ t' vs, us = t' :: vs ∧
      (∃ value', Grammar.Value t' value' ∧ value'.unplaced = value.unplaced) ∧ Q vs := by
  cases hvalue with
  | literal ht =>
    refine ((h.quote hleft).drop ht.not_backslash).mono ?_
    rintro _ ⟨t', vs, rfl, ht', hq⟩
    exact ⟨t', vs, rfl, ⟨_, .literal ht', rfl⟩, hq⟩
  | expression ht =>
    refine (reprints_groupExpression ht h).mono ?_
    rintro _ ⟨t', vs, rfl, ⟨e', he', hsame, -⟩, hq⟩
    exact ⟨t', vs, rfl, ⟨_, .expression he', congrArg AttributeValue.expression hsame⟩, hq⟩

theorem Grammar.Fill.not_backslash {t : Token} {e : Embedded} (h : Fill t e) :
    t.isPunctuation ['\\'] = false := by
  cases h with
  | intro hg =>
    rw [hg]
    rfl

/-! ## Tags -/

theorem head_ne_quote {c : Char} (hc : c ≠ '"') (s : Text) : (c :: s).head? ≠ some '"' :=
  fun h => hc (Option.some.inj h)

theorem isMark_equals : IsMark '=' := isMark_of_mem (by decide)
theorem isMark_less : IsMark '<' := isMark_of_mem (by decide)
theorem isMark_greater : IsMark '>' := isMark_of_mem (by decide)
theorem isMark_slash : IsMark '/' := isMark_of_mem (by decide)

theorem reprints_item {item : AttributeItem} (hitem : Item ts item rest)
    (hleft : left.head? ≠ some '"') (h : Reprints old new all rest left Q) :
    Reprints old new all ts (item.unparse ++ left) fun us => ∃ item' vs, Item us item' vs ∧
      item'.unplaced = item.unplaced ∧ Q vs := by
  cases hitem with
  | named hname heq hvalue =>
    have hprinted := reprints_name hname (head_ne_quote (by decide) _)
      (((reprints_value hvalue hleft h).mark isMark_equals).drop
        (not_backslash_of_isPunctuation heq (by decide)))
    rw [AttributeItem.unparse, List.append_assoc, List.cons_append]
    refine hprinted.mono ?_
    rintro us ⟨_, hname', eq', _, rfl, heq', t', vs, rfl, ⟨value', hvalue', hsame⟩, hq⟩
    exact ⟨_, vs, .named hname' heq' hvalue', congrArg (AttributeItem.named _) hsame, hq⟩
  | fill hfill =>
    have hprinted := reprints_fill hfill h
    rw [AttributeItem.unparse]
    simp only [List.cons_append, List.append_assoc, List.nil_append]
    refine hprinted.mono ?_
    rintro _ ⟨g', vs, rfl, ⟨e', he', hsame⟩, hq⟩
    exact ⟨_, vs, .fill he', congrArg AttributeItem.fill hsame, hq⟩

/-- The end of a start tag. -/
def tagEnd (empty : Bool) : Text := if empty then ['/', '>'] else ['>']

theorem head_unparseAll (items : List AttributeItem) (empty : Bool) :
    (AttributeItem.unparseAll items ++ (tagEnd empty ++ left)).head? ≠ some '"' := by
  cases items with
  | nil => cases empty <;> exact head_ne_quote (by decide) _
  | cons => exact head_ne_quote (by decide) _

theorem AttributeItem.head_unparse (item : AttributeItem) :
    ∀ c ∈ (item.unparse ++ left).head?, isBlank c = false := by
  cases item <;> rintro _ ⟨⟩ <;> decide

theorem reprints_startTag {items : List AttributeItem} {empty : Bool}
    (htag : StartTag ts items empty rest) (h : Reprints old new all rest left Q) :
    Reprints old new all ts (AttributeItem.unparseAll items ++ (tagEnd empty ++ left)) fun us =>
      ∃ items' vs, StartTag us items' empty vs ∧
        items'.map AttributeItem.unplaced = items.map AttributeItem.unplaced ∧ Q vs := by
  induction htag with
  | opened hgt =>
    refine ((h.mark isMark_greater).drop (not_backslash_of_isPunctuation hgt (by decide))).mono ?_
    rintro _ ⟨gt', vs, rfl, hgt', hq⟩
    exact ⟨[], vs, .opened hgt', rfl, hq⟩
  | empty hslash hgt =>
    refine (((h.mark isMark_greater).drop (not_backslash_of_isPunctuation hgt (by decide))).mark
      isMark_slash |>.drop (not_backslash_of_isPunctuation hslash (by decide))).mono ?_
    rintro _ ⟨slash', _, rfl, hslash', gt', vs, rfl, hgt', hq⟩
    exact ⟨[], vs, .empty hslash' hgt', rfl, hq⟩
  | @item _ _ _ item items empty first _ ih =>
    have hprinted := (reprints_item first (head_unparseAll items empty) (ih h)).space
      item.head_unparse
    rw [AttributeItem.unparseAll, List.flatMap_cons, List.append_assoc, List.cons_append]
    refine hprinted.mono ?_
    rintro _ ⟨item', _, hitem', hsame, items', vs, hitems', hsames, hq⟩
    exact ⟨_, vs, .item hitem' hitems', by rw [List.map_cons, hsame, hsames, List.map_cons], hq⟩

theorem Grammar.EndTag.skips {name : Text} (h : EndTag name ts rest) : Skips ts rest := by
  cases h with
  | named hlt hslash hname hgt =>
    refine .cons (not_backslash_of_isPunctuation hlt (by decide))
      (.cons (not_backslash_of_isPunctuation hslash (by decide)) (hname.skips.trans ?_))
    exact .cons (not_backslash_of_isPunctuation hgt (by decide)) (.refl rest)
  | short hlt hslash hgt =>
    exact .cons (not_backslash_of_isPunctuation hlt (by decide))
      (.cons (not_backslash_of_isPunctuation hslash (by decide))
        (.cons (not_backslash_of_isPunctuation hgt (by decide)) (.refl rest)))

theorem reprints_endTag {name : Text} (htag : EndTag name ts rest) (hname : isName name = true)
    (h : Reprints old new all rest left Q) :
    Reprints old new all ts ('<' :: '/' :: (Literal.quote name ++ '>' :: left)) fun us =>
      ∃ vs, EndTag name us vs ∧ Q vs := by
  have hgt := h.mark isMark_greater
  have hquote := hgt.quote (s := name) (head_ne_quote (by decide) left)
  refine (((hquote.mark isMark_slash).mark isMark_less).skip htag.skips).mono ?_
  rintro _ ⟨lt, _, rfl, hlt, slash, _, rfl, hslash, t, _, rfl, ht, gt, vs, rfl, hgt, hq⟩
  exact ⟨vs, .named hlt hslash (.string ht hname) hgt, hq⟩

/-! ## Elements -/

/-- Where continuations of the list are read from tokens of the other list, their bodies have no
other blanks than spaces, tabs and line feeds. -/
def HasPlainBodies (ts : List Token) (cs : List Continuation) : Prop :=
  ∀ c ∈ cs, ∀ g ∈ ts, Body g c → HasPlainBlanks g.body

theorem hasPlainBodies_append {cs ds : List Continuation} :
    HasPlainBodies ts (cs ++ ds) ↔ HasPlainBodies ts cs ∧ HasPlainBodies ts ds := by
  simp only [HasPlainBodies, List.mem_append, or_imp, forall_and]

theorem Child.head_unparse (c : Child) :
    ∀ d ∈ (c.unparse ++ left).head?, isBlank d = false := by
  rcases c with _ | _ | ⟨_ | _⟩ | _ <;> rintro _ ⟨⟩ <;> decide

theorem Child.head_unparseAll (c : Child) (cs : List Child) :
    ∀ d ∈ (Child.unparseAll (c :: cs) ++ left).head?, isBlank d = false := by
  cases cs with
  | nil => exact c.head_unparse
  | cons d cs =>
    rw [Child.unparseAll, List.append_assoc]
    exact c.head_unparse

mutual

theorem reprints_element {old new : Text} {all : List Token} : ∀ (e : Element) {lt : Token}
    {ts rest : List Token} {left : Text} {Q : List Token → Prop}, lt.isPunctuation ['<'] = true →
    Tagged ts e rest → HasPlainBodies all e.continuations → Reprints old new all rest left Q →
    Reprints old new all (lt :: ts) (e.unparse ++ left) fun us => ∃ lt' us' e' vs, us = lt' :: us' ∧
      lt'.isPunctuation ['<'] = true ∧ Tagged us' e' vs ∧ e'.unplaced = e.unplaced ∧ Q vs
  | .empty name items, lt, ts, rest, left, Q, hlt, h, _, hrest => by
    cases h with
    | empty hname htag =>
      have hprinted := ((reprints_name hname (head_unparseAll items true)
        (reprints_startTag htag hrest)).mark isMark_less).drop
          (not_backslash_of_isPunctuation hlt (by decide))
      rw [Element.unparse]
      simp only [List.cons_append, List.append_assoc, List.nil_append]
      refine hprinted.mono ?_
      rintro _ ⟨lt', us, rfl, hlt', _, hname', items', vs, htag', hsame, hq⟩
      refine ⟨lt', us, _, vs, rfl, hlt', .empty hname' htag', ?_, hq⟩
      rw [Element.unplaced, hsame, Element.unplaced]
  | .node name items content, lt, ts, rest, left, Q, hlt, h, hplain, hrest => by
    cases h with
    | node hname htag hcontent hend =>
      have hinside := reprints_contents content hcontent hplain rfl
        (reprints_endTag hend hname.valid hrest)
      have hprinted := ((reprints_name hname (head_unparseAll items false)
        (reprints_startTag htag hinside)).mark isMark_less).drop
          (not_backslash_of_isPunctuation hlt (by decide))
      rw [Element.unparse]
      simp only [List.cons_append, List.append_assoc, List.nil_append]
      refine hprinted.mono ?_
      rintro _ ⟨lt', us, rfl, hlt', _, hname', items', _, htag', hsame, content', _, hcontent',
        hsame', vs, hend', hq⟩
      refine ⟨lt', us, _, vs, rfl, hlt', .node hname' htag' hcontent' hend', ?_, hq⟩
      rw [Element.unplaced, hsame, hsame', Element.unplaced]

theorem reprints_part {old new : Text} {all : List Token} : ∀ (c : Child) {ts rest : List Token}
    {left : Text} {Q : List Token → Prop}, Part ts c rest → HasPlainBodies all c.continuations →
    left.head? ≠ some '"' → Reprints old new all rest left Q →
    Reprints old new all ts (c.unparse ++ left) fun us => ∃ c' vs, Part us c' vs ∧
      c'.unplaced = c.unplaced ∧ Q vs
  | .text s, ts, rest, left, Q, h, _, hleft, hrest => by
    cases h with
    | text ht =>
      refine ((hrest.quote hleft).drop ht.not_backslash).mono ?_
      rintro _ ⟨t', vs, rfl, ht', hq⟩
      exact ⟨_, vs, .text ht', rfl, hq⟩
  | .expression e, ts, rest, left, Q, h, _, _, hrest => by
    cases h with
    | expression ht hbar =>
      refine (reprints_groupExpression ht hrest).mono ?_
      rintro _ ⟨t', vs, rfl, ⟨e', he', hsame, hbar'⟩, hq⟩
      exact ⟨_, vs, .expression he' (hbar'.trans hbar), congrArg Child.expression hsame, hq⟩
  | .element e, ts, rest, left, Q, h, hplain, _, hrest => by
    cases h with
    | element hlt he =>
      refine (reprints_element e hlt he hplain hrest).mono ?_
      rintro _ ⟨lt', us, e', vs, rfl, hlt', he', hsame, hq⟩
      exact ⟨_, vs, .element hlt' he', congrArg Child.element hsame, hq⟩
  | .continuation c, ts, rest, left, Q, h, hplain, _, hrest => by
    cases h with
    | @continuation g _ _ hc =>
      intro shown pos hshown
      have hbody := hplain c (List.mem_singleton.2 rfl) g (hshown.suffix.mem (by simp)) hc
      refine (reprints_body hc hbody hrest).mono ?_ shown pos hshown
      rintro _ ⟨g', vs, rfl, ⟨c', hc', hsame⟩, hq⟩
      exact ⟨_, vs, .continuation hc', congrArg Child.continuation hsame, hq⟩

theorem reprints_contents {old new : Text} {all : List Token} : ∀ (cs : List Child)
    {ts rest : List Token} {left : Text} {Q : List Token → Prop}, Contents ts cs rest →
    HasPlainBodies all (Child.allContinuations cs) → left.head? = some '<' →
    Reprints old new all rest left Q →
    Reprints old new all ts (Child.unparseAll cs ++ left) fun us => ∃ cs' vs, Contents us cs' vs ∧
      Child.allUnplaced cs' = Child.allUnplaced cs ∧ Q vs
  | [], ts, rest, left, Q, h, _, _, hrest => by
    cases h with
    | nil => exact hrest.mono fun us hq => ⟨[], us, .nil us, rfl, hq⟩
  | [c], ts, rest, left, Q, h, hplain, hleft, hrest => by
    cases h with
    | cons first more =>
      cases more with
      | nil =>
        have hquote : left.head? ≠ some '"' := by
          rw [hleft]
          decide
        rw [Child.allContinuations, hasPlainBodies_append] at hplain
        refine (reprints_part c first hplain.1 hquote hrest).mono ?_
        rintro us ⟨c', vs, hc', hsame, hq⟩
        refine ⟨[c'], vs, .cons hc' (.nil vs), ?_, hq⟩
        rw [Child.allUnplaced, hsame, Child.allUnplaced]
        rfl
  | c :: d :: cs, ts, rest, left, Q, h, hplain, hleft, hrest => by
    cases h with
    | cons first more =>
      rw [Child.allContinuations, hasPlainBodies_append] at hplain
      have hmore := (reprints_contents (d :: cs) more hplain.2 hleft hrest).space
        (Child.head_unparseAll d cs)
      rw [Child.unparseAll, List.append_assoc, List.cons_append]
      refine (reprints_part c first hplain.1 (head_ne_quote (by decide) _) hmore).mono ?_
      rintro us ⟨c', _, hc', hsame, cs', vs, hcs', hsames, hq⟩
      refine ⟨c' :: cs', vs, .cons hc' hcs', ?_, hq⟩
      rw [Child.allUnplaced, hsame, hsames]
      rfl

end

end

end XmlTemplate
