import XmlTemplate.Proofs.Template.Unparse
import XmlTemplate.Proofs.Token.Moved

/-!
# Markup in another place

Tokens that are moved derive the same markup, up to places: the grammar looks at kinds and texts,
and what it takes out of a group by the place of a token in it is found by the distance between the
two, which moving keeps (`Token.innerFrom_moved`).
-/

set_option autoImplicit false

namespace XmlTemplate

variable (base : Position)

/-! ## Tokens -/

theorem Token.movedAll_eq_map (ts : List Token) :
    Token.movedAll base ts = ts.map (Token.moved base) := by
  induction ts with
  | nil => rfl
  | cons t ts ih => rw [Token.movedAll, ih, List.map_cons]

@[simp]
theorem Token.text_moved (t : Token) : (t.moved base).text = t.text := by
  cases t <;> rfl

@[simp]
theorem Token.span_moved (t : Token) : (t.moved base).span = t.span.moved base := by
  cases t <;> rfl

@[simp]
theorem Token.isKind_moved (kind : Kind) (t : Token) :
    (t.moved base).isKind kind = t.isKind kind := by
  cases t <;> rfl

@[simp]
theorem Token.isPunctuation_moved (s : Text) (t : Token) :
    (t.moved base).isPunctuation s = t.isPunctuation s := by
  rcases t with ⟨_ | _ | _ | _, _, _⟩ | _ <;> rfl

@[simp]
theorem Token.isNameWord_moved (t : Token) : (t.moved base).isNameWord = t.isNameWord := by
  rcases t with ⟨_ | _ | _ | _, _ | _, _⟩ | _ <;> rfl

@[simp]
theorem Token.isNameMark_moved (t : Token) : (t.moved base).isNameMark = t.isNameMark := by
  rcases t with ⟨_ | _ | _ | _, _, _⟩ | _ <;> rfl

@[simp]
theorem Token.isGroup_moved (opener : Text) (t : Token) :
    (t.moved base).isGroup opener = t.isGroup opener := by
  cases t <;> rfl

@[simp]
theorem Token.shown_moved (t : Token) : (t.moved base).shown = t.shown := by
  cases t <;> rfl

theorem Token.children_moved (t : Token) :
    (t.moved base).children = t.children.map (Token.moved base) := by
  cases t with
  | leaf => rfl
  | group d text p children => exact Token.movedAll_eq_map base children

theorem Token.innerFrom_moved (g t : Token) :
    (g.moved base).innerFrom (t.moved base) = g.innerFrom t := by
  simp only [Token.innerFrom, text_moved, span_moved, Span.moved, Nat.add_sub_add_left]

theorem Token.innerAfter_moved (g t : Token) :
    (g.moved base).innerAfter (t.moved base) = g.innerAfter t := by
  simp only [Token.innerAfter, text_moved, span_moved, Span.moved, Nat.add_sub_add_left]

theorem Parse.isContinuation_moved (t : Token) :
    Parse.isContinuation (t.moved base) = Parse.isContinuation t := by
  rcases t with _ | ⟨_, _, _, _ | ⟨u, us⟩⟩
  · rfl
  · rfl
  · exact u.isPunctuation_moved base _

theorem Parse.isFill_moved (t : Token) : Parse.isFill (t.moved base) = Parse.isFill t := by
  rcases t with _ | ⟨_, _, _, _ | ⟨u, _ | ⟨v, us⟩⟩⟩
  · rfl
  · rfl
  · rfl
  · show ((u.moved base).isPunctuation ['.'] && (v.moved base).isPunctuation ['.']) = _
    rw [u.isPunctuation_moved, v.isPunctuation_moved]
    rfl

namespace Grammar

variable {base} {t : Token} {ts rest : List Token}

/-! ## Names -/

theorem Spells.moved {s : Text} (h : Spells t s) : Spells (t.moved base) s := by
  cases h with
  | string plain constant => exact .string plain constant

theorem isNameRun_moved {wordNext : Bool} :
    IsNameRun wordNext (ts.map (Token.moved base)) ↔ IsNameRun wordNext ts := by
  constructor
  · intro h
    generalize hus : ts.map (Token.moved base) = us at h
    induction h generalizing ts with
    | nil =>
      obtain rfl := List.map_eq_nil_iff.1 hus
      exact .nil _
    | word ht _ ih =>
      obtain ⟨t, ts, rfl, rfl, rfl⟩ := List.map_eq_cons_iff.1 hus
      rw [Token.isNameWord_moved] at ht
      exact .word ht (ih rfl)
    | mark ht _ ih =>
      obtain ⟨t, ts, rfl, rfl, rfl⟩ := List.map_eq_cons_iff.1 hus
      rw [Token.isNameMark_moved] at ht
      exact .mark ht (ih rfl)
  · intro h
    induction h with
    | nil => exact .nil _
    | @word t _ ht _ ih => exact .word ((t.isNameWord_moved base).trans ht) ih
    | @mark _ t _ ht _ ih => exact .mark ((t.isNameMark_moved base).trans ht) ih

theorem Name.moved {name : Text} (h : Name ts name rest) :
    Name (ts.map (Token.moved base)) name (rest.map (Token.moved base)) := by
  cases h with
  | @run run _ filled joined longest valid =>
    have htext : (run.map (Token.moved base)).flatMap Token.text = run.flatMap Token.text := by
      simp only [List.flatMap_map, Token.text_moved]
    have hlongest : ∀ t ∈ (rest.map (Token.moved base)).head?,
        ¬IsNameRun true (run.map (Token.moved base) ++ [t]) := by
      intro t ht hrun
      rw [List.head?_map] at ht
      obtain ⟨u, hu, rfl⟩ := Option.map_eq_some_iff.1 ht
      rw [← List.map_singleton, ← List.map_append, isNameRun_moved] at hrun
      exact longest u hu hrun
    rw [List.map_append, ← htext]
    refine .run (fun h => filled (List.map_eq_nil_iff.1 h)) (isNameRun_moved.2 joined) hlongest ?_
    rw [htext]
    exact valid
  | string value valid => exact .string value.moved valid

/-! ## Embedded scripts -/

/-- An expression is the same in every place, but for the place. -/
theorem Expression.moved {source : Text} {p : Span} {e : Embedded} (h : Expression source p e)
    (q : Span) : ∃ e', Expression source q e' ∧ e'.unplaced = e.unplaced := by
  cases h with
  | intro filled valid => exact ⟨_, .intro filled valid, rfl⟩

theorem GroupExpression.moved {e : Embedded} (h : GroupExpression t e) :
    ∃ e', GroupExpression (t.moved base) e' ∧ e'.unplaced = e.unplaced := by
  cases h with
  | intro h =>
    obtain ⟨e', he', hsame⟩ := h.moved _
    exact ⟨e', .intro he', hsame⟩

theorem Fill.moved {e : Embedded} (h : Fill t e) :
    ∃ e', Fill (t.moved base) e' ∧ e'.unplaced = e.unplaced := by
  cases h with
  | @intro a b first text p inside _ hg ha hb h =>
    have hmoved : t.moved base = .group .curly text (p.moved base)
        (Token.movedAll base (a :: b :: first :: inside)) := by
      rw [hg, Token.moved]
    obtain ⟨e', he', hsame⟩ := h.moved (first.moved base).span
    rw [← t.innerFrom_moved base] at he'
    exact ⟨e', .intro hmoved (a.isPunctuation_moved base _ ▸ ha) (b.isPunctuation_moved base _ ▸ hb)
      he', hsame⟩

theorem Body.moved {c : Continuation} (h : Body t c) :
    ∃ c', Body (t.moved base) c' ∧ c'.unplaced = c.unplaced := by
  cases h with
  | @intro a x b text p inside code hg ha hx hb valid =>
    have hmoved : t.moved base = .group .curly text (p.moved base)
        (Token.movedAll base (a :: x :: b :: inside)) := by
      rw [hg, Token.moved]
    rw [← t.innerAfter_moved base] at valid
    refine ⟨_, .intro hmoved (a.isPunctuation_moved base _ ▸ ha) (x.isKind_moved base _ ▸ hx)
      (b.isPunctuation_moved base _ ▸ hb) valid, ?_⟩
    rw [Continuation.unplaced, Continuation.unplaced, Token.text_moved, Token.innerAfter_moved]

/-! ## Markup -/

theorem Value.moved {value : AttributeValue} (h : Value t value) :
    ∃ value', Value (t.moved base) value' ∧ value'.unplaced = value.unplaced := by
  cases h with
  | literal h => exact ⟨_, .literal h.moved, rfl⟩
  | expression h =>
    obtain ⟨e', he', hsame⟩ := h.moved
    exact ⟨_, .expression he', congrArg AttributeValue.expression hsame⟩

theorem Item.moved {item : AttributeItem} (h : Item ts item rest) :
    ∃ item', Item (ts.map (Token.moved base)) item' (rest.map (Token.moved base)) ∧
      item'.unplaced = item.unplaced := by
  cases h with
  | @named _ _ _ eq t value hname heq hvalue =>
    obtain ⟨value', hvalue', hsame⟩ := hvalue.moved
    exact ⟨_, .named hname.moved (eq.isPunctuation_moved base _ ▸ heq) hvalue',
      congrArg (AttributeItem.named _) hsame⟩
  | fill h =>
    obtain ⟨e', he', hsame⟩ := h.moved
    exact ⟨_, .fill he', congrArg AttributeItem.fill hsame⟩

theorem StartTag.moved {items : List AttributeItem} {empty : Bool}
    (h : StartTag ts items empty rest) :
    ∃ items', StartTag (ts.map (Token.moved base)) items' empty (rest.map (Token.moved base)) ∧
      items'.map AttributeItem.unplaced = items.map AttributeItem.unplaced := by
  induction h with
  | @opened gt _ hgt => exact ⟨[], .opened (gt.isPunctuation_moved base _ ▸ hgt), rfl⟩
  | @empty slash gt _ hslash hgt =>
    exact ⟨[], .empty (slash.isPunctuation_moved base _ ▸ hslash)
      (gt.isPunctuation_moved base _ ▸ hgt), rfl⟩
  | item first _ ih =>
    obtain ⟨item', hitem', hsame⟩ := first.moved
    obtain ⟨items', hitems', hsames⟩ := ih
    refine ⟨item' :: items', .item hitem' hitems', ?_⟩
    rw [List.map_cons, hsame, hsames, List.map_cons]

theorem EndTag.moved {name : Text} (h : EndTag name ts rest) :
    EndTag name (ts.map (Token.moved base)) (rest.map (Token.moved base)) := by
  cases h with
  | @named lt slash gt _ _ hlt hslash hname hgt =>
    exact .named (lt.isPunctuation_moved base _ ▸ hlt) (slash.isPunctuation_moved base _ ▸ hslash)
      hname.moved (gt.isPunctuation_moved base _ ▸ hgt)
  | @short lt slash gt _ hlt hslash hgt =>
    exact .short (lt.isPunctuation_moved base _ ▸ hlt) (slash.isPunctuation_moved base _ ▸ hslash)
      (gt.isPunctuation_moved base _ ▸ hgt)

mutual

/-- Tokens that derive an element derive it in every place. -/
theorem Tagged.moved : ∀ {ts rest : List Token} {e : Element}, Tagged ts e rest →
    ∃ e', Tagged (ts.map (Token.moved base)) e' (rest.map (Token.moved base)) ∧
      e'.unplaced = e.unplaced
  | _, _, _, .empty hname htag => by
    obtain ⟨items', htag', hsame⟩ := htag.moved
    refine ⟨_, .empty hname.moved htag', ?_⟩
    rw [Element.unplaced, hsame, Element.unplaced]
  | _, _, _, .node hname htag hcontent hend => by
    obtain ⟨items', htag', hsame⟩ := htag.moved
    obtain ⟨content', hcontent', hsame'⟩ := hcontent.moved
    refine ⟨_, .node hname.moved htag' hcontent' hend.moved, ?_⟩
    rw [Element.unplaced, hsame, hsame', Element.unplaced]

theorem Contents.moved : ∀ {ts rest : List Token} {content : List Child},
    Contents ts content rest →
    ∃ content', Contents (ts.map (Token.moved base)) content' (rest.map (Token.moved base)) ∧
      Child.allUnplaced content' = Child.allUnplaced content
  | _, _, _, .nil _ => ⟨[], .nil _, rfl⟩
  | _, _, _, .cons first more => by
    obtain ⟨part', hpart', hsame⟩ := first.moved
    obtain ⟨parts', hparts', hsames⟩ := more.moved
    refine ⟨part' :: parts', .cons hpart' hparts', ?_⟩
    rw [Child.allUnplaced, hsame, hsames, Child.allUnplaced]

theorem Part.moved : ∀ {ts rest : List Token} {c : Child}, Part ts c rest →
    ∃ c', Part (ts.map (Token.moved base)) c' (rest.map (Token.moved base)) ∧
      c'.unplaced = c.unplaced
  | _, _, _, .text h => ⟨_, .text h.moved, rfl⟩
  | _, _, _, .expression h hbar => by
    obtain ⟨e', he', hsame⟩ := h.moved
    exact ⟨_, .expression he' ((Parse.isContinuation_moved base _).trans hbar),
      congrArg Child.expression hsame⟩
  | _, _, _, .continuation h => by
    obtain ⟨c', hc', hsame⟩ := h.moved
    exact ⟨_, .continuation hc', congrArg Child.continuation hsame⟩
  | _, _, _, .element hlt h => by
    obtain ⟨e', he', hsame⟩ := h.moved
    exact ⟨_, .element ((Token.isPunctuation_moved base _ _).trans hlt) he',
      congrArg Child.element hsame⟩

end

end Grammar

end XmlTemplate
