import XmlTemplate.Proofs.Template.Grammar
import XmlTemplate.Proofs.Token.Stretch
import XmlTemplate.Proofs.Token.Tiling
import XmlTemplate.Proofs.Token.Written

/-!
# Printing what remains of a source

A source is printed anew from its end on: `Reprints` says of a text that it can be printed for the
last tokens of a source, whatever stands before them. It has to have the tokens asked for, and it has
to be at least as calm as what it was printed for, since scripts are printed as they stand and
strings in them end where they did. Both are kept step by step: the next token of the source is left
out (`Reprints.drop`), something is written (`Reprints.mark`, `Reprints.word`, `Reprints.quote`), or
a group is written for a group (`Reprints.group`).
-/

set_option autoImplicit false

namespace XmlTemplate

/-! ## Calmness of what is written -/

theorem Calmer.refl (s : Text) : Calmer s s := fun _ _ => id

theorem Calmer.cons {c : Char} {s t : Text} (hquote : isQuote c = false) (hslash : c ≠ '\\')
    (h : Calmer s t) : Calmer (c :: s) t := by
  intro q hq ht
  have hc : c ≠ q := by
    rintro rfl
    rw [hquote] at hq
    cases hq
  exact (calm_cons_of_plain hc hslash).2 (h q hq ht)

/-- What comes after a stop does not depend on what stands before it. -/
theorem Calmer.after {x : Char} {s t : Text} (hx : IsStop x) (h : Calmer s t) (f : Text) :
    Calmer s (f ++ x :: t) := by
  intro q hq ht
  obtain ⟨-, ht⟩ := (calm_append_cons (ne_backslash_of_isQuote hq) (hx.ne_of_isQuote hq)
    hx.notBackslash f t).1 ht
  exact h q hq ht

theorem Calmer.word {w s t : Text} (hw : ∀ c ∈ w, isWord c = true) (h : Calmer s t) :
    Calmer (w ++ s) t := by
  induction w with
  | nil => exact h
  | cons c w ih =>
    obtain ⟨hc, hw⟩ := List.forall_mem_cons.1 hw
    refine (ih hw).cons (isQuote_of_isWord hc) ?_
    rintro rfl
    exact Bool.eq_false_iff.1 (isWord_of_mark (by decide)) hc

theorem Calmer.quote {w s t : Text} (hs : s.head? ≠ some '"') (h : Calmer s t) :
    Calmer (Literal.quote w ++ s) t :=
  fun q hq ht => calm_quote hq hs (h q hq ht)

theorem Delimiter.isStop_opener (d : Delimiter) : IsStop d.opener := by
  cases d <;> exact isStop_of_mark (by decide) (by decide)

theorem Token.isPunctuation_leaf (s : Text) (p : Span) :
    (Token.leaf .punctuation s p).isPunctuation s = true := decide_eq_true rfl

/-- No token starts with a line feed. -/
theorem Shows.head_ne {grouped : Bool} {s rest : Text} {pos : Position} {u : Token}
    (h : Shows grouped s rest pos u) : (s ++ rest).head? ≠ some '\n' := by
  cases h with
  | @leaf c s _ _ kind here =>
    rintro ⟨⟩
    rw [lexeme_eq_iff.2 (.blanks (by decide))] at here
    cases here
  | group d =>
    intro h
    exact absurd (Option.some.inj h) (by cases d <;> decide)

/-- A stretch parts before any of its tokens. -/
theorem Lexes.split_before {grouped : Bool} {shown rest : Text} {pos : Position} {us ts : List Token}
    {u : Token} (hus : ∀ v ∈ us.getLast?, v.isPunctuation ['\\'] = false)
    (h : Lexes grouped shown rest pos (us ++ u :: ts)) :
    ∃ a b, shown = a ++ b ∧ Lexes grouped b rest (pos.after a) (u :: ts) ∧
      u.span.start = (pos.after a).offset ∧ Calmer (b ++ rest) (a ++ (b ++ rest)) := by
  obtain ⟨a, b, rfl, -, hb, hnil, hlast⟩ := h.split_append us
  obtain ⟨f, s, t, rfl, hf, hs, ht⟩ := hb.split
  have hcalm : Calmer (f ++ (s ++ t) ++ rest) (a ++ (f ++ (s ++ t) ++ rest)) := by
    cases hus' : us.getLast? with
    | none =>
      rw [hnil (List.getLast?_eq_none_iff.1 hus')]
      exact .refl _
    | some v =>
      obtain ⟨g, s', rfl, hv⟩ := hlast v hus'
      rw [List.append_assoc g]
      exact hv.calmer (hus v hus') g
  have hfiller : Calmer (s ++ (t ++ rest)) (f ++ (s ++ (t ++ rest))) :=
    hf.calmer_of_nil hs.head_ne
  refine ⟨a ++ f, s ++ t, by simp, ?_, ?_, ?_⟩
  · rw [Position.after_append]
    exact .cons hs ht
  · rw [hs.span_eq.2, Position.after_append]
    rfl
  · simp only [List.append_assoc] at hcalm hfiller ⊢
    exact hfiller.trans hcalm

/-! ## What remains of a source -/

/-- The last tokens of a source, and the text that shows them from a place on. -/
structure Remains (source : Text) (all ts : List Token) (shown : Text) (pos : Position) : Prop where
  suffix : ts <:+ all
  place : pos.IsBefore source shown
  lexes : Lexes false shown [] pos ts

theorem Remains.of_lexes {source : Text} {all : List Token} (h : Lexes false source [] .first all) :
    Remains source all all source .first :=
  ⟨List.suffix_refl all, .first source, h⟩

section

variable {old new : Text} {all : List Token} {shown left : Text} {pos : Position} {u : Token}
  {us ts : List Token} {Q R : List Token → Prop}

/-- The first of the tokens, what stands before it, and what remains after it. -/
theorem Remains.split (h : Remains old all (u :: ts) shown pos) :
    ∃ f s rest, shown = f ++ (s ++ rest) ∧ Lexes false f (s ++ rest) pos [] ∧
      Shows false s rest (pos.after f) u ∧
        Remains old all ts rest ((pos.after f).after s) := by
  obtain ⟨f, s, rest, rfl, hf, hs, hrest⟩ := h.lexes.split
  rw [List.append_nil] at hf hs
  exact ⟨f, s, rest, rfl, hf, hs, (List.suffix_cons u ts).trans h.suffix,
    (h.place.after f).after s, hrest⟩

/-- The first tokens, up to the end of the last of them, and what remains after them. -/
theorem Remains.split_append (h : Remains old all (us ++ ts) shown pos) :
    ∃ a rest, shown = a ++ rest ∧ Lexes false a rest pos us ∧
      Remains old all ts rest (pos.after a) ∧
        ∀ u ∈ us.getLast?, u.span.stop = (pos.after a).offset := by
  obtain ⟨a, rest, rfl, ha, hrest, -, hlast⟩ := h.lexes.split_append us
  rw [List.append_nil] at ha
  refine ⟨a, rest, rfl, ha, ⟨(List.suffix_append us ts).trans h.suffix, h.place.after a, hrest⟩, ?_⟩
  intro u hu
  obtain ⟨f, s, rfl, hs⟩ := hlast u hu
  rw [hs.span_eq.2, Position.after_append, Position.offset_after _ s]
  rfl

/-! ## Rules of printing -/

/-- The second list is what remains of the first one after some tokens that are no backslashes. -/
inductive Skips : List Token → List Token → Prop
  | refl (ts : List Token) : Skips ts ts
  | cons {t : Token} {ts rest : List Token} (ht : t.isPunctuation ['\\'] = false)
      (more : Skips ts rest) : Skips (t :: ts) rest

theorem Skips.trans {ts us rest : List Token} (h : Skips ts us) (h' : Skips us rest) :
    Skips ts rest := by
  induction h with
  | refl => exact h'
  | cons ht _ ih => exact .cons ht (ih h')

theorem Skips.append {us : List Token} (hus : ∀ u ∈ us, u.isPunctuation ['\\'] = false)
    (rest : List Token) : Skips (us ++ rest) rest := by
  induction us with
  | nil => exact .refl rest
  | cons u us ih =>
    obtain ⟨hu, hus⟩ := List.forall_mem_cons.1 hus
    exact .cons hu (ih hus)

theorem not_backslash_of_isPunctuation {s : Text} {t : Token} (h : t.isPunctuation s = true)
    (hs : s ≠ ['\\']) : t.isPunctuation ['\\'] = false := by
  rw [Bool.eq_false_iff]
  intro ht
  rcases t with ⟨_ | _ | _ | _, _, _⟩ | _ <;> try cases h
  simp only [Token.isPunctuation, decide_eq_true_eq] at h ht
  exact hs (h.symm.trans ht)

/-- In the text `new`, its last part `left` can be printed for the last tokens of `old`: it is as
calm, and it has tokens as asked for. -/
def Reprints (old new : Text) (all ts : List Token) (left : Text) (Q : List Token → Prop) : Prop :=
  ∀ shown pos, Remains old all ts shown pos → Calmer left shown ∧
    ∀ pos' : Position, pos'.IsBefore new left → ∃ us, Lexes false left [] pos' us ∧ Q us

namespace Reprints

theorem mono (h : Reprints old new all ts left Q) (hQ : ∀ us, Q us → R us) :
    Reprints old new all ts left R := by
  intro shown pos hshown
  obtain ⟨hcalm, hnew⟩ := h shown pos hshown
  refine ⟨hcalm, fun pos' hpos' => ?_⟩
  obtain ⟨us, hus, hq⟩ := hnew pos' hpos'
  exact ⟨us, hus, hQ us hq⟩

theorem nil : Reprints old new all [] [] fun us => us = [] :=
  fun _ _ _ => ⟨fun q _ _ => calm_nil q, fun pos' _ => ⟨[], .nil false [] pos', rfl⟩⟩

/-- A token of the source is left out. -/
theorem drop (hu : u.isPunctuation ['\\'] = false) (h : Reprints old new all ts left Q) :
    Reprints old new all (u :: ts) left Q := by
  intro shown pos hshown
  obtain ⟨f, s, rest, rfl, -, hs, hrest⟩ := hshown.split
  obtain ⟨hcalm, hnew⟩ := h rest _ hrest
  exact ⟨hcalm.trans (hs.calmer hu f), hnew⟩

/-- Tokens of the source are left out. -/
theorem skip {rest : List Token} (hts : Skips ts rest) (h : Reprints old new all rest left Q) :
    Reprints old new all ts left Q := by
  induction hts with
  | refl => exact h
  | cons hu _ ih => exact (ih h).drop hu

/-- Something is written, which does not disturb and is one token. -/
theorem write {w : Text} {S : Token → Prop} (h : Reprints old new all ts left Q)
    (hcalm : ∀ shown, Calmer left shown → Calmer (w ++ left) shown)
    (hlexes : ∀ (pos : Position) us, Lexes false left [] (pos.after w) us →
      ∃ t, Lexes false (w ++ left) [] pos (t :: us) ∧ S t) :
    Reprints old new all ts (w ++ left) fun us => ∃ t vs, us = t :: vs ∧ S t ∧ Q vs := by
  intro shown pos hshown
  obtain ⟨hleft, hnew⟩ := h shown pos hshown
  refine ⟨hcalm shown hleft, fun pos' hpos' => ?_⟩
  obtain ⟨us, hus, hq⟩ := hnew _ (hpos'.after w)
  obtain ⟨t, ht, hS⟩ := hlexes pos' us hus
  exact ⟨t :: us, ht, t, us, rfl, hS, hq⟩

theorem mark {c : Char} (hc : IsMark c) (h : Reprints old new all ts left Q) :
    Reprints old new all ts (c :: left) fun us =>
      ∃ t vs, us = t :: vs ∧ t.isPunctuation [c] = true ∧ Q vs :=
  h.write (w := [c]) (fun _ hleft => hleft.cons hc.lone.notQuote hc.notBackslash) fun _ _ hus =>
    ⟨_, .mark hc hus, Token.isPunctuation_leaf _ _⟩

/-- A number sign is written before a square bracket. -/
theorem sign (h : Reprints old new all ts ('[' :: left) Q) :
    Reprints old new all ts ('#' :: '[' :: left) fun us =>
      ∃ t vs, us = t :: vs ∧ t.isPunctuation ['#'] = true ∧ Q vs :=
  h.write (w := ['#']) (fun _ hleft => hleft.cons (by decide) (by decide)) fun _ _ hus =>
    ⟨_, .sign hus, Token.isPunctuation_leaf _ _⟩

theorem word {w : Text} (hw : IsWordText w)
    (hleft : ∀ c ∈ left.head?, isWord c = false ∧ isQuote c = false)
    (h : Reprints old new all ts left Q) :
    Reprints old new all ts (w ++ left) fun us =>
      ∃ t vs, us = t :: vs ∧ (t.isKind .identifier = true ∧ t.text = w) ∧ Q vs :=
  h.write (fun _ => Calmer.word hw.word) fun _ _ hus =>
    ⟨_, .word hw (by rwa [List.append_nil]) hus, rfl, rfl⟩

theorem quote {s : Text} (hleft : left.head? ≠ some '"') (h : Reprints old new all ts left Q) :
    Reprints old new all ts (Literal.quote s ++ left) fun us =>
      ∃ t vs, us = t :: vs ∧ Grammar.Spells t s ∧ Q vs := by
  refine h.write (fun _ => Calmer.quote hleft) fun pos us hus =>
    ⟨_, .quote (by rwa [List.append_nil]) hus, ?_⟩
  exact .string rfl (Script.readConstant_quote s)

theorem space (hleft : ∀ c ∈ left.head?, isBlank c = false) (h : Reprints old new all ts left Q) :
    Reprints old new all ts (' ' :: left) Q := by
  intro shown pos hshown
  obtain ⟨hcalm, hnew⟩ := h shown pos hshown
  refine ⟨hcalm.cons (by decide) (by decide), fun pos' hpos' => ?_⟩
  obtain ⟨us, hus, hq⟩ := hnew _ hpos'.next
  exact ⟨us, .space (by rwa [List.append_nil]) hus, hq⟩

end Reprints

end

end XmlTemplate
