import XmlTemplate.Proofs.Token.Group
import XmlTemplate.Proofs.Token.Stretch

/-!
# Marks of directives

A number sign is a token only outside of groups, and there only if a square bracket follows it with
nothing but spaces and tabs in between. These make no token, and so the group that the bracket opens
is the token right behind the mark, wherever it ends (`marksPlaced_of_lex`).
-/

set_option autoImplicit false

namespace XmlTemplate

/-- Behind every mark of a directive comes a group in square brackets. -/
def MarksFollowed (ts : List Token) : Prop :=
  ∀ before t after, ts = before ++ t :: after → t.isPunctuation ['#'] = true →
    ∃ g ∈ after.head?, g.isGroup ['['] = true

/-- The marks of directives among the tokens of a source are in their places. -/
structure MarksPlaced (ts : List Token) : Prop where
  /-- Wherever a mark is found, it is one of the tokens outside of groups. -/
  outside : ∀ t, Token.Occurs t ts → t.isPunctuation ['#'] = true → t ∈ ts
  /-- No group at any depth has a mark in it. -/
  inside : ∀ g t, Token.Occurs g ts → t ∈ g.children → t.isPunctuation ['#'] = false
  /-- The token right behind a mark is a group in square brackets. -/
  followed : MarksFollowed ts

theorem MarksFollowed.of_append {ts us : List Token} (h : MarksFollowed (ts ++ us)) :
    MarksFollowed us := by
  rintro before t after rfl ht
  exact h (ts ++ before) t after (List.append_assoc ts before _).symm ht

/-- No mark comes last. -/
theorem MarksFollowed.getLast {ts : List Token} (h : MarksFollowed ts) :
    ∀ t ∈ ts.getLast?, t.isPunctuation ['#'] = false := by
  intro t ht
  rw [Bool.eq_false_iff]
  intro hmark
  obtain ⟨before, rfl⟩ := List.getLast?_eq_some_iff.1 ht
  obtain ⟨g, hg, -⟩ := h before t [] rfl hmark
  cases hg

/-- A token is among the tokens or in a group that is found there. -/
theorem Token.Occurs.mem_or_inside {t : Token} {ts : List Token} (h : t.Occurs ts) :
    t ∈ ts ∨ ∃ g, Token.Occurs g ts ∧ t ∈ g.children := by
  induction h with
  | here ts => exact .inl List.mem_cons_self
  | later u _ ih =>
    obtain hmem | ⟨g, hg, hmem⟩ := ih
    · exact .inl (List.mem_cons_of_mem u hmem)
    · exact .inr ⟨g, .later u hg, hmem⟩
  | inside d text p ts _ ih =>
    obtain hmem | ⟨g, hg, hmem⟩ := ih
    · exact .inr ⟨_, .here ts, hmem⟩
    · exact .inr ⟨g, .inside d text p ts hg, hmem⟩

section

variable {grouped : Bool} {shown s rest : Text} {pos : Position} {t : Token} {ts : List Token}

/-! ## What makes a mark -/

/-- A mark stands outside of groups, in front of what opens a directive. -/
theorem Shows.of_mark (h : Shows grouped s rest pos t) (ht : t.isPunctuation ['#'] = true) :
    grouped = false ∧ opensDirective rest = true := by
  cases h with
  | group => cases ht
  | @leaf c s rest pos kind here =>
    cases kind with
    | identifier | number | string => cases ht
    | punctuation =>
      obtain ⟨rfl, rfl⟩ : c = '#' ∧ s = [] := by simpa [Token.isPunctuation] using ht
      obtain ⟨hgrouped, hopens, -, -⟩ := lexeme_eq_sign here
      exact ⟨hgrouped, hopens⟩

/-- A token that opens a directive is a group in square brackets. -/
theorem Shows.isGroup_of_opensDirective (h : Shows grouped s rest pos t)
    (hopens : opensDirective (s ++ rest) = true) : t.isGroup ['['] = true := by
  cases h with
  | @leaf c s rest pos kind here =>
    exfalso
    rw [List.cons_append] at hopens
    cases hc : c == ' ' || c == '\t' with
    | true =>
      -- a space or a tab is a blank
      have hblank : isBlank c = true := by
        rw [Bool.or_eq_true, beq_iff_eq, beq_iff_eq] at hc
        rcases hc with rfl | rfl <;> decide
      simp [lexeme, hblank] at here
    | false =>
      rw [opensDirective_other hc, beq_iff_eq] at hopens
      have hbracket := lexeme_opener grouped .square (s ++ rest)
      rw [hopens] at here
      rw [Delimiter.opener, here] at hbracket
      cases hbracket
  | @group d inner rest pos children inside =>
    have hother : (d.opener == ' ' || d.opener == '\t') = false := by cases d <;> decide
    rw [List.cons_append, opensDirective_other hother, beq_iff_eq] at hopens
    rw [Token.isGroup, hopens, decide_eq_true_eq]

/-! ## Marks in a stretch of source -/

/-- Where a directive is opened, the first token is its group. What comes before the group is blank,
since a comment opens nothing. -/
theorem Lexes.isGroup_of_opensDirective (h : Lexes grouped shown rest pos ts)
    (hopens : opensDirective (shown ++ rest) = true) (hrest : opensDirective rest = false) :
    ∃ g ∈ ts.head?, g.isGroup ['['] = true := by
  cases ts with
  | nil =>
    rw [h.opensDirective_of_nil hrest] at hopens
    cases hopens
  | cons g ts =>
    obtain ⟨f, s, t, rfl, hf, hs, -⟩ := h.split
    have hgroup : opensDirective (s ++ (t ++ rest)) = true := by
      rw [← Bool.not_eq_false]
      intro hno
      rw [List.append_assoc, List.append_assoc, hf.opensDirective_of_nil hno] at hopens
      cases hopens
    exact ⟨g, rfl, hs.isGroup_of_opensDirective hgroup⟩

theorem Lexes.marksFollowed (h : Lexes grouped shown rest pos ts)
    (hrest : opensDirective rest = false) : MarksFollowed ts := by
  rintro before t after rfl ht
  -- the stretch is cut around the mark
  obtain ⟨f, s, u, rfl, -, hs, hu⟩ := h.split_at before
  exact hu.isGroup_of_opensDirective (hs.of_mark ht).2 hrest

/-- What is in a group is no mark. -/
theorem Lexes.not_mark (h : Lexes true shown rest pos ts) :
    ∀ t ∈ ts, t.isPunctuation ['#'] = false := by
  intro t ht
  rw [Bool.eq_false_iff]
  intro hmark
  obtain ⟨before, after, rfl⟩ := List.append_of_mem ht
  obtain ⟨f, s, u, rfl, -, hs, -⟩ := h.split_at before
  cases (hs.of_mark hmark).1

end

/-- The marks of directives in a source stand outside of groups, each of them with the group of its
directive right behind it. -/
theorem marksPlaced_of_lex {source : Text} {ts : List Token} (h : Token.lex source = .ok ts) :
    MarksPlaced ts := by
  have hlexes := Token.lex_eq_ok_iff.1 h
  have hinside : ∀ g t, Token.Occurs g ts → t ∈ g.children → t.isPunctuation ['#'] = false := by
    intro g t hg ht
    cases g with
    | leaf => cases ht
    | group d text p children =>
      obtain ⟨base, after, -, hchildren⟩ := hlexes.group_of_occurs hg
      exact hchildren.not_mark t ht
  refine ⟨fun t ht hmark => ?_, hinside, hlexes.marksFollowed rfl⟩
  obtain hmem | ⟨g, hg, hmem⟩ := ht.mem_or_inside
  · exact hmem
  · rw [hinside g t hg hmem] at hmark
    cases hmark

end XmlTemplate
