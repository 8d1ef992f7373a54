import XmlTemplate.Proofs.Template.Reading
import XmlTemplate.Proofs.Template.ReprintHead

/-!
# How deep elements can be nested

The grammar of templates knows no bound on how deep elements are nested, but reading them takes room.
Here is how much: elements with a name of one letter are read up to a depth that the room gives
(`Template.parse_nested_eq_ok_iff`), while the grammar derives them at any depth
(`Template.derives_nested`).
-/

set_option autoImplicit false

namespace XmlTemplate

open Grammar

/-- An element `a` in `n` others of that name. -/
def nestedElement : Nat → Element
  | 0 => .empty ['a'] []
  | n + 1 => .node ['a'] [] [.element (nestedElement n)]

/-- A template for nested elements in a document of their own. -/
def nestedTemplate (n : Nat) : Template := ⟨nestedElement n, none, none, some ⟨.v1_0, none⟩⟩

theorem reprints_nestedElement {old new : Text} {all ts : List Token} (n : Nat) {left : Text}
    {Q : List Token → Prop} (h : Reprints old new all ts left Q) :
    Reprints old new all ts ((nestedElement n).unparse ++ left) fun us => ∃ lt vs ws, us = lt :: vs ∧
      lt.isPunctuation ['<'] = true ∧ Tagged vs (nestedElement n) ws ∧ Q ws := by
  have hname : ∀ {t : Token} {us : List Token}, Spells t ['a'] → Name (t :: us) ['a'] us :=
    fun ht => .string ht (by decide +kernel)
  induction n generalizing left Q with
  | zero =>
    have hprinted := (((h.mark isMark_greater).mark isMark_slash).quote (s := ['a'])
      (head_ne_quote (by decide) _)).mark isMark_less
    refine hprinted.mono ?_
    rintro _ ⟨lt, _, rfl, hlt, t, _, rfl, ht, slash, _, rfl, hslash, gt, vs, rfl, hgt, hq⟩
    exact ⟨lt, _, vs, rfl, hlt, .empty (hname ht) (.empty hslash hgt), hq⟩
  | succ n ih =>
    have hend := ((((h.mark isMark_greater).quote (s := ['a']) (head_ne_quote (by decide) _)).mark
      isMark_slash).mark isMark_less)
    have hprinted := (((ih hend).mark isMark_greater).quote (s := ['a'])
      (head_ne_quote (by decide) _)).mark isMark_less
    have htext : (nestedElement (n + 1)).unparse ++ left = '<' :: (Literal.quote ['a'] ++ '>' ::
        ((nestedElement n).unparse ++ '<' :: '/' :: (Literal.quote ['a'] ++ '>' :: left))) := by
      simp [nestedElement, Element.unparse, Child.unparseAll, Child.unparse,
        AttributeItem.unparseAll]
    rw [htext]
    refine hprinted.mono ?_
    rintro _ ⟨lt, _, rfl, hlt, t, _, rfl, ht, gt, _, rfl, hgt, lt₁, us, vs, rfl, hlt₁, hinner, lt₂, _,
      rfl, hlt₂, slash, _, rfl, hslash, t₂, _, rfl, ht₂, gt₂, ws, rfl, hgt₂, hq⟩
    refine ⟨lt, _, ws, rfl, hlt, .node (hname ht) (.opened hgt) ?_
      (.named hlt₂ hslash (hname ht₂) hgt₂), hq⟩
    exact .cons (.element hlt₁ hinner) (.nil _)

/-- Nested elements fit if there is room for the name of the innermost one. -/
theorem fits_nestedElement {permission : Permission} {room n : Nat} :
    (nestedElement n).Fits permission room ↔ 2 * n + 7 ≤ room := by
  have hname : nameRoom ['a'] = 7 := rfl
  induction n generalizing room with
  | zero => simp [nestedElement, Element.Fits, hname]
  | succ n ih =>
    simp only [nestedElement, Element.Fits, Child.AllFit, Child.Fits, ih, hname, elementRoom]
    simp
    omega

namespace Template

variable {permission : Permission} {room : Nat}

/-- The grammar derives nested elements at any depth. -/
theorem derives_nested (n : Nat) : ∃ ts, Token.lex (nestedTemplate n).unparse = .ok ts ∧
    Derives (nestedTemplate n).unparse ts (nestedTemplate n) [] := by
  have hroot := reprints_nestedElement n (.nil : Reprints [] (nestedTemplate n).unparse [] [] [] _)
  have hwhole := reprints_prolog ⟨.v1_0, none⟩ hroot
  rw [List.append_nil] at hwhole
  obtain ⟨-, hnew⟩ := hwhole [] .first (.of_lexes (.nil false [] .first))
  obtain ⟨ts, hlexes, us, hdeclared, lt, vs, _, rfl, hlt, helement, rfl⟩ :=
    hnew .first (.first (nestedTemplate n).unparse)
  exact ⟨ts, Token.lex_eq_ok_iff.2 hlexes,
    .intro (.nil ts) (.some hdeclared) hlt helement (.inr rfl)⟩

/-- Nested elements are read where there is room for them. -/
theorem parse_nested_eq_ok_iff {n : Nat} :
    parse permission room (nestedTemplate n).unparse = .ok (nestedTemplate n) ↔
      2 * n + 11 ≤ room := by
  have hroom : (nestedTemplate n).Fits permission room ↔ 2 * n + 11 ≤ room := by
    have hroot : (nestedElement n).Fits permission (room - readingRoom) ↔ 2 * n + 11 ≤ room := by
      rw [fits_nestedElement, readingRoom]
      omega
    exact ⟨fun h => hroot.1 h.root, fun h => ⟨nofun, nofun, hroot.2 h⟩⟩
  obtain ⟨ts, hlex, hderives⟩ := derives_nested n
  rw [← hroom]
  constructor
  · intro h
    obtain ⟨_, -, -, hfits⟩ := derives_of_parse h
    exact hfits
  · exact parse_of_derives hlex hderives

/-- The grammar derives more than is read: elements nested deeper than there is room for. -/
theorem derives_nested_not_parse :
    ∃ ts, Token.lex (nestedTemplate 500).unparse = .ok ts ∧
      Derives (nestedTemplate 500).unparse ts (nestedTemplate 500) [] ∧
        parse .granted maxRoom (nestedTemplate 500).unparse ≠ .ok (nestedTemplate 500) := by
  obtain ⟨ts, hlex, hderives⟩ := derives_nested 500
  exact ⟨ts, hlex, hderives, mt parse_nested_eq_ok_iff.1 (by decide)⟩

end Template

end XmlTemplate
