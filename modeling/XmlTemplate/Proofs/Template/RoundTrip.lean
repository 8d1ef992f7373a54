import XmlTemplate.Proofs.Template.Reading
import XmlTemplate.Proofs.Template.ReprintHead

/-!
# Reading what was written

A template that was read from a source and written as a source text is read from that text again, in
the same room and with the same permission, and differs at most in its places
(`Template.parse_unparse`). Scripts are written as they stand, and the statements of continuations as
they were made out of the bodies; the bodies have to do without other blanks than spaces, tabs and
line feeds, since statements end their lines at some of those.
-/

set_option autoImplicit false

namespace XmlTemplate

open Grammar

theorem Element.head_unparse (e : Element) (left : Text) : (e.unparse ++ left).head? = some '<' := by
  cases e <;> rfl

/-- A template is printed as `Template.unparse` writes it, and derived again up to places. -/
theorem reprints_template {old new : Text} {i j : Nat} {ts : List Token} {t : Template}
    (htiles : Tiles old i j ts) (h : Derives old ts t [])
    (hplain : HasPlainBodies ts t.root.continuations) :
    Reprints old new ts ts t.unparse fun us =>
      ∃ t', Derives new us t' [] ∧ t'.unplaced = t.unplaced := by
  cases h with
  | @intro us vs _ lt root into layout declared hhead hdeclared hlt hroot htarget =>
    have helement : Reprints old new ts (lt :: vs) (root.unparse ++ []) _ :=
      reprints_element root hlt hroot hplain .nil
    have hdeclaration : Reprints old new ts us
        (declared.elim [] Prolog.unparse ++ (root.unparse ++ [])) fun us => ∃ ws,
          OptionalDeclaration us declared ws ∧ ∃ lt vs root', ws = lt :: vs ∧
            lt.isPunctuation ['<'] = true ∧ Tagged vs root' [] ∧ root'.unplaced = root.unplaced := by
      cases hdeclared with
      | nil =>
        refine helement.mono ?_
        rintro _ ⟨lt', us, root', vs, rfl, hlt', hroot', hsame, rfl⟩
        exact ⟨_, .nil _, lt', us, root', rfl, hlt', hroot', hsame⟩
      | some hp =>
        refine ((reprints_prolog _ helement).skip hp.skips).mono ?_
        rintro us ⟨_, hp', lt', us, root', vs, rfl, hlt', hroot', hsame, rfl⟩
        exact ⟨_, .some hp', lt', us, root', rfl, hlt', hroot', hsame⟩
    have hopens : (declared.elim [] Prolog.unparse ++ (root.unparse ++ [])).head? = some '<' := by
      cases declared with
      | none => exact root.head_unparse []
      | some => rfl
    have hwhole := reprints_head htiles hhead hopens hdeclaration
    rw [List.append_nil] at hwhole
    refine hwhole.mono ?_
    rintro us ⟨into', layout', ws, hhead', hinto, hlayout, _, hdeclared', lt', vs, root', rfl, hlt',
      hroot', hsame⟩
    refine ⟨_, .intro hhead' hdeclared' hlt' hroot' ?_, ?_⟩
    · rw [← Option.isSome_map, hinto, Option.isSome_map]
      exact htarget
    · simp only [Template.unplaced, hsame, hinto, hlayout]

namespace Template

variable {permission : Permission} {room : Nat} {source : Text} {t : Template}

/-- Reading a template, writing it and reading it again amounts to reading it, up to places. -/
theorem parse_unparse (h : parse permission room source = .ok t)
    (hplain : ∀ ts, Token.lex source = .ok ts → HasPlainBodies ts t.root.continuations) :
    ∃ t', parse permission room t.unparse = .ok t' ∧ t'.same t = true ∧
      t'.unplaced = t.unplaced := by
  obtain ⟨ts, hlex, hderives, hfits⟩ := derives_of_parse h
  have hlexes := Token.lex_eq_ok_iff.1 hlex
  have htiles : Tiles source 0 (0 + source.length) ts :=
    tiles_of_lexes hlexes (by rw [List.append_nil]; exact .first source)
  have hprints : Reprints source t.unparse ts ts t.unparse _ :=
    reprints_template htiles hderives (hplain ts hlex)
  obtain ⟨-, hnew⟩ := hprints source .first (.of_lexes hlexes)
  obtain ⟨us, hus, t', hderives', hsame⟩ := hnew .first (.first t.unparse)
  have hfits' : t'.Fits permission room := by
    rwa [← fits_unplaced, hsame, fits_unplaced]
  exact ⟨t', parse_of_derives (Token.lex_eq_ok_iff.2 hus) hderives' hfits', same_of_unplaced hsame,
    hsame⟩

/-- A template with a destination, a directive and a declaration, and in it an attribute, a fill, an
expression with a comment, a literal, a continuation and an element. -/
def variedSource : Text :=
  ("out, #[format=tabs]<?xml version='1.0'?><a b = '1' \x7b.. c\x7d>\x7bd # x\n\x7d 'e' " ++
    "\x7b| f |\n    pass\n\x7d <g/></>").toList

/-- The template in `variedSource` as it is written. -/
def variedText : Text :=
  ("out, #[format=tabs]<?xml version=\"1.0\" encoding=\"UTF-8\"?><\"a\" \"b\"=\"1\" " ++
    "\x7b..c\x7d>\x7bd # x\n\x7d \"e\" \x7b|f|\npass\n\x7d <\"g\"/></\"a\">").toList

theorem parse_unparse_variedSource :
    ∃ t, parse .granted maxRoom variedSource = .ok t ∧ t.unparse = variedText ∧
      (∀ ts, Token.lex variedSource = .ok ts → HasPlainBodies ts t.root.continuations) ∧
        ∃ t', parse .granted maxRoom t.unparse = .ok t' ∧ t'.same t = true ∧
          t'.unplaced = t.unplaced := by
  have hread : (parse .granted maxRoom variedSource).toOption.map unparse = some variedText := by
    decide +kernel
  have hbodies : (Token.lex variedSource).toOption.map (fun ts => ts.all fun g => g.body.all fun c =>
      !isBlank c || c == ' ' || c == '\t' || c == '\n') = some true := by
    decide +kernel
  cases hparse : parse .granted maxRoom variedSource with
  | error e =>
    rw [hparse] at hread
    cases hread
  | ok t =>
    rw [hparse] at hread
    have hplain : ∀ ts, Token.lex variedSource = .ok ts → HasPlainBodies ts t.root.continuations := by
      intro ts hlex c _ g hg _ d hd hblank
      rw [hlex] at hbodies
      have hall := List.all_eq_true.1 (Option.some.inj hbodies) g hg
      simpa [hblank, or_assoc] using List.all_eq_true.1 hall d hd
    exact ⟨t, rfl, Option.some.inj hread, hplain, parse_unparse hparse hplain⟩

end Template

end XmlTemplate
