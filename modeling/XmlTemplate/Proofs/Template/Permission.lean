import XmlTemplate.Proofs.Template.Reading
import XmlTemplate.Proofs.Template.Restricted
import XmlTemplate.Proofs.Template.Unparse

/-!
# Reading with continuations forbidden

Of the options only the permission for continuations counts for reading, and of the permission only
its truth. Forbidding continuations takes away the templates that have one, at any depth, and no
others: the grammar is the same, and what fits without the permission is what fits with it and has
no continuation (`Element.fits_refused_iff`).
-/

set_option autoImplicit false

namespace XmlTemplate

/-! ## What fits without the permission -/

mutual

theorem Element.fits_refused_iff {room : Nat} :
    ∀ {e : Element}, e.Fits .refused room ↔ e.Fits .granted room ∧ e.continuations = []
  | .empty name items => by simp only [Element.Fits, Element.continuations, and_true]
  | .node name items content => by
    simp only [Element.Fits, Element.continuations, Child.allFit_refused_iff, and_assoc]

theorem Child.fits_refused_iff {room : Nat} :
    ∀ {c : Child}, c.Fits .refused room ↔ c.Fits .granted room ∧ c.continuations = []
  | .text s => by simp only [Child.Fits, Child.continuations, and_true]
  | .expression e => by simp only [Child.Fits, Child.continuations, and_true]
  | .element e => Element.fits_refused_iff
  | .continuation c => by simp [Child.Fits, Child.continuations, Continuation.Fits]

theorem Child.allFit_refused_iff {room : Nat} :
    ∀ {cs : List Child}, Child.AllFit .refused room cs ↔
      Child.AllFit .granted room cs ∧ Child.allContinuations cs = []
  | [] => by simp only [Child.AllFit, Child.allContinuations, and_true]
  | c :: cs => by
    simp only [Child.AllFit, Child.allContinuations, List.append_eq_nil_iff,
      Child.fits_refused_iff, Child.allFit_refused_iff]
    exact and_and_and_comm

end

theorem Template.fits_refused_iff {room : Nat} {t : Template} :
    t.Fits .refused room ↔ t.Fits .granted room ∧ t.root.continuations = [] := by
  constructor
  · intro h
    obtain ⟨hroot, hnone⟩ := Element.fits_refused_iff.1 h.root
    exact ⟨⟨h.destination, h.layout, hroot⟩, hnone⟩
  · rintro ⟨h, hnone⟩
    exact ⟨h.destination, h.layout, Element.fits_refused_iff.2 ⟨h.root, hnone⟩⟩

/-! ## Options -/

theorem Settings.permission_of_allowed {o : Options} (h : o.allowContinuations = true) :
    (Settings.options o).permission = .granted := by
  simp only [Settings.permission, h, if_true]

theorem Settings.permission_of_forbidden {o : Options} (h : o.allowContinuations = false) :
    (Settings.options o).permission = .refused := by
  simp only [Settings.permission, h, Bool.false_eq_true, if_false]

namespace Template

variable {room : Nat} {source : Text} {t : Template}

/-- What is read with continuations forbidden is what is read with them allowed and has none. -/
theorem parse_refused_eq_ok_iff :
    parse .refused room source = .ok t ↔
      parse .granted room source = .ok t ∧ t.root.continuations = [] := by
  rw [parse_eq_ok_iff, parse_eq_ok_iff]
  constructor
  · rintro ⟨ts, hlex, hderives, hfits⟩
    obtain ⟨hfits, hnone⟩ := fits_refused_iff.1 hfits
    exact ⟨⟨ts, hlex, hderives, hfits⟩, hnone⟩
  · rintro ⟨⟨ts, hlex, hderives, hfits⟩, hnone⟩
    exact ⟨ts, hlex, hderives, fits_refused_iff.2 ⟨hfits, hnone⟩⟩

/-- A template with a continuation fails to be read where they are forbidden, for that reason. -/
theorem parse_refused_of_continuation (h : parse .granted room source = .ok t)
    (hsome : t.root.continuations ≠ []) :
    ∃ p, parse .refused room source = .error ⟨.continuationsDisabled, p⟩ := by
  obtain hok | herr := parse_or_disabled h
  · obtain ⟨-, hnone⟩ := parse_refused_eq_ok_iff.1 hok
    exact absurd hnone hsome
  · exact herr

/-- A source is read alike under all options that agree on whether continuations are allowed.
Options that forbid them take away exactly the templates with a continuation, which fail for that
reason; all other answers are the same, and all sources that are no templates stay so. -/
theorem parse_under_options (source : Text) (room : Nat) (o p : Options) :
    (o.allowContinuations = p.allowContinuations →
      parse (Settings.options o).permission room source =
        parse (Settings.options p).permission room source) ∧
    (o.allowContinuations = false → p.allowContinuations = true →
      (∀ t, parse (Settings.options o).permission room source = .ok t ↔
        parse (Settings.options p).permission room source = .ok t ∧ t.root.continuations = []) ∧
      ∀ t, parse (Settings.options p).permission room source = .ok t →
        t.root.continuations ≠ [] → ∃ place,
          parse (Settings.options o).permission room source =
            .error ⟨.continuationsDisabled, place⟩) ∧
    (o.allowContinuations = false → ∀ t,
      parse (Settings.options o).permission room source = .ok t → t.root.continuations = []) := by
  refine ⟨fun hsame => ?_, fun hforbidden hallowed => ?_, fun hforbidden t h => ?_⟩
  · simp only [Settings.permission, hsame]
  · rw [Settings.permission_of_forbidden hforbidden, Settings.permission_of_allowed hallowed]
    exact ⟨fun t => parse_refused_eq_ok_iff, fun t => parse_refused_of_continuation⟩
  · rw [Settings.permission_of_forbidden hforbidden] at h
    exact (parse_refused_eq_ok_iff.1 h).2

/-- A template with a continuation in an element of its root. -/
def hookedSource : Text :=
  "<?xml version='1.0'?><a><b>\x7b|out| pass\x7d</b></a>".toList

theorem exists_parse_hookedSource : ∃ t,
    parse .granted (maxRoom - keepingRoom) hookedSource = .ok t ∧ t.root.continuations ≠ [] := by
  have hread : (parse .granted (maxRoom - keepingRoom) hookedSource).toOption.map
      (fun t => t.root.continuations.length) = some 1 := by
    decide +kernel
  cases hparse : parse .granted (maxRoom - keepingRoom) hookedSource with
  | error e =>
    rw [hparse] at hread
    cases hread
  | ok t =>
    rw [hparse] at hread
    refine ⟨t, rfl, fun hnone => ?_⟩
    simp [Except.toOption, hnone] at hread

/-- A nought forbids continuations as a false does, and a one allows them: the same source is read
under one of the options and not under the other. -/
theorem parse_hookedSource_under_options :
    (∃ t, parse (Settings.options ⟨none, .int 1⟩).permission maxRoom hookedSource = .ok t ∧
      t.root.continuations ≠ []) ∧
    (∃ place, parse (Settings.options ⟨none, .int 0⟩).permission maxRoom hookedSource =
      .error ⟨.continuationsDisabled, place⟩) ∧
    parse (Settings.options ⟨some [' '], .int 1⟩).permission maxRoom hookedSource =
      parse (Settings.options .default).permission maxRoom hookedSource := by
  obtain ⟨t, hread, hsome⟩ := exists_parse_hookedSource
  have hparse := parse_mono (Nat.sub_le maxRoom keepingRoom) hread
  obtain ⟨-, hdiffer, -⟩ := parse_under_options hookedSource maxRoom ⟨none, .int 0⟩ ⟨none, .int 1⟩
  obtain ⟨hsame, -⟩ :=
    parse_under_options hookedSource maxRoom ⟨some [' '], .int 1⟩ .default
  obtain ⟨-, hfails⟩ := hdiffer rfl rfl
  exact ⟨⟨t, hparse, hsome⟩, hfails t hparse hsome, hsame rfl⟩

end Template

end XmlTemplate
