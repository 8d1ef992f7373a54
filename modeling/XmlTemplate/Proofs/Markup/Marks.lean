import XmlTemplate.Proofs.Markup.Nesting

/-!
# Counting the marks of a text

A text is well marked with so many beginnings and so many ends of tags if it has that many of
either angle bracket and every ampersand in it begins an entity (`IsMarked`). What documents put
between tags has no marks, names neither, and blanks can be taken off the end of a text without
changing its marks, which is what an end tag does in a pretty document.
-/

set_option autoImplicit false

namespace XmlTemplate

/-- The texts that stand for characters: those of the angle brackets, the ampersand and the double
quote. -/
def entities : List Text := ["&lt;".toList, "&gt;".toList, "&amp;".toList, "&quot;".toList]

/-- A text with so many angle brackets of either kind in which every ampersand begins an entity. -/
structure IsMarked (starts ends : Nat) (s : Text) : Prop where
  starts_eq : s.count '<' = starts
  ends_eq : s.count '>' = ends
  legible : IsLegible s

/-- Where an ampersand stands in a text that begins with an entity: at its head or after it. -/
theorem ampersand_cases {e s before after : Text} (he : '&' ∉ e)
    (h : '&' :: (e ++ s) = before ++ '&' :: after) :
    after = e ++ s ∨ ∃ b, s = b ++ '&' :: after := by
  cases before with
  | nil =>
    cases h
    exact .inl rfl
  | cons c b =>
    rw [List.cons_append, List.cons.injEq, List.append_eq_append_iff] at h
    rcases h.2 with ⟨t, -, hs⟩ | ⟨t, hb, ht⟩
    · exact .inr ⟨t, hs⟩
    · cases t with
      | nil => exact .inr ⟨[], ht.symm⟩
      | cons c' t =>
        obtain ⟨rfl, -⟩ := List.cons.inj ht
        rw [hb] at he
        exact absurd (List.mem_append_right b List.mem_cons_self) he

/-- In a legible text, what starts with an ampersand starts with an entity. -/
theorem IsLegible.entity_at {s before after : Text} (h : IsLegible s)
    (hs : s = before ++ '&' :: after) : ∃ e ∈ entities, e <+: '&' :: after := by
  have hrest : ∀ {c : Char} {s : Text}, (∃ v, (unescape? s).map (c :: ·) = some v) →
      IsLegible s := by
    rintro c s ⟨v, hv⟩
    obtain ⟨w, hw, -⟩ := Option.map_eq_some_iff.1 hv
    exact ⟨w, hw⟩
  have hentity : ∀ {e s before : Text}, '&' ∉ e → '&' :: e ∈ entities →
      '&' :: (e ++ s) = before ++ '&' :: after →
      (∀ b, s = b ++ '&' :: after → ∃ e ∈ entities, e <+: '&' :: after) →
      ∃ e ∈ entities, e <+: '&' :: after := by
    intro e s before he hmem heq ih
    rcases ampersand_cases he heq with rfl | ⟨b, hb⟩
    · exact ⟨_, hmem, List.prefix_append ('&' :: e) s⟩
    · exact ih b hb
  rw [IsLegible] at h
  induction s using unescape?.induct generalizing before with
  | case1 => cases before <;> cases hs
  | case2 s ih => exact hentity (e := "lt;".toList) (by decide) (by decide) hs fun _ => ih (hrest h)
  | case3 s ih => exact hentity (e := "gt;".toList) (by decide) (by decide) hs fun _ => ih (hrest h)
  | case4 s ih =>
    exact hentity (e := "amp;".toList) (by decide) (by decide) hs fun _ => ih (hrest h)
  | case5 s ih =>
    exact hentity (e := "quot;".toList) (by decide) (by decide) hs fun _ => ih (hrest h)
  | case6 s h₁ h₂ h₃ h₄ =>
    obtain ⟨v, hv⟩ := h
    rw [unescape?, if_pos rfl] at hv
    · cases hv
    · exact h₁
    · exact h₂
    · exact h₃
    · exact h₄
  | case7 c s _ _ _ _ hc ih =>
    rw [unescape?_cons_of_ne hc] at h
    cases before with
    | nil =>
      cases hs
      exact absurd rfl hc
    | cons d b =>
      cases hs
      exact ih (hrest h) rfl

namespace IsMarked

variable {m n m' n' : Nat} {s t : Text}

theorem append (hs : IsMarked m n s) (ht : IsMarked m' n' t) :
    IsMarked (m + m') (n + n') (s ++ t) where
  starts_eq := by rw [List.count_append, hs.starts_eq, ht.starts_eq]
  ends_eq := by rw [List.count_append, hs.ends_eq, ht.ends_eq]
  legible := hs.legible.append ht.legible

/-- A legible text without angle brackets. -/
theorem of_flat (hf : IsFlat s) (hl : IsLegible s) : IsMarked 0 0 s where
  starts_eq := List.count_eq_zero.2 fun h => (hf _ h).1 rfl
  ends_eq := List.count_eq_zero.2 fun h => (hf _ h).2 rfl
  legible := hl

theorem of_allBlank (h : s.allBlank = true) : IsMarked 0 0 s :=
  of_flat (isFlat_of_allBlank h) (isLegible_of_allBlank h)

theorem of_append_blank (ht : t.allBlank = true) (h : IsMarked m n (s ++ t)) : IsMarked m n s := by
  have hblank := of_allBlank ht
  have hstarts := h.starts_eq
  have hends := h.ends_eq
  rw [List.count_append, hblank.starts_eq] at hstarts
  rw [List.count_append, hblank.ends_eq] at hends
  exact ⟨hstarts, hends, h.legible.of_append_blank ht⟩

theorem of_isName (h : isName s = true) : IsMarked 0 0 s :=
  of_flat (isFlat_of_isName h)
    (isLegible_of_notMem fun hmem => (isNamePart_ne (isName_parts h _ hmem)).2.2.2.1 rfl)

/-- A piece for a name, which may be no text. -/
theorem of_namePiece {name : Option Text} (h : ∀ n ∈ name, isName n = true) :
    IsMarked 0 0 (name.getD []) := by
  cases name with
  | none => exact ⟨rfl, rfl, isLegible_nil⟩
  | some n => exact of_isName (h n rfl)

theorem of_escape (place : Place) (s : Text) : IsMarked 0 0 (escape place s) :=
  of_flat (isFlat_escape place s) (isLegible_escape place s)

/-- Marks that are given by computation. -/
theorem of_counts (h : s.count '<' = m ∧ s.count '>' = n ∧ '&' ∉ s) : IsMarked m n s :=
  ⟨h.1, h.2.1, isLegible_of_notMem h.2.2⟩

end IsMarked

/-! ## Operations on documents -/

namespace Document

variable {m n : Nat} {d e : Document}

theorem isMarked_start (version : Version) (standalone : Option Bool) {layout : Layout}
    (hlayout : layout.isBlank = true) : IsMarked 1 1 (start version standalone layout).text := by
  have hdeclaration : IsMarked 1 0 (declaration version) := by
    cases version <;> exact .of_counts (by decide)
  have hstandalone : IsMarked 0 0 (standaloneText standalone).flatten := by
    rcases standalone with _ | _ | _ <;> exact .of_counts (by decide)
  have hend : IsMarked 0 1 ['?', '>'] := .of_counts (by decide)
  rw [text_start]
  exact ((hdeclaration.append hstandalone).append hend).append
    (.of_allBlank (allBlank_lineBreak hlayout 0))

theorem isMarked_openTag (h : IsMarked m n d.text) {name : Option Text}
    (hname : ∀ s ∈ name, isName s = true) : IsMarked (m + 1) n (d.openTag name).text := by
  rw [text_openTag]
  have hmark : IsMarked 1 0 ['<'] := .of_counts (by decide)
  exact h.append (hmark.append (.of_namePiece hname))

theorem isMarked_beginAttribute (h : IsMarked m n d.text) {name : Option Text}
    (hname : ∀ s ∈ name, isName s = true) : IsMarked m n (d.beginAttribute name).text := by
  rw [text_beginAttribute]
  have hspace : IsMarked 0 0 [' '] := .of_counts (by decide)
  have hquote : IsMarked 0 0 ['=', '"'] := .of_counts (by decide)
  exact (h.append (hspace.append (.of_namePiece hname))).append hquote

theorem isMarked_endAttribute (h : IsMarked m n d.text) (value : Text) :
    IsMarked m n (d.endAttribute value).text := by
  rw [text_endAttribute]
  have hquote : IsMarked 0 0 ['"'] := .of_counts (by decide)
  exact (h.append (.of_escape .value value)).append hquote

theorem isMarked_enterContent (h : IsMarked m n d.text) (hlayout : d.layout.isBlank = true) :
    IsMarked m (n + 1) d.enterContent.text := by
  rw [text_enterContent]
  have hmark : IsMarked 0 1 ['>'] := .of_counts (by decide)
  exact h.append (hmark.append (.of_allBlank (allBlank_lineBreak hlayout _)))

theorem isMarked_endEmptyTag (h : IsMarked m n d.text) (hlayout : d.layout.isBlank = true) :
    IsMarked m (n + 1) d.endEmptyTag.text := by
  rw [text_endEmptyTag]
  have hmark : IsMarked 0 1 d.layout.emptyEnd := by
    cases d.layout with
    | terse => exact .of_counts (s := ['/', '>']) (by decide)
    | pretty unit => exact .of_counts (s := [' ', '/', '>']) (by decide)
  exact (h.append hmark).append (.of_allBlank (allBlank_lineBreak hlayout _))

theorem isMarked_addText (h : IsMarked m n d.text) (hlayout : d.layout.isBlank = true)
    (value : Text) : IsMarked m n (d.addText value).text := by
  rw [text_addText]
  exact (h.append (.of_escape .content value)).append (.of_allBlank (allBlank_lineBreak hlayout _))

/-- The unit that an end tag takes back is blank and bears no mark. -/
theorem isMarked_closeTag (h : IsMarked m n d.text) (hlayout : d.layout.isBlank = true)
    {name : Option Text} (hname : ∀ s ∈ name, isName s = true) {shown : Text}
    (he : d.closeTag name shown = .ok e) : IsMarked (m + 1) (n + 1) e.text := by
  obtain ⟨-, -, before, ht, ht'⟩ := text_closeTag he
  have hunit : d.layout.unitText.allBlank = true := hlayout
  rw [ht] at h
  rw [ht']
  have hopen : IsMarked 1 0 ['<', '/'] := .of_counts (by decide)
  have hclose : IsMarked 0 1 ['>'] := .of_counts (by decide)
  have hbreak : IsMarked 0 0 (d.layout.lineBreak (d.depth - 1)) :=
    .of_allBlank (allBlank_lineBreak hlayout _)
  exact ((h.of_append_blank hunit).append (hopen.append (.of_namePiece hname))).append
    (hclose.append hbreak)

end Document

end XmlTemplate
