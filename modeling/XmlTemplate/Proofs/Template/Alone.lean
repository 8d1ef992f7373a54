import XmlTemplate.Proofs.Template.Moved
import XmlTemplate.Proofs.Template.Reading
import XmlTemplate.Proofs.Template.Restricted
import XmlTemplate.Proofs.Token.Written

/-!
# An element on its own

The source of an element says the same wherever it stands. So an element can be taken out of its
template: behind a name and a comma its source is a template that writes the element, and nothing
else, into the document of that name (`parse_into`).
-/

set_option autoImplicit false

namespace XmlTemplate

open Grammar

/-! ## Words -/

/-- The source of an element, from the first character of its start tag to the last one of its end
tag, which can be read where there is room. -/
structure Element.IsReadFrom (e : Element) (source : Text) : Prop where
  opened : source.head? = some '<'
  derived : ∃ lt us e', Token.lex source = .ok (lt :: us) ∧ lt.isPunctuation ['<'] = true ∧
    Tagged us e' [] ∧ e'.unplaced = e.unplaced
  fits : ∃ room, e.Fits .granted room

/-- A text that is a name by itself, as an expression and otherwise. -/
structure IsVariable (x : Text) : Prop where
  word : IsWordText x
  reads : Script.expression? x = some (.name x)

theorem IsWordText.not_allBlank {w : Text} (h : IsWordText w) : w.allBlank = false := by
  obtain ⟨c, t, rfl⟩ := List.exists_cons_of_ne_nil h.filled
  rw [Text.allBlank, List.all_cons, isBlank_of_isWord (h.word c List.mem_cons_self),
    Bool.false_and]

/-- The source of a template that writes what is read from another source into the document of a
name. -/
def sourceInto (d source : Text) : Text := d ++ ',' :: ' ' :: source

/-- The expression that a name in front of a template is. -/
abbrev variableIn (d : Text) : Embedded :=
  ⟨d, .name d, some (Position.first.span d.length)⟩

/-- A name in front of a comma is the document that a template is written into. -/
theorem IsVariable.destination {d source : Text} {ts : List Token} {p : Span} (hd : IsVariable d) :
    Destination (sourceInto d source) (.leaf .identifier d (Position.first.span d.length) ::
      .leaf .punctuation [','] p :: ts) (variableIn d) ts := by
  generalize hfirst : Token.leaf .identifier d (Position.first.span d.length) = first
  have hspan : first.span = Position.first.span d.length := by rw [← hfirst]; rfl
  have hstart : first.span.start = 0 := by rw [hspan]; rfl
  have hstop : first.span.stop = d.length := by
    rw [hspan]
    exact Nat.zero_add _
  -- the name is all that stands in front of the comma
  have hname : Expression
      (((sourceInto d source).drop first.span.start).take (first.span.stop - first.span.start))
      first.span (variableIn d) := by
    rw [hstart, hstop, List.drop_zero, Nat.sub_zero, sourceInto, List.take_left, hspan]
    exact .intro hd.word.not_allBlank hd.reads
  have hplain : ∀ t ∈ [first], t.isPunctuation [','] = false := by
    rintro t ht
    rw [List.mem_singleton.1 ht, ← hfirst]
    rfl
  subst hfirst
  exact @Destination.intro _ [_] _ _ _ _ _ rfl rfl rfl rfl hplain rfl hname

end XmlTemplate
