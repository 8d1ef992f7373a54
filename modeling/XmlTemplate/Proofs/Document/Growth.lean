import XmlTemplate.Proofs.Document.Operations

/-!
# What stays of a document

Operations add pieces to the end of a document. The one thing that is ever taken back is the end of
the latest piece, in a pretty layout, so that all that stands before that piece stays for good
(`Document.lasting`). A document grows into another if it has the same layout and nothing that lasts
is lost (`Document.Grows`); each operation makes a document grow.
-/

set_option autoImplicit false

namespace XmlTemplate

namespace Document

/-- The text before the latest piece. -/
def earlierText (d : Document) : Text := d.earlier.reverse.flatMap (·.getD [])

/-- The beginning of the text from which no operation takes anything back. -/
def lasting (d : Document) : Text :=
  match d.layout with
  | .terse => d.text
  | .pretty _ => d.earlierText

/-- A document with the same layout in which nothing is lost that lasts. -/
structure Grows (d d' : Document) : Prop where
  layout_eq : d'.layout = d.layout
  lasting_isPrefix : d.lasting <+: d'.lasting

variable {d d' e : Document}

theorem text_eq_earlierText (d : Document) : d.text = d.earlierText ++ d.latest.getD [] := by
  simp [text, earlierText]

theorem earlierText_isPrefix (d : Document) : d.earlierText <+: d.text :=
  ⟨_, (text_eq_earlierText d).symm⟩

theorem earlierText_pushPiece (d : Document) (piece : Option Text) :
    (d.pushPiece piece).earlierText = d.text := rfl

theorem lasting_isPrefix_text (d : Document) : d.lasting <+: d.text := by
  rw [lasting]
  split
  · exact List.prefix_rfl
  · exact earlierText_isPrefix d

namespace Grows

theorem refl (d : Document) : Grows d d := ⟨rfl, List.prefix_rfl⟩

theorem trans (h : Grows d d') (h' : Grows d' e) : Grows d e :=
  ⟨h'.layout_eq.trans h.layout_eq, h.lasting_isPrefix.trans h'.lasting_isPrefix⟩

theorem pushPiece (h : Grows d d') (piece : Option Text) : Grows d (d'.pushPiece piece) := by
  refine h.trans ⟨rfl, ?_⟩
  cases hl : d'.layout with
  | terse =>
    have hpush : (d'.pushPiece piece).layout = .terse := hl
    rw [lasting, lasting, hl, hpush]
    exact ⟨_, (text_pushPiece d' piece).symm⟩
  | pretty unit =>
    -- what was the latest piece stays, now that there is another one
    have hpush : (d'.pushPiece piece).layout = .pretty unit := hl
    rw [lasting, lasting, hl, hpush]
    exact earlierText_isPrefix d'

theorem push (h : Grows d d') (s : Text) : Grows d (d'.push s) := h.pushPiece (some s)

theorem pushAll (h : Grows d d') (ss : List Text) : Grows d (d'.pushAll ss) := by
  induction ss generalizing d' with
  | nil => exact h
  | cons s rest ih => exact ih (h.push s)

theorem newline (h : Grows d d') : Grows d d'.newline := by
  cases hl : d'.layout with
  | terse => rwa [newline_of_terse hl]
  | pretty unit =>
    rw [newline_of_pretty hl]
    exact h.push _

theorem withDepth (h : Grows d d') (depth : Nat) : Grows d { d' with depth := depth } :=
  ⟨h.layout_eq, h.lasting_isPrefix⟩

end Grows

/-! ## Operations -/

theorem grows_openTag (d : Document) (name : Option Text) : d.Grows (d.openTag name) :=
  ((Grows.refl d).push _).pushPiece name

theorem grows_beginAttribute (d : Document) (name : Option Text) :
    d.Grows (d.beginAttribute name) :=
  (((Grows.refl d).push _).pushPiece name).push _

theorem grows_endAttribute (d : Document) (value : Text) : d.Grows (d.endAttribute value) :=
  ((Grows.refl d).pushAll _).push _

theorem grows_enterContent (d : Document) : d.Grows d.enterContent :=
  (((Grows.refl d).push _).withDepth _).newline

theorem grows_endEmptyTag (d : Document) : d.Grows d.endEmptyTag := ((Grows.refl d).push _).newline

theorem grows_addText (d : Document) (value : Text) : d.Grows (d.addText value) :=
  ((Grows.refl d).pushAll _).newline

/-- What is taken back belongs to the latest piece. -/
theorem grows_outdent (h : d.outdent = .ok d') : d.Grows d' := by
  cases hl : d.layout with
  | terse =>
    rw [outdent_of_terse hl] at h
    cases h
    exact .refl d
  | pretty unit =>
    rw [outdent, hl] at h
    dsimp only at h
    split at h
    next e hu =>
      cases h
      obtain ⟨-, -, -, s, -, rfl⟩ := unwrite?_eq_some hu
      refine ⟨rfl, ?_⟩
      rw [lasting, lasting, hl]
      exact List.prefix_rfl
    next => cases h

theorem grows_closeTag {name : Option Text} {shown : Text} (h : d.closeTag name shown = .ok e) :
    d.Grows e := by
  obtain ⟨-, d', houtdent, rfl⟩ := closeTag_eq_ok h
  exact ((((((grows_outdent houtdent).withDepth _).push _).pushPiece name).push _)).newline

/-- Of a new document the declaration stays, however it is laid out. -/
theorem lasting_start (version : Version) (standalone : Option Bool) (layout : Layout) :
    (start version standalone layout).lasting = (start version standalone .terse).text := by
  -- the document without the line break, whose text is the declaration in every layout
  have hbare : ∀ layout : Layout, ∃ d : Document, start version standalone layout = d.newline ∧
      d.layout = layout ∧ d.text = declaration version ++
        (standaloneText standalone ++ [['?', '>']]).flatten := by
    intro layout
    refine ⟨_, rfl, layout_eq_of_shape (shape_pushAll _ _), ?_⟩
    rw [text_pushAll, text_of_latest rfl]
    rfl
  obtain ⟨d₀, hstart₀, hlayout₀, htext₀⟩ := hbare .terse
  obtain ⟨d, hstart, hlayout, htext⟩ := hbare layout
  rw [hstart, hstart₀, newline_of_terse hlayout₀, htext₀, ← htext]
  cases layout with
  | terse => rw [newline_of_terse hlayout, lasting, hlayout]
  | pretty unit =>
    have hpush : (d.push (lineBreak unit d.depth)).layout = .pretty unit := hlayout
    rw [newline_of_pretty hlayout, lasting, hpush]
    exact earlierText_pushPiece d _

end Document

end XmlTemplate
