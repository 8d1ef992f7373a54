import XmlTemplate.Document

/-!
# Operations on documents as data

A document is written by operations. Here an operation is a value, so that what has been done to a
document is a list of operations (`Document.performAll`). For each operation this file says what it
adds to the text and what it does to the shape of the document, that is its version, its layout and
the number of open elements.

Every operation adds to the end of the text, with one exception: in a pretty layout an end tag first
takes one unit back from the latest piece (`text_closeTag`). A document with a piece that is no text
keeps such a piece for good, since each operation only adds pieces or shortens the latest.
-/

set_option autoImplicit false

namespace XmlTemplate

/-- The line end and indentation that a layout puts before the next item; nothing where it is
terse. -/
def Layout.lineBreak : Layout → Nat → Text
  | .terse, _ => []
  | .pretty unit, depth => Document.lineBreak unit depth

/-- The last mark of a start tag that ends an empty element. -/
def Layout.emptyEnd : Layout → Text
  | .terse => ['/', '>']
  | .pretty _ => [' ', '/', '>']

/-- What an end tag takes back before it is written: a unit where the layout is pretty. -/
def Layout.unitText : Layout → Text
  | .terse => []
  | .pretty unit => unit

/-- What the next operation on a document can tell of it without reading its text. -/
structure Document.Shape where
  version : Version
  layout : Layout
  depth : Nat
  deriving DecidableEq, Repr

/-- The shape of an element's content. -/
def Document.Shape.inner (σ : Document.Shape) : Document.Shape := { σ with depth := σ.depth + 1 }

/-- An operation on a document. -/
inductive Operation where
  | beginTag (name : Text)
  | addAttribute (name value : Text)
  | enterContent
  | endEmptyTag
  | endElement (name : Text)
  | addText (value : Text)
  deriving DecidableEq, Repr

namespace Document

/-- The version, layout and depth of a document. -/
def shape (d : Document) : Shape := ⟨d.version, d.layout, d.depth⟩

/-- Perform an operation. -/
def perform (d : Document) : Operation → Except Violation Document
  | .beginTag name => d.beginTag name
  | .addAttribute name value => d.addAttribute name value
  | .enterContent => .ok d.enterContent
  | .endEmptyTag => .ok d.endEmptyTag
  | .endElement name => d.endElement name
  | .addText value => .ok (d.addText value)

/-- Perform operations in order, up to the first that is refused. -/
def performAll (d : Document) : List Operation → Except Violation Document
  | [] => .ok d
  | op :: rest =>
    match d.perform op with
    | .ok d' => d'.performAll rest
    | .error v => .error v

/-! ## Running operations -/

theorem performAll_cons_eq_ok_iff {d e : Document} {op : Operation} {rest : List Operation} :
    d.performAll (op :: rest) = .ok e ↔
      ∃ d', d.perform op = .ok d' ∧ d'.performAll rest = .ok e := by
  rw [performAll]
  cases d.perform op with
  | ok d' => simp
  | error v => simp

theorem performAll_append_of_ok {d d' : Document} {xs : List Operation} (ys : List Operation)
    (h : d.performAll xs = .ok d') : d.performAll (xs ++ ys) = d'.performAll ys := by
  induction xs generalizing d with
  | nil =>
    cases h
    rfl
  | cons op rest ih =>
    obtain ⟨d₁, h₁, h₂⟩ := performAll_cons_eq_ok_iff.1 h
    rw [List.cons_append, performAll, h₁]
    exact ih h₂

theorem performAll_singleton (d : Document) (op : Operation) :
    d.performAll [op] = d.perform op := by
  rw [performAll]
  cases d.perform op <;> rfl

/-! ## Text -/

@[simp]
theorem text_pushPiece (d : Document) (piece : Option Text) :
    (d.pushPiece piece).text = d.text ++ piece.getD [] := by
  simp [text, pushPiece]

/-- The text is what the earlier pieces make, followed by the latest. -/
theorem text_of_latest {d : Document} {s : Text} (h : d.latest = some s) :
    d.text = (d.earlier.reverse.flatMap (·.getD [])) ++ s := by
  simp [text, h]

theorem newline_of_terse {d : Document} (h : d.layout = .terse) : d.newline = d := by
  rw [newline, h]

theorem newline_of_pretty {d : Document} {unit : Text} (h : d.layout = .pretty unit) :
    d.newline = d.push (lineBreak unit d.depth) := by
  rw [newline, h]

@[simp]
theorem text_newline (d : Document) :
    d.newline.text = d.text ++ d.layout.lineBreak d.depth := by
  cases h : d.layout with
  | terse => rw [newline_of_terse h, Layout.lineBreak, List.append_nil]
  | pretty unit => rw [newline_of_pretty h, text_push, Layout.lineBreak]

theorem flatten_pieces (place : Place) (s : Text) :
    ((pieces place s).map Piece.text).flatten = escape place s := by
  rw [escape, List.flatMap_def]

theorem text_openTag (d : Document) (name : Option Text) :
    (d.openTag name).text = d.text ++ '<' :: name.getD [] := by
  simp [openTag]

theorem text_beginAttribute (d : Document) (name : Option Text) :
    (d.beginAttribute name).text = d.text ++ ' ' :: name.getD [] ++ ['=', '"'] := by
  simp [beginAttribute]

theorem text_endAttribute (d : Document) (value : Text) :
    (d.endAttribute value).text = d.text ++ escape .value value ++ ['"'] := by
  rw [endAttribute, text_push, text_pushAll, flatten_pieces]

/-- An attribute as it stands in a start tag. -/
def attributeText (name value : Text) : Text :=
  ' ' :: name ++ ['=', '"'] ++ escape .value value ++ ['"']

theorem text_writeAttribute (d : Document) (name value : Text) :
    (d.writeAttribute name value).text = d.text ++ attributeText name value := by
  rw [writeAttribute, text_endAttribute, text_beginAttribute]
  simp [attributeText]

/-! ## Shape -/

@[simp]
theorem shape_pushPiece (d : Document) (piece : Option Text) :
    (d.pushPiece piece).shape = d.shape :=
  rfl

@[simp]
theorem shape_push (d : Document) (s : Text) : (d.push s).shape = d.shape := rfl

@[simp]
theorem shape_pushAll (d : Document) (ss : List Text) : (d.pushAll ss).shape = d.shape := by
  induction ss generalizing d with
  | nil => rfl
  | cons s rest ih => exact ih (d.push s)

@[simp]
theorem shape_newline (d : Document) : d.newline.shape = d.shape := by
  cases h : d.layout with
  | terse => rw [newline_of_terse h]
  | pretty unit => rw [newline_of_pretty h, shape_push]

theorem shape_endAttribute (d : Document) (value : Text) :
    (d.endAttribute value).shape = d.shape := by
  simp [endAttribute]

theorem shape_writeAttribute (d : Document) (name value : Text) :
    (d.writeAttribute name value).shape = d.shape := by
  simp [writeAttribute, endAttribute, beginAttribute]

theorem shape_openTag (d : Document) (name : Option Text) : (d.openTag name).shape = d.shape := rfl

theorem shape_addText (d : Document) (value : Text) : (d.addText value).shape = d.shape := by
  simp [addText]

theorem shape_endEmptyTag (d : Document) : d.endEmptyTag.shape = d.shape := by
  simp [endEmptyTag]

theorem shape_enterContent (d : Document) : d.enterContent.shape = d.shape.inner := by
  rw [enterContent, shape_newline]
  rfl

theorem layout_eq_of_shape {d e : Document} (h : d.shape = e.shape) : d.layout = e.layout :=
  congrArg Shape.layout h

theorem depth_eq_of_shape {d e : Document} (h : d.shape = e.shape) : d.depth = e.depth :=
  congrArg Shape.depth h

/-! ## What the operations write -/

theorem text_enterContent (d : Document) :
    d.enterContent.text = d.text ++ '>' :: d.layout.lineBreak (d.depth + 1) := by
  have ht : ({ d.push ['>'] with depth := d.depth + 1 } : Document).text = d.text ++ ['>'] :=
    text_push d ['>']
  rw [enterContent, text_newline, ht, List.append_assoc]
  rfl

theorem text_endEmptyTag (d : Document) :
    d.endEmptyTag.text = d.text ++ d.layout.emptyEnd ++ d.layout.lineBreak d.depth := by
  rw [endEmptyTag, text_newline, text_push, layout_push, depth_push]
  cases d.layout <;> rfl

theorem text_addText (d : Document) (value : Text) :
    (d.addText value).text = d.text ++ escape .content value ++ d.layout.lineBreak d.depth := by
  have hs := shape_pushAll d ((pieces .content value).map Piece.text)
  rw [addText, text_newline, text_pushAll, flatten_pieces, layout_eq_of_shape hs,
    depth_eq_of_shape hs]

/-! ## End tags -/

/-- Taking a text back leaves what was written before it. -/
theorem unwrite?_eq_some {d e : Document} {tail : Text} (h : d.unwrite? tail = some e) :
    d.text = e.text ++ tail ∧ e.shape = d.shape ∧ e.isText = d.isText ∧
      ∃ s, d.latest = some (s ++ tail) ∧ e = { d with latest := some s } := by
  rw [unwrite?] at h
  cases hl : d.latest with
  | none =>
    rw [hl] at h
    cases h
  | some whole =>
    rw [hl] at h
    dsimp only at h
    split at h
    next hsuf =>
      -- `s` is what the piece is cut down to
      obtain ⟨s, rfl⟩ := List.isSuffixOf_iff_suffix.1 hsuf
      have ht : (s ++ tail).take ((s ++ tail).length - tail.length) = s := by
        rw [List.length_append, Nat.add_sub_cancel, List.take_left]
      rw [ht] at h
      cases h
      refine ⟨?_, rfl, ?_, s, rfl, rfl⟩
      · simp [text, hl]
      · simp [isText, hl]
    next => cases h

/-- A text can be taken back if the latest piece ends with it. -/
theorem unwrite?_of_latest {d : Document} {s tail : Text} (h : d.latest = some (s ++ tail)) :
    d.unwrite? tail = some { d with latest := some s } := by
  have hsuf : tail.isSuffixOf (s ++ tail) = true :=
    List.isSuffixOf_iff_suffix.2 (List.suffix_append s tail)
  rw [unwrite?, h]
  dsimp only
  rw [if_pos hsuf, List.length_append, Nat.add_sub_cancel, List.take_left]

theorem outdent_of_terse {d : Document} (h : d.layout = .terse) : d.outdent = .ok d := by
  rw [outdent, h]

theorem outdent_eq_ok {d e : Document} (h : d.outdent = .ok e) :
    d.text = e.text ++ d.layout.unitText ∧ e.shape = d.shape ∧ e.isText = d.isText := by
  cases hl : d.layout with
  | terse =>
    rw [outdent_of_terse hl] at h
    cases h
    exact ⟨(List.append_nil _).symm, rfl, rfl⟩
  | pretty unit =>
    rw [outdent, hl] at h
    dsimp only at h
    cases hu : d.unwrite? unit with
    | none =>
      rw [hu] at h
      cases h
    | some d' =>
      rw [hu] at h
      cases h
      obtain ⟨ht, hs, hx, -⟩ := unwrite?_eq_some hu
      exact ⟨ht, hs, hx⟩

/-- A pretty document whose latest piece ends with a unit can be outdented. -/
theorem outdent_of_latest {d : Document} {unit s : Text} (hl : d.layout = .pretty unit)
    (h : d.latest = some (s ++ unit)) : d.outdent = .ok { d with latest := some s } := by
  have hu := unwrite?_of_latest h
  simp only [outdent, hl, hu]

/-- An end tag takes a unit back, where the layout is pretty, and then adds to the text. -/
theorem closeTag_eq_ok {d e : Document} {name : Option Text} {shown : Text}
    (h : d.closeTag name shown = .ok e) :
    d.depth ≠ 0 ∧ ∃ d', d.outdent = .ok d' ∧
      e = ((({ d' with depth := d'.depth - 1 }.push ['<', '/']).pushPiece name).push ['>']).newline
        := by
  rw [closeTag] at h
  split at h
  · cases h
  next hd =>
    cases ho : d.outdent with
    | error v =>
      rw [ho] at h
      cases h
    | ok d' =>
      rw [ho] at h
      cases h
      exact ⟨hd, d', rfl, rfl⟩

theorem closeTag_of_outdent {d d' : Document} {name : Option Text} {shown : Text}
    (hd : d.depth ≠ 0) (ho : d.outdent = .ok d') :
    d.closeTag name shown =
      .ok ((({ d' with depth := d'.depth - 1 }.push ['<', '/']).pushPiece name).push
        ['>']).newline := by
  rw [closeTag, if_neg hd, ho]
  rfl

/-- The text and shape after an end tag. -/
theorem text_closeTag {d e : Document} {name : Option Text} {shown : Text}
    (h : d.closeTag name shown = .ok e) :
    0 < d.depth ∧ e.shape = { d.shape with depth := d.depth - 1 } ∧
      ∃ before, d.text = before ++ d.layout.unitText ∧
        e.text = before ++ '<' :: '/' :: name.getD [] ++ '>' :: d.layout.lineBreak (d.depth - 1)
        := by
  obtain ⟨hd, d', ho, rfl⟩ := closeTag_eq_ok h
  obtain ⟨ht, hs, -⟩ := outdent_eq_ok ho
  have hdepth := depth_eq_of_shape hs
  have hlayout := layout_eq_of_shape hs
  have htext : ({ d' with depth := d'.depth - 1 } : Document).text = d'.text := rfl
  -- the depth goes down after the unit has been taken back
  refine ⟨Nat.pos_of_ne_zero hd, ?_, d'.text, ht, ?_⟩
  · rw [shape_newline, shape_push, shape_pushPiece, shape_push, ← hdepth, ← hs]
    rfl
  · rw [text_newline, text_push, text_pushPiece, text_push, htext, ← hdepth, ← hlayout]
    show d'.text ++ ['<', '/'] ++ name.getD [] ++ ['>'] ++ d'.layout.lineBreak (d'.depth - 1) = _
    simp

/-! ## Pieces that are no text -/

@[simp]
theorem isText_pushPiece (d : Document) (piece : Option Text) :
    (d.pushPiece piece).isText = (d.isText && piece.isSome) := by
  simp [isText, pushPiece, Bool.and_comm]

@[simp]
theorem isText_pushAll (d : Document) (ss : List Text) : (d.pushAll ss).isText = d.isText := by
  induction ss generalizing d with
  | nil => rfl
  | cons s rest ih => exact (ih (d.push s)).trans (isText_push d s)

@[simp]
theorem isText_newline (d : Document) : d.newline.isText = d.isText := by
  cases h : d.layout with
  | terse => rw [newline_of_terse h]
  | pretty unit => rw [newline_of_pretty h, isText_push]

theorem isText_openTag (d : Document) (name : Option Text) :
    (d.openTag name).isText = (d.isText && name.isSome) := by
  rw [openTag, isText_pushPiece, isText_push]

theorem isText_beginAttribute (d : Document) (name : Option Text) :
    (d.beginAttribute name).isText = (d.isText && name.isSome) := by
  rw [beginAttribute, isText_push, isText_pushPiece, isText_push]

theorem isText_endAttribute (d : Document) (value : Text) :
    (d.endAttribute value).isText = d.isText := by
  rw [endAttribute, isText_push, isText_pushAll]

theorem isText_enterContent (d : Document) : d.enterContent.isText = d.isText :=
  (isText_newline _).trans (isText_push d ['>'])

theorem isText_endEmptyTag (d : Document) : d.endEmptyTag.isText = d.isText := by
  rw [endEmptyTag, isText_newline, isText_push]

theorem isText_addText (d : Document) (value : Text) : (d.addText value).isText = d.isText := by
  rw [addText, isText_newline, isText_pushAll]

theorem isText_closeTag {d e : Document} {name : Option Text} {shown : Text}
    (h : d.closeTag name shown = .ok e) : e.isText = (d.isText && name.isSome) := by
  obtain ⟨-, d', ho, rfl⟩ := closeTag_eq_ok h
  obtain ⟨-, -, hx⟩ := outdent_eq_ok ho
  rw [isText_newline, isText_push, isText_pushPiece, isText_push, ← hx]
  rfl

end Document

/-! ## Every operation -/

namespace Operation

/-- Whether the name in an operation is one. -/
def isNamed : Operation → Bool
  | .beginTag name | .addAttribute name _ | .endElement name => isName name
  | .enterContent | .endEmptyTag | .addText _ => true

/-- The depth after an operation. -/
def depthAfter (depth : Nat) : Operation → Nat
  | .enterContent => depth + 1
  | .endElement _ => depth - 1
  | .beginTag _ | .addAttribute .. | .endEmptyTag | .addText _ => depth

/-- What an operation takes off the end of the text. -/
def removed (layout : Layout) : Operation → Text
  | .endElement _ => layout.unitText
  | .beginTag _ | .addAttribute .. | .enterContent | .endEmptyTag | .addText _ => []

/-- What an operation then adds to the text, in a document with the given layout and depth. -/
def added (layout : Layout) (depth : Nat) : Operation → Text
  | .beginTag name => '<' :: name
  | .addAttribute name value => Document.attributeText name value
  | .enterContent => '>' :: layout.lineBreak (depth + 1)
  | .endEmptyTag => layout.emptyEnd ++ layout.lineBreak depth
  | .endElement name => '<' :: '/' :: name ++ '>' :: layout.lineBreak (depth - 1)
  | .addText value => escape .content value ++ layout.lineBreak depth

end Operation

namespace Document

/-- What every operation does that is not refused. -/
theorem perform_eq_ok {d e : Document} {op : Operation} (h : d.perform op = .ok e) :
    op.isNamed = true ∧ e.shape = { d.shape with depth := op.depthAfter d.depth } ∧
      ∃ before, d.text = before ++ op.removed d.layout ∧
        e.text = before ++ op.added d.layout d.depth := by
  cases op with
  | beginTag name =>
    rw [perform, beginTag] at h
    split at h
    next hname =>
      cases h
      exact ⟨hname, rfl, d.text, (List.append_nil _).symm, text_openTag d (some name)⟩
    next => cases h
  | addAttribute name value =>
    rw [perform, addAttribute] at h
    split at h
    next hname =>
      cases h
      exact ⟨hname, shape_writeAttribute d name value, d.text, (List.append_nil _).symm,
        text_writeAttribute d name value⟩
    next => cases h
  | enterContent =>
    cases h
    exact ⟨rfl, shape_enterContent d, d.text, (List.append_nil _).symm, text_enterContent d⟩
  | endEmptyTag =>
    cases h
    refine ⟨rfl, shape_endEmptyTag d, d.text, (List.append_nil _).symm, ?_⟩
    rw [text_endEmptyTag, List.append_assoc]
    rfl
  | endElement name =>
    rw [perform, endElement] at h
    split at h
    next hname =>
      obtain ⟨-, hshape, before, ht, he⟩ := text_closeTag h
      refine ⟨hname, hshape, before, ht, ?_⟩
      rw [he]
      simp [Operation.added]
    next => cases h
  | addText value =>
    cases h
    refine ⟨rfl, shape_addText d value, d.text, (List.append_nil _).symm, ?_⟩
    rw [text_addText, List.append_assoc]
    rfl

/-- An operation writes nothing but text. -/
theorem isText_of_perform {d e : Document} {op : Operation} (h : d.perform op = .ok e) :
    e.isText = d.isText := by
  cases op with
  | beginTag name =>
    rw [perform, beginTag] at h
    split at h
    · cases h
      exact (isText_openTag d (some name)).trans (Bool.and_true _)
    · cases h
  | addAttribute name value =>
    rw [perform, addAttribute] at h
    split at h
    · cases h
      rw [writeAttribute, isText_endAttribute, isText_beginAttribute, Option.isSome_some,
        Bool.and_true]
    · cases h
  | enterContent =>
    cases h
    exact isText_enterContent d
  | endEmptyTag =>
    cases h
    exact isText_endEmptyTag d
  | endElement name =>
    rw [perform, endElement] at h
    split at h
    · exact (isText_closeTag h).trans (Bool.and_true _)
    · cases h
  | addText value =>
    cases h
    exact isText_addText d value

/-- Only an open element can be ended. -/
theorem depth_pos_of_endElement {d e : Document} {name : Text}
    (h : d.perform (.endElement name) = .ok e) : 0 < d.depth := by
  rw [perform, endElement] at h
  split at h
  · exact (text_closeTag h).1
  · cases h

theorem layout_of_perform {d e : Document} {op : Operation} (h : d.perform op = .ok e) :
    e.layout = d.layout := by
  obtain ⟨-, hshape, -⟩ := perform_eq_ok h
  exact congrArg Shape.layout hshape

/-- Operations in a row keep the layout. -/
theorem layout_of_performAll {d e : Document} {ops : List Operation}
    (h : d.performAll ops = .ok e) : e.layout = d.layout := by
  induction ops generalizing d with
  | nil =>
    cases h
    rfl
  | cons op rest ih =>
    obtain ⟨d', h₁, h₂⟩ := performAll_cons_eq_ok_iff.1 h
    exact (ih h₂).trans (layout_of_perform h₁)

end Document

end XmlTemplate
