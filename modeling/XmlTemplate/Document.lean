import XmlTemplate.Fault
import XmlTemplate.Xml.Escape
import XmlTemplate.Xml.Name

/-!
# Documents under construction

A document is written from front to back by one operation for each construct: the beginning of a
start tag, an attribute, the two ends of a start tag, an end tag and a text. It keeps the number of
open elements and the pieces written so far. Terse documents hold nothing but what the operations
ask for; pretty ones put every tag and text on a line of its own, with one unit of indentation for
each open element.

A pretty document writes the line end and the indentation of the next item at once, so that an end
tag has to take one unit back from the last piece. An operation that the state of the document does
not allow changes nothing.

A name is a text. A sequence of name characters passes for a name too, but it is no text, and once
it has been written the document cannot be read any more (`Document.isText`).
-/

set_option autoImplicit false

namespace XmlTemplate

/-- Versions of XML that a document can declare. -/
inductive Version where
  | v1_0
  | v1_1
  deriving DecidableEq, Repr

/-- The version as it is declared. -/
def Version.text : Version → Text
  | v1_0 => ['1', '.', '0']
  | v1_1 => ['1', '.', '1']

/-- The version that a text declares. -/
def Version.ofText? (s : Text) : Option Version :=
  if s = v1_0.text then some v1_0 else if s = v1_1.text then some v1_1 else none

/-- How a document is laid out: without added blanks, or with one unit for each open element. -/
inductive Layout where
  | terse
  | pretty (unit : Text)
  deriving DecidableEq, Repr

/-- The unit of a pretty layout. -/
def Layout.unit? : Layout → Option Text
  | terse => none
  | pretty unit => some unit

/-- The layout with the given unit, or the terse one. -/
def Layout.ofUnit? : Option Text → Layout
  | none => terse
  | some unit => pretty unit

/-- A document under construction: its declared version and layout, the number of open elements,
and the pieces written so far, the latest apart and those before it newest first. A piece that is no
text is nothing. -/
structure Document where
  version : Version
  layout : Layout
  depth : Nat
  earlier : List (Option Text)
  latest : Option Text
  deriving DecidableEq, Repr

namespace Document

/-- Everything written so far. -/
def text (d : Document) : Text := (d.latest :: d.earlier).reverse.flatMap (·.getD [])

/-- Whether all that has been written is text. -/
def isText (d : Document) : Bool := (d.latest :: d.earlier).all Option.isSome

/-- Write one more piece. -/
def pushPiece (d : Document) (piece : Option Text) : Document :=
  { d with earlier := d.latest :: d.earlier, latest := piece }

/-- Write one more text. -/
def push (d : Document) (s : Text) : Document := d.pushPiece (some s)

/-- Write texts, the first one first. -/
def pushAll (d : Document) (pieces : List Text) : Document := pieces.foldl push d

/-- The line end and indentation before the next item of a pretty document. -/
def lineBreak (unit : Text) (depth : Nat) : Text := '\n' :: (List.replicate depth unit).flatten

/-- Begin the next line, where the layout is pretty. -/
def newline (d : Document) : Document :=
  match d.layout with
  | .terse => d
  | .pretty unit => d.push (lineBreak unit d.depth)

/-- The declaration up to its end mark. -/
def declaration (version : Version) : Text :=
  "<?xml version=\"".toList ++ version.text ++ "\" encoding=\"UTF-8\"".toList

/-- What the declaration says about other documents, if anything. -/
def standaloneText : Option Bool → List Text
  | none => []
  | some true => [" standalone=\"yes\"".toList]
  | some false => [" standalone=\"no\"".toList]

/-- A document with nothing but its declaration. -/
def start (version : Version) (standalone : Option Bool) (layout : Layout) : Document :=
  ((⟨version, layout, 0, [], some (declaration version)⟩ : Document).pushAll
    (standaloneText standalone ++ [['?', '>']])).newline

/-- Write the beginning of a start tag with a piece for its name. -/
def openTag (d : Document) (name : Option Text) : Document := (d.push ['<']).pushPiece name

/-- Write the beginning of a start tag. -/
def beginTag (d : Document) (name : Text) : Except Violation Document :=
  if isName name then .ok (d.openTag (some name)) else .error (.invalidName name)

/-- Write a piece for the name of an attribute and the opening quote of its value. -/
def beginAttribute (d : Document) (name : Option Text) : Document :=
  ((d.push [' ']).pushPiece name).push ['=', '"']

/-- Write the value of an attribute and its closing quote. -/
def endAttribute (d : Document) (value : Text) : Document :=
  (d.pushAll ((pieces .value value).map Piece.text)).push ['"']

/-- Write an attribute, whatever its name. -/
def writeAttribute (d : Document) (name value : Text) : Document :=
  (d.beginAttribute (some name)).endAttribute value

/-- Write an attribute of the start tag. -/
def addAttribute (d : Document) (name value : Text) : Except Violation Document :=
  if isName name then .ok (d.writeAttribute name value) else .error (.invalidName name)

/-- End a start tag and enter the element. -/
def enterContent (d : Document) : Document :=
  { d.push ['>'] with depth := d.depth + 1 }.newline

/-- End a start tag as the tag of an empty element. -/
def endEmptyTag (d : Document) : Document :=
  (d.push (match d.layout with
    | .terse => ['/', '>']
    | .pretty _ => [' ', '/', '>'])).newline

/-- Take a text off the end of the latest piece, if it ends with it. -/
def unwrite? (d : Document) (tail : Text) : Option Document :=
  match d.latest with
  | some s =>
    if tail.isSuffixOf s then some { d with latest := some (s.take (s.length - tail.length)) }
    else none
  | none => none

/-- Take back one unit of the indentation, where the layout is pretty. -/
def outdent (d : Document) : Except Violation Document :=
  match d.layout with
  | .terse => .ok d
  | .pretty unit =>
    match d.unwrite? unit with
    | some d' => .ok d'
    | none => .error .missingIndentation

/-- Write an end tag with a piece for its name, which messages show in the given way, and leave the
element. -/
def closeTag (d : Document) (name : Option Text) (shown : Text) : Except Violation Document :=
  if d.depth = 0 then .error (.noOpenElement shown)
  else do
    let d ← d.outdent
    let d := { d with depth := d.depth - 1 }
    return (((d.push ['<', '/']).pushPiece name).push ['>']).newline

/-- Write an end tag and leave the element. -/
def endElement (d : Document) (name : Text) : Except Violation Document :=
  if isName name then d.closeTag (some name) name else .error (.invalidName name)

/-- Write text between tags. -/
def addText (d : Document) (value : Text) : Document :=
  (d.pushAll ((pieces .content value).map Piece.text)).newline

/-- The whole text, once every element is closed. -/
def complete (d : Document) : Except Violation Text :=
  if d.depth = 0 then .ok d.text else .error (.unclosed d.depth)

/-! ## What each operation adds to the text -/

@[simp]
theorem text_push (d : Document) (piece : Text) : (d.push piece).text = d.text ++ piece := by
  simp [text, push, pushPiece]

@[simp]
theorem isText_push (d : Document) (piece : Text) : (d.push piece).isText = d.isText := by
  simp [isText, push, pushPiece]

@[simp]
theorem depth_push (d : Document) (piece : Text) : (d.push piece).depth = d.depth := rfl

@[simp]
theorem layout_push (d : Document) (piece : Text) : (d.push piece).layout = d.layout := rfl

theorem text_pushAll (d : Document) (pieces : List Text) :
    (d.pushAll pieces).text = d.text ++ pieces.flatten := by
  induction pieces generalizing d with
  | nil => simp [pushAll]
  | cons p rest ih =>
    have := ih (d.push p)
    simp only [pushAll] at this
    simp [pushAll, this]

end Document

end XmlTemplate
