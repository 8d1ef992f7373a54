import XmlTemplate.Document
import XmlTemplate.Text.Lines
import XmlTemplate.Value.Basic

/-!
# Values as text

A value is shown in one of two ways: as it is written into a document (`Value.display`), and as it
stands inside a list or a message (`Value.shown`). The two differ on texts, which are quoted inside
of lists, and on documents, which are written as the text they hold and shown as a note of their
state. Both take the documents under construction.
-/

set_option autoImplicit false

namespace XmlTemplate

/-- A document inside of a list or a message. -/
def Document.shown (d : Document) : Text :=
  "Document(depth=".toList ++ Text.ofNat d.depth ++ ", format=Format(indentation=".toList
    ++ (match d.layout with
      | .terse => "None".toList
      | .pretty unit => unit.quoted)
    ++ "))".toList

/-- The names of the methods of texts. -/
def TextMethod.name : TextMethod → Text
  | .upper => "upper".toList
  | .lower => "lower".toList
  | .strip => "strip".toList

/-- The names of the methods of documents, as they are shown. -/
def DocumentMethod.name : DocumentMethod → Text
  | .beginTag => "open_tag".toList
  | .addAttribute => "attribute".toList
  | .addAttributes => "attribute_batch".toList
  | .enterContent => "close_start_tag".toList
  | .endEmptyTag => "close_empty_tag".toList
  | .endElement => "end_tag".toList
  | .addText => "text".toList
  | .asText => "as_str".toList
  | .complete => "finish".toList

/-- The names of the constructors of layouts. -/
def FormatMethod.name : FormatMethod → Text
  | .terse => "terse".toList
  | .pretty => "pretty".toList

/-- The place of a thing in memory, for things that are told apart by it; where it is says nothing.
-/
def placeShown : Text := " at 0x7f0000000000>".toList

/-- How things to call are shown. -/
def Builtin.shown : Builtin → Text
  | .len => "<built-in function len>".toList
  | .str => "<class 'str'>".toList
  | .range => "<class 'range'>".toList
  | .expand => "<function xml".toList ++ placeShown
  | .format => "<class 'xmlit.document.Format'>".toList
  | .textMethod m => "<method '".toList ++ m.name ++ "' of 'str' objects>".toList
  | .prettiness => "<property object".toList ++ placeShown

/-- Texts with a comma and a space between them. -/
def Text.commaJoin : List Text → Text
  | [] => []
  | [s] => s
  | s :: rest => s ++ ',' :: ' ' :: commaJoin rest

namespace Value

mutual

/-- A value inside of a list or a message. -/
def shown (docs : List Document) : Value → Text
  | none => "None".toList
  | bool b => (if b then "True" else "False").toList
  | int n => Text.ofInt n
  | float s => s
  | undefined _ => "nan".toList
  | str _ s => s.quoted
  | list _ items => '[' :: Text.commaJoin (shownAll docs items) ++ [']']
  | tuple _ items =>
    match items with
    | [v] => '(' :: v.shown docs ++ [',', ')']
    | items => '(' :: Text.commaJoin (shownAll docs items) ++ [')']
  | dict _ es => '\x7b' :: Text.commaJoin (shownEntries docs es) ++ ['\x7d']
  | entries es =>
    "dict_items([".toList ++ Text.commaJoin (shownPairs docs es) ++ "])".toList
  | range first stop step =>
    "range(".toList ++ Text.ofInt first ++ ", ".toList ++ Text.ofInt stop
      ++ (if step = 1 then [] else ", ".toList ++ Text.ofInt step) ++ [')']
  | iterator _ => "<list_iterator object".toList ++ placeShown
  | format unit => "Format(indentation=".toList ++ unit.shown docs ++ [')']
  | document id =>
    match docs[id]? with
    | some d => d.shown
    | Option.none => []
  | builtin b => b.shown
  | textMethod m .. =>
    "<built-in method ".toList ++ m.name ++ " of str object".toList ++ placeShown
  | entriesMethod .. => "<built-in method items of dict object".toList ++ placeShown
  | documentMethod m id =>
    "<bound method Document.".toList ++ m.name ++ " of ".toList
      ++ ((docs[id]?.map Document.shown).getD []) ++ ['>']
  | formatMethod m =>
    "<bound method Format.".toList ++ m.name ++ " of ".toList ++ Builtin.format.shown ++ ['>']

/-- The values of a list, each as it is shown. -/
def shownAll (docs : List Document) : List Value → List Text
  | [] => []
  | v :: rest => v.shown docs :: shownAll docs rest

/-- The entries of a dictionary, each as it is shown. -/
def shownEntries (docs : List Document) : List (Value × Value) → List Text
  | [] => []
  | (k, v) :: rest => (k.shown docs ++ ':' :: ' ' :: v.shown docs) :: shownEntries docs rest

/-- The entries of a dictionary, each as a pair. -/
def shownPairs (docs : List Document) : List (Value × Value) → List Text
  | [] => []
  | (k, v) :: rest =>
    ('(' :: k.shown docs ++ ',' :: ' ' :: v.shown docs ++ [')']) :: shownPairs docs rest

end

/-- A value as it is written into a document. -/
def display (docs : List Document) : Value → Text
  | str _ s => s
  | document id =>
    match docs[id]? with
    | some d => d.text
    | Option.none => []
  | v => v.shown docs

end Value

end XmlTemplate
