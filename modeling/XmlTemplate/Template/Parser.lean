import XmlTemplate.Options
import XmlTemplate.Room
import XmlTemplate.Template.Basic
import XmlTemplate.Template.Body
import XmlTemplate.Template.Name
import XmlTemplate.Token.Lexer

/-!
# Reading templates

    template  := directive* [destination ","] [prolog] "<" element
    directive := "#" "[" ("indentation" "=" STRING | "format" "=" expression) "]"
    prolog    := "<" "?" "xml" "version" "=" STRING
                 ["encoding" "=" STRING ["standalone" "=" STRING]] "?" ">"
    element   := name (name "=" value | "{" ".." expression "}")*
                 ("/" ">" | ">" child* "<" "/" [name] ">")
    value     := STRING | "{" expression "}"
    child     := STRING | "{" "|" IDENTIFIER "|" body "}" | "{" expression "}" | "<" element

A directive and the destination, which is an expression, come in any order, each at most once, and a
template has a destination or a prolog. Embedded scripts are cut from the source as written and read
at once. Reading stops at the first error.
-/

set_option autoImplicit false

namespace XmlTemplate

namespace Parse

/-! ## Embedded scripts -/

/-- An embedded expression with the given source, in an element with the given room. -/
def embed (room : Nat) (source : Text) (span : Span) : Parse Embedded :=
  if source.allBlank then fail .emptyCode span
  else match Script.expression? source with
    | some code =>
      if code.stacked > Script.maxStacked then fail .tooStacked span
      else if code.depth > scriptDepth room then fail .tooDeep span
      else return ⟨source, code, some span⟩
    | none => fail .invalidCode span

/-- The expression that makes up a group. -/
def groupExpression (room : Nat) (group : Token) : Parse Embedded :=
  embed room group.text group.span

/-- The expression from the cursor to the end of the group that it stands in. -/
def restExpression (room : Nat) (group : Token) : Parse Embedded := do
  let first ← peek
  embed room (group.innerFrom first) first.span

/-- Whether a group begins with two full stops. -/
def isFill (group : Token) : Bool :=
  match group.children with
  | a :: b :: _ => a.isPunctuation ['.'] && b.isPunctuation ['.']
  | _ => false

/-- The expression of a fill. -/
def fillExpression (room : Nat) (group : Token) : Parse Embedded :=
  within group do
    discard <| takePunctuation ['.']
    discard <| takePunctuation ['.']
    restExpression room group

/-- Whether a group begins with a bar. -/
def isContinuation (group : Token) : Bool :=
  match group.children with
  | t :: _ => t.isPunctuation ['|']
  | [] => false

/-- A continuation, where they are allowed; an empty body does nothing. -/
def continuation (permission : Permission) (room : Nat) (group : Token) : Parse Continuation :=
  match permission with
  | .refused => fail .continuationsDisabled group.span
  | .missing => fail .unknownPermission group.span
  | .granted =>
    within group do
      discard <| takePunctuation ['|']
      let argument ← takeIdentifier
      let bar ← takePunctuation ['|']
      let body := bodySource (group.innerAfter bar)
      let source := if body.isEmpty then "pass".toList else body
      match Script.program? source with
      | some code =>
        if Script.stackedIn code > Script.maxStackedIn then fail .tooStacked group.span
        else if Script.depthAll code > scriptDepth room then fail .tooDeep group.span
        else return ⟨argument.text, source, code, some group.span⟩
      | none => fail .invalidCode group.span

/-! ## Elements -/

/-- The value of an attribute. -/
def attributeValue (room : Nat) : Parse AttributeValue := do
  let t ← take
  if t.isKind .string then return .literal (← stringValue t)
  else if t.isGroup ['{'] then return .expression (← groupExpression room t)
  else fail (.expectedValue t.shown) t.span

/-- Attributes and fills up to and with the end of the start tag, and whether that closes an empty
element. There are no more items than tokens. -/
def startTag (room : Nat) : (items : Nat) → Parse (List AttributeItem × Bool)
  | 0 => endOfInput
  | items + 1 => do
    let t ← peek
    if t.isPunctuation ['>'] then
      discard take
      return ([], false)
    else if t.isPunctuation ['/'] then
      discard take
      discard <| takePunctuation ['>']
      return ([], true)
    else if t.isGroup ['{'] && isFill t then
      discard take
      let e ← fillExpression room t
      let (rest, empty) ← startTag room items
      return (.fill e :: rest, empty)
    else
      let name ← readName
      discard <| takePunctuation ['=']
      let value ← attributeValue room
      let (rest, empty) ← startTag room items
      return (.named name value :: rest, empty)

/-- Whether the cursor stands before an end tag. -/
def atEndTag : Parse Bool := do
  if (← peek).isPunctuation ['<'] then return (← peekSecond).isPunctuation ['/']
  else return false

/-- The end tag of an element; the name may be left out. -/
def endTag (name : Text) : Parse Unit := do
  let opening ← takePunctuation ['<']
  discard <| takePunctuation ['/']
  if !(← peek).isPunctuation ['>'] then
    let found ← readName
    if found ≠ name then fail (.endTagMismatch name found) opening.span
  discard <| takePunctuation ['>']

mutual

/-- An element after its `<`, in the given room, with continuations in it as far as they are
allowed. Where it begins, there are no more tokens than the depth, so that neither its start tag nor
what is nested in it runs out of depth before the tokens end. -/
def element (permission : Permission) (room : Nat) : (depth : Nat) → Parse Element
  | 0 => endOfInput
  | depth + 1 => do
    let first ← peek
    let name ← readName
    if room < nameRoom name then fail .tooDeep first.span
    let (attributes, empty) ← startTag room depth
    if empty then return .empty name attributes
    else
      let content ← children permission room depth
      endTag name
      return .node name attributes content

/-- The content of an element up to its end tag. -/
def children (permission : Permission) (room : Nat) : (depth : Nat) → Parse (List Child)
  | 0 => endOfInput
  | depth + 1 => do
    if ← atEndTag then return []
    else
      let first ← child permission room depth
      return first :: (← children permission room depth)

/-- One part of the content of an element. -/
def child (permission : Permission) (room : Nat) : (depth : Nat) → Parse Child
  | 0 => endOfInput
  | depth + 1 => do
    let t ← take
    if t.isKind .string then return .text (← stringValue t)
    else if t.isGroup ['{'] then
      if isContinuation t then return .continuation (← continuation permission room t)
      else return .expression (← groupExpression room t)
    else if t.isPunctuation ['<'] then
      return .element (← element permission (room - elementRoom) depth)
    else fail (.expectedChild t.shown) t.span

end

/-! ## The head of a template -/

/-- The directive in a group. -/
def directive (room : Nat) (group : Token) : Parse LayoutDirective :=
  within group do
    let key ← takeIdentifier
    if key.text = "indentation".toList then
      discard <| takePunctuation ['=']
      let span := (← peek).span
      let unit ← takeString
      if unit.allBlank then
        noMore
        return .unit unit
      else fail (.filledIndentation unit) span
    else if key.text = "format".toList then
      discard <| takePunctuation ['=']
      return .expression (← restExpression room group)
    else fail (.unknownDirective key.text) key.span

/-- Take tokens up to and with a comma; answers the last one before it, or the given one. -/
def skipToComma (last : Token) : (tokens : Nat) → Parse Token
  | 0 => endOfInput
  | tokens + 1 => do
    let t ← take
    if t.isPunctuation [','] then return last else skipToComma t tokens

/-- The expression up to a comma that names the document to write into. -/
def destination (room : Nat) (source : Text) : Parse Embedded := do
  let first ← peek
  let last ← skipToComma first (← remaining)
  embed room
    ((⟨first.span.line, first.span.column, first.span.start, last.span.stop⟩ : Span).cut source)
    first.span

/-- The directive and the destination, up to the first `<`. -/
def head (room : Nat) (source : Text) (into : Option Embedded) (layout : Option LayoutDirective) :
    (tokens : Nat) → Parse (Option Embedded × Option LayoutDirective)
  | 0 => endOfInput
  | tokens + 1 => do
    let t ← peek
    if t.isPunctuation ['#'] then
      discard take
      let group ← takeGroup ['[']
      let parsed ← directive room group
      if layout.isSome then fail .duplicateDirective group.span
      else head room source into (some parsed) tokens
    else if t.isPunctuation ['<'] then return (into, layout)
    else if into.isSome then fail (.expectedMarkup t.shown) t.span
    else head room source (some (← destination room source)) layout tokens

/-- An attribute of the declaration, which may be missing, and the place of its value. -/
def prologAttribute (name : Text) : Parse (Option (Text × Span)) := do
  if (← peek).isPunctuation ['?'] then return none
  else
    let key ← takeIdentifier
    if key.text ≠ name then fail (.prolog (.misplaced name)) key.span
    else
      discard <| takePunctuation ['=']
      let span := (← peek).span
      return some (← takeString, span)

/-- The only encoding of documents. -/
def encodingName : Text := "UTF-8".toList

/-- What a `standalone` attribute says. -/
def standalone? (s : Text) : Option Bool :=
  if s = "yes".toList then some true else if s = "no".toList then some false else none

/-- The declaration. The values of its attributes are checked once it is complete. -/
def prolog : Parse Prolog := do
  discard <| takePunctuation ['<']
  discard <| takePunctuation ['?']
  let key ← takeIdentifier
  if key.text ≠ "xml".toList then fail (.prolog .missingXml) key.span
  else
    let first := (← peek).span
    match ← prologAttribute "version".toList with
    | none => fail (.prolog .missingVersion) first
    | some (version, versionSpan) =>
      let encoding ← prologAttribute "encoding".toList
      let standalone ← if encoding.isSome then prologAttribute "standalone".toList else pure none
      discard <| takePunctuation ['?']
      discard <| takePunctuation ['>']
      match Version.ofText? version with
      | none => fail (.prolog (.version version)) versionSpan
      | some version =>
        match encoding with
        | some (found, span) =>
          if found ≠ encodingName then fail (.prolog .encoding) span
        | none => pure ()
        match standalone with
        | none => return ⟨version, none⟩
        | some (found, span) =>
          match standalone? found with
          | none => fail (.prolog (.standalone found)) span
          | some b => return ⟨version, some b⟩

/-- A template, up to the end of its root element. -/
def template (permission : Permission) (room : Nat) (source : Text) : Parse Template := do
  let room := room - readingRoom
  let (into, layout) ← head room source none none (← remaining)
  let declared ← if (← peekSecond).isPunctuation ['?'] then some <$> prolog else pure none
  if into.isNone && declared.isNone then fail .missingTarget (← peek).span
  else
    discard <| takePunctuation ['<']
    let root ← element permission room (← remaining)
    return ⟨root, into, layout, declared⟩

end Parse

namespace Template

/-- The template with the given tokens, which were read from the source. -/
def ofTokens (permission : Permission) (room : Nat) (source : Text) (tokens : List Token) :
    Except ParseError Template :=
  let whole : Parse Template := do
    let t ← Parse.template permission room source
    Parse.noMore
    return t
  match whole ⟨tokens, none⟩ with
  | .ok t _ => .ok t
  | .error e _ => .error e

/-- The template that a source text is, read in the given room. Of the settings only the permission
for continuations counts. -/
def parse (permission : Permission) (room : Nat) (source : Text) : Except ParseError Template := do
  ofTokens permission room source (← Token.lex source)

end Template

end XmlTemplate
