import XmlTemplate.Span
import XmlTemplate.Text.Quoted

/-!
# Errors of reading a template

Every way in which a source text can fail to be a template, with the place where it shows. The
wording is in one function, `ParseCause.message`.
-/

set_option autoImplicit false

namespace XmlTemplate

/-- What is wrong with the declaration at the head of a template. -/
inductive PrologCause where
  | missingXml
  | misplaced (expected : Text)
  | missingVersion
  | version (found : Text)
  | encoding
  | standalone (found : Text)
  deriving DecidableEq, Repr

/-- Why a source text is no template. Where a token is to blame, `found` is its description.
Elements and scripts can be nested too deep to be read (`tooDeep`), and scripts can have too many
signs in a row (`tooStacked`). -/
inductive ParseCause where
  | unbalanced (closer : Char)
  | unclosed (opener : Char)
  | unterminatedString
  | endOfInput
  | expectedPunctuation (expected found : Text)
  | expectedIdentifier (found : Text)
  | expectedGroup (opener found : Text)
  | extraToken (found : Text)
  | expectedString
  | invalidString
  | changeableKey
  | tooLarge
  | invalidName (name : Text)
  | expectedName (found : Text)
  | duplicateDirective
  | unknownDirective (key : Text)
  | filledIndentation (unit : Text)
  | expectedMarkup (found : Text)
  | missingTarget
  | prolog (cause : PrologCause)
  | endTagMismatch (expected found : Text)
  | expectedValue (found : Text)
  | expectedChild (found : Text)
  | continuationsDisabled
  | unknownPermission
  | tooDeep
  | tooStacked
  | emptyCode
  | invalidCode
  deriving DecidableEq, Repr

/-- A cause with its place; the place is missing where the source ran out at the top level. -/
structure ParseError where
  cause : ParseCause
  span : Option Span
  deriving DecidableEq, Repr

/-- The stages of reading that an error can be charged to. -/
inductive ParseStage where
  | lexing
  | prolog
  | element
  deriving DecidableEq, Repr

/-- The stage that a cause is charged to, for causes that belong to one. -/
def ParseCause.stage? : ParseCause → Option ParseStage
  | unbalanced _ | unclosed _ | unterminatedString => some .lexing
  | prolog _ => some .prolog
  | endTagMismatch .. => some .element
  | _ => none

/-- A text between single quotes, as messages show it. -/
def inQuotes (s : Text) : String := "'" ++ String.ofList s ++ "'"

/-- What messages say of a text that is no name. -/
def invalidNameMessage (name : Text) : String := inQuotes name ++ " is not a valid XML name"

/-- What messages say of an indentation unit with something other than blanks in it. -/
def filledIndentationMessage (unit : Text) : String :=
  "indentation must contain only whitespace, got " ++ String.ofList unit.quoted

/-- The wording of a faulty declaration. -/
def PrologCause.message : PrologCause → String
  | missingXml => "expected 'xml'"
  | misplaced expected =>
    "expected " ++ inQuotes expected ++ " (prolog attributes have a fixed order)"
  | missingVersion => "expected 'version'"
  | version found => "invalid version " ++ inQuotes found
  | encoding => "only encoding 'UTF-8' is allowed"
  | standalone found => "standalone must be 'yes' or 'no', not " ++ inQuotes found

/-- The wording of a cause. -/
def ParseCause.message : ParseCause → String
  | unbalanced closer => "unbalanced delimiter " ++ inQuotes [closer]
  | unclosed opener => "unclosed delimiter " ++ inQuotes [opener]
  | unterminatedString => "unterminated string literal"
  | endOfInput => "unexpected end of input"
  | expectedPunctuation expected found =>
    "expected " ++ inQuotes expected ++ ", found " ++ String.ofList found
  | expectedIdentifier found => "expected identifier, found " ++ String.ofList found
  | expectedGroup opener found =>
    "expected " ++ inQuotes opener ++ " delimited group, found " ++ String.ofList found
  | extraToken found => "unexpected extra token " ++ String.ofList found
  | expectedString => "expected string literal"
  | invalidString => "invalid string literal"
  | changeableKey => "a key of a constant can be changed"
  | tooLarge => "a whole number is too large to be made real"
  | invalidName name => invalidNameMessage name
  | expectedName found => "expected name, found " ++ String.ofList found
  | duplicateDirective => "duplicate formatting directive"
  | unknownDirective key => "unsupported global attribute " ++ inQuotes key
  | filledIndentation unit => filledIndentationMessage unit
  | expectedMarkup found => "expected '<', found " ++ String.ofList found
  | missingTarget => "you have to specify either a buffer to write into or an XML prolog"
  | prolog cause => cause.message
  | endTagMismatch expected found =>
    "end tag does not match start tag: expected " ++ inQuotes expected
      ++ ", found " ++ inQuotes found
  | expectedValue found =>
    "expected attribute value: string literal or \x7b...\x7d, found " ++ String.ofList found
  | expectedChild found =>
    "expected element child: string literal, \x7b...\x7d or '<', found " ++ String.ofList found
  | continuationsDisabled => "\x7b|...| ...\x7d children are disabled by the options"
  | unknownPermission => "nothing says whether continuations are allowed"
  | tooDeep => "maximum recursion depth exceeded"
  | tooStacked => "too many signs in a row"
  | emptyCode => "empty embedded expression"
  | invalidCode => "invalid embedded Python code"

/-- The wording of an error: line and column where it has a place, then its cause. -/
def ParseError.message (e : ParseError) : String :=
  match e.span with
  | none => e.cause.message
  | some p => toString p.line ++ ":" ++ toString p.column ++ ": " ++ e.cause.message

end XmlTemplate
