import XmlTemplate.Error

/-!
# Faults

Everything that can go wrong once a template is read: a call that breaks the order of a document
under construction, a value of the wrong kind, and what embedded scripts run into. The wording is in
`Fault.message`.
-/

set_option autoImplicit false

namespace XmlTemplate

/-- A call that does not fit the state of the document it is made on. -/
inductive Violation where
  | invalidName (shown : Text)
  | noOpenElement (name : Text)
  | missingIndentation
  | unclosed (count : Nat)
  | unbalanced (argument : Text)
  deriving DecidableEq, Repr

/-- A value of the right kind that is not acceptable. -/
inductive BadValue where
  | version (shown : Text)
  | indentationKind (kind : String)
  | filledIndentation (unit : Text)
  | tooFewItems (found : Nat)
  | tooManyItems
  | zeroStep
  | longNumber
  | nullCharacter
  | bindingLength (place length : Nat)
  deriving DecidableEq, Repr

/-- The divisions that refuse a zero, those of whole numbers and those of rounded ones. -/
inductive Division where
  | quotient
  | floorQuotient
  | remainder
  | roundedQuotient
  | roundedFloorQuotient
  | roundedRemainder
  deriving DecidableEq, Repr

/-- What stopped a rendering. `unsuitable` is an operation on a value of a kind that it is not made
for, and `missingMember` a member that the value does not have. A number can be too large for a
size (`sizeTooLarge`) or for a place (`placeTooLarge`), and a result too large to be held. -/
inductive Fault where
  | parse (error : ParseError)
  | invalidName (name : Text)
  | notADocument (source : Text) (kind : String)
  | notAFormat (kind : String)
  | violation (v : Violation)
  | badValue (v : BadValue)
  | unboundName (x : Text)
  | divisionByZero (d : Division)
  | indexOutOfRange (kind : String)
  | placeTooLarge
  | sizeTooLarge
  | outOfMemory
  | missingKey (shown : Text)
  | unsuitable
  | missingMember
  | tooDeep
  deriving DecidableEq, Repr

/-- The wording of a violation. -/
def Violation.message : Violation → String
  | invalidName shown => invalidNameMessage shown
  | noOpenElement name => "end tag " ++ inQuotes name ++ " without open element"
  | missingIndentation => "missing indentation before end tag"
  | unclosed count => "document finished with " ++ toString count ++ " unclosed element(s)"
  | unbalanced argument => "continuation " ++ inQuotes argument ++ " left unbalanced tags"

/-- The wording of an unacceptable value. -/
def BadValue.message : BadValue → String
  | version shown => String.ofList shown ++ " is not a valid Version"
  | indentationKind kind => "indentation must be a string or None, got " ++ kind
  | filledIndentation unit => filledIndentationMessage unit
  | tooFewItems found => "not enough values to unpack (expected 2, got " ++ toString found ++ ")"
  | tooManyItems => "too many values to unpack (expected 2)"
  | zeroStep => "range() arg 3 must not be zero"
  | longNumber =>
    "Exceeds the limit (4300 digits) for integer string conversion; use sys.set_int_max_str_digits()"
      ++ " to increase the limit"
  | nullCharacter => "embedded null character"
  | bindingLength place length =>
    "dictionary update sequence element #" ++ toString place ++ " has length " ++ toString length
      ++ "; 2 is required"

/-- The wording of a division by zero. -/
def Division.message : Division → String
  | quotient => "division by zero"
  | floorQuotient => "integer division or modulo by zero"
  | remainder => "integer modulo by zero"
  | roundedQuotient => "float division by zero"
  | roundedFloorQuotient => "float floor division by zero"
  | roundedRemainder => "float modulo"

/-- The wording of a fault. -/
def Fault.message : Fault → String
  | parse error => error.message
  | invalidName name => invalidNameMessage name
  | notADocument source kind =>
    "buffer expression " ++ inQuotes source ++ " evaluated to " ++ kind ++ ", expected Document"
  | notAFormat kind => "format directive evaluated to " ++ kind ++ ", expected Format"
  | violation v => v.message
  | badValue v => v.message
  | unboundName x => "name " ++ inQuotes x ++ " is not defined"
  | divisionByZero d => d.message
  | indexOutOfRange kind => kind ++ " index out of range"
  | placeTooLarge => "cannot fit 'int' into an index-sized integer"
  | sizeTooLarge => "a number is too large for a size"
  | outOfMemory => "a result is too large"
  | missingKey shown => String.ofList shown
  | unsuitable => "unsuitable operand"
  | missingMember => "missing member"
  | tooDeep => "maximum recursion depth exceeded"

end XmlTemplate
