import XmlTemplate.Fault
import XmlTemplate.Text.Blank
import XmlTemplate.Value.Basic

/-!
# Options

Options hold the indentation unit of documents that a template creates without a directive of its
own, and whether continuations are allowed. A unit is a text of blanks; the permission is any value
and counts by its truth. A script can put another value in the place of options, which has no
permission to give and an indentation only if it is a layout (`Settings`).
-/

set_option autoImplicit false

namespace XmlTemplate

/-- Accept a value as an indentation unit. -/
def checkUnit : Value → Except BadValue Text
  | .str _ s => if s.allBlank then .ok s else .error (.filledIndentation s)
  | v => .error (.indentationKind v.kind)

/-- Settings for reading and rendering templates. -/
structure Options where
  unit : Option Text
  continuations : Value
  deriving Repr

namespace Options

/-- Terse output, and continuations allowed. -/
def default : Options := ⟨none, .bool true⟩

/-- Accept an indentation: a unit, or nothing for terse output. -/
def checkIndentation : Value → Except BadValue (Option Text)
  | .none => .ok none
  | v => (checkUnit v).map some

/-- The options with a new value for the option of the given name; only indentation is checked. -/
def set (o : Options) (name : Text) (v : Value) : Except Fault Options :=
  if name = "indentation".toList then
    match checkIndentation v with
    | .ok unit => .ok { o with unit }
    | .error e => .error (.badValue e)
  else if name = "allow_continuations".toList then .ok { o with continuations := v }
  else .error .unsuitable

/-- Names of the options. -/
def names : List Text := ["indentation", "allow_continuations"].map String.toList

/-- The options with new values for some of them; an unknown name is refused before any value. -/
def update (o : Options) (fields : List (Text × Value)) : Except Fault Options :=
  if fields.all fun f => names.contains f.1 then fields.foldlM (fun o f => o.set f.1 f.2) o
  else .error .unsuitable

/-- Whether continuations are allowed. -/
def allowContinuations (o : Options) : Bool := o.continuations.isTrue

/-- Whether options can be a key of the store of compiled templates. -/
def isKey (o : Options) : Bool := o.continuations.isKey

/-- Equality of options, value by value. -/
def same (o p : Options) : Bool := o.unit == p.unit && o.continuations.same p.continuations

end Options

/-- What reading has to know about continuations. -/
inductive Permission where
  | granted
  | refused
  | missing
  deriving DecidableEq, Repr

/-- Options, or a value in their place. -/
inductive Settings where
  | options (o : Options)
  | value (v : Value)
  deriving Repr

namespace Settings

/-- Whether continuations are allowed. -/
def permission : Settings → Permission
  | options o => if o.allowContinuations then .granted else .refused
  | value _ => .missing

/-- The value that says how documents are indented, if there is one. -/
def indentation? : Settings → Option Value
  | options o => some (o.unit.elim .none (.str none))
  | value (.format unit) => some unit
  | value (.builtin .format) => some .none
  | value _ => none

/-- Whether settings can be a key of the store of compiled templates. -/
def isKey : Settings → Bool
  | options o => o.isKey
  | value v => v.isKey

/-- Equality of settings, value by value. -/
def same : Settings → Settings → Bool
  | options o, options p => o.same p
  | value v, value w => v.same w
  | _, _ => false

end Settings

end XmlTemplate
