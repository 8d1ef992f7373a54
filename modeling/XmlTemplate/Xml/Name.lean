import XmlTemplate.Text.Basic

/-!
# XML names

The `Name` production of XML 1.0, fifth edition: a starting character followed by name characters.
Membership is stated on code points, so that it also answers for numbers that are no character.
-/

set_option autoImplicit false

namespace XmlTemplate

/-- Code points that may start a name. -/
def nameStartRanges : List (Nat × Nat) :=
  [(0x3A, 0x3A), (0x41, 0x5A), (0x5F, 0x5F), (0x61, 0x7A), (0xC0, 0xD6), (0xD8, 0xF6),
   (0xF8, 0x2FF), (0x370, 0x37D), (0x37F, 0x1FFF), (0x200C, 0x200D), (0x2070, 0x218F),
   (0x2C00, 0x2FEF), (0x3001, 0xD7FF), (0xF900, 0xFDCF), (0xFDF0, 0xFFFD), (0x10000, 0xEFFFF)]

/-- Code points that may only continue a name: hyphen, full stop, digits, the middle dot and two
blocks of combining and joining marks. -/
def nameExtraRanges : List (Nat × Nat) :=
  [(0x2D, 0x2E), (0x30, 0x39), (0xB7, 0xB7), (0x300, 0x36F), (0x203F, 0x2040)]

/-- Code points that may start a name. -/
def isNameStart (n : Nat) : Bool := inRanges nameStartRanges n

/-- Code points that may continue a name. -/
def isNamePart (n : Nat) : Bool := isNameStart n || inRanges nameExtraRanges n

/-- A nonempty text of name characters that starts with a starting one. -/
def isName : Text → Bool
  | [] => false
  | c :: s => isNameStart c.toNat && s.all fun d => isNamePart d.toNat

end XmlTemplate
