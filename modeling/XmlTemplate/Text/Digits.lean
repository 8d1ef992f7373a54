import XmlTemplate.Text.Basic

/-!
# Digits

Numbers written with digits in bases up to sixteen. A text of digits is read from left to right, and
a character that is no digit of the base makes it no number.
-/

set_option autoImplicit false

namespace XmlTemplate

/-- The value of a digit in bases up to sixteen. -/
def digit? (c : Char) : Option Nat :=
  if '0' ≤ c && c ≤ '9' then some (c.toNat - '0'.toNat)
  else if 'a' ≤ c && c ≤ 'f' then some (c.toNat - 'a'.toNat + 10)
  else if 'A' ≤ c && c ≤ 'F' then some (c.toNat - 'A'.toNat + 10)
  else none

/-- Whether the character is a digit of the base. -/
def isDigitOf (base : Nat) (c : Char) : Bool :=
  match digit? c with
  | some d => d < base
  | none => false

/-- The number that digits mean, more significant ones first; what is no digit counts as zero. -/
def digitsValue (base : Nat) (digits : Text) : Nat :=
  digits.foldl (fun n c => base * n + (digit? c).getD 0) 0

/-- The number with the given digits, if each is a digit of the base. -/
def number? (base : Nat) (digits : Text) : Option Nat :=
  if digits.all (isDigitOf base) then some (digitsValue base digits) else none

theorem digitsValue_append (base : Nat) (s : Text) (c : Char) :
    digitsValue base (s ++ [c]) = base * digitsValue base s + (digit? c).getD 0 := by
  rw [digitsValue, List.foldl_append]
  rfl

end XmlTemplate
