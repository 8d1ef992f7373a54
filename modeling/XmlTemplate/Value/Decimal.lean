import XmlTemplate.Value.Number

/-!
# Shortest decimals

A number with 53 binary digits is written with the fewest decimal digits that mean it. Of the
decimals with so many digits it is the nearest one, and of two that are as near the one with an even
last digit. Only the two neighbours of the number on the grid of those decimals come into question.

A decimal is written with a point where its first digit counts at least a ten-thousandth and less
than ten to the power sixteen, and with an exponent otherwise.
-/

set_option autoImplicit false

namespace XmlTemplate

/-- Digits, the last of which counts the given power of ten. -/
structure Decimal where
  digits : Nat
  power : Int
  deriving DecidableEq, Repr

namespace Decimal

/-- A power of ten. -/
def tenTo (power : Int) : Rat :=
  if power ≥ 0 then (Nat.pow 10 power.toNat : Rat) else mkRat 1 (Nat.pow 10 (-power).toNat)

/-- The quotient that a decimal is. -/
def value (d : Decimal) : Rat := d.digits * tenTo d.power

/-- Whether a decimal means a number: the number is the nearest one to it. -/
def means (d : Decimal) (size : Rat) : Bool :=
  Number.nearest false d.value.num.natAbs d.value.den == .finite size

/-- How many decimal digits a whole number has. -/
def width (n : Nat) : Nat := (Text.ofNat n).length

/-- The power of ten that the first digit of a positive number counts. -/
def leadingPower (size : Rat) : Int :=
  let num := size.num.natAbs
  if size.den ≤ num then (width (num / size.den) : Int) - 1
  else
    let down := width (size.den / num)
    if num * Nat.pow 10 (down - 1) = size.den then 1 - (down : Int) else -(down : Int)

/-- The nearer of the two neighbours of a positive number among the decimals with so many digits
that mean it, if one of them does. -/
def withDigits? (count : Nat) (size : Rat) : Option Decimal :=
  let power := leadingPower size + 1 - count
  let scaled := size * tenTo (-power)
  let lower := scaled.floor.toNat
  let below : Decimal := ⟨lower, power⟩
  let above : Decimal := ⟨lower + 1, power⟩
  match below.means size, above.means size with
  | true, true =>
    some (if roundHalfEven scaled.num.natAbs scaled.den = lower then below else above)
  | true, false => some below
  | false, true => some above
  | false, false => none

/-- The most digits that a number needs. -/
def maxDigits : Nat := 17

/-- The shortest decimal that means a positive number. -/
def shortest (size : Rat) : Decimal :=
  ((List.range maxDigits).findSome? fun i => withDigits? (i + 1) size).getD
    ⟨size.floor.toNat, 0⟩

/-- The text of a decimal. -/
def text (d : Decimal) : Text :=
  let digits := Text.dropWhileEnd (· == '0') (Text.ofNat d.digits)
  let leading : Int := d.power + (width d.digits : Int) - 1
  let orZero (s : Text) : Text := if s.isEmpty then ['0'] else s
  if -4 ≤ leading && leading < 16 then
    if leading ≥ 0 then
      let whole := leading.toNat + 1
      digits.take whole ++ List.replicate (whole - digits.length) '0'
        ++ '.' :: orZero (digits.drop whole)
    else '0' :: '.' :: List.replicate ((-leading).toNat - 1) '0' ++ digits
  else
    let exponent := Text.ofNat leading.natAbs
    let fraction := digits.drop 1
    digits.take 1 ++ (if fraction.isEmpty then [] else '.' :: fraction)
      ++ 'e' :: (if leading < 0 then '-' else '+')
      :: List.replicate (2 - exponent.length) '0' ++ exponent

end Decimal

end XmlTemplate
