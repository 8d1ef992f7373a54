import XmlTemplate.Text.Basic

/-!
# Numbers

Whole numbers are exact. A number with a fraction is known by its text, and the text means the
nearest number with 53 binary digits, a tie going to the even one; numbers are compared by what they
mean, whole or not. The infinities lie outside of all numbers. `roundHalfEven` is off by half a unit
at most (`roundHalfEven_le`, `le_roundHalfEven`).
-/

set_option autoImplicit false

namespace XmlTemplate

/-- A number, or one of the infinities. -/
inductive Number where
  | finite (q : Rat)
  | infinite (negative : Bool)
  deriving DecidableEq, Repr

/-- The quotient rounded to the nearest whole number, halves to the even one. -/
def roundHalfEven (a b : Nat) : Nat :=
  if 2 * (a % b) < b then a / b
  else if b < 2 * (a % b) then a / b + 1
  else a / b + a / b % 2

theorem roundHalfEven_le (a b : Nat) : 2 * (b * roundHalfEven a b) ≤ 2 * a + b := by
  have whole := Nat.div_add_mod a b
  have bit : a / b % 2 ≤ 1 := by omega
  rw [roundHalfEven]
  split
  · omega
  · split
    · rw [Nat.mul_add, Nat.mul_one]
      omega
    · have := Nat.mul_le_mul_left b bit
      rw [Nat.mul_add]
      omega

theorem le_roundHalfEven (a : Nat) {b : Nat} (hb : 0 < b) :
    2 * a ≤ 2 * (b * roundHalfEven a b) + b := by
  have whole := Nat.div_add_mod a b
  have part := Nat.mod_lt a hb
  rw [roundHalfEven]
  split
  · omega
  · split
    · rw [Nat.mul_add, Nat.mul_one]
      omega
    · have := Nat.zero_le (b * (a / b % 2))
      rw [Nat.mul_add]
      omega

namespace Number

/-- The order of numbers. -/
def less : Number → Number → Bool
  | finite p, finite q => p < q
  | finite _, infinite negative => !negative
  | infinite negative, finite _ => negative
  | infinite negative, infinite negative' => negative && !negative'

/-- The power of two that the last of 53 binary digits counts in a positive quotient; no digit
counts less than the power `-1074`. -/
def lastPower (a b : Nat) : Int :=
  let low : Int := (a.log2 : Int) - (b.log2 : Int) - 53
  let fits : Bool :=
    if low + 53 ≥ 0 then a < b * Nat.pow 2 (low + 53).toNat
    else a * Nat.pow 2 (-(low + 53)).toNat < b
  max (if fits then low else low + 1) (-1074)

/-- The nearest number with 53 binary digits, for a quotient with a sign. -/
def nearest (negative : Bool) (a b : Nat) : Number :=
  let power := lastPower a b
  let size : Rat :=
    if power ≥ 0 then
      let unit := Nat.pow 2 power.toNat
      ((roundHalfEven a (b * unit) * unit : Nat) : Rat)
    else
      let parts := Nat.pow 2 (-power).toNat
      mkRat (roundHalfEven (a * parts) b) parts
  if size ≥ (Nat.pow 2 1024 : Rat) then infinite negative
  else finite (if negative then -size else size)

/-- The digits at the head of a text as a number, how many they are, and the text after them. -/
def leadingDigits (s : Text) : Nat × Nat × Text :=
  let digits := s.takeWhile Char.isDigit
  (digits.foldl (fun n c => 10 * n + (c.toNat - '0'.toNat)) 0, digits.length,
    s.dropWhile Char.isDigit)

/-- The number with the given sign, digits and power of ten. -/
def scaled (negative : Bool) (digits : Nat) (power : Int) : Number :=
  if digits = 0 then finite 0
  else if power ≥ 0 then nearest negative (digits * Nat.pow 10 power.toNat) 1
  else nearest negative digits (Nat.pow 10 (-power).toNat)

/-- The number that a text without a sign means. -/
def ofUnsigned? (negative : Bool) (s : Text) : Option Number :=
  if s = "inf".toList then some (infinite negative)
  else
    let (whole, count, s) := leadingDigits s
    if count = 0 then none
    else
      let (fraction, places, s) :=
        match s with
        | '.' :: t => leadingDigits t
        | _ => (0, 0, s)
      let digits := whole * Nat.pow 10 places + fraction
      match s with
      | [] => some (scaled negative digits (-(places : Int)))
      | 'e' :: t =>
        let down := t.head? = some '-'
        let signed := down || t.head? = some '+'
        let (power, _, _) := leadingDigits (if signed then t.tail else t)
        some (scaled negative digits ((if down then -(power : Int) else power) - places))
      | _ => none

/-- The number that a text means. -/
def ofText? : Text → Option Number
  | '-' :: s => ofUnsigned? true s
  | s => ofUnsigned? false s

end Number

end XmlTemplate
