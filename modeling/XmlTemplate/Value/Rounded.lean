import XmlTemplate.Value.Decimal

/-!
# Rounded numbers

Arithmetic on numbers with 53 binary digits: the exact result of an operation, rounded to the
nearest such number. Each has a sign, zero included; beside them there are the two infinities, and
an undefined number where an operation has no result.
-/

set_option autoImplicit false

namespace XmlTemplate

/-- A number with 53 binary digits, as its sign and its size, an infinity, or no number at all. -/
inductive Rounded where
  | finite (negative : Bool) (size : Rat)
  | infinite (negative : Bool)
  | undefined
  deriving DecidableEq, Repr

namespace Rounded

/-- The rounded number that is nearest to one with the given sign and size. -/
def nearest (negative : Bool) (size : Rat) : Rounded :=
  match Number.nearest false size.num.natAbs size.den with
  | .finite size => finite negative size
  | .infinite _ => infinite negative

/-- The rounded number that is nearest to a number; `zero` is the sign where that is zero. -/
def ofRat (zero : Bool) (q : Rat) : Rounded :=
  if q = 0 then finite zero 0 else nearest (q < 0) q.abs

/-- The number that a text means. -/
def ofText? (s : Text) : Option Rounded :=
  (Number.ofText? s).map fun n =>
    match n with
    | .finite q => finite (s.head? == some '-') q.abs
    | .infinite negative => infinite negative

/-- A whole number, if it is not too large. -/
def ofInt? (n : Int) : Option Rounded :=
  match ofRat false n with
  | finite negative size => some (finite negative size)
  | _ => none

/-- Whether the number has the negative sign. -/
def isNegative : Rounded → Bool
  | finite negative _ | infinite negative => negative
  | undefined => false

/-- Whether the number is zero. -/
def isZero : Rounded → Bool
  | finite _ size => size == 0
  | _ => false

/-- The number with the other sign. -/
def negate : Rounded → Rounded
  | finite negative size => finite (!negative) size
  | infinite negative => infinite (!negative)
  | undefined => undefined

/-- A size with its sign. -/
def signed (negative : Bool) (size : Rat) : Rat := if negative then -size else size

/-- The sum of two numbers. It is a negative zero only where both are. -/
def add : Rounded → Rounded → Rounded
  | finite n p, finite m q => ofRat (n && m) (signed n p + signed m q)
  | infinite n, infinite m => if n == m then infinite n else undefined
  | infinite n, finite .. | finite .., infinite n => infinite n
  | undefined, _ | _, undefined => undefined

/-- The difference of two numbers. -/
def sub (x y : Rounded) : Rounded := x.add y.negate

/-- The product of two numbers. -/
def mul (x y : Rounded) : Rounded :=
  let negative := x.isNegative != y.isNegative
  match x, y with
  | finite _ p, finite _ q => nearest negative (p * q)
  | undefined, _ | _, undefined => undefined
  | _, _ => if x.isZero || y.isZero then undefined else infinite negative

/-- The quotient by a number that is not zero. -/
def quotient (x y : Rounded) : Rounded :=
  let negative := x.isNegative != y.isNegative
  match x, y with
  | finite _ p, finite _ q => nearest negative (p / q)
  | infinite _, finite .. => infinite negative
  | finite .., infinite _ => finite negative 0
  | _, _ => undefined

/-- What is left of a number when another one is taken from its size as often as it fits. -/
def rest : Rounded → Rounded → Rounded
  | finite n p, finite _ q => nearest n (p - q * (p / q).floor)
  | finite n p, infinite _ => finite n p
  | _, _ => undefined

/-- The remainder by a number that is not zero. It has the sign of that number. -/
def remainder (x y : Rounded) : Rounded :=
  let left := rest x y
  if left.isZero then finite y.isNegative 0
  else if left.isNegative == y.isNegative then left
  else left.add y

/-- The number one. -/
def one : Rounded := finite false 1

/-- The greatest whole number that does not exceed a number, unless half of one more is exceeded. -/
def snap : Rounded → Rounded
  | finite n p =>
    let q := signed n p
    let whole := ofRat n q.floor
    if 2 * (q - q.floor) > 1 then whole.add one else whole
  | x => x

/-- The quotient by a number that is not zero, rounded down. -/
def floorQuotient (x y : Rounded) : Rounded :=
  let left := rest x y
  let even := (x.sub left).quotient y
  let down := if left.isZero || left.isNegative == y.isNegative then even else even.sub one
  match left with
  | undefined => undefined
  | _ => if down.isZero then finite (x.isNegative != y.isNegative) 0 else down.snap

/-- The text of a number. -/
def text : Rounded → Text
  | finite negative size =>
    (if negative then ['-'] else [])
      ++ if size = 0 then ['0', '.', '0'] else (Decimal.shortest size).text
  | infinite negative => (if negative then "-inf" else "inf").toList
  | undefined => "nan".toList

end Rounded

end XmlTemplate
