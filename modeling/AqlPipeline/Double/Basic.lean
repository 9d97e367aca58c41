/-!
# Double precision numbers

A double is kept as its 64 bits. Its value is an integer times a power of two, and every operation
here computes the exact rational result first and rounds it once, to nearest with ties to even.
-/

namespace AqlPipeline

/-- A double precision number, by its bits: sign, eleven bits of exponent, 52 of fraction. -/
structure Double where
  /-- The bits, the sign being the highest. -/
  bits : UInt64
  deriving DecidableEq, Repr

/-- A fraction of natural numbers. -/
structure Ratio where
  /-- The numerator. -/
  num : Nat
  /-- The denominator, not zero. -/
  den : Nat

/-- `num / den` times the `exponent`-th power of `base`. -/
def Ratio.scale (ratio : Ratio) (base : Nat) (exponent : Int) : Ratio :=
  if 0 ≤ exponent then ⟨ratio.num * base.pow exponent.toNat, ratio.den⟩
  else ⟨ratio.num, ratio.den * base.pow (-exponent).toNat⟩

/-- Whether the left fraction is less than the right one. -/
def Ratio.less (left right : Ratio) : Bool :=
  left.num * right.den < right.num * left.den

/-- The natural number nearest to a fraction; of two, the even one. -/
def Ratio.round (ratio : Ratio) : Nat :=
  let quotient := ratio.num / ratio.den
  let rest := ratio.num % ratio.den
  if ratio.den < 2 * rest || (ratio.den == 2 * rest && quotient % 2 == 1) then quotient + 1
  else quotient

namespace Double

/-- The bit of the sign, `2 ^ 63`. -/
def signBit : Nat := 0x8000000000000000

/-- The lowest bit of the exponent, `2 ^ 52`. -/
def exponentBit : Nat := 0x10000000000000

/-- Whether the sign bit is set. -/
def isNegative (double : Double) : Bool :=
  signBit ≤ double.bits.toNat

/-- The bits without the sign. -/
def magnitude (double : Double) : Nat :=
  double.bits.toNat % signBit

/-- The magnitude with a sign bit. -/
def ofMagnitude (negative : Bool) (magnitude : Nat) : Double :=
  ⟨UInt64.ofNat (if negative then signBit + magnitude else magnitude)⟩

/-- The first magnitude that is not finite. -/
def infinity : Nat :=
  2047 * exponentBit

/-- The integer `m` of a magnitude of value `m * 2 ^ e`. -/
def mantissa (magnitude : Nat) : Nat :=
  if magnitude < exponentBit then magnitude else magnitude % exponentBit + exponentBit

/-- The exponent `e` of a magnitude of value `m * 2 ^ e`. -/
def exponent (magnitude : Nat) : Int :=
  if magnitude < exponentBit then -1074 else (magnitude / exponentBit : Nat) - 1075

/-- The value of a magnitude. -/
def value (magnitude : Nat) : Ratio :=
  Ratio.scale ⟨mantissa magnitude, 1⟩ 2 (exponent magnitude)

/-- The magnitude whose value is nearest to a fraction, or none if that is beyond the finite ones.
The exponent is chosen such that the mantissa has 53 bits, unless it would fall below -1074. -/
def nearest? (ratio : Ratio) : Option Nat :=
  if ratio.num = 0 then some 0
  else
    let size : Int := (ratio.num.log2 : Int) - ratio.den.log2
    let coarse := (ratio.scale 2 (52 - size))
    let fit := if coarse.num / coarse.den < exponentBit then size - 53 else size - 52
    let exponent := max fit (-1074)
    let magnitude := (exponent + 1074).toNat * exponentBit + (ratio.scale 2 (-exponent)).round
    if magnitude < infinity then some magnitude else none

/-- Whether two doubles are the same number: zero has two signs. -/
def sameNumber (left right : Double) : Bool :=
  left.bits == right.bits || (left.magnitude == 0 && right.magnitude == 0)

end Double

end AqlPipeline
