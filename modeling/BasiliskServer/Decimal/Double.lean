/-!
# Double-precision numbers

A binary number of double precision, kept as its 64 bits so that equality is decidable and every
operation is exact natural-number arithmetic. A finite number is `significand * 2 ^ exponent`.
Reading a decimal takes the nearest number, a tie going to the even significand.
-/

namespace BasiliskServer.Decimal

/-- A power of two. -/
def twoTo (n : Nat) : Nat := Nat.pow 2 n

/-- A power of ten. -/
def tenTo (n : Nat) : Nat := Nat.pow 10 n

/-- A binary number of double precision, by its bits. -/
structure Double where
  /-- Sign, biased exponent and fraction, from the highest bit down. -/
  bits : UInt64
  deriving DecidableEq, Repr, Inhabited

namespace Double

/-- Whether the sign bit is set. -/
def negative (x : Double) : Bool :=
  x.bits.toNat / twoTo 63 = 1

/-- The biased exponent. -/
def biased (x : Double) : Nat :=
  x.bits.toNat / twoTo 52 % twoTo 11

/-- The fraction bits. -/
def fraction (x : Double) : Nat :=
  x.bits.toNat % twoTo 52

/-- Whether the number is neither infinite nor undefined. -/
def isFinite (x : Double) : Bool :=
  x.biased ≠ 2047

/-- Whether the number is undefined. -/
def isNaN (x : Double) : Bool :=
  x.biased = 2047 && x.fraction ≠ 0

/-- The integer significand of a finite number. -/
def significand (x : Double) : Nat :=
  if x.biased = 0 then x.fraction else twoTo 52 + x.fraction

/-- The exponent of two that the significand is scaled by. -/
def exponent (x : Double) : Int :=
  (if x.biased = 0 then 1 else (x.biased : Int)) - 1075

/-- Puts a sign, a biased exponent and a fraction together. -/
def pack (negative : Bool) (biased fraction : Nat) : Double :=
  ⟨((if negative then twoTo 63 else 0) + biased * twoTo 52 + fraction).toUInt64⟩

/-- The undefined number. -/
def nan : Double := pack false 2047 (twoTo 51)

/-- Infinity of either sign. -/
def infinity (negative : Bool) : Double := pack negative 2047 0

/-- The integer part of a finite number, towards zero. -/
def truncate (x : Double) : Int :=
  let magnitude : Nat :=
    if 0 ≤ x.exponent then x.significand * twoTo x.exponent.toNat
    else x.significand / twoTo (-x.exponent).toNat
  if x.negative then -(magnitude : Int) else magnitude

/-- The integer that a number equals, if it is one. -/
def toInt? (x : Double) : Option Int :=
  if x.isFinite &&
      (decide (0 ≤ x.exponent) || x.significand % twoTo (-x.exponent).toNat = 0) then
    some x.truncate
  else none

/-- Whether the number equals zero. -/
def isZero (x : Double) : Bool :=
  x.biased = 0 && x.fraction = 0

/-- Quotient rounded to the nearest integer, ties to even. -/
def roundDiv (num den : Nat) : Nat :=
  let q := num / den
  let r := num % den
  if 2 * r < den then q
  else if den < 2 * r then q + 1
  else if q % 2 = 0 then q else q + 1

/-- The integer nearest to a finite number, ties to even. -/
def round (x : Double) : Int :=
  let magnitude : Nat :=
    if 0 ≤ x.exponent then x.significand * twoTo x.exponent.toNat
    else roundDiv x.significand (twoTo (-x.exponent).toNat)
  if x.negative then -(magnitude : Int) else magnitude

/-- The number nearest to the positive fraction `num / den`, ties to the even significand. -/
def ofRatio (negative : Bool) (num den : Nat) : Double :=
  let guess : Int := (Nat.log2 num : Int) - (Nat.log2 den : Int) - 53
  let scaled (k : Int) : Nat × Nat :=
    if 0 ≤ k then (num, den * twoTo k.toNat) else (num * twoTo (-k).toNat, den)
  let high := (scaled guess).1 / (scaled guess).2
  let k := max (if twoTo 53 ≤ high then guess + 1 else guess) (-1074)
  let m := roundDiv (scaled k).1 (scaled k).2
  let (m, k) := if m = twoTo 53 then (twoTo 52, k + 1) else (m, k)
  if 971 < k then infinity negative
  else if m < twoTo 52 then pack negative 0 m
  else pack negative (k + 1075).toNat (m - twoTo 52)

/-- The number nearest to a positive number times a positive integer. -/
def times (x : Double) (n : Nat) : Double :=
  if 0 ≤ x.exponent then ofRatio x.negative (x.significand * twoTo x.exponent.toNat * n) 1
  else ofRatio x.negative (x.significand * n) (twoTo (-x.exponent).toNat)

/-- The number nearest to `digits * 10 ^ scale`. Magnitudes far outside the range are settled by
their number of digits. -/
def ofDecimal (negative : Bool) (digits : Nat) (scale : Int) : Double :=
  if digits = 0 then pack negative 0 0
  else
    let magnitude := scale + (Nat.toDigits 10 digits).length
    if 400 < magnitude then infinity negative
    else if magnitude < -400 then pack negative 0 0
    else if 0 ≤ scale then ofRatio negative (digits * tenTo scale.toNat) 1
    else ofRatio negative digits (tenTo (-scale).toNat)

end Double

/-!
## Limits of time

Limits of time are given in whole milliseconds and kept in seconds, as numbers of double precision.
So a limit can be too large, and what is shown of it in milliseconds is what is left after the way
there and back.
-/

/-- The number of seconds nearest to an integer of milliseconds. -/
def seconds (limit : Int) : Double :=
  if limit = 0 then .pack false 0 0
  else .ofRatio (decide (limit < 0)) limit.natAbs 1000

/-- A number of seconds in milliseconds. -/
def Double.inMilliseconds (x : Double) : Double :=
  if x.isZero then x else x.times 1000

/-- The whole milliseconds of a limit of time, without the fraction that the conversion may leave;
none if the limit is too large. -/
def wholeMilliseconds? (limit : Int) : Option Int :=
  let shown := (seconds limit).inMilliseconds
  if (seconds limit).isFinite && shown.isFinite then some shown.truncate else none

/-- The whole milliseconds nearest to a limit of time; none if the limit is too large. -/
def nearestMilliseconds? (limit : Int) : Option Int :=
  let shown := (seconds limit).inMilliseconds
  if (seconds limit).isFinite && shown.isFinite then some shown.round else none

/-- How long a limit of time lasts on a clock, in milliseconds. -/
def clockMilliseconds (limit : Int) : Nat :=
  ((nearestMilliseconds? limit).getD limit).toNat

end BasiliskServer.Decimal
