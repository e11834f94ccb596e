import BasiliskServer.Decimal.Double

/-!
# Shortest decimal text of a number

The decimal text of a double-precision number: the fewest significant digits that read back as the
same number and, of those, the nearest to it. Numbers from `10 ^ -4` up to `10 ^ 16` are written
positionally, all others with an exponent of at least two digits.
-/

namespace BasiliskServer.Decimal

/-- Significant digits of a positive number and the power of ten of the first of them. -/
structure Digits where
  /-- The digits, as a number whose last digit is not zero. -/
  value : Nat
  /-- Power of ten of the first digit. -/
  power : Int

/-- A positive fraction times a power of ten, as a fraction. -/
def scaleTen (num den : Nat) (power : Int) : Nat × Nat :=
  if 0 ≤ power then (num * tenTo power.toNat, den) else (num, den * tenTo (-power).toNat)

/-- The greatest `p` in a falling range of `count` powers with `10 ^ p ≤ num / den`. -/
def decimalPower (num den : Nat) (start : Int) : Nat → Int
  | 0 => start
  | count + 1 =>
    let scaled := scaleTen num den (-start)
    if scaled.2 ≤ scaled.1 then start else decimalPower num den (start - 1) count

/-- The reals that read back as a number: the halfway points to its two neighbours, in quarters of
its unit in the last place, and whether the ends belong to it. -/
structure ReadBack where
  /-- Lower end, in quarters. -/
  low : Nat
  /-- Upper end, in quarters. -/
  high : Nat
  /-- Whether the two ends read back as the number too. -/
  closed : Bool

/-- The interval that reads back as a finite, positive number. -/
def ReadBack.of (x : Double) : ReadBack :=
  let m := x.significand
  { low := if x.fraction = 0 && 1 < x.biased then 4 * m - 1 else 4 * m - 2
    high := 4 * m + 2
    closed := m % 2 = 0 }

/-- Whether `t / unit` quarters lie in the interval. -/
def ReadBack.holds (interval : ReadBack) (num den : Nat) : Bool :=
  if interval.closed then interval.low * den ≤ num && num ≤ interval.high * den
  else interval.low * den < num && num < interval.high * den

/-- Tries one more digit at a time until a decimal of that length reads back. -/
def searchDigits (x : Double) (power : Int) : Nat → Nat → Digits
  | 0, count => ⟨count, power⟩
  | fuel + 1, count =>
    -- the value in units of the last of `count` digits, as a fraction
    let quarter : Nat × Nat :=
      if 2 ≤ x.exponent then (twoTo (x.exponent - 2).toNat, 1)
      else (1, twoTo (2 - x.exponent).toNat)
    let value := scaleTen (4 * x.significand * quarter.1) quarter.2 (count - 1 - power)
    let below := value.1 / value.2
    let interval := ReadBack.of x
    let reads (t : Nat) : Bool :=
      let real := scaleTen t 1 (power - (count - 1))
      interval.holds (real.1 * quarter.2) (real.2 * quarter.1)
    let nearer := 2 * (value.1 - below * value.2)
    let pick :=
      if reads below && reads (below + 1) then
        if nearer < value.2 || (nearer = value.2 && below % 2 = 0) then some below
        else some (below + 1)
      else if reads below then some below
      else if reads (below + 1) then some (below + 1)
      else none
    match pick with
    | none => searchDigits x power fuel (count + 1)
    | some t =>
      if t = tenTo count then ⟨1, power + 1⟩ else ⟨t, power⟩

/-- The shortest digits of a finite, non-zero number. -/
def shortestDigits (x : Double) : Digits :=
  let ratio : Nat × Nat :=
    if 0 ≤ x.exponent then (x.significand * twoTo x.exponent.toNat, 1)
    else (x.significand, twoTo (-x.exponent).toNat)
  searchDigits x (decimalPower ratio.1 ratio.2 309 640) 17 1

/-- Zeros to pad a text with. -/
def zeros (count : Nat) : List Char :=
  List.replicate count '0'

/-- The text of an exponent: its sign and at least two digits. -/
def exponentText (power : Int) : List Char :=
  let digits := Nat.toDigits 10 power.natAbs
  (if power < 0 then '-' else '+') :: (zeros (2 - digits.length) ++ digits)

/-- Digits and power of ten as text. -/
def Digits.render (d : Digits) : List Char :=
  let digits := Nat.toDigits 10 d.value
  if d.power < -4 || 16 ≤ d.power then
    let fraction := if digits.length = 1 then [] else '.' :: digits.drop 1
    digits.take 1 ++ fraction ++ 'e' :: exponentText d.power
  else if d.power < 0 then
    ['0', '.'] ++ zeros ((-d.power).toNat - 1) ++ digits
  else
    let whole := d.power.toNat + 1
    if digits.length ≤ whole then digits ++ zeros (whole - digits.length) ++ ['.', '0']
    else digits.take whole ++ '.' :: digits.drop whole

/-- How a number that is not finite is spelled. -/
structure Spelling where
  /-- The undefined number. -/
  nan : String
  /-- Positive infinity; negative infinity has a minus sign in front. -/
  infinity : String

/-- The text of a number. -/
def Double.render (spelling : Spelling) (x : Double) : List Char :=
  if x.isNaN then spelling.nan.toList
  else
    let magnitude :=
      if !x.isFinite then spelling.infinity.toList
      else if x.isZero then ['0', '.', '0']
      else (shortestDigits x).render
    if x.negative then '-' :: magnitude else magnitude

end BasiliskServer.Decimal
