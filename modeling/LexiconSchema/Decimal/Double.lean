/-!
# Double-precision numbers as exact values

A finite double is a sign, a mantissa m below 2^53 and an exponent q of at least
-1074, and its value is m · 2^q with that sign. Every value is written in one
way only: either m has its full 53 bits or q is -1074. All arithmetic here is
exact arithmetic on natural numbers followed by one rounding to the nearest
double, halves going to the even mantissa.

`ofDecimal` is the rule by which a decimal significand and exponent become a
double. It rounds once for the significand and once for each power of ten, so
its result is not always the double nearest to the decimal written.
-/

namespace LexiconSchema

/-- A power of two. -/
def twoTo (exponent : Nat) : Nat := Nat.pow 2 exponent

/-- A power of ten. -/
def tenTo (exponent : Nat) : Nat := Nat.pow 10 exponent

/-- A finite double: a sign and the exact value mantissa · 2^exponent. -/
structure Double where
  negative : Bool
  mantissa : Nat
  exponent : Int
deriving DecidableEq, Repr

namespace Double

/-- The least exponent, at which mantissas may be short. -/
def leastExponent : Int := -1074

/-- The exponent of the largest doubles. -/
def greatestExponent : Int := 971

/-- Positive zero. -/
def zero : Double := ⟨false, 0, leastExponent⟩

/-- The same magnitude with the other sign. -/
def negate (x : Double) : Double := { x with negative := !x.negative }

/-- Numerical equality: the same value, where both zeros are one value. -/
def same (x y : Double) : Bool :=
  (x.mantissa == 0 && y.mantissa == 0) || decide (x = y)

instance : BEq Double := ⟨same⟩

/-- The quotient rounded to the nearest natural number, halves to the even one. -/
def roundedQuotient (numerator denominator : Nat) : Nat :=
  let quotient := numerator / denominator
  let twice := 2 * (numerator % denominator)
  if twice < denominator then quotient
  else if denominator < twice then quotient + 1
  else quotient + quotient % 2

/-- The largest e with 2^e at most the positive quotient. -/
def binaryMagnitude (numerator denominator : Nat) : Int :=
  let e : Int := (numerator.log2 : Int) - (denominator.log2 : Int)
  if numerator * twoTo (-e).toNat < denominator * twoTo e.toNat then e - 1 else e

/-- The double nearest to a quotient; none if the quotient rounds past the
largest double. -/
def nearest (numerator denominator : Nat) : Option Double :=
  if numerator = 0 then some zero
  else
    let q := max (binaryMagnitude numerator denominator - 52) leastExponent
    let m := roundedQuotient (numerator * twoTo (-q).toNat) (denominator * twoTo q.toNat)
    let (m, q) := if m = twoTo 53 then (twoTo 52, q + 1) else (m, q)
    if greatestExponent < q then none else some ⟨false, m, q⟩

/-- The double nearest to a quotient times a power of two. -/
def nearestScaled (numerator denominator : Nat) (power : Int) : Option Double :=
  nearest (numerator * twoTo power.toNat) (denominator * twoTo (-power).toNat)

/-- The product of two magnitudes, rounded once. -/
def product (x y : Double) : Option Double :=
  nearestScaled (x.mantissa * y.mantissa) 1 (x.exponent + y.exponent)

/-- The quotient of two magnitudes, rounded once. -/
def quotient (x y : Double) : Option Double :=
  nearestScaled x.mantissa y.mantissa (x.exponent - y.exponent)

/-- The greatest power of ten that is a double. -/
def greatestPower : Nat := 308

/-- Multiplies by a power of ten, or divides if the power is negative. Below
10^-308 the division is done in steps, each rounded, until nothing is left. -/
def timesPowerOfTen (x : Double) (power : Int) : Option Double :=
  if power.natAbs ≤ greatestPower then do
    let ten ← nearest (tenTo power.natAbs) 1
    if 0 ≤ power then product x ten else quotient x ten
  else if x.mantissa = 0 then some x
  else if 0 ≤ power then none
  else do
    let ten ← nearest (tenTo greatestPower) 1
    let smaller ← quotient x ten
    timesPowerOfTen smaller (power + greatestPower)
termination_by power.natAbs
decreasing_by simp only [greatestPower] at *; omega

/-- The double for significand · 10^power: the significand is rounded first, then
the power is applied. None if that is too large. -/
def ofDecimal (significand : Nat) (power : Int) : Option Double := do
  let x ← nearest significand 1
  timesPowerOfTen x power

end Double

end LexiconSchema
