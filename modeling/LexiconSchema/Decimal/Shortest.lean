import LexiconSchema.Decimal.Double

/-!
# Shortest decimals

The decimals that read back to a double, rounded exactly, are those inside an
interval around its value; the ends belong to it when the mantissa is even. The
shortest decimal of a double is, among the decimals inside, one with the fewest
digits and of those the nearest.

For each number of digits only the two neighbours of the value on that decimal
grid need a look: if any point of the grid is inside, so is one of these.
-/

namespace LexiconSchema.Decimal

/-- How d · 10^k compares with x · 2^p, decided on natural numbers. -/
def weigh (d : Nat) (k : Int) (x : Nat) (p : Int) : Ordering :=
  compare (d * tenTo k.toNat * twoTo (-p).toNat) (x * twoTo p.toNat * tenTo (-k).toNat)

/-- Whether d · 10^k reads back to the magnitude of a double. In quarters of the
last place the value is 4m; the interval reaches two quarters to each side, and
only one quarter down where the doubles below lie closer. -/
def readsBack (x : Double) (d : Nat) (k : Int) : Bool :=
  let closer := x.mantissa == twoTo 52 && x.exponent != Double.leastExponent
  let lower := weigh d k (4 * x.mantissa - if closer then 1 else 2) (x.exponent - 2)
  let upper := weigh d k (4 * x.mantissa + 2) (x.exponent - 2)
  if x.mantissa % 2 = 0 then lower.isGE && upper.isLE else lower.isGT && upper.isLT

/-- The number of decimal digits of a natural number; zero has none. -/
def digitCount (n : Nat) : Nat := if n = 0 then 0 else (Nat.toDigits 10 n).length

/-- The largest e with 10^e at most the positive quotient. -/
def decimalMagnitude (numerator denominator : Nat) : Int :=
  if denominator ≤ numerator then (digitCount (numerator / denominator) : Int) - 1
  else -(digitCount ((denominator - 1) / numerator) : Int)

/-- The neighbour of the value on the grid of multiples of 10^k that reads back,
if one does; of two the nearer, and of two equally near the even one. -/
def onGrid? (x : Double) (k : Int) : Option Nat :=
  let numerator := x.mantissa * twoTo x.exponent.toNat * tenTo (-k).toNat
  let denominator := twoTo (-x.exponent).toNat * tenTo k.toNat
  let below := numerator / denominator
  match readsBack x below k, readsBack x (below + 1) k with
  | true, true => some (Double.roundedQuotient numerator denominator)
  | true, false => some below
  | false, true => some (below + 1)
  | false, false => none

/-- Leaves trailing zeros out, counting them into the exponent. -/
def stripped (d : Nat) (k : Int) : Nat × Int :=
  if d = 0 then (0, k) else if d % 10 = 0 then stripped (d / 10) (k + 1) else (d, k)
termination_by d

/-- The shortest decimal of a non-zero magnitude, as digits d and exponent k of
d · 10^k with no trailing zero in d. Seventeen digits always suffice. -/
def shortest (x : Double) : Nat × Int :=
  let magnitude :=
    decimalMagnitude (x.mantissa * twoTo x.exponent.toNat) (twoTo (-x.exponent).toNat)
  let found := (List.range 17).findSome? fun (more : Nat) =>
    let k := magnitude - (more : Int)
    (onGrid? x k).map fun d => (d, k)
  match found with
  | some (d, k) => stripped d k
  | none => (0, 0)

end LexiconSchema.Decimal
