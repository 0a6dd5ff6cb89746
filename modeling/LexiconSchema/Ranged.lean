/-!
# Integers in a range

Schema fields and JSON numbers hold integers of limited size. The limits are part
of the type, so a value that has been read never needs checking again.
-/

namespace LexiconSchema

/-- An integer that is at least `least` and below `bound`. -/
structure Ranged (least bound : Int) where
  value : Int
  least_le : least ≤ value
  lt_bound : value < bound
deriving DecidableEq, Repr

namespace Ranged

variable {least bound : Int}

/-- The integer as a ranged one, if it lies in the range. -/
def ofInt? (least bound value : Int) : Option (Ranged least bound) :=
  if inside : least ≤ value ∧ value < bound then some ⟨value, inside.1, inside.2⟩ else none

/-- The same integer in a range that contains this one. -/
def widen {wideLeast wideBound : Int} (x : Ranged least bound) (below : wideLeast ≤ least)
    (above : bound ≤ wideBound) : Ranged wideLeast wideBound :=
  ⟨x.value, Int.le_trans below x.least_le, Int.lt_of_lt_of_le x.lt_bound above⟩

/-- The integer as a natural number; used where the range has none below zero. -/
def toNat (x : Ranged least bound) : Nat := x.value.toNat

/-- A ranged integer is found again from its value. -/
theorem ofInt?_value (x : Ranged least bound) : ofInt? least bound x.value = some x := by
  simp [ofInt?, x.least_le, x.lt_bound]

end Ranged

/-- Sizes and lengths: natural numbers below 2^64. -/
abbrev Size := Ranged 0 0x10000000000000000

/-- Pixel counts and revisions: natural numbers below 2^32. -/
abbrev Count := Ranged 0 0x100000000

/-- Bounds of integer nodes: from -2^63 to 2^63 - 1. -/
abbrev Whole := Ranged (-0x8000000000000000) 0x8000000000000000

end LexiconSchema
