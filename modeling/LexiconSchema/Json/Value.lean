import LexiconSchema.Decimal.Double
import LexiconSchema.OrderedMap
import LexiconSchema.Ranged

/-!
# JSON values

A decoded JSON value. An object is a list of entries in the order in which they
were written; a reader gives every name once. A number keeps its class: an
integer from -2^63 to 2^64 - 1 is exact, anything else is a double.
-/

namespace LexiconSchema.Json

/-- A JSON number: an exact integer or a double. -/
inductive Number
  | integer (value : Ranged (-0x8000000000000000) 0x10000000000000000)
  | float (value : Double)
deriving BEq, Repr

/-- A JSON value; objects keep the order of their entries. -/
inductive Value
  | null
  | bool (value : Bool)
  | number (value : Number)
  | string (value : String)
  | array (items : List Value)
  | object (entries : List (String × Value))
deriving Repr

/-- The number for a natural number; from 2^64 on there is none. -/
def Number.ofNat? (n : Nat) : Option Number := (Ranged.ofInt? _ _ (n : Int)).map .integer

namespace Value

/-- Whether a value is `null`. -/
def isNull : Value → Bool
  | .null => true
  | _ => false

/-- The text of a string value. -/
def text? : Value → Option String
  | .string text => some text
  | _ => none

/-- The entries of an object. -/
def entries? : Value → Option (List (String × Value))
  | .object entries => some entries
  | _ => none

/-- The value of a name in an object's entries, where `null` counts as absent. -/
def present? (name : String) (entries : List (String × Value)) : Option Value :=
  (findEntry name entries).filter fun value => !value.isNull

/-- What is present stands inside the entries, so it is smaller than they are. -/
theorem sizeOf_present? {name : String} {entries : List (String × Value)} {value : Value}
    (found : present? name entries = some value) : sizeOf value < sizeOf entries := by
  have member : (name, value) ∈ entries :=
    mem_of_findEntry (Option.eq_some_of_filter_eq_some found)
  have inside := List.sizeOf_lt_of_mem member
  simp only [Prod.mk.sizeOf_spec] at inside
  omega

end Value

end LexiconSchema.Json
