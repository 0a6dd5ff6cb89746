import LexiconSchema.Decimal.Shortest
import LexiconSchema.Json.Value

/-!
# Writing JSON texts

The compact text of a value: no blanks, entries in their order, and in texts only
the characters escaped that must be. An integer is written in decimal. A double
is written with its shortest digits, positionally while the first digit stands
for a power of ten from -5 to 15 and with an exponent otherwise.
-/

namespace LexiconSchema.Json

/-- The digits of a double in positional notation or with an exponent. The point
always has a digit on either side; an exponent always has a sign and never a
leading zero. -/
def writeDigits (digits : List Char) (magnitude : Int) : String :=
  let count : Int := digits.length
  if -5 ≤ magnitude ∧ magnitude ≤ 15 then
    if count ≤ magnitude + 1 then
      String.ofList (digits ++ List.replicate (magnitude + 1 - count).toNat '0') ++ ".0"
    else if 0 ≤ magnitude then
      let split := magnitude.toNat + 1
      String.ofList (digits.take split ++ '.' :: digits.drop split)
    else
      "0." ++ String.ofList (List.replicate (-magnitude - 1).toNat '0' ++ digits)
  else
    let front := if digits.length = 1 then digits else digits.take 1 ++ '.' :: digits.drop 1
    let sign := if magnitude < 0 then "e-" else "e+"
    String.ofList front ++ sign ++ toString magnitude.natAbs

/-- The text of a double. -/
def writeDouble (x : Double) : String :=
  let magnitude :=
    if x.mantissa = 0 then "0.0"
    else
      let (d, k) := Decimal.shortest x
      let digits := Nat.toDigits 10 d
      writeDigits digits (k + digits.length - 1)
  if x.negative then "-" ++ magnitude else magnitude

/-- The text of a number. -/
def Number.write : Number → String
  | .integer exact => toString exact.value
  | .float x => writeDouble x

/-- The escape of a character in a text, or the character itself. -/
def escape (c : Char) : List Char :=
  if c = '"' then ['\\', '"']
  else if c = '\\' then ['\\', '\\']
  else if c = '\x08' then ['\\', 'b']
  else if c = '\x0c' then ['\\', 'f']
  else if c = '\n' then ['\\', 'n']
  else if c = '\r' then ['\\', 'r']
  else if c = '\t' then ['\\', 't']
  else if c < ' ' then
    ['\\', 'u', '0', '0', Nat.digitChar (c.toNat / 16), Nat.digitChar (c.toNat % 16)]
  else [c]

/-- A text in quotes. -/
def writeText (text : String) : String :=
  String.ofList ('"' :: text.toList.flatMap escape ++ ['"'])

namespace Value

mutual

/-- The compact text of a value. -/
def write : Value → String
  | .null => "null"
  | .bool true => "true"
  | .bool false => "false"
  | .number held => held.write
  | .string held => writeText held
  | .array items => "[" ++ ",".intercalate (writeItems items) ++ "]"
  | .object entries => "\x7b" ++ ",".intercalate (writeEntries entries) ++ "\x7d"

/-- The compact texts of an array's items. -/
def writeItems : List Value → List String
  | [] => []
  | item :: rest => item.write :: writeItems rest

/-- The compact texts of an object's entries. -/
def writeEntries : List (String × Value) → List String
  | [] => []
  | (name, value) :: rest => (writeText name ++ ":" ++ value.write) :: writeEntries rest

end

instance : ToString Value := ⟨write⟩

end Value

end LexiconSchema.Json
