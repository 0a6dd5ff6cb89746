/-!
# Dates with a time and an offset

A datetime is written `YYYY-MM-DDThh:mm:ss`, then perhaps a fraction of a second,
then the offset from universal time. It is checked from left to right over its
bytes, and the first fault is reported. A text shorter than the fixed part ends
too early, whatever it holds.

The date must exist and the time too, where second 60 stands for a leap second at
any minute. Offsets are read up to 99:59 and refused from 24:00 on.
-/

namespace LexiconSchema

/-- What is wrong with a datetime. -/
inductive DatetimeFault
  | endsEarly
  | badCharacter
  | outOfRange
  | trailing
deriving DecidableEq, Repr

namespace DatetimeFault

/-- The wording of a datetime's fault. -/
def message : DatetimeFault → String
  | .endsEarly => "premature end of input"
  | .badCharacter => "input contains invalid characters"
  | .outOfRange => "input is out of range"
  | .trailing => "trailing input"

end DatetimeFault

namespace Datetime

/-- Whether a byte is an ASCII digit. -/
def isDigit (byte : Nat) : Bool := 48 ≤ byte && byte ≤ 57

/-- The number of bytes of the date, the time and the separators within. -/
def fixedLength : Nat := 19

/-- Takes exactly `count` digits, continuing the number read so far. -/
def digits : (count : Nat) → (soFar : Nat) → List Nat → Except DatetimeFault (Nat × List Nat)
  | 0, soFar, bytes => .ok (soFar, bytes)
  | _ + 1, _, [] => .error .endsEarly
  | count + 1, soFar, byte :: bytes =>
    if isDigit byte then digits count (10 * soFar + (byte - 48)) bytes else .error .badCharacter

/-- Takes one byte out of those allowed. -/
def oneOf (allowed : List Nat) : List Nat → Except DatetimeFault (List Nat)
  | [] => .error .endsEarly
  | byte :: bytes => if allowed.contains byte then .ok bytes else .error .badCharacter

/-- Whether a year has a 29th of February. -/
def isLeap (year : Nat) : Bool := year % 4 == 0 && (year % 100 != 0 || year % 400 == 0)

/-- The number of days of a month; there is no month 0 or 13. -/
def daysIn (year month : Nat) : Nat :=
  match month with
  | 1 | 3 | 5 | 7 | 8 | 10 | 12 => 31
  | 4 | 6 | 9 | 11 => 30
  | 2 => if isLeap year then 29 else 28
  | _ => 0

/-- Refuses what is out of range. -/
def within (condition : Bool) : Except DatetimeFault Unit :=
  if condition then .ok () else .error .outOfRange

/-- The fraction of a second, if a point follows: at least one digit, of which none
counts. -/
def fraction : List Nat → Except DatetimeFault (List Nat)
  | 46 :: bytes =>
    match bytes with
    | [] => .error .endsEarly
    | byte :: rest =>
      if isDigit byte then .ok (rest.dropWhile isDigit) else .error .badCharacter
  | bytes => .ok bytes

/-- The two digits of the offset's hours. -/
def offsetHours : List Nat → Except DatetimeFault (Nat × List Nat)
  | tens :: ones :: bytes =>
    if isDigit tens && isDigit ones then .ok (10 * (tens - 48) + (ones - 48), bytes)
    else .error .badCharacter
  | _ => .error .endsEarly

/-- The two digits of the offset's minutes, which must be below 60. -/
def offsetMinutes : List Nat → Except DatetimeFault (Nat × List Nat)
  | tens :: ones :: bytes =>
    if isDigit tens && isDigit ones then
      if tens < 54 then .ok (10 * (tens - 48) + (ones - 48), bytes) else .error .outOfRange
    else .error .badCharacter
  | _ => .error .endsEarly

/-- An offset in hours and minutes, behind its sign. -/
def signedOffset (bytes : List Nat) : Except DatetimeFault (Nat × List Nat) := do
  let (hours, bytes) ← offsetHours bytes
  let bytes ← oneOf [58] bytes
  let (minutes, bytes) ← offsetMinutes bytes
  .ok (60 * hours + minutes, bytes)

/-- The offset in minutes without its sign. The sign is a plus, a hyphen or a
minus sign; the letter Z stands for no offset. -/
def offset : List Nat → Except DatetimeFault (Nat × List Nat)
  | [] => .error .endsEarly
  | 90 :: bytes | 122 :: bytes => .ok (0, bytes)
  | 43 :: bytes | 45 :: bytes | 0xE2 :: 0x88 :: 0x92 :: bytes => signedOffset bytes
  | _ => .error .badCharacter

/-- Checks the bytes of a datetime from left to right. -/
def checkBytes (bytes : List Nat) : Except DatetimeFault Unit := do
  if bytes.length < fixedLength then .error .endsEarly
  let (year, bytes) ← digits 4 0 bytes
  let bytes ← oneOf [45] bytes
  let (month, bytes) ← digits 2 0 bytes
  let bytes ← oneOf [45] bytes
  let (day, bytes) ← digits 2 0 bytes
  within (1 ≤ day && day ≤ daysIn year month)
  let bytes ← oneOf [84, 116, 32] bytes
  let (hour, bytes) ← digits 2 0 bytes
  let bytes ← oneOf [58] bytes
  let (minute, bytes) ← digits 2 0 bytes
  let bytes ← oneOf [58] bytes
  let (second, bytes) ← digits 2 0 bytes
  let bytes ← fraction bytes
  within (hour < 24 && minute < 60 && second ≤ 60)
  let (minutes, bytes) ← offset bytes
  if !bytes.isEmpty then .error .trailing
  within (minutes < 24 * 60)

/-- Checks a datetime. -/
def check (text : String) : Except DatetimeFault Unit :=
  checkBytes (text.toUTF8.data.toList.map UInt8.toNat)

end Datetime

end LexiconSchema
