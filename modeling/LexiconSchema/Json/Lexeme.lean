import LexiconSchema.Json.Fault
import LexiconSchema.Json.Value

/-!
# Lexemes of JSON texts

A JSON text is cut into lexemes: brackets, commas, colons, texts in quotes, and
plain literals. A lexeme that is itself faulty carries its fault and is the last
one, since whoever reads the lexemes stops there at the latest.

Scanning works on characters and counts bytes beside them. A faulty number or
text reports how far it was read; a character that begins nothing is reported as
looked at.
-/

namespace LexiconSchema.Json

/-- A lexeme. Literals are `null`, the truth values and numbers; they and texts
may be faulty. -/
inductive Lexeme
  | openArray | closeArray | openObject | closeObject | comma | colon
  | literal (result : Except Failure Value)
  | text (result : Except Failure String)

namespace Lexeme

/-- The whitespace between lexemes. -/
def isSpace (c : Char) : Bool := c == ' ' || c == '\n' || c == '\t' || c == '\r'

/-- The size in bytes of some characters. -/
def byteCount (chars : List Char) : Nat := chars.foldl (fun size c => size + c.utf8Size) 0

/-- The value of a hexadecimal digit. -/
def hexDigit? (c : Char) : Option Nat :=
  if c.isDigit then some (c.toNat - '0'.toNat)
  else if 'a' ≤ c && c ≤ 'f' then some (c.toNat - 'a'.toNat + 10)
  else if 'A' ≤ c && c ≤ 'F' then some (c.toNat - 'A'.toNat + 10)
  else none

/-- The four hexadecimal digits at the front of a text, which is at `offset`. Four
bytes are taken together: where fewer are left the text has ended. -/
def hexUnit (offset : Nat) (rest : List Char) : Except Failure Nat :=
  let digits := (rest.take 4).filterMap hexDigit?
  if digits.length = 4 then .ok (digits.foldl (fun n d => 16 * n + d) 0)
  else if byteCount rest < 4 then .error ⟨.endInString, offset + byteCount rest⟩
  else .error ⟨.badEscape, offset + 4⟩

/-- The character of a one-letter escape. -/
def shortEscape? (c : Char) : Option Char :=
  if c = '"' then some '"'
  else if c = '\\' then some '\\'
  else if c = '/' then some '/'
  else if c = 'b' then some '\x08'
  else if c = 'f' then some '\x0c'
  else if c = 'n' then some '\n'
  else if c = 'r' then some '\r'
  else if c = 't' then some '\t'
  else none

/-- The second unit of a surrogate pair, which must be escaped directly behind
the first and be a low surrogate. -/
def lowUnit (offset : Nat) : List Char → Except Failure Nat
  | [] => .error ⟨.endInString, offset⟩
  | first :: rest =>
    if first ≠ '\\' then .error ⟨.incompletePair, offset + 1⟩
    else match rest with
      | [] => .error ⟨.endInString, offset + 1⟩
      | second :: digits =>
        if second ≠ 'u' then .error ⟨.incompletePair, offset + 2⟩
        else do
          let unit ← hexUnit (offset + 2) digits
          if 0xDC00 ≤ unit ∧ unit ≤ 0xDFFF then .ok unit
          else .error ⟨.loneSurrogate, offset + 6⟩

/-- What an escape stands for, given the text behind its backslash: a character
and the number of characters of the escape. -/
def escaped (offset : Nat) : List Char → Except Failure (Char × Nat)
  | [] => .error ⟨.endInString, offset⟩
  | c :: rest =>
    if c = 'u' then do
      let unit ← hexUnit (offset + 1) rest
      if 0xDC00 ≤ unit ∧ unit ≤ 0xDFFF then .error ⟨.loneSurrogate, offset + 5⟩
      else if 0xD800 ≤ unit ∧ unit ≤ 0xDBFF then do
        let low ← lowUnit (offset + 5) (rest.drop 4)
        .ok (Char.ofNat (0x10000 + (unit - 0xD800) * 0x400 + (low - 0xDC00)), 11)
      else .ok (Char.ofNat unit, 5)
    else match shortEscape? c with
      | some meant => .ok (meant, 1)
      | none => .error ⟨.badEscape, offset + 1⟩

/-- The text behind an opening quote: its characters and the number of characters
up to and with the closing quote. The first argument counts characters that an
escape has already taken. -/
def scanText : (taken : Nat) → (offset : Nat) → List Char → Except Failure (List Char × Nat)
  | _, offset, [] => .error ⟨.endInString, offset⟩
  | taken + 1, offset, c :: rest => do
    let (chars, count) ← scanText taken (offset + c.utf8Size) rest
    .ok (chars, count + 1)
  | 0, offset, c :: rest =>
    if c = '"' then .ok ([], 1)
    else if c = '\\' then do
      let (meant, length) ← escaped (offset + 1) rest
      let (chars, count) ← scanText length (offset + 1) rest
      .ok (meant :: chars, count + 1)
    else if c < ' ' then .error ⟨.controlCharacter, offset + 1⟩
    else do
      let (chars, count) ← scanText 0 (offset + c.utf8Size) rest
      .ok (c :: chars, count + 1)

/-- The value of a decimal digit. -/
def digitValue (c : Char) : Nat := c.toNat - '0'.toNat

/-- Takes digits into a significand as long as it stays below 2^64; also the number
of digits left out. -/
def absorb (significand : Nat) : List Char → Nat × Nat
  | [] => (significand, 0)
  | digit :: digits =>
    let longer := significand * 10 + digitValue digit
    if longer < 0x10000000000000000 then absorb longer digits else (significand, digits.length + 1)

/-- The value of exponent digits; where it passes 2^31 - 1, the number of digits
read until then. -/
def exponentValue (value count : Nat) : List Char → Except Nat Nat
  | [] => .ok value
  | digit :: digits =>
    let longer := value * 10 + digitValue digit
    if longer < 0x80000000 then exponentValue longer (count + 1) digits else .error (count + 1)

/-- The double of a sign, a significand and a power of ten. -/
def floatOf (negative : Bool) (significand : Nat) (power : Int) : Option Number :=
  (Double.ofDecimal significand power).map fun x => .float (if negative then x.negate else x)

/-- The number of an integer without fraction and exponent: exact where it fits,
a double otherwise. Negative zero is a double. -/
def integerOf (negative : Bool) (significand leftOut : Nat) : Option Number :=
  let value : Int := if negative then -(significand : Int) else significand
  match Ranged.ofInt? (-0x8000000000000000) 0x10000000000000000 value with
  | some exact =>
    if leftOut = 0 ∧ ¬(negative ∧ significand = 0) then some (.integer exact)
    else floatOf negative significand leftOut
  | none => floatOf negative significand leftOut

/-- The exponent of a number, behind its `e`: the number itself and the number of
characters of the exponent. -/
def scanExponent (negative : Bool) (significand : Nat) (power : Int) (offset : Nat)
    (rest : List Char) : Except Failure (Number × Nat) :=
  let down := rest.head? == some '-'
  let signed := down || rest.head? == some '+'
  let body := if signed then rest.drop 1 else rest
  let start := if signed then offset + 1 else offset
  let digits := body.takeWhile Char.isDigit
  let length := digits.length + (start - offset)
  match body.head? with
  | none => .error ⟨.endInValue, start⟩
  | some c =>
    if !c.isDigit then .error ⟨.badNumber, start + 1⟩
    else match exponentValue 0 0 digits with
      | .error count =>
        if significand ≠ 0 ∧ !down then .error ⟨.numberOutOfRange, start + count⟩
        else .ok (.float (if negative then Double.zero.negate else Double.zero), length)
      | .ok exponent =>
        let power := if down then power - exponent else power + exponent
        match floatOf negative significand power with
        | some number => .ok (number, length)
        | none => .error ⟨.numberOutOfRange, offset + length⟩

/-- An exponent if one follows; otherwise the number without one, which `plain`
gives. -/
def scanAfterDigits (negative : Bool) (significand : Nat) (power : Int) (plain : Option Number)
    (offset : Nat) (rest : List Char) : Except Failure (Number × Nat) :=
  match rest with
  | mark :: behind =>
    if mark = 'e' ∨ mark = 'E' then do
      let (number, length) ← scanExponent negative significand power (offset + 1) behind
      .ok (number, length + 1)
    else ended
  | [] => ended
where
  ended : Except Failure (Number × Nat) :=
    match plain with
    | some number => .ok (number, 0)
    | none => .error ⟨.numberOutOfRange, offset⟩

/-- A number behind its sign: the number and the number of its characters. -/
def scanMagnitude (negative : Bool) (offset : Nat) (text : List Char) :
    Except Failure (Number × Nat) := do
  let whole := text.takeWhile Char.isDigit
  let length := whole.length
  if text.head? == some '0' && 1 < length then .error ⟨.badNumber, offset + 2⟩
  let (significand, leftOut) := absorb 0 whole
  match text.drop length with
  | '.' :: behind =>
    let places := behind.takeWhile Char.isDigit
    let start := offset + length + 1
    if places.isEmpty then
      match behind with
      | [] => .error ⟨.endInValue, start⟩
      | _ :: _ => .error ⟨.badNumber, start + 1⟩
    let (longer, ignored) := absorb significand places
    let power : Int := (leftOut : Int) + ignored - places.length
    let (number, more) ← scanAfterDigits negative longer power (floatOf negative longer power)
      (start + places.length) (behind.drop places.length)
    .ok (number, length + 1 + places.length + more)
  | rest =>
    let (number, more) ← scanAfterDigits negative significand leftOut
      (integerOf negative significand leftOut) (offset + length) rest
    .ok (number, length + more)

/-- A number that starts with a given character, which is a digit or a minus sign
and must be followed by a digit. -/
def scanNumber (offset : Nat) (first : Char) (rest : List Char) :
    Except Failure (Number × Nat) :=
  if first = '-' then
    match rest with
    | [] => .error ⟨.endInValue, offset + 1⟩
    | c :: _ =>
      if c.isDigit then do
        let (number, length) ← scanMagnitude true (offset + 1) rest
        .ok (number, length + 1)
      else .error ⟨.badNumber, offset + 2⟩
  else scanMagnitude false offset (first :: rest)

/-- Matches the rest of a word character by character. -/
def scanWord (offset : Nat) : (word : List Char) → List Char → Except Failure Unit
  | [], _ => .ok ()
  | _ :: _, [] => .error ⟨.endInValue, offset⟩
  | c :: word, d :: rest =>
    if c = d then scanWord (offset + 1) word rest else .error ⟨.expectedWord, offset + 1⟩

/-- The literal that starts with a given character, and the number of its
characters. -/
def scanLiteral (offset : Nat) (first : Char) (rest : List Char) :
    Except Failure (Value × Nat) :=
  let word (tail : List Char) (value : Value) : Except Failure (Value × Nat) := do
    scanWord (offset + 1) tail rest
    .ok (value, tail.length + 1)
  if first = 'n' then word ['u', 'l', 'l'] .null
  else if first = 't' then word ['r', 'u', 'e'] (.bool true)
  else if first = 'f' then word ['a', 'l', 's', 'e'] (.bool false)
  else if first = '-' ∨ first.isDigit then do
    let (number, length) ← scanNumber offset first rest
    .ok (.number number, length)
  else .error ⟨.expectedValue, offset + 1⟩

/-- The lexeme of a character that is one by itself. -/
def mark? (c : Char) : Option Lexeme :=
  if c = '[' then some .openArray
  else if c = ']' then some .closeArray
  else if c = '\x7b' then some .openObject
  else if c = '\x7d' then some .closeObject
  else if c = ',' then some .comma
  else if c = ':' then some .colon
  else none

/-- The lexemes of a text, each with the offset at which it starts. The first
argument counts characters that the lexeme before has already taken. -/
def scan : (taken : Nat) → (offset : Nat) → List Char → List (Nat × Lexeme)
  | _, _, [] => []
  | taken + 1, offset, c :: rest => scan taken (offset + c.utf8Size) rest
  | 0, offset, c :: rest =>
    if isSpace c then scan 0 (offset + 1) rest
    else match mark? c with
      | some lexeme => (offset, lexeme) :: scan 0 (offset + 1) rest
      | none =>
        if c = '"' then
          match scanText 0 (offset + 1) rest with
          | .ok (chars, count) =>
            (offset, .text (.ok (String.ofList chars))) :: scan count (offset + 1) rest
          | .error failure => [(offset, .text (.error failure))]
        else
          match scanLiteral offset c rest with
          | .ok (value, length) =>
            (offset, .literal (.ok value)) :: scan (length - 1) (offset + c.utf8Size) rest
          | .error failure => [(offset, .literal (.error failure))]

/-- The lexemes of a whole text. -/
def all (text : String) : List (Nat × Lexeme) := scan 0 0 text.toList

end Lexeme

end LexiconSchema.Json
