/-!
# Faults of JSON texts

What can be wrong with a text that should be JSON, and how a fault's place is
told. A place is a byte offset; it is reported as a line, counted from one, and a
column, which is the number of bytes since that line began.
-/

namespace LexiconSchema.Json

/-- What is wrong with a text. -/
inductive Fault
  | endInValue | endInList | endInObject | endInString
  | expectedValue | expectedWord | expectedColon | expectedListSeparator
  | expectedObjectSeparator | expectedKey
  | trailingComma | trailingCharacters | tooDeep
  | badNumber | numberOutOfRange
  | controlCharacter | badEscape | loneSurrogate | incompletePair
deriving DecidableEq, Repr

/-- The wording of a fault. -/
def Fault.message : Fault → String
  | .endInValue => "EOF while parsing a value"
  | .endInList => "EOF while parsing a list"
  | .endInObject => "EOF while parsing an object"
  | .endInString => "EOF while parsing a string"
  | .expectedValue => "expected value"
  | .expectedWord => "expected ident"
  | .expectedColon => "expected `:`"
  | .expectedListSeparator => "expected `,` or `]`"
  | .expectedObjectSeparator => "expected `,` or `\x7d`"
  | .expectedKey => "key must be a string"
  | .trailingComma => "trailing comma"
  | .trailingCharacters => "trailing characters"
  | .tooDeep => "recursion limit exceeded"
  | .badNumber => "invalid number"
  | .numberOutOfRange => "number out of range"
  | .controlCharacter => "control character (\\u0000-\\u001F) found while parsing a string"
  | .badEscape => "invalid escape"
  | .loneSurrogate => "lone leading surrogate in hex escape"
  | .incompletePair => "unexpected end of hex escape"

/-- A fault with the byte offset up to which the text was read or looked at. -/
structure Failure where
  fault : Fault
  offset : Nat
deriving DecidableEq, Repr

/-- A line and a column. -/
structure Position where
  line : Nat
  column : Nat
deriving DecidableEq, Repr

/-- The position of a byte offset that lies `offset` bytes ahead, given the
position reached so far. An offset past the end is that of the end. -/
def Position.ahead (reached : Position) (offset : Nat) : List Char → Position
  | [] => reached
  | c :: rest =>
    if offset = 0 then reached
    else if c = '\n' then ahead ⟨reached.line + 1, 0⟩ (offset - 1) rest
    else if offset ≤ c.utf8Size then ⟨reached.line, reached.column + offset⟩
    else ahead ⟨reached.line, reached.column + c.utf8Size⟩ (offset - c.utf8Size) rest

/-- The position of a byte offset in a text. -/
def Position.of (text : String) (offset : Nat) : Position :=
  ahead ⟨1, 0⟩ offset text.toList

/-- A fault with its position, as it is reported. -/
structure ReadError where
  fault : Fault
  position : Position
deriving DecidableEq, Repr

/-- The wording of a reading error. -/
def ReadError.message (error : ReadError) : String :=
  let line := error.position.line
  let column := error.position.column
  error.fault.message ++ s!" at line {line} column {column}"

end LexiconSchema.Json
