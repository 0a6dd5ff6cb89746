import LexiconSchema.Json.Lexeme

/-!
# Reading JSON texts

A value is put together from lexemes by a machine with a stack. The stack holds
the arrays and objects that are open, each with what it has so far; beside it
stands what is expected next. Each lexeme either takes the machine one step or
is refused with the fault that belongs to the expectation.

At most 127 arrays and objects may be open at once.
-/

namespace LexiconSchema.Json

/-- An open array with its items so far, last first, or an open object with its
entries so far and the name of the entry being read. -/
inductive Frame
  | array (items : List Value)
  | object (entries : List (String × Value)) (name : String)

/-- What may come next. -/
inductive Expected
  | value | firstItem | laterItem | itemEnd
  | firstKey | laterKey | colon | memberEnd
  | nothing (result : Value)

/-- The state of the machine. -/
structure Progress where
  stack : List Frame
  expected : Expected

namespace Progress

/-- How many arrays and objects may be open at once. -/
def depthLimit : Nat := 127

/-- Puts a finished value where it belongs: into the innermost open array or
object, or at the top as the result. -/
def complete (value : Value) : List Frame → Progress
  | [] => ⟨[], .nothing value⟩
  | .array items :: outer => ⟨.array (value :: items) :: outer, .itemEnd⟩
  | .object entries name :: outer =>
    ⟨.object (putEntry name value entries) name :: outer, .memberEnd⟩

/-- Closes the innermost open array or object. -/
def close : List Frame → Progress
  | [] => ⟨[], .value⟩
  | .array items :: outer => complete (.array items.reverse) outer
  | .object entries _ :: outer => complete (.object entries) outer

/-- Opens an array or an object, unless too many are open. -/
def enter (start : Nat) (frame : Frame) (expected : Expected) (stack : List Frame) :
    Except Failure Progress :=
  if depthLimit ≤ stack.length then .error ⟨.tooDeep, start + 1⟩
  else .ok ⟨frame :: stack, expected⟩

/-- The step where a value is expected. -/
def value (start : Nat) (lexeme : Lexeme) (stack : List Frame) : Except Failure Progress :=
  match lexeme with
  | .literal result => result.map fun found => complete found stack
  | .text result => result.map fun found => complete (.string found) stack
  | .openArray => enter start (.array []) .firstItem stack
  | .openObject => enter start (.object [] "") .firstKey stack
  | _ => .error ⟨.expectedValue, start + 1⟩

/-- Notes the name of the entry to be read in the innermost open object. -/
def name (key : String) : List Frame → Progress
  | .object entries _ :: outer => ⟨.object entries key :: outer, .colon⟩
  | stack => ⟨stack, .colon⟩

/-- The step where the name of an entry is expected. -/
def key (start : Nat) (lexeme : Lexeme) (stack : List Frame) : Except Failure Progress :=
  match lexeme with
  | .text result => result.map fun found => name found stack
  | _ => .error ⟨.expectedKey, start + 1⟩

/-- One step of the machine, for a lexeme that starts at a given offset. -/
def step (progress : Progress) (start : Nat) (lexeme : Lexeme) : Except Failure Progress :=
  let stack := progress.stack
  let refuse (fault : Fault) : Except Failure Progress := .error ⟨fault, start + 1⟩
  match progress.expected, lexeme with
  | .value, lexeme => value start lexeme stack
  | .firstItem, .closeArray => .ok (close stack)
  | .firstItem, lexeme => value start lexeme stack
  | .laterItem, .closeArray => refuse .trailingComma
  | .laterItem, lexeme => value start lexeme stack
  | .itemEnd, .comma => .ok ⟨stack, .laterItem⟩
  | .itemEnd, .closeArray => .ok (close stack)
  | .itemEnd, _ => refuse .expectedListSeparator
  | .firstKey, .closeObject => .ok (close stack)
  | .firstKey, lexeme => key start lexeme stack
  | .laterKey, .closeObject => refuse .trailingComma
  | .laterKey, lexeme => key start lexeme stack
  | .colon, .colon => .ok ⟨stack, .value⟩
  | .colon, _ => refuse .expectedColon
  | .memberEnd, .comma => .ok ⟨stack, .laterKey⟩
  | .memberEnd, .closeObject => .ok (close stack)
  | .memberEnd, _ => refuse .expectedObjectSeparator
  | .nothing _, _ => refuse .trailingCharacters

/-- The result once the text has ended, or what the text broke off in. -/
def finish (progress : Progress) (offset : Nat) : Except Failure Value :=
  match progress.expected with
  | .nothing result => .ok result
  | .value | .laterItem | .laterKey => .error ⟨.endInValue, offset⟩
  | .firstItem | .itemEnd => .error ⟨.endInList, offset⟩
  | .firstKey | .colon | .memberEnd => .error ⟨.endInObject, offset⟩

end Progress

/-- Reads a text that must be one JSON value. -/
def read (text : String) : Except ReadError Value :=
  let outcome : Except Failure Value := do
    let progress ← (Lexeme.all text).foldlM (fun progress (start, lexeme) =>
      progress.step start lexeme) (⟨[], .value⟩ : Progress)
    progress.finish text.utf8ByteSize
  outcome.mapError fun failure => ⟨failure.fault, Position.of text failure.offset⟩

end LexiconSchema.Json
