import LexiconSchema.Json.Writer
import LexiconSchema.RecordKey
import LexiconSchema.StringFormat
import LexiconSchema.Text.Quoted

/-!
# Fields of JSON objects

A record type is read from a JSON object and written to one field by field. A
field has a name, a way to put a JSON value into the record and a way to take one
out. Reading goes through the object's entries in their order, ignores names that
are no field, and stops at the first value that does not fit; writing goes through
the fields in theirs.

An optional field takes `null` for absence and is not written when absent.
-/

namespace LexiconSchema.Json

/-- What a field wants. Sizes, counts and durations differ in their limits or in
how they are called. -/
inductive Wanted
  | size | count | duration | whole | number | text | flag | sequence | unit | textOrMap
  | block (title : String)
deriving DecidableEq, Repr

/-- The wording of what is wanted. -/
def Wanted.message : Wanted → String
  | .size => "usize"
  | .count => "u32"
  | .duration => "u64"
  | .whole => "i64"
  | .number => "a JSON number"
  | .text => "a string"
  | .flag => "a boolean"
  | .sequence => "a sequence"
  | .unit => "unit"
  | .textOrMap => "string or map"
  | .block title => s!"struct {title}"

/-- Why a value does not fit. -/
inductive Mismatch
  | wrongType (found : Value) (wanted : Wanted)
  | outOfRange (found : Int) (wanted : Wanted)
  | severalEntries
  | unknownFormat (name : String)
  | unknownRecordKey (text : String)
  | missing (name : String)
  | tooShort (length : Nat) (title : String) (fields : Nat)
  | tooLong (length : Nat)
deriving Repr

/-- How a value is called when it is of the wrong type. -/
def Value.description : Value → String
  | .null => "null"
  | .bool value => if value then "boolean `true`" else "boolean `false`"
  | .number (.integer exact) => "integer `" ++ toString exact.value ++ "`"
  | .number (.float x) => "floating point `" ++ writeDouble x ++ "`"
  | .string text => "string " ++ Text.quoted text
  | .array _ => "sequence"
  | .object _ => "map"

/-- The names of all formats, as a list of alternatives. -/
def formatAlternatives : String :=
  ", ".intercalate (StringFormat.all.map fun format => "`" ++ format.name ++ "`")

/-- The wording of a mismatch. -/
def Mismatch.message : Mismatch → String
  | .wrongType found wanted =>
    "invalid type: " ++ found.description ++ ", expected " ++ wanted.message
  | .outOfRange found wanted =>
    "invalid value: integer `" ++ toString found ++ "`, expected " ++ wanted.message
  | .severalEntries => "invalid value: map, expected map with a single key"
  | .unknownFormat name => s!"unknown variant `{name}`, expected one of " ++ formatAlternatives
  | .unknownRecordKey text => RecordKey.unknownMessage text
  | .missing name => s!"missing field `{name}`"
  | .tooShort length title fields =>
    s!"invalid length {length}, expected struct {title} with {fields} " ++
      (if fields = 1 then "element" else "elements")
  | .tooLong length => s!"invalid length {length}, expected fewer elements in array"

/-- A way to read values of a type from JSON and to write them. -/
structure Codec (α : Type) where
  decode : Value → Except Mismatch α
  encode : α → Value

namespace Codec

/-- Integers of a range. Doubles never fit, even whole ones. -/
def ranged (least bound : Int) (wanted : Wanted) (below : -0x8000000000000000 ≤ least := by decide)
    (above : bound ≤ 0x10000000000000000 := by decide) : Codec (Ranged least bound) where
  decode
    | .number (.integer exact) =>
      match Ranged.ofInt? least bound exact.value with
      | some x => .ok x
      | none => .error (.outOfRange exact.value wanted)
    | found => .error (.wrongType found wanted)
  encode x := .number (.integer (x.widen below above))

/-- Sizes. -/
def size : Codec Size := ranged 0 0x10000000000000000 .size

/-- Counts. -/
def count : Codec Count := ranged 0 0x100000000 .count

/-- Durations in seconds, as large as sizes. -/
def duration : Codec Size := ranged 0 0x10000000000000000 .duration

/-- Integers of either sign. -/
def whole : Codec Whole := ranged (-0x8000000000000000) 0x8000000000000000 .whole

/-- Numbers of any class. -/
def number : Codec Number where
  decode
    | .number held => .ok held
    | found => .error (.wrongType found .number)
  encode := .number

/-- Texts. -/
def text : Codec String where
  decode
    | .string held => .ok held
    | found => .error (.wrongType found .text)
  encode := .string

/-- Truth values. -/
def flag : Codec Bool where
  decode
    | .bool held => .ok held
    | found => .error (.wrongType found .flag)
  encode := .bool

/-- Lists; the first item that does not fit is reported. -/
def list {α : Type} (item : Codec α) : Codec (List α) where
  decode
    | .array items => items.mapM item.decode
    | found => .error (.wrongType found .sequence)
  encode items := .array (items.map item.encode)

/-- The format of a name; the value beside a name must be `null`. -/
def namedFormat (name : String) (beside : Value) : Except Mismatch StringFormat :=
  match StringFormat.ofName? name with
  | none => .error (.unknownFormat name)
  | some format => if beside.isNull then .ok format else .error (.wrongType beside .unit)

/-- String formats, given by name or as an object whose only entry has the name. -/
def format : Codec StringFormat where
  decode
    | .string name => namedFormat name .null
    | .object [(name, beside)] => namedFormat name beside
    | .object _ => .error .severalEntries
    | found => .error (.wrongType found .textOrMap)
  encode format := .string format.name

end Codec

/-- A field of a record type: its name, how a value is put into a record and what
is written for it, if anything. -/
structure FieldCodec (σ : Type) where
  name : String
  put : Value → σ → Except Mismatch σ
  take : σ → Option Value

namespace FieldCodec

variable {σ τ α : Type}

/-- A field that may be absent. -/
def optional (name : String) (codec : Codec α) (get : σ → Option α) (set : Option α → σ → σ) :
    FieldCodec σ where
  name := name
  put value record :=
    if value.isNull then .ok (set none record)
    else (codec.decode value).map fun held => set (some held) record
  take record := (get record).map codec.encode

/-- A field of a part of a record. -/
def within (get : τ → σ) (set : σ → τ → τ) (field : FieldCodec σ) : FieldCodec τ where
  name := field.name
  put value record := (field.put value (get record)).map fun part => set part record
  take record := field.take (get record)

/-- Puts one entry of an object into a record, if its name is a field's. -/
def putNamed (fields : List (FieldCodec σ)) (record : σ) (entry : String × Value) :
    Except Mismatch σ :=
  match fields.find? (·.name == entry.1) with
  | some field => field.put entry.2 record
  | none => .ok record

/-- Reads the entries of an object in their order into a record. -/
def readEntries (fields : List (FieldCodec σ)) (start : σ) (entries : List (String × Value)) :
    Except Mismatch σ :=
  entries.foldlM (putNamed fields) start

/-- Reads a list of values into the fields in their order, one value for each. A
list that is too short is refused after its last value, one that is too long after
the last field. -/
def readItems (title : String) (all : List (FieldCodec σ)) (items : List Value) :
    (fields : List (FieldCodec σ)) → (rest : List Value) → σ → Except Mismatch σ
  | [], [], record => .ok record
  | [], _ :: _, _ => .error (.tooLong items.length)
  | _ :: _, [], _ => .error (.tooShort items.length title all.length)
  | field :: fields, value :: rest, record => do
    let record ← field.put value record
    readItems title all items fields rest record

/-- The entries written for a record: those of its fields that are present. -/
def entries (fields : List (FieldCodec σ)) (record : σ) : List (String × Value) :=
  fields.filterMap fun field => (field.take record).map fun value => (field.name, value)

end FieldCodec

/-- A record type that stands for itself: its title, its fields and the record in
which all are absent. -/
structure Block (σ : Type) where
  title : String
  fields : List (FieldCodec σ)
  empty : σ

namespace Block

variable {σ : Type}

/-- Reads a record from the entries of an object. -/
def ofEntries (block : Block σ) (entries : List (String × Value)) : Except Mismatch σ :=
  FieldCodec.readEntries block.fields block.empty entries

/-- Reads a record from an object, or from a list with a value for each field. -/
def decode (block : Block σ) : Value → Except Mismatch σ
  | .object entries => block.ofEntries entries
  | .array items =>
    FieldCodec.readItems block.title block.fields items block.fields items block.empty
  | found => .error (.wrongType found (.block block.title))

/-- The entries written for a record. -/
def entries (block : Block σ) (record : σ) : List (String × Value) :=
  FieldCodec.entries block.fields record

/-- The object written for a record. -/
def encode (block : Block σ) (record : σ) : Value := .object (block.entries record)

end Block

end LexiconSchema.Json
