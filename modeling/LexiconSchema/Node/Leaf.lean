import LexiconSchema.Node

/-!
# Reading leaves

The nodes without nodes inside are read field by field. What stands beside a
node's constraints, its description and a string's format, is read first, in the
order of the object's entries, and the constraints afterwards, again in that
order. The same readings serve for decoding such a record by itself.
-/

namespace LexiconSchema

open Json (Block Codec FieldCodec Mismatch Value)

/-- The field of a description in something described. -/
def descriptionField {α : Type} : FieldCodec (Described α) :=
  .optional "description" .text (·.description) (fun v d => { d with description := v })

/-- A description alone, as tokens and the like have it. -/
def tokenBlock : Block (Described Unit) where
  title := "LexToken"
  fields := [descriptionField]
  empty := ⟨none, ()⟩

/-- The field of a string's format. -/
def formatField : FieldCodec (Described (Option StringFormat)) :=
  .optional "format" .format (·.content) (fun v d => { d with content := v })

/-- A leaf with a block of constraints. -/
def readLeaf {σ : Type} (block : Block σ) (entries : List (String × Value)) :
    Except Mismatch (Described σ) := do
  let outer ← FieldCodec.readEntries [descriptionField] (⟨none, ()⟩ : Described Unit) entries
  let constraints ← block.ofEntries entries
  .ok ⟨outer.description, constraints⟩

namespace StringSchema

/-- A string node from the entries of an object. -/
def ofEntries (entries : List (String × Value)) : Except Mismatch (Described StringSchema) := do
  let outer ← FieldCodec.readEntries [descriptionField, formatField] ⟨none, none⟩ entries
  let constraints ← StringConstraints.block.ofEntries entries
  .ok ⟨outer.description, ⟨outer.content, constraints⟩⟩

/-- A string node by itself, which must be an object. -/
def decode : Value → Except Mismatch (Described StringSchema)
  | .object entries => ofEntries entries
  | found => .error (.wrongType found (.block "LexString"))

end StringSchema

/-- The pattern of a record's key by itself, which must be a text. -/
def RecordKey.decode : Value → Except Mismatch RecordKey
  | .string text =>
    match RecordKey.parse? text with
    | some key => .ok key
    | none => .error (.unknownRecordKey text)
  | found => .error (.wrongType found .text)

namespace ErrorCase

/-- An error case while it is being read. -/
structure Draft where
  name : Option String
  description : Option String

/-- The fields of an error case. A name must not be `null`. -/
def block : Block Draft where
  title := "LexXrpcError"
  fields := [
    { name := "name"
      put := fun value draft =>
        (Codec.text.decode value).map fun name => { draft with name := some name }
      take := fun draft => draft.name.map .string },
    .optional "description" .text (·.description) (fun v d => { d with description := v })]
  empty := ⟨none, none⟩

/-- A finished error case has a name. -/
def ofDraft (draft : Draft) : Except Mismatch ErrorCase :=
  match draft.name with
  | some name => .ok ⟨name, draft.description⟩
  | none => .error (.missing "name")

/-- An error case from an object or from a list of its two fields. -/
def decode (value : Value) : Except Mismatch ErrorCase := do
  let draft ← block.decode value
  ofDraft draft

/-- A list of error cases. -/
def decodeAll : Value → Except Mismatch (List ErrorCase)
  | .array items => items.mapM decode
  | found => .error (.wrongType found .sequence)

end ErrorCase

end LexiconSchema
