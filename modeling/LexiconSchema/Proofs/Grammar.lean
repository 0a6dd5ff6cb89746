import LexiconSchema.Document
import LexiconSchema.Node.Position
import LexiconSchema.Node.Reader

/-!
# The grammar of schema values

What a schema looks like as a JSON value, said of the value alone. Each kind of node has a
table of its fields, in the order in which they are written, and each field a form: a plain
value of some sort, a node in a position, a map of nodes, a part of a method. A value is
accepted by a form when it is built as the form says, down to its leaves.

The same tables say what a value's normal form is. It keeps the fields of the table that are
present, in the table's order and with their values as they are; nodes and parts inside are
replaced by their own normal forms. A map of nodes is always there, and a few things that can
be written in two ways are written in one.

`null` stands for absence, and names that are no field are passed over.
-/

namespace LexiconSchema

open Json (Value)

/-- The kind that a value declares, if it is an object that declares one. -/
def Json.Value.kind? : Value → Option Kind
  | .object entries => do
    let declared ← findEntry "type" entries
    let name ← declared.text?
    Kind.ofName? name
  | _ => none

/-- The kind of an array's items, if the value has items that declare one. -/
def Json.Value.itemsKind? (value : Value) : Option Kind := do
  let entries ← value.entries?
  let items ← Value.present? "items" entries
  items.kind?

/-- The parts of methods that are objects without a kind. -/
inductive Part
  | body | message
deriving DecidableEq, Repr

/-- What the value of a field looks like. -/
inductive Form
  | text | flag | number
  | integer (least bound : Int)
  | list (item : Form)
  | format | recordKey | members | errorCase
  | node
  | child (position : Position)
  | children (position : Position)
  | part (part : Part)
deriving DecidableEq, Repr

namespace Form

/-- Sizes and durations. -/
abbrev size : Form := .integer 0 0x10000000000000000

/-- Counts and revisions. -/
abbrev count : Form := .integer 0 0x100000000

/-- Integers of either sign. -/
abbrev whole : Form := .integer (-0x8000000000000000) 0x8000000000000000

/-- Maps of nodes are there even when they are absent. -/
def isMap : Form → Bool
  | .children _ => true
  | _ => false

end Form

/-- A field: its name, its form, and whether it must be present. -/
structure Field where
  name : String
  form : Form
  isRequired : Bool
deriving DecidableEq, Repr

namespace Field

/-- A field that may be absent. -/
abbrev optional (name : String) (form : Form) : Field := ⟨name, form, false⟩

/-- A field that must be present. -/
abbrev required (name : String) (form : Form) : Field := ⟨name, form, true⟩

/-- Every node and every part may have a description. -/
abbrev description : Field := optional "description" .text

end Field

/-- The fields of a kind behind its description, in the order in which they are written. -/
def Kind.ownFields : Kind → List Field
  | .boolean => [.optional "const" .flag, .optional "default" .flag]
  | .integer =>
    [.optional "maximum" .whole, .optional "minimum" .whole, .optional "enum" (.list .whole),
      .optional "const" .whole, .optional "default" .whole]
  | .number =>
    [.optional "maximum" .number, .optional "minimum" .number, .optional "enum" (.list .number),
      .optional "const" .number, .optional "default" .number]
  | .string =>
    [.optional "format" .format, .optional "maxLength" .size, .optional "minLength" .size,
      .optional "maxGraphemes" .size, .optional "minGraphemes" .size,
      .optional "enum" (.list .text), .optional "const" .text, .optional "default" .text,
      .optional "knownValues" (.list .text)]
  | .bytes => [.optional "maxLength" .size, .optional "minLength" .size]
  | .cidLink | .unknown | .token => []
  | .blob => [.optional "accept" (.list .text), .optional "maxSize" .size]
  | .image =>
    [.optional "accept" (.list .text), .optional "maxSize" .size, .optional "maxWidth" .count,
      .optional "maxHeight" .count]
  | .video =>
    [.optional "accept" (.list .text), .optional "maxSize" .size, .optional "maxWidth" .count,
      .optional "maxHeight" .count, .optional "maxLength" .size]
  | .audio =>
    [.optional "accept" (.list .text), .optional "maxSize" .size, .optional "maxLength" .size]
  | .array =>
    [.required "items" (.child .arrayItems), .optional "maxLength" .size,
      .optional "minLength" .size]
  | .object =>
    [.optional "properties" (.children .objectProperty), .optional "required" (.list .text),
      .optional "nullable" (.list .text)]
  | .params =>
    [.optional "properties" (.children .paramsProperty), .optional "required" (.list .text)]
  | .ref => [.required "ref" .text]
  | .union => [.required "refs" .members, .optional "closed" .flag]
  | .record => [.optional "key" .recordKey, .required "record" (.child .recordObject)]
  | .query =>
    [.optional "parameters" (.child .parameters), .optional "output" (.part .body),
      .optional "errors" (.list .errorCase)]
  | .procedure =>
    [.optional "parameters" (.child .parameters), .optional "input" (.part .body),
      .optional "output" (.part .body), .optional "errors" (.list .errorCase)]
  | .subscription =>
    [.optional "parameters" (.child .parameters), .optional "message" (.part .message),
      .optional "errors" (.list .errorCase)]

/-- All fields of a kind: the kind itself, the description, then the others. -/
def Kind.fields (kind : Kind) : List Field :=
  .required "type" .text :: .description :: kind.ownFields

/-- The fields of a part. -/
def Part.fields : Part → List Field
  | .body =>
    [.description, .required "encoding" .text, .optional "schema" (.child .bodySchema)]
  | .message => [.description, .optional "schema" (.child .messageSchema)]

/-- The fields of a document. -/
def Document.fields : List Field :=
  [.required "lexicon" .number, .required "id" .text, .optional "revision" .count, .description,
    .optional "defs" (.children .definition)]

/-- The fields of the object of a node, by the kind that it declares. -/
def nodeFields (entries : List (String × Value)) : List Field :=
  match (Value.object entries).kind? with
  | some kind => kind.fields
  | none => []

/-! Things that can be written in two ways. -/

/-- The name of a format, given as a text or as an object's only name, with `null`. -/
def formatName? : Value → Option String
  | .string name => some name
  | .object [(name, .null)] => some name
  | _ => none

/-- The members of a union. An object without entries stands for none. -/
def members? : Value → Option (List Value)
  | .array items => some items
  | .object [] => some []
  | _ => none

/-- The entries of an error case, given as an object or as a list of its two values. -/
def errorEntries? : Value → Option (List (String × Value))
  | .object entries => some entries
  | .array [name, description] => some [("name", name), ("description", description)]
  | _ => none

/-- The nodes of a map. A list without items stands for none. -/
def children? : Value → Option (List (String × Value))
  | .object members => some members
  | .array [] => some []
  | _ => none

/-- What the arrays in a position hold, beyond what every array may: those among parameters
hold scalars or unknown values. -/
def Position.Admits (position : Position) (value : Value) : Prop :=
  position = .paramsProperty → value.kind? = some .array →
    ∃ kind, value.itemsKind? = some kind ∧ (kind.isScalar = true ∨ kind = .unknown)

/-- A value is built as a form says. -/
inductive Form.Accepts : Form → Value → Prop
  | text {held : String} : Accepts .text (.string held)
  | flag {held : Bool} : Accepts .flag (.bool held)
  | number {held : Json.Number} : Accepts .number (.number held)
  | integer {least bound : Int} {held : Ranged (-0x8000000000000000) 0x10000000000000000}
      (above : least ≤ held.value) (below : held.value < bound) :
      Accepts (.integer least bound) (.number (.integer held))
  | list {item : Form} {items : List Value} (each : ∀ value ∈ items, Accepts item value) :
      Accepts (.list item) (.array items)
  | format {value : Value} {format : StringFormat}
      (named : formatName? value = some format.name) : Accepts .format value
  | recordKey {key : RecordKey} (proper : key ≠ .literal "") :
      Accepts .recordKey (.string key.toString)
  | members {value : Value} {items : List Value} (listed : members? value = some items)
      (each : ∀ item ∈ items, Accepts .text item) : Accepts .members value
  | errorCase {value : Value} {entries : List (String × Value)} {name : String}
      (given : errorEntries? value = some entries)
      (named : Value.present? "name" entries = some (.string name))
      (described : ∀ value, Value.present? "description" entries = some value →
        Accepts .text value) : Accepts .errorCase value
  | node {kind : Kind} {entries : List (String × Value)}
      (declared : (Value.object entries).kind? = some kind) (apart : isDocument entries = false)
      (complete : ∀ field ∈ kind.fields, field.isRequired = true →
        (Value.present? field.name entries).isSome = true)
      (each : ∀ field ∈ kind.fields, ∀ value, Value.present? field.name entries = some value →
        Accepts field.form value) : Accepts .node (.object entries)
  | child {position : Position} {value : Value} {kind : Kind} (valid : Accepts .node value)
      (declared : value.kind? = some kind) (allowed : position.allows kind = true) :
      Accepts (.child position) value
  | children {position : Position} {value : Value} {members : List (String × Value)}
      (given : children? value = some members)
      (each : ∀ member ∈ members, Accepts (.child position) member.2)
      (admitted : ∀ member ∈ members, position.Admits member.2) :
      Accepts (.children position) value
  | part {part : Part} {entries : List (String × Value)}
      (complete : ∀ field ∈ part.fields, field.isRequired = true →
        (Value.present? field.name entries).isSome = true)
      (each : ∀ field ∈ part.fields, ∀ value, Value.present? field.name entries = some value →
        Accepts field.form value) : Accepts (.part part) (.object entries)

/-- A value is that of a node. -/
abbrev Valid (value : Value) : Prop := Form.node.Accepts value

/-- The entry of a field that is present, and of a map of nodes in any case. How the value is
changed may depend on its being smaller than the entries. -/
def Field.write (field : Field) (entries : List (String × Value))
    (change : (value : Value) → sizeOf value < sizeOf entries → Value) : List (String × Value) :=
  match found : Value.present? field.name entries with
  | some value => [(field.name, change value (Value.sizeOf_present? found))]
  | none => if field.form.isMap then [(field.name, .object [])] else []

/-- The entries of a name that is present, as they are. -/
def keep (name : String) (entries : List (String × Value)) : List (String × Value) :=
  ((Value.present? name entries).map fun value => (name, value)).toList

/-- The normal form of a value that a form accepts. -/
def Form.normal (form : Form) (value : Value) : Value :=
  match form, value with
  | .list item, .array items => .array (items.attach.map fun held => item.normal held.1)
  | .format, value =>
    match formatName? value with
    | some name => .string name
    | none => value
  | .members, value =>
    match members? value with
    | some [] => .object []
    | _ => value
  | .errorCase, value =>
    match errorEntries? value with
    | some entries => .object (keep "name" entries ++ keep "description" entries)
    | none => value
  | .node, .object entries | .child _, .object entries =>
    .object ((nodeFields entries).flatMap fun field =>
      field.write entries fun held _ => field.form.normal held)
  | .children position, .object inner =>
    .object (inner.attach.map fun held => (held.1.1, (Form.child position).normal held.1.2))
  | .children _, _ => .object []
  | .part which, .object entries =>
    .object (which.fields.flatMap fun field =>
      field.write entries fun held _ => field.form.normal held)
  | _, value => value
termination_by sizeOf value
decreasing_by
  · have inside := List.sizeOf_lt_of_mem held.2
    simp only [Value.array.sizeOf_spec]
    omega
  · exact Nat.lt_trans (by assumption) (sizeOf_entries _)
  · exact Nat.lt_trans (by assumption) (sizeOf_entries _)
  · exact sizeOf_member held.2
  · exact Nat.lt_trans (by assumption) (sizeOf_entries _)

/-- The normal form of a document's value. -/
def Document.normal : Value → Value
  | .object entries => .object (Document.fields.flatMap fun field =>
      field.write entries fun held _ => field.form.normal held)
  | value => value

/-! What the tables say about the entries of an object. -/

namespace Field

/-- The field's value is accepted if there is one, and there is one if there must be. -/
structure Holds (field : Field) (entries : List (String × Value)) : Prop where
  complete : field.isRequired = true → (Value.present? field.name entries).isSome = true
  each : ∀ value, Value.present? field.name entries = some value → field.form.Accepts value

/-- The field's entry in normal form. -/
def entry (field : Field) (entries : List (String × Value)) : List (String × Value) :=
  field.write entries fun value _ => field.form.normal value

variable {field : Field} {entries : List (String × Value)}

/-- A field that is present is written in normal form. -/
theorem entry_of_present {value : Value} (present : Value.present? field.name entries = some value) :
    field.entry entries = [(field.name, field.form.normal value)] := by
  unfold entry write
  split
  case h_1 other found =>
    obtain rfl := Option.some.inj (found.symm.trans present)
    rfl
  case h_2 absent =>
    rw [present] at absent
    cases absent

/-- A field that is absent is not written, unless it is a map: then it is written without
entries. -/
theorem entry_of_absent (absent : Value.present? field.name entries = none) :
    field.entry entries = if field.form.isMap then [(field.name, .object [])] else [] := by
  unfold entry write
  split
  case h_1 value found =>
    rw [absent] at found
    cases found
  case h_2 => rfl

/-- A field that is absent holds exactly if it may be. -/
theorem holds_of_absent (absent : Value.present? field.name entries = none) :
    field.Holds entries ↔ field.isRequired = false := by
  constructor
  · intro held
    cases required : field.isRequired with
    | false => rfl
    | true =>
      have present := held.complete required
      rw [absent] at present
      cases present
  · intro free
    exact ⟨fun required => absurd (free.symm.trans required) (by decide),
      fun value present => nomatch absent.symm.trans present⟩

/-- A field that is present holds exactly if its value is accepted. -/
theorem holds_of_present {value : Value} (present : Value.present? field.name entries = some value) :
    field.Holds entries ↔ field.form.Accepts value := by
  constructor
  · exact fun held => held.each value present
  · refine fun accepted => ⟨fun _ => by rw [present]; rfl, fun other found => ?_⟩
    obtain rfl := Option.some.inj (present.symm.trans found)
    exact accepted

end Field

namespace Form

variable {entries : List (String × Value)}

/-- The object of a node is that of a node of its kind, and no document. -/
theorem accepts_node_iff {kind : Kind} (declared : (Value.object entries).kind? = some kind) :
    Form.node.Accepts (.object entries) ↔
      isDocument entries = false ∧ ∀ field ∈ kind.fields, field.Holds entries := by
  constructor
  · intro accepted
    cases accepted with
    | node found apart complete each =>
      obtain rfl := Option.some.inj (declared.symm.trans found)
      exact ⟨apart, fun field member => ⟨complete field member, each field member⟩⟩
  · rintro ⟨apart, holds⟩
    exact .node declared apart (fun field member => (holds field member).complete)
      fun field member => (holds field member).each

/-- Only objects that declare a kind are nodes. -/
theorem kind?_of_accepts {value : Value} (valid : Form.node.Accepts value) :
    ∃ kind, value.kind? = some kind := by
  cases valid with
  | node declared apart complete each => exact ⟨_, declared⟩

/-- A part is accepted if all its fields hold. -/
theorem accepts_part_iff {part : Part} :
    (Form.part part).Accepts (.object entries) ↔ ∀ field ∈ part.fields, field.Holds entries := by
  constructor
  · intro accepted
    cases accepted with
    | part complete each =>
      exact fun field member => ⟨complete field member, each field member⟩
  · intro holds
    exact .part (fun field member => (holds field member).complete)
      fun field member => (holds field member).each

/-- A value is accepted in a position if it is a node of a kind that is allowed there. -/
theorem accepts_child_iff {position : Position} {value : Value} :
    (Form.child position).Accepts value ↔
      Form.node.Accepts value ∧ ∃ kind, value.kind? = some kind ∧ position.allows kind = true := by
  constructor
  · intro accepted
    cases accepted with
    | child valid declared allowed => exact ⟨valid, _, declared, allowed⟩
  · rintro ⟨valid, kind, declared, allowed⟩
    exact .child valid declared allowed

/-! Normal forms, form by form. -/

/-- A text is its own normal form. -/
@[simp] theorem normal_text (value : Value) : Form.text.normal value = value := by
  simp [normal]

/-- In normal form a node has the fields of its kind, in their order. -/
theorem normal_node {kind : Kind} (declared : (Value.object entries).kind? = some kind) :
    Form.node.normal (.object entries) =
      .object (kind.fields.flatMap fun field => field.entry entries) := by
  rw [normal, nodeFields, declared]
  rfl

/-- In normal form a child has the fields of its kind, wherever it stands. -/
theorem normal_child {kind : Kind} (position : Position)
    (declared : (Value.object entries).kind? = some kind) :
    (Form.child position).normal (.object entries) =
      .object (kind.fields.flatMap fun field => field.entry entries) := by
  rw [normal, nodeFields, declared]
  rfl

/-- In normal form a part has its fields in their order. -/
theorem normal_part (part : Part) : (Form.part part).normal (.object entries) =
    .object (part.fields.flatMap fun field => field.entry entries) := by
  rw [normal]
  rfl

/-- The items of a list are in normal form, one by one. -/
theorem normal_list (item : Form) (items : List Value) :
    (Form.list item).normal (.array items) = .array (items.map item.normal) := by
  simp [normal]

/-- The members of a map keep their names and their order, and are in normal form. -/
theorem normal_children (position : Position) (inner : List (String × Value)) :
    (Form.children position).normal (.object inner) =
      .object (inner.map fun held => (held.1, (Form.child position).normal held.2)) := by
  let change (held : String × Value) := (held.1, (Form.child position).normal held.2)
  have mapped : (inner.attach.map fun held => change held.1) = inner.map change :=
    List.attach_map_val
  rw [normal]
  exact congrArg Value.object mapped

end Form

end LexiconSchema
