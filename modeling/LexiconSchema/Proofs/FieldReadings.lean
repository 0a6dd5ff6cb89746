import LexiconSchema.Proofs.FieldForms
import LexiconSchema.Proofs.RoundTrip

/-!
# Single fields of an object

The readers of single fields read what the table of a kind has under the field's name. A
reading reads a field when it succeeds exactly if the field holds, and what it gives is
written as the field's entry in normal form. That is shown for every plain field of the
tables, for the leaves with all their fields, and for nodes inside, given how these are read.
-/

namespace LexiconSchema

open Json (Block Codec FieldCodec Mismatch Value)

namespace Field

/-- The reading succeeds exactly if the field holds, and its result is written as the
field's entry. -/
abbrev ReadBy {ε α : Type} (field : Field) (entries : List (String × Value))
    (write : α → List (String × Value)) (read : Except ε α) : Prop :=
  Exactly (field.Holds entries) (fun held => write held = field.entry entries) read

section
variable {ε α : Type} {entries : List (String × Value)}

/-- A field is read by a reading that does so both when it is absent and when it is
present. -/
theorem readBy_of_cases {field : Field} {write : α → List (String × Value)} {read : Except ε α}
    (absent : Value.present? field.name entries = none → Exactly (field.isRequired = false)
      (fun held => write held = if field.form.isMap then [(field.name, .object [])] else []) read)
    (present : ∀ value, Value.present? field.name entries = some value →
      Exactly (field.form.Accepts value)
        (fun held => write held = [(field.name, field.form.normal value)]) read) :
    field.ReadBy entries write read := by
  cases found : Value.present? field.name entries with
  | none =>
    exact (absent found).imp (holds_of_absent found).symm fun held written =>
      written.trans (entry_of_absent found).symm
  | some value =>
    exact (present value found).imp (holds_of_present found).symm fun held written =>
      written.trans (entry_of_present found).symm

variable {name : String} {form : Form} {write : α → Value}

/-- A field that may be absent is read by a reading that gives nothing without it and
otherwise follows its form. -/
theorem optional_readBy {read : Except ε (Option α)} (single : form.isMap = false)
    (absent : Value.present? name entries = none → read = .ok none)
    (present : ∀ value, Value.present? name entries = some value →
      Exactly (form.Accepts value)
        (fun held => held.map write = some (form.normal value)) read) :
    (optional name form).ReadBy entries (entryOf name write) read := by
  refine readBy_of_cases (fun found => ?_) fun value found => ?_
  · rw [absent found, single]
    exact .ok rfl rfl
  · refine (present value found).imp Iff.rfl fun held written => ?_
    cases held with
    | none => cases written
    | some held => exact congrArg (fun value => [(name, value)]) (Option.some.inj written)

/-- A field that must be present is read by reading it as one that may be absent and
refusing nothing. -/
theorem required_readBy {first : Except ε (Option α)} {next : Option α → Except ε α}
    (single : form.isMap = false)
    (read : (optional name form).ReadBy entries (entryOf name write) first)
    (given : ∀ held, next (some held) = .ok held)
    (refused : ∃ fault, next none = .error fault) :
    (required name form).ReadBy entries (fun held => [(name, write held)]) (first >>= next) := by
  cases read with
  | error fails =>
    refine .error fun holds => fails ⟨nofun, holds.each⟩
  | @ok held holds written =>
    cases found : Value.present? name entries with
    | none =>
      rw [entry_of_absent found, single] at written
      cases held with
      | some held => cases written
      | none =>
        obtain ⟨fault, failed⟩ := refused
        change Exactly _ _ (next none)
        rw [failed]
        exact .error fun complete => nomatch (holds_of_absent found).mp complete
    | some value =>
      rw [entry_of_present found] at written
      cases held with
      | none => cases written
      | some held =>
        change Exactly _ _ (next (some held))
        rw [given]
        refine .ok ((holds_of_present found).mpr (holds.each value found)) ?_
        rw [entry_of_present found]
        exact written

end

end Field

section
variable {source : Source} {form : Form}

namespace Source

/-! Nodes and parts inside. -/

section
variable {α : Type} {write : α → Value}
  {read : (value : Value) → sizeOf value < sizeOf source.entries → Except ParseError α}

/-- What stands under a name is read as its form says. -/
theorem entry?_readBy (name : String) (single : form.isMap = false)
    (each : ∀ value smaller, Value.present? name source.entries = some value →
      Exactly (form.Accepts value) (fun held => write held = form.normal value)
        (read value smaller)) :
    (Field.optional name form).ReadBy source.entries (entryOf name write)
      (source.entry? name read) := by
  refine Field.optional_readBy single (fun absent => entry?_of_absent absent read) ?_
  intro value present
  rw [entry?_of_present present]
  exact (each value _ present).map fun held written => congrArg some written

/-- What must stand under a name is read as its form says. -/
theorem entry_readBy (name : String) (single : form.isMap = false)
    (each : ∀ value smaller, Value.present? name source.entries = some value →
      Exactly (form.Accepts value) (fun held => write held = form.normal value)
        (read value smaller)) :
    (Field.required name form).ReadBy source.entries (fun held => [(name, write held)])
      (source.entry name read) :=
  Field.required_readBy single (entry?_readBy name single each) (fun _ => rfl) ⟨_, rfl⟩

end

/-! Plain fields. -/

/-- A field is read as its form says if it is decoded so. -/
theorem field?_readBy {α : Type} {write : α → Value} {decode : Value → Except Mismatch α}
    {reason : Mismatch → Reason} (name : String) (single : form.isMap = false)
    (each : ∀ value, Value.present? name source.entries = some value →
      Exactly (form.Accepts value) (fun held => write held = form.normal value) (decode value)) :
    (Field.optional name form).ReadBy source.entries (entryOf name write)
      (source.field? name decode reason) :=
  entry?_readBy name single fun value _ present => (each value present).mapError

/-- A text that may be absent is read exactly if it is a text where it is present. -/
theorem text?_readBy (name : String) : (Field.optional name .text).ReadBy source.entries
    (entryOf name .string) (source.text? name) :=
  field?_readBy name rfl fun value _ => Form.text_exactly value

/-- A text that must be there is read exactly if it is there and a text. -/
theorem text_readBy (name : String) : (Field.required name .text).ReadBy source.entries
    (fun text => [(name, .string text)]) (source.text name) :=
  Field.required_readBy rfl (text?_readBy name) (fun _ => rfl) ⟨_, rfl⟩

/-- A truth value that may be absent is read exactly if it is one where it is present. -/
theorem flag?_readBy (name : String) : (Field.optional name .flag).ReadBy source.entries
    (entryOf name .bool) (source.flag? name) :=
  field?_readBy name rfl fun value _ => Form.flag_exactly value

/-- A list of texts that may be absent is read exactly if all of its items are texts. -/
theorem texts?_readBy (name : String) (distinct : (Value.object source.entries).Distinct) :
    (Field.optional name (.list .text)).ReadBy source.entries (entryOf name textList)
      (source.texts? name) :=
  field?_readBy name rfl fun value present =>
    Form.list_follows Form.text_follows value (distinct.present present)

/-- The description is read as a text that may be absent. -/
theorem description_readBy :
    Field.description.ReadBy source.entries descriptionEntry source.description :=
  text?_readBy "description"

end Source

/-! Texts that are more than texts. -/

/-- The pattern of a record's key is a text of its own form. -/
theorem readRecordKey_readBy : (Field.optional "key" .recordKey).ReadBy source.entries
    (entryOf "key" fun key : RecordKey => .string key.toString) (readRecordKey source) := by
  refine Field.optional_readBy rfl (fun absent => ?_) fun value present => ?_
  · have read : source.text? "key" = .ok none := Source.field?_of_absent absent
    rw [readRecordKey, read]
    rfl
  · rw [readRecordKey, Source.text?, Source.field?_of_present present]
    cases value with
    | string text =>
      dsimp only [bind, Except.bind, Except.map, Except.mapError, Codec.text]
      cases parsed : RecordKey.parse? text with
      | some key =>
        obtain rfl := RecordKey.toString_of_parse? parsed
        exact .ok (.recordKey (RecordKey.proper_of_parse? parsed)) (by simp [Form.normal])
      | none =>
        refine .error fun accepted => ?_
        cases accepted with
        | recordKey proper =>
          rw [RecordKey.parse?_toString proper] at parsed
          cases parsed
    | _ => exact .error fun accepted => by cases accepted

/-! Errors of methods. -/

/-- The errors of a method are a list of which every item is an error. -/
theorem readErrors_readBy (distinct : (Value.object source.entries).Distinct) :
    (Field.optional "errors" (.list .errorCase)).ReadBy source.entries errorsEntry
      (readErrors source) :=
  Source.field?_readBy "errors" rfl fun value present =>
    ErrorCase.decodeAll_follows value (distinct.present present)

/-! Members of unions. -/

/-- A member of a union is a text, and is written as it was. -/
theorem readUnionMember_exactly (item : Value) :
    Exactly (Form.text.Accepts item)
      (fun member => Value.string member.target = Form.text.normal item)
      (readUnionMember source item) := by
  cases item with
  | string text => exact .ok .text (by rw [Form.normal_text]; rfl)
  | _ => exact .error fun accepted => by cases accepted

/-- What is no list and no object without entries has no members. -/
theorem not_accepts_members {value : Value} (other : members? value = none) :
    ¬ Form.members.Accepts value := by
  intro accepted
  cases accepted with
  | members listed each =>
    rw [other] at listed
    cases listed

/-- Members are accepted if each of them is a text. -/
theorem accepts_members_iff {value : Value} {items : List Value}
    (listed : members? value = some items) :
    Form.members.Accepts value ↔ ∀ item ∈ items, Form.text.Accepts item := by
  constructor
  · intro accepted
    cases accepted with
    | members found each =>
      obtain rfl := Option.some.inj (listed.symm.trans found)
      exact each
  · exact .members listed

/-- Members are written as a list, unless there are none. -/
theorem normal_members {value : Value} {items : List Value} (listed : members? value = some items) :
    Form.members.normal value = if items.isEmpty then .object [] else .array items := by
  rw [Form.normal, listed]
  cases items with
  | nil => rfl
  | cons item rest =>
    cases value with
    | array items =>
      obtain rfl := Option.some.inj listed
      rfl
    | object entries => cases entries <;> cases listed
    | _ => cases listed

/-- Members are written as a list of their texts, and no members as an empty object. -/
theorem membersValue_eq {members : List Reference} {items : List Value}
    (written : members.map (fun member => Value.string member.target) = items) :
    Union.membersValue ⟨members, none⟩ = if items.isEmpty then .object [] else .array items := by
  subst written
  cases members with
  | nil => rfl
  | cons member rest => simp [Union.membersValue, textList]

/-- The members of a union must be there, be it as an empty object. -/
theorem readUnionMembers_readBy : (Field.required "refs" .members).ReadBy source.entries
    (fun members => [("refs", Union.membersValue ⟨members, none⟩)]) (readUnionMembers source) := by
  have settled {value : Value} {items : List Value} (listed : members? value = some items) :
      Exactly (Form.members.Accepts value)
        (fun members => [("refs", Union.membersValue ⟨members, none⟩)] =
          [("refs", Form.members.normal value)]) (items.mapM (readUnionMember source)) := by
    refine (Exactly.mapM fun item _ => readUnionMember_exactly item).imp
      (accepts_members_iff listed).symm fun members written => ?_
    have plain : items.map Form.text.normal = items :=
      (List.map_congr_left fun item _ => Form.normal_text item).trans (List.map_id' items)
    rw [normal_members listed, membersValue_eq (written.trans plain)]
  refine Field.readBy_of_cases (fun absent => ?_) fun value present => ?_
  · rw [readUnionMembers]
    rw [absent]
    exact .error fun accepted => by cases accepted
  · rw [readUnionMembers]
    rw [present]
    cases value with
    | array items => exact settled rfl
    | object entries =>
      cases entries with
      | nil =>
        have empty : members? (.object []) = some [] := rfl
        exact settled empty
      | cons entry rest => exact .error (not_accepts_members rfl)
    | _ => exact .error (not_accepts_members rfl)

end

/-! Leaves. -/

namespace Json.Block

variable {σ : Type} {block : Block σ} {fields : List Field} {entries : List (String × Value)}

/-- A block is read exactly if all its fields hold. -/
theorem Tabled.ofEntries_exactly (tabled : block.Tabled fields)
    (distinct : (Value.object entries).Distinct) :
    Exactly (∀ field ∈ fields, field.Holds entries)
      (fun record => block.entries record = fields.flatMap fun field => field.entry entries)
      (block.ofEntries entries) :=
  Json.FieldCodec.readEntries_exactly tabled.codecs tabled.blank tabled.free distinct

end Json.Block

section
variable {α : Type}

/-- A description by itself is written as its entry. -/
theorem entries_descriptionField (described : Described α) :
    FieldCodec.entries [descriptionField] described = descriptionEntry described.description := by
  obtain ⟨description, content⟩ := described
  cases description <;> rfl

/-- So is a description beside a format. -/
theorem entries_stringHead (described : Described (Option StringFormat)) :
    FieldCodec.entries [descriptionField, formatField] described =
      descriptionEntry described.description ++
        entryOf "format" Codec.format.encode described.content := by
  obtain ⟨description, format⟩ := described
  cases description <;> cases format <;> rfl

end

section
variable {entries : List (String × Value)} (distinct : (Value.object entries).Distinct)
include distinct

/-- A leaf with constraints is read exactly if its description and all constraints hold. -/
theorem readLeaf_exactly {σ : Type} {block : Block σ} {fields : List Field}
    (tabled : block.Tabled fields) :
    Exactly (∀ field ∈ Field.description :: fields, field.Holds entries)
      (fun leaf => descriptionEntry leaf.description ++ block.entries leaf.content =
        (Field.description :: fields).flatMap fun field => field.entry entries)
      (readLeaf block entries) := by
  have outer := Json.FieldCodec.readEntries_exactly (descriptionField_tabled (α := Unit))
    (show Json.FieldCodec.row _ ⟨none, ()⟩ = _ from rfl) (by decide) distinct
  refine outer.bind_iff (fun described first => ?_) List.forall_mem_append.symm
  refine (tabled.ofEntries_exactly distinct).map fun constraints second => ?_
  rw [entries_descriptionField] at first
  rw [first, second]
  exact List.flatMap_append.symm

/-- A string node has a format beside its constraints. -/
theorem StringSchema.ofEntries_exactly :
    Exactly (∀ field ∈ Field.description :: Kind.string.ownFields, field.Holds entries)
      (fun leaf => descriptionEntry leaf.description ++ leaf.content.entries =
        (Field.description :: Kind.string.ownFields).flatMap fun field => field.entry entries)
      (StringSchema.ofEntries entries) := by
  have outer := Json.FieldCodec.readEntries_exactly stringHead_tabled
    (show Json.FieldCodec.row _ ⟨none, none⟩ = _ from rfl) (by decide) distinct
  have together : (∀ field ∈ [Field.description, .optional "format" .format],
      field.Holds entries) ∧ (∀ field ∈ Kind.string.ownFields.tail, field.Holds entries) ↔
        ∀ field ∈ Field.description :: Kind.string.ownFields, field.Holds entries :=
    List.forall_mem_append.symm
  refine outer.bind_iff (fun described first => ?_) together
  refine (StringConstraints.block_tabled.ofEntries_exactly distinct).map
    fun constraints second => ?_
  rw [entries_stringHead] at first
  rw [StringSchema.entries, ← List.append_assoc, first, second]
  exact List.flatMap_append.symm

end

end LexiconSchema
