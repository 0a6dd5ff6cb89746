import LexiconSchema.Proofs.Composition

/-!
# Fields that are written in two ways

A format is the text of its name, and an error case is an object with a name and perhaps a
description. Each of them may be written in one more way: a format as an object whose only entry
has its name, and `null`, and an error case as a list of its two values. Both ways are read, and
nothing else is, however deep it stands in a node or in a document.

Main statement: `formats_and_errors_have_two_spellings`. That some values of another type than
the usual one get past the reader is `unusual_spellings_are_read`.
-/

namespace LexiconSchema

open Json (Value)

namespace Json.Value

/-! The usual spellings and the others. -/

/-- The name of a format. -/
def IsFormatName (value : Value) : Prop := ∃ format : StringFormat, value = .string format.name

/-- An object with a name, and with a description if it is a text. -/
inductive IsErrorObject : Value → Prop
  | intro {entries : List (String × Value)} {name : String}
      (named : present? "name" entries = some (.string name))
      (described : ∀ held, present? "description" entries = some held →
        ∃ text, held = .string text) : IsErrorObject (.object entries)

/-- The name of a format, or an object whose only entry has such a name, and `null`. -/
def SpellsFormat (value : Value) : Prop :=
  value.IsFormatName ∨ ∃ format : StringFormat, value = .object [(format.name, .null)]

/-- An object of an error case, or a list of a name and a text or `null`. -/
def SpellsErrorCase (value : Value) : Prop :=
  value.IsErrorObject ∨ ∃ name description, value = .array [.string name, description] ∧
    (description = .null ∨ ∃ text, description = .string text)

/-- Of a string's value, the format has a property if it is present; of a method's, the errors
are a list of values that have another. -/
structure Typed (format errorCase : Value → Prop) (value : Value) : Prop where
  format : ∀ entries, value = .object entries → value.kind? = some .string →
    ∀ held, present? "format" entries = some held → format held
  errors : ∀ entries kind, value = .object entries → value.kind? = some kind →
    kind.isMethod = true → ∀ held, present? "errors" entries = some held →
      ∃ items, held = .array items ∧ ∀ item ∈ items, errorCase item

end Json.Value

/-! What the grammar accepts. -/

section
variable {value : Value}

/-- The grammar accepts as a format exactly what spells one in either way. -/
theorem accepts_format_iff_spells : Form.format.Accepts value ↔ value.SpellsFormat := by
  rw [Form.accepts_format_iff]
  constructor
  · rintro ⟨format, named⟩
    unfold formatName? at named
    split at named
    · obtain rfl := Option.some.inj named
      exact .inl ⟨format, rfl⟩
    · obtain rfl := Option.some.inj named
      exact .inr ⟨format, rfl⟩
    · cases named
  · rintro (⟨format, rfl⟩ | ⟨format, rfl⟩)
    · exact ⟨format, rfl⟩
    · exact ⟨format, rfl⟩

/-- Of a name, what is found and not `null` is present. -/
theorem present?_eq_some_iff {name : String} {entries : List (String × Value)} :
    Value.present? name entries = some value ↔
      findEntry name entries = some value ∧ value.isNull = false := by
  rw [Value.present?, Option.filter_eq_some_iff, Bool.not_eq_true']

/-- A list of two values is read as the object with both names. -/
theorem accepts_pair_iff {first second : Value} :
    Form.errorCase.Accepts (.array [first, second]) ↔
      (∃ name, first = .string name) ∧ (second = .null ∨ ∃ text, second = .string text) := by
  constructor
  · intro accepted
    cases accepted with
    | @errorCase _ _ name given named described =>
      obtain rfl := Option.some.inj given
      have same : some first = some (.string name) := (present?_eq_some_iff.mp named).1
      refine ⟨⟨name, Option.some.inj same⟩, ?_⟩
      cases null : second.isNull with
      | true =>
        cases second with
        | null => exact .inl rfl
        | _ => cases null
      | false =>
        have present : Value.present? "description"
            [("name", first), ("description", second)] = some second :=
          present?_of_findEntry rfl null
        exact .inr (Form.accepts_text_iff.mp (described second present))
  · rintro ⟨⟨name, rfl⟩, described⟩
    refine .errorCase rfl (present?_of_findEntry rfl rfl) ?_
    intro held present
    obtain ⟨found, notNull⟩ := present?_eq_some_iff.mp present
    obtain rfl : second = held := Option.some.inj found
    rcases described with rfl | ⟨text, rfl⟩
    · cases notNull
    · exact .text

/-- The grammar accepts as an error exactly what spells one in either way. -/
theorem accepts_errorCase_iff_spells : Form.errorCase.Accepts value ↔ value.SpellsErrorCase := by
  constructor
  · intro accepted
    cases given : errorEntries? value with
    | none => exact absurd accepted (ErrorCase.not_accepts given)
    | some entries =>
      unfold errorEntries? at given
      split at given
      · cases accepted with
        | errorCase same named described =>
          obtain rfl := Option.some.inj same
          refine .inl (.intro named ?_)
          intro held present
          exact Form.accepts_text_iff.mp (described held present)
      · obtain ⟨⟨name, rfl⟩, described⟩ := accepts_pair_iff.mp accepted
        exact .inr ⟨name, _, rfl, described⟩
      · cases given
  · rintro (object | ⟨name, description, rfl, described⟩)
    · cases object with
      | intro named described =>
        refine .errorCase rfl named ?_
        intro held present
        exact Form.accepts_text_iff.mpr (described held present)
    · exact accepts_pair_iff.mpr ⟨⟨name, rfl⟩, described⟩

/-- The fields of a node that the grammar accepts are spelled in these ways. -/
theorem typed_of_valid (valid : Valid value) :
    value.Typed Value.SpellsFormat Value.SpellsErrorCase := by
  have holds {entries : List (String × Value)} (same : value = .object entries) {kind : Kind}
      (declared : value.kind? = some kind) : ∀ field ∈ kind.fields, field.Holds entries := by
    subst same
    exact ((Form.accepts_node_iff declared).mp valid).2
  constructor
  · intro entries same declared held present
    have format : (Field.optional "format" .format).Holds entries :=
      holds same declared _ (by decide)
    exact accepts_format_iff_spells.mp (format.each held present)
  · intro entries kind same declared method held present
    have among : Field.optional "errors" (.list .errorCase) ∈ kind.fields := by
      cases kind with
      | query | procedure | subscription => decide
      | _ => cases method
    have errors := holds same declared _ among
    cases errors.each held present with
    | list each =>
      refine ⟨_, rfl, ?_⟩
      intro item member
      exact accepts_errorCase_iff_spells.mp (each item member)

/-- In a valid value every value inside, at whatever depth, spells its formats and error cases in
one of the two ways. -/
theorem typed_within {inner : Value} (valid : Valid value)
    (inside : Value.view.Within value inner) :
    inner.Typed Value.SpellsFormat Value.SpellsErrorCase :=
  typed_of_valid (Value.view_governs.within valid inside)

/-! Nodes with one field. -/

/-- The entries of a node of which one field is given. -/
def singleEntries (kind : Kind) (name : String) (value : Value) : List (String × Value) :=
  [("type", .string kind.name), (name, value)]

/-- A node may have one field alone if it has no other that is required. The field is none of
those by which kinds and documents are known. -/
structure Field.Single (field : Field) (kind : Kind) : Prop where
  own : field ∈ kind.ownFields
  apart : field.name ∉ ["type", "lexicon"]
  others : ∀ other ∈ Field.description :: kind.ownFields, other ≠ field →
    other.isRequired = false ∧ other.name ∉ ["type", field.name]

/-- Such a node is read exactly if the value of the field is accepted. -/
theorem reads_single_iff (context : Context) {kind : Kind} {field : Field}
    (single : field.Single kind) (distinct : value.Distinct) (notNull : value.isNull = false) :
    (∃ node, Node.ofValue context (.object (singleEntries kind field.name value)) = .ok node) ↔
      field.form.Accepts value := by
  obtain ⟨notType, notVersion⟩ : field.name ≠ "type" ∧ field.name ≠ "lexicon" := by
    simpa using single.apart
  have distinctEntries : (Value.object (singleEntries kind field.name value)).Distinct := by
    simp [singleEntries, distinct, notType.symm]
  have noDocument : isDocument (singleEntries kind field.name value) = false := by
    simp [isDocument, singleEntries, findEntry_cons, notVersion, findEntry]
  have declared : (Value.object (singleEntries kind field.name value)).kind? = some kind :=
    kind?_cons _
  have present : Value.present? field.name (singleEntries kind field.name value) = some value :=
    present?_of_findEntry (by simp [singleEntries, findEntry_cons, notType.symm]) notNull
  rw [(Node.ofValue_exactly context _ distinctEntries).exists_ok_iff, Valid,
    Form.accepts_node_iff declared, and_iff_right noDocument, Kind.fields, List.forall_mem_cons,
    and_iff_right (type_holds declared)]
  constructor
  · intro holds
    exact (Field.holds_of_present present).mp (holds field (List.mem_cons_of_mem _ single.own))
  · intro accepted other member
    by_cases same : other = field
    · subst same
      exact (Field.holds_of_present present).mpr accepted
    · obtain ⟨free, foreign⟩ := single.others other member same
      obtain ⟨noType, different⟩ : other.name ≠ "type" ∧ other.name ≠ field.name := by
        simpa using foreign
      refine (Field.holds_of_absent (present?_of_absent ?_)).mpr free
      simp [singleEntries, findEntry_cons, noType.symm, different.symm, findEntry]

/-- A string with a format and nothing else is read exactly if the format is spelled in either
way. -/
theorem reads_format_iff (context : Context) (distinct : value.Distinct)
    (notNull : value.isNull = false) :
    (∃ node, Node.ofValue context (.object (singleEntries .string "format" value)) = .ok node) ↔
      value.SpellsFormat := by
  have single : (Field.optional "format" .format).Single .string :=
    ⟨by decide, by decide, by decide⟩
  rw [← accepts_format_iff_spells]
  exact reads_single_iff context single distinct notNull

/-- A method with one error and nothing else is read exactly if the error is spelled in either
way. -/
theorem reads_errors_iff (context : Context) {kind : Kind} (method : kind.isMethod = true)
    (distinct : value.Distinct) :
    (∃ node, Node.ofValue context (.object (singleEntries kind "errors" (.array [value]))) =
      .ok node) ↔ value.SpellsErrorCase := by
  have single : (Field.optional "errors" (.list .errorCase)).Single kind := by
    cases kind with
    | query | procedure | subscription => exact ⟨by decide, by decide, by decide⟩
    | _ => cases method
  have distinctItems : (Value.array [value]).Distinct :=
    Value.distinct_array_iff.mpr (List.forall_mem_singleton.mpr distinct)
  have read : _ ↔ (Form.list .errorCase).Accepts (.array [value]) :=
    reads_single_iff context single distinctItems rfl
  rw [← accepts_errorCase_iff_spells]
  refine read.trans ?_
  constructor
  · intro accepted
    cases accepted with
    | list each => exact List.forall_mem_singleton.mp each
  · intro accepted
    exact .list (List.forall_mem_singleton.mpr accepted)

end

/-! Documents. -/

/-- A value of a node that is in the value of a document, at whatever depth. -/
def Json.Value.InDocument (whole inner : Value) : Prop :=
  ∃ definition ∈ whole.definitions, Value.view.Within definition inner

/-- All formats and errors inside a document that was read are spelled in either way, at every
depth. -/
theorem typed_inDocument {context : Context} {value inner : Value}
    {entries : List (String × Value)} {document : Document} (distinct : value.Distinct)
    (given : Document.entriesOf value = .ok entries)
    (read : Document.ofEntries context entries = .ok document) (inside : value.InDocument inner) :
    inner.Typed Value.SpellsFormat Value.SpellsErrorCase := by
  obtain rfl := Document.object_of_entriesOf given
  obtain ⟨definition, member, within⟩ := inside
  have accepted := Document.accepts_definition distinct read member
  exact typed_within (Form.accepts_child_iff.mp accepted).1 within

/-- A document that a repository reads anew is read from its entries. -/
theorem Repository.ofEntries_of_readDocument {repository after : Repository} {value : Value}
    {kept : Kept} (made : repository.readDocument value = (.ok kept, after))
    (changed : after ≠ repository) :
    ∃ entries, Document.entriesOf value = .ok entries ∧
      Document.ofEntries repository.context entries = .ok kept.document := by
  rw [readDocument] at made
  cases given : Document.entriesOf value with
  | error error =>
    rw [given] at made
    cases made
  | ok entries =>
    rw [given] at made
    dsimp only at made
    have reads := readEntries_cases repository entries
    rw [made] at reads
    refine ⟨entries, rfl, ?_⟩
    cases reads with
    | kept head found => exact absurd rfl changed
    | stored read head absent => exact read

/-- Formats and errors have two spellings. If a value is read as a node, then at every depth in
it, the format of a string is spelled in one of the two ways, and so is every error of a method.
The same goes for a value that is read as a document, alone or through a repository that did not
keep it. And of a value by itself: it is read as the format of a string exactly if it spells
one, and as an error of a method exactly if it spells one.

Proof: the grammar accepts these spellings and no others, and what it accepts it accepts at
every depth. -/
theorem formats_and_errors_have_two_spellings (value : Value) (distinct : value.Distinct) :
    (∀ context node, Node.ofValue context value = .ok node → ∀ inner,
      Value.view.Within value inner →
        inner.Typed Value.SpellsFormat Value.SpellsErrorCase) ∧
    (∀ document, Document.ofValue value = .ok document → ∀ inner, value.InDocument inner →
      inner.Typed Value.SpellsFormat Value.SpellsErrorCase) ∧
    (∀ (repository : Repository) kept after,
      repository.readDocument value = (.ok kept, after) → after ≠ repository →
        ∀ inner, value.InDocument inner →
          inner.Typed Value.SpellsFormat Value.SpellsErrorCase) ∧
    (∀ context, value.isNull = false →
      ((∃ node, Node.ofValue context (.object (singleEntries .string "format" value)) = .ok node) ↔
        value.SpellsFormat)) ∧
    ∀ context kind, Kind.isMethod kind = true →
      ((∃ node, Node.ofValue context (.object (singleEntries kind "errors" (.array [value]))) =
        .ok node) ↔ value.SpellsErrorCase) := by
  refine ⟨?_, ?_, ?_, ?_, ?_⟩
  · intro context node read inner inside
    exact typed_within ((Node.ofValue_exactly context value distinct).of_ok read).1 inside
  · intro document read inner inside
    obtain ⟨entries, given, made⟩ := bind_eq_ok_iff.mp read
    exact typed_inDocument distinct given made inside
  · intro repository kept after made changed inner inside
    obtain ⟨entries, given, read⟩ := Repository.ofEntries_of_readDocument made changed
    exact typed_inDocument distinct given read inside
  · intro context notNull
    exact reads_format_iff context distinct notNull
  · intro context kind method
    exact reads_errors_iff context method distinct

/-- The object that stands for a format. -/
def didValue : Value := .object [("did", .null)]

/-- The list that stands for an error case. -/
def goneValue : Value := .array [.string "Gone", .null]

/-- A format that is spelled as an object is read. -/
theorem formats_and_errors_have_two_spellings_did :
    didValue.Distinct ∧ didValue.isNull = false ∧
    ∃ node, Node.ofValue {} (.object (singleEntries .string "format" didValue)) = .ok node := by
  have distinct : didValue.Distinct := by simp [didValue]
  obtain ⟨-, -, -, format, -⟩ := formats_and_errors_have_two_spellings didValue distinct
  exact ⟨distinct, rfl, (format {} rfl).mpr (.inr ⟨.did, rfl⟩)⟩

/-- A format that is no text and an error that is no object are read. -/
theorem unusual_spellings_are_read :
    let format := Value.object (singleEntries .string "format" didValue)
    let method := Value.object (singleEntries .query "errors" (.array [goneValue]))
    ((∃ node, Node.ofValue {} format = .ok node) ∧
      ¬ format.Typed Value.IsFormatName Value.IsErrorObject) ∧
    (∃ node, Node.ofValue {} method = .ok node) ∧
      ¬ method.Typed Value.IsFormatName Value.IsErrorObject := by
  refine ⟨⟨?_, ?_⟩, ?_, ?_⟩
  · exact (reads_format_iff {} (by simp [didValue]) rfl).mpr (.inr ⟨.did, rfl⟩)
  · intro typed
    obtain ⟨format, same⟩ := typed.format _ rfl rfl didValue rfl
    cases same
  · exact (reads_errors_iff {} rfl (by simp [goneValue])).mpr
      (.inr ⟨"Gone", .null, rfl, .inl rfl⟩)
  · intro typed
    obtain ⟨items, same, each⟩ := typed.errors _ .query rfl rfl rfl _ rfl
    cases same
    cases List.forall_mem_singleton.mp each

end LexiconSchema
