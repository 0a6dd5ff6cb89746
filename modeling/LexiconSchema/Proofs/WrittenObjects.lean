import LexiconSchema.Proofs.Equality
import LexiconSchema.Proofs.FieldCodecs
import LexiconSchema.Proofs.Relocation

/-!
# Written objects and what is found in them

An object is read by the names of its entries, so what a reader makes of a written
object depends on what is found under each name. A written node starts with its
kind and its description; what its kind declares comes behind them, under other
names. A reader of single fields gets back what was written there.
-/

namespace LexiconSchema

open Json (Block Codec FieldCodec Mismatch Value)

/-! Entries that may be absent. -/

/-- A name is looked for in the first entry and then in the others. -/
theorem findEntry_cons {α : Type} {name : String} (entry : String × α)
    (rest : List (String × α)) :
    findEntry name (entry :: rest) = if entry.1 = name then some entry.2 else findEntry name rest :=
  rfl

/-- An optional entry is found under its name if it is there. -/
theorem findEntry_entryOf {α : Type} {name other : String} (write : α → Value)
    (value : Option α) :
    findEntry other (entryOf name write value) =
      if name = other then value.map write else none := by
  cases value with
  | none => simp [entryOf, findEntry]
  | some held => simp [entryOf, findEntry]

/-- The description is found under its name if there is one. -/
theorem findEntry_descriptionEntry {name : String} (description : Option String) :
    findEntry name (descriptionEntry description) =
      if "description" = name then description.map .string else none :=
  findEntry_entryOf .string description

/-- A found entry is present unless it is `null`. -/
theorem present?_of_findEntry {name : String} {entries : List (String × Value)} {value : Value}
    (found : findEntry name entries = some value) (notNull : value.isNull = false) :
    Value.present? name entries = some value := by
  simp [Value.present?, found, notNull]

/-- What is not found is not present. -/
theorem present?_of_absent {name : String} {entries : List (String × Value)}
    (absent : findEntry name entries = none) : Value.present? name entries = none := by
  simp [Value.present?, absent]

/-- What is found under a name is present when none of it is written as `null`. -/
theorem present?_of_written {α : Type} {name : String} {entries : List (String × Value)}
    {write : α → Value} {value : Option α} (found : findEntry name entries = value.map write)
    (notNull : ∀ held, (write held).isNull = false) :
    Value.present? name entries = value.map write := by
  cases value with
  | none => exact present?_of_absent found
  | some held => exact present?_of_findEntry found (notNull held)

/-- The entries of a node: its kind, its description and the rest. -/
def taggedEntries (kind : Kind) (description : Option String) (rest : List (String × Value)) :
    List (String × Value) :=
  ("type", .string kind.name) :: descriptionEntry description ++ rest

/-- The entries of a node as it is written. -/
def Node.entries (node : Node) : List (String × Value) :=
  taggedEntries (Node.kind node) node.description node.content.entries

/-- A node is written as the object of its entries. -/
theorem Node.render_eq (node : Node) : Node.render node = .object (Node.entries node) := rfl

section
variable {kind : Kind} {description : Option String} {rest : List (String × Value)}

/-- Behind kind and description any other name is found in the rest. -/
theorem findEntry_taggedEntries {name : String} (notKind : "type" ≠ name)
    (notDescription : "description" ≠ name) :
    findEntry name (taggedEntries kind description rest) = findEntry name rest := by
  simp [taggedEntries, findEntry_cons, findEntry_append, findEntry_descriptionEntry, notKind,
    notDescription]

variable {context : Context}

/-- The kind is read back. -/
theorem kind_taggedEntries :
    Source.kind ⟨context, taggedEntries kind description rest⟩ = .ok kind := by
  simp [Source.kind, taggedEntries, findEntry_cons, Kind.ofName?_name]

/-- A field is read back from what a lawful codec wrote. -/
theorem field?_of_findEntry {α : Type} {codec : Codec α} (lawful : codec.Lawful)
    {entries : List (String × Value)} {name : String} {reason : Mismatch → Reason}
    {held : Option α} (found : findEntry name entries = held.map codec.encode) :
    Source.field? ⟨context, entries⟩ name codec.decode reason = .ok held := by
  have present := present?_of_written found lawful.encode_present
  cases held with
  | none => exact Source.field?_of_absent present
  | some value =>
    rw [Source.field?_of_present present, lawful.decode_encode]
    rfl

/-- A text that may be absent is read back. -/
theorem text?_of_findEntry {entries : List (String × Value)} {name : String} {text : Option String}
    (found : findEntry name entries = text.map .string) :
    Source.text? ⟨context, entries⟩ name = .ok text :=
  field?_of_findEntry Codec.text_lawful found

/-- The description is read back if nothing else is called so. -/
theorem description_taggedEntries (absent : findEntry "description" rest = none) :
    Source.description ⟨context, taggedEntries kind description rest⟩ = .ok description := by
  apply text?_of_findEntry
  simp [taggedEntries, findEntry_cons, findEntry_append, findEntry_descriptionEntry, absent]

/-- A written node is read as a node of its kind. -/
theorem ofEntries_taggedEntries :
    Node.ofEntries context (taggedEntries kind description rest) =
      readKind ⟨context, taggedEntries kind description rest⟩ (Descent.whole _) kind := by
  rw [Node.ofEntries]
  simp only [kind_taggedEntries]
  rfl

end

section
variable {context : Context} {entries : List (String × Value)} {name : String}

/-! Fields of an object by what is found under their names. -/

/-- A text that must be there is read back. -/
theorem text_of_findEntry {text : String} (found : findEntry name entries = some (.string text)) :
    Source.text ⟨context, entries⟩ name = .ok text := by
  have optional : Source.text? ⟨context, entries⟩ name = .ok (some text) :=
    text?_of_findEntry found
  rw [Source.text, optional]
  rfl

/-- A text that was read stands under its name. -/
theorem findEntry_of_text {source : Source} {text : String} (read : source.text name = .ok text) :
    findEntry name source.entries = some (.string text) := by
  cases present : Value.present? name source.entries with
  | none =>
    have nothing : source.text? name = .ok none := Source.field?_of_absent present
    rw [Source.text, nothing] at read
    cases read
  | some value =>
    rw [Source.text, Source.text?, Source.field?_of_present present] at read
    cases value with
    | string held =>
      obtain rfl : held = text := Except.ok.inj read
      exact Option.eq_some_of_filter_eq_some present
    | _ => cases read

/-- A list of texts that may be absent is read back. -/
theorem texts?_of_findEntry {texts : Option (List String)}
    (found : findEntry name entries = texts.map textList) :
    Source.texts? ⟨context, entries⟩ name = .ok texts :=
  field?_of_findEntry (Codec.list_lawful Codec.text_lawful) found

end

/-! Names that no node writes behind its description. -/

/-- A name that the entries of a block are searched for in vain. -/
theorem findEntry_blockEntries {σ : Type} {block : Block σ} (record : σ) {name : String}
    (absent : name ∉ block.fields.map (·.name)) : findEntry name (block.entries record) = none :=
  FieldCodec.findEntry_entries record absent

/-- The name is that of a description or one that only documents have. -/
def IsReserved (name : String) : Prop := name = "description" ∨ name = "lexicon"

section
variable {name : String} (reserved : IsReserved name)
include reserved

/-- A string has neither a kind nor a description among what it declares. -/
theorem StringSchema.findEntry_reserved (schema : StringSchema) :
    findEntry name schema.entries = none := by
  rw [StringSchema.entries, findEntry_append, findEntry_entryOf]
  rcases reserved with rfl | rfl
  · exact findEntry_blockEntries schema.constraints (by decide)
  · exact findEntry_blockEntries schema.constraints (by decide)

/-- Nor has any scalar. -/
theorem Scalar.findEntry_reserved (scalar : Scalar) : findEntry name scalar.entries = none := by
  cases scalar with
  | string schema => exact schema.findEntry_reserved reserved
  | boolean held => rcases reserved with rfl | rfl <;> exact findEntry_blockEntries held (by decide)
  | integer held => rcases reserved with rfl | rfl <;> exact findEntry_blockEntries held (by decide)
  | number held => rcases reserved with rfl | rfl <;> exact findEntry_blockEntries held (by decide)

/-- Nor has any medium. -/
theorem Media.findEntry_reserved (media : Media) : findEntry name media.entries = none := by
  cases media <;> rcases reserved with rfl | rfl <;> exact findEntry_blockEntries _ (by decide)

/-- Nor has any element. -/
theorem Element.findEntry_reserved (element : Element) : findEntry name element.entries = none := by
  cases element with
  | scalar held => exact held.findEntry_reserved reserved
  | media held => exact held.findEntry_reserved reserved
  | bytes bounds =>
    rcases reserved with rfl | rfl <;> exact findEntry_blockEntries bounds (by decide)
  | cidLink => rfl
  | unknown => rfl
  | ref held => rcases reserved with rfl | rfl <;> rfl
  | union held =>
    rcases reserved with rfl | rfl <;>
      simp [Element.entries, Union.entries, findEntry_cons, findEntry_entryOf]

/-- What a content declares is never written under a reserved name. -/
theorem Content.findEntry_reserved (content : Content) : findEntry name content.entries = none := by
  cases content with
  | element held => exact held.findEntry_reserved reserved
  | array held =>
    have bounds : findEntry name (LengthBounds.arrayBlock.entries held.bounds) = none := by
      rcases reserved with rfl | rfl <;> exact findEntry_blockEntries held.bounds (by decide)
    rcases reserved with rfl | rfl <;>
      simp [Content.entries, ArrayOf.entries, findEntry_cons, bounds]
  | _ =>
    rcases reserved with rfl | rfl <;>
      simp [Content.entries, ObjectShape.entries, Parameters.entries, Record.entries,
        parametersEntry, errorsEntry, findEntry, findEntry_append, findEntry_entryOf]

end

section
variable (node : Node)

/-- Behind kind and description a written node has what its content declares. -/
theorem Node.findEntry_entries {name : String} (notKind : "type" ≠ name)
    (notDescription : "description" ≠ name) :
    findEntry name (Node.entries node) = findEntry name node.content.entries :=
  findEntry_taggedEntries notKind notDescription

/-- A written node is no document. -/
theorem Node.isDocument_entries : isDocument (Node.entries node) = false := by
  have absent : findEntry "lexicon" (Node.entries node) = none := by
    rw [Node.findEntry_entries node (by decide) (by decide)]
    exact node.content.findEntry_reserved (.inr rfl)
  simp [isDocument, absent]

/-- The description of a written node is read back. -/
theorem Node.description_entries {context : Context} :
    Source.description ⟨context, Node.entries node⟩ = .ok node.description :=
  description_taggedEntries (node.content.findEntry_reserved (.inl rfl))

/-- A written node is read as a node of its kind. -/
theorem Node.ofEntries_entries {context : Context} :
    Node.ofEntries context (Node.entries node) =
      readKind ⟨context, Node.entries node⟩ (Descent.whole _) (Node.kind node) :=
  ofEntries_taggedEntries

end

/-! Parts of methods. -/

/-- The parts of a method that reads are found under their names. -/
theorem Query.findEntry_entries (query : Query) :
    findEntry "parameters" (Content.query query).entries = query.parameters.map Parameters.render ∧
    findEntry "output" (Content.query query).entries = query.output.map Body.render ∧
    findEntry "errors" (Content.query query).entries =
      query.errors.map fun errors => .array (errors.map ErrorCase.render) := by
  simp [Content.entries, parametersEntry, errorsEntry, findEntry_append, findEntry_entryOf]

/-- The parts of a method that writes are found under their names, input and output apart. -/
theorem Procedure.findEntry_entries (procedure : Procedure) :
    findEntry "parameters" (Content.procedure procedure).entries =
      procedure.parameters.map Parameters.render ∧
    findEntry "input" (Content.procedure procedure).entries = procedure.input.map Body.render ∧
    findEntry "output" (Content.procedure procedure).entries = procedure.output.map Body.render ∧
    findEntry "errors" (Content.procedure procedure).entries =
      procedure.errors.map fun errors => .array (errors.map ErrorCase.render) := by
  simp [Content.entries, parametersEntry, errorsEntry, findEntry_append, findEntry_entryOf]

/-- The parts of a subscription are found under their names. -/
theorem Subscription.findEntry_entries (subscription : Subscription) :
    findEntry "parameters" (Content.subscription subscription).entries =
      subscription.parameters.map Parameters.render ∧
    findEntry "message" (Content.subscription subscription).entries =
      subscription.message.map Message.render ∧
    findEntry "errors" (Content.subscription subscription).entries =
      subscription.errors.map fun errors => .array (errors.map ErrorCase.render) := by
  simp [Content.entries, parametersEntry, errorsEntry, findEntry_append, findEntry_entryOf]

/-! Leaves. -/

/-- What comes first in a written node has none of the names of a list of fields. -/
theorem foreign_head {kind : Kind} {description : Option String} {names : List String}
    (foreign : "type" ∉ names ∧ "description" ∉ names) :
    ∀ entry ∈ ("type", Value.string kind.name) :: descriptionEntry description,
      entry.1 ∉ names := by
  intro entry member
  rcases List.mem_cons.mp member with rfl | member
  · exact foreign.1
  · cases description with
    | none => simp [descriptionEntry, entryOf] at member
    | some text =>
      obtain rfl := List.mem_singleton.mp member
      exact foreign.2

/-- The constraints of a written node are read back from behind its description. -/
theorem ofEntries_tagged {σ : Type} {block : Block σ} (lawful : block.Lawful)
    {kind : Kind} {description : Option String} (constraints : σ)
    (foreign : "type" ∉ block.fields.map (·.name) ∧ "description" ∉ block.fields.map (·.name)) :
    block.ofEntries (taggedEntries kind description (block.entries constraints)) =
      .ok constraints := by
  apply Block.ofEntries_behind lawful constraints (foreign_head foreign)

/-- The description alone is read back from a written node. -/
theorem readEntries_description {kind : Kind} {description : Option String}
    {rest : List (String × Value)} (absent : findEntry "description" rest = none) :
    FieldCodec.readEntries [descriptionField] (⟨none, ()⟩ : Described Unit)
      (taggedEntries kind description rest) = .ok ⟨description, ()⟩ := by
  have written : descriptionEntry description =
      FieldCodec.entries [descriptionField] (⟨description, ()⟩ : Described Unit) := by
    cases description <;> rfl
  have later : ∀ entry ∈ rest, entry.1 ∉ ["description"] := by
    intro entry member same
    rw [findEntry_eq_none_iff] at absent
    exact absent (List.mem_map.mpr ⟨entry, member, List.mem_singleton.mp same⟩)
  have first : ∀ entry ∈ [("type", Value.string kind.name)], entry.1 ∉ ["description"] := by
    simp
  have split : taggedEntries kind description rest =
      [("type", .string kind.name)] ++
        (FieldCodec.entries [descriptionField] (⟨description, ()⟩ : Described Unit) ++ rest) := by
    rw [← written]
    rfl
  rw [split]
  exact FieldCodec.readEntries_between (by decide) (.field Codec.text_lawful rfl (.done _)) first
    later

/-- A leaf with constraints is read back. -/
theorem readLeaf_tagged {σ : Type} {block : Block σ} (lawful : block.Lawful)
    {kind : Kind} {description : Option String} (constraints : σ)
    (foreign : "type" ∉ block.fields.map (·.name) ∧ "description" ∉ block.fields.map (·.name)) :
    readLeaf block (taggedEntries kind description (block.entries constraints)) =
      .ok ⟨description, constraints⟩ := by
  rw [readLeaf]
  rw [readEntries_description (findEntry_blockEntries constraints foreign.2),
    ofEntries_tagged lawful constraints foreign]
  rfl

/-- A string node is read back, its format before its constraints. -/
theorem StringSchema.ofEntries_tagged {kind : Kind} {description : Option String}
    (schema : StringSchema) :
    StringSchema.ofEntries (taggedEntries kind description schema.entries) =
      .ok ⟨description, schema⟩ := by
  obtain ⟨format, constraints⟩ := schema
  have block := StringConstraints.block_lawful
  have outer : FieldCodec.readEntries [descriptionField, formatField]
      (⟨none, none⟩ : Described (Option StringFormat))
      ([("type", .string kind.name)] ++
        (FieldCodec.entries [descriptionField, formatField] ⟨description, format⟩ ++
          StringConstraints.block.entries constraints)) = .ok ⟨description, format⟩ := by
    refine FieldCodec.readEntries_between (by decide)
      (.field Codec.text_lawful rfl (.field Codec.format_lawful rfl (.done _))) ?_ ?_
    · simp [descriptionField, formatField, FieldCodec.optional]
    · intro entry member known
      have inside : entry.1 ∈ StringConstraints.block.fields.map (·.name) :=
        FieldCodec.name_of_mem_entries member
      have named : entry.1 = "description" ∨ entry.1 = "format" := by
        simpa [descriptionField, formatField, FieldCodec.optional] using known
      rcases named with same | same
      · exact absurd (same ▸ inside) (by decide)
      · exact absurd (same ▸ inside) (by decide)
  have inner : StringConstraints.block.ofEntries
      ((("type", Value.string kind.name) :: descriptionEntry description ++
        entryOf "format" Codec.format.encode format) ++
          StringConstraints.block.entries constraints) = .ok constraints := by
    refine Block.ofEntries_behind block constraints fun entry member => ?_
    rcases List.mem_append.mp member with head | tail
    · exact foreign_head (by decide) entry head
    · cases format with
      | none => simp [entryOf] at tail
      | some held =>
        obtain rfl := List.mem_singleton.mp tail
        change "format" ∉ StringConstraints.block.fields.map (·.name)
        decide
  have written : FieldCodec.entries [descriptionField, formatField]
      (⟨description, format⟩ : Described (Option StringFormat)) =
        descriptionEntry description ++ entryOf "format" Codec.format.encode format := by
    cases description <;> cases format <;> rfl
  rw [written] at outer
  rw [StringSchema.ofEntries, taggedEntries, StringSchema.entries]
  simp only [List.append_assoc, List.cons_append, List.nil_append] at outer inner ⊢
  rw [outer, inner]
  rfl

/-! The heads of documents. -/

/-- A text that names no definition and is an identifier identifies a document. -/
theorem Document.identify_of_parse {source : Source} {text : String} {id : Identifier}
    (whole : '#' ∉ text.toList) (parsed : Identifier.parse text = .ok id) :
    Document.identify source text = .ok id := by
  rw [Document.identify, if_neg (by simpa using whole), parsed]
  rfl

/-- With the version found under its name, the head is what the text of the identifier
makes it. -/
theorem Document.readHead_of_findEntry {source : Source} {text : String}
    (version : findEntry "lexicon" source.entries = some (.number languageVersion))
    (named : findEntry "id" source.entries = some (.string text)) :
    Document.readHead source = Document.identify source text := by
  have checked : Document.checkVersion source = .ok () := by
    rw [Document.checkVersion]
    rw [present?_of_findEntry version rfl]
    rfl
  have found : source.text "id" = .ok text := text_of_findEntry named
  rw [Document.readHead, checked, found]
  rfl

end LexiconSchema
