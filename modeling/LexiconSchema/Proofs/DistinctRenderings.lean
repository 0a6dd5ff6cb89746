import LexiconSchema.Document
import LexiconSchema.Proofs.DistinctNames
import LexiconSchema.Proofs.WrittenObjects

/-!
# What is written gives every name once

An object is put together from several parts: kind and description come first, then what the
kind declares, and this may end in the fields of a block of constraints. No part has a name of
another, so that nothing overwrites what was written before, at whatever depth. Hence what is
found in a rendering under its names is all that there is in it.

Every part has its names from a fixed list, in its order, and these lists are compared. Only
the names in maps are not fixed; a map has each of them once.

Main statements: `Node.render_distinct`, `Document.render_distinct`.
-/

namespace LexiconSchema

open Json

/-- The entries have some of the names, in their order, and values that give every name once. -/
structure WrittenUnder (names : List String) (entries : List (String × Value)) : Prop where
  ordered : (entries.map Prod.fst).Sublist names
  each : ∀ entry ∈ entries, entry.2.Distinct

namespace WrittenUnder

variable {names others : List String} {entries rest : List (String × Value)}

/-- Without entries there are no names. -/
theorem nil : WrittenUnder [] [] := ⟨.slnil, List.forall_mem_nil _⟩

/-- Entries under distinct names make up an object. -/
theorem object (written : WrittenUnder names entries) (distinct : names.Nodup) :
    (Value.object entries).Distinct :=
  .object (written.ordered.nodup distinct) written.each

/-- Entries under further names may follow. -/
theorem append (first : WrittenUnder names entries) (second : WrittenUnder others rest) :
    WrittenUnder (names ++ others) (entries ++ rest) where
  ordered := by
    rw [List.map_append]
    exact first.ordered.append second.ordered
  each := List.forall_mem_append.mpr ⟨first.each, second.each⟩

/-- An entry under a name of its own may stand before. -/
theorem cons (name : String) {value : Value} (distinct : value.Distinct)
    (written : WrittenUnder names entries) :
    WrittenUnder (name :: names) ((name, value) :: entries) where
  ordered := written.ordered.cons_cons name
  each := List.forall_mem_cons.mpr ⟨distinct, written.each⟩

/-- A value that may be absent is written under its name or not at all. -/
theorem entryOf {α : Type} {write : α → Value} (each : ∀ held, (write held).Distinct)
    (name : String) (value : Option α) : WrittenUnder [name] (entryOf name write value) := by
  cases value with
  | none => exact ⟨List.nil_sublist _, List.forall_mem_nil _⟩
  | some held => exact .cons name (each held) .nil

/-- The description is written under its name or not at all. -/
theorem description (text : Option String) :
    WrittenUnder ["description"] (descriptionEntry text) := .entryOf .string _ text

end WrittenUnder

/-- A list of texts has no names in it. -/
theorem textList_distinct (texts : List String) : (textList texts).Distinct := by
  simp [textList]

/-- A map gives every name once, if its values do. -/
theorem mapObject_distinct {α : Type} {write : α → Value} (each : ∀ held, (write held).Distinct)
    (map : OrderedMap String α) : (mapObject write map).Distinct := by
  refine .object ?_ fun entry member => ?_
  · rw [List.map_map]
    exact map.distinct
  · obtain ⟨held, -, rfl⟩ := List.mem_map.mp member
    exact each held.2

/-! Constraints. -/

/-- All that is written gives every name once. -/
def Json.Codec.Plain {α : Type} (codec : Codec α) : Prop :=
  ∀ held, (codec.encode held).Distinct

/-- All that is written for a field gives every name once. -/
def Json.FieldCodec.Plain {σ : Type} (field : FieldCodec σ) : Prop :=
  ∀ record value, field.take record = some value → value.Distinct

namespace Json.Codec

/-- Integers of a range have no names in them. -/
theorem ranged_plain {least bound : Int} {wanted : Json.Wanted}
    {below : -0x8000000000000000 ≤ least} {above : bound ≤ 0x10000000000000000} :
    (Codec.ranged least bound wanted below above).Plain := fun _ => .number _

/-- Numbers have no names in them. -/
theorem number_plain : number.Plain := .number

/-- Texts have no names in them. -/
theorem text_plain : text.Plain := .string

/-- Truth values have no names in them. -/
theorem flag_plain : flag.Plain := .bool

/-- A list is as plain as its items. -/
theorem list_plain {α : Type} {item : Codec α} (plain : item.Plain) : item.list.Plain := by
  intro items
  refine .array fun value member => ?_
  obtain ⟨held, -, rfl⟩ := List.mem_map.mp member
  exact plain held

end Json.Codec

namespace Json.FieldCodec

variable {σ : Type}

/-- An optional field is as plain as what it holds. -/
theorem optional_plain {α : Type} {codec : Codec α} (plain : codec.Plain) {name : String}
    {get : σ → Option α} {set : Option α → σ → σ} : (optional name codec get set).Plain := by
  intro record value taken
  obtain ⟨held, -, rfl⟩ := Option.map_eq_some_iff.mp taken
  exact plain held

/-- Fields are written under their names. -/
theorem entries_written {fields : List (FieldCodec σ)} (plain : ∀ field ∈ fields, field.Plain)
    (record : σ) : WrittenUnder (fields.map (·.name)) (entries fields record) where
  ordered := by
    induction fields with
    | nil => exact .slnil
    | cons field rest inductionHypothesis =>
      have later := inductionHypothesis (List.forall_mem_cons.mp plain).2
      cases taken : field.take record with
      | none => simpa [entries, taken] using later.cons field.name
      | some value => simpa [entries, taken] using later.cons_cons field.name
  each := by
    intro entry member
    obtain ⟨field, inside, written⟩ := List.mem_filterMap.mp member
    obtain ⟨value, taken, rfl⟩ := Option.map_eq_some_iff.mp written
    exact plain field inside record value taken

end Json.FieldCodec

/-! Nodes. -/

/-- What a kind declares has names of its own, beside those of kind and description. -/
def DeclaredApart (entries : List (String × Value)) : Prop :=
  ∃ names, ("type" :: "description" :: names).Nodup ∧ WrittenUnder names entries

/-- Such entries can follow the kind and the description. -/
theorem DeclaredApart.tagged {rest : List (String × Value)} (declared : DeclaredApart rest)
    (kind : Kind) (description : Option String) :
    (taggedObject kind description rest).Distinct := by
  obtain ⟨names, distinct, written⟩ := declared
  exact WrittenUnder.object
    (.cons "type" (.string _) ((WrittenUnder.description description).append written)) distinct

section
open Codec FieldCodec

/-- What a block declares has names of its own if its fields have and are written plainly. -/
theorem Json.Block.declared {σ : Type} {block : Json.Block σ}
    (distinct : ("type" :: "description" :: block.fields.map (·.name)).Nodup)
    (plain : ∀ field ∈ block.fields, field.Plain) (record : σ) :
    DeclaredApart (block.entries record) := ⟨_, distinct, entries_written plain record⟩

/-- The constraints of truth values are written under names of their own. -/
theorem BooleanConstraints.declared (constraints : BooleanConstraints) :
    DeclaredApart (block.entries constraints) := by
  refine Block.declared (by decide) ?_ constraints
  simp [block, optional_plain flag_plain]

/-- The constraints of integers are written under names of their own. -/
theorem IntegerConstraints.declared (constraints : IntegerConstraints) :
    DeclaredApart (block.entries constraints) := by
  refine Block.declared (by decide) ?_ constraints
  simp [block, whole, optional_plain ranged_plain, optional_plain (list_plain ranged_plain)]

/-- The constraints of numbers are written under names of their own. -/
theorem NumberConstraints.declared (constraints : NumberConstraints) :
    DeclaredApart (block.entries constraints) := by
  refine Block.declared (by decide) ?_ constraints
  simp [block, optional_plain number_plain, optional_plain (list_plain number_plain)]

/-- The format of a string, and its constraints behind it. -/
theorem StringSchema.declared (schema : StringSchema) : DeclaredApart schema.entries := by
  have format : Codec.format.Plain := fun _ => .string _
  refine ⟨_, by decide,
    (WrittenUnder.entryOf format _ _).append (entries_written ?_ schema.constraints)⟩
  simp [StringConstraints.block, size, optional_plain ranged_plain, optional_plain text_plain,
    optional_plain (list_plain text_plain)]

/-- Bounds are declared in two places, once behind the items of an array. -/
theorem LengthBounds.written (title : String) (bounds : LengthBounds) :
    WrittenUnder ["maxLength", "minLength"] ((blockTitled title).entries bounds) := by
  have plain : ∀ field ∈ (blockTitled title).fields, field.Plain := by
    simp [blockTitled, size, optional_plain ranged_plain]
  exact entries_written plain bounds

/-- The constraints of blobs are written under names of their own. -/
theorem BlobConstraints.declared (constraints : BlobConstraints) :
    DeclaredApart (block.entries constraints) := by
  refine Block.declared (by decide) ?_ constraints
  simp [block, size, optional_plain ranged_plain, optional_plain (list_plain text_plain)]

/-- The constraints of images are written under names of their own. -/
theorem ImageConstraints.declared (constraints : ImageConstraints) :
    DeclaredApart (block.entries constraints) := by
  refine Block.declared (by decide) ?_ constraints
  simp [block, size, count, optional_plain ranged_plain, optional_plain (list_plain text_plain)]

/-- The constraints of videos are written under names of their own. -/
theorem VideoConstraints.declared (constraints : VideoConstraints) :
    DeclaredApart (block.entries constraints) := by
  refine Block.declared (by decide) ?_ constraints
  simp [block, size, count, duration, optional_plain ranged_plain,
    optional_plain (list_plain text_plain)]

/-- The constraints of audio are written under names of their own. -/
theorem AudioConstraints.declared (constraints : AudioConstraints) :
    DeclaredApart (block.entries constraints) := by
  refine Block.declared (by decide) ?_ constraints
  simp [block, size, duration, optional_plain ranged_plain, optional_plain (list_plain text_plain)]

end

/-- A scalar declares its constraints. -/
theorem Scalar.declared (scalar : Scalar) : DeclaredApart scalar.entries := by
  cases scalar with
  | boolean held => exact held.declared
  | integer held => exact held.declared
  | number held => exact held.declared
  | string held => exact held.declared

/-- A medium declares its constraints. -/
theorem Media.declared (media : Media) : DeclaredApart media.entries := by
  cases media with
  | blob held => exact held.declared
  | image held => exact held.declared
  | video held => exact held.declared
  | audio held => exact held.declared

/-- A union declares its members, and whether it is closed. -/
theorem Union.declared (union : Union) : DeclaredApart union.entries := by
  refine ⟨["refs", "closed"], by decide, .cons _ ?_ (.entryOf .bool _ _)⟩
  rw [membersValue]
  split
  · exact WrittenUnder.nil.object List.nodup_nil
  · exact textList_distinct _

/-- An element declares what its kind has. -/
theorem Element.declared (element : Element) : DeclaredApart element.entries := by
  cases element with
  | scalar held => exact held.declared
  | media held => exact held.declared
  | bytes bounds => exact ⟨_, by decide, bounds.written _⟩
  | cidLink => exact ⟨_, by decide, .nil⟩
  | unknown => exact ⟨_, by decide, .nil⟩
  | ref held => exact ⟨["ref"], by decide, .cons _ (.string _) .nil⟩
  | union held => exact held.declared

/-- A written element gives every name once. -/
theorem Element.render_distinct (element : Described Element) :
    (Element.render element).Distinct := element.content.declared.tagged _ _

/-- An array declares its items and its bounds. -/
theorem ArrayOf.declared {ε : Type} {write : Described ε → Value}
    (each : ∀ held, (write held).Distinct) (array : ArrayOf ε) :
    DeclaredApart (array.entries write) :=
  ⟨["items", "maxLength", "minLength"], by decide,
    .cons _ (each array.items) (array.bounds.written _)⟩

/-- A written property gives every name once. -/
theorem Property.render_distinct (property : Described Property) :
    (Property.render property).Distinct := by
  rw [Property.render]
  split
  · exact Element.render_distinct _
  · exact (ArrayOf.declared Element.render_distinct _).tagged _ _

/-- An object declares its properties and its two lists of names. -/
theorem ObjectShape.declared (object : ObjectShape) : DeclaredApart object.entries :=
  ⟨["properties", "required", "nullable"], by decide,
    .cons _ (mapObject_distinct Property.render_distinct _)
      ((WrittenUnder.entryOf textList_distinct _ _).append (.entryOf textList_distinct _ _))⟩

/-- A written object gives every name once, whatever its properties are called. -/
theorem ObjectShape.render_distinct (object : Described ObjectShape) :
    (ObjectShape.render object).Distinct := object.content.declared.tagged _ _

/-- Parameters declare their properties and which of them are required. -/
theorem Parameters.declared (parameters : Parameters) : DeclaredApart parameters.entries :=
  ⟨["properties", "required"], by decide,
    .cons _ (mapObject_distinct (fun _ => Property.render_distinct _) _)
      (.entryOf textList_distinct _ _)⟩

/-- A record declares the pattern of its key, and its object. -/
theorem Record.declared (record : Record) : DeclaredApart record.entries :=
  ⟨["key", "record"], by decide,
    (WrittenUnder.entryOf (fun _ => .string _) _ _).append
      (.cons _ (ObjectShape.render_distinct _) .nil)⟩

/-- A written union gives every name once. -/
theorem Union.render_distinct (union : Described Union) : (Union.render union).Distinct :=
  union.content.declared.tagged _ _

/-! Bodies, messages and errors have a description, but no kind. -/

/-- A written schema of a body gives every name once. -/
theorem BodySchema.render_distinct (schema : Described BodySchema) :
    (BodySchema.render schema).Distinct := by
  rw [BodySchema.render]
  split
  · exact ObjectShape.render_distinct _
  · exact Element.render_distinct _
  · exact Union.render_distinct _

/-- A written input or output gives every name once. -/
theorem Body.render_distinct (body : Described Body) : (Body.render body).Distinct :=
  ((WrittenUnder.description _).append
    (.cons "encoding" (.string _) (.entryOf BodySchema.render_distinct "schema" _))).object
      (by decide)

/-- Written messages give every name once. -/
theorem Message.render_distinct (message : Described Message) :
    (Message.render message).Distinct :=
  ((WrittenUnder.description _).append (.entryOf Union.render_distinct "schema" _)).object
    (by decide)

/-- A written error gives every name once. -/
theorem ErrorCase.render_distinct (error : ErrorCase) : (ErrorCase.render error).Distinct :=
  (WrittenUnder.cons "name" (.string _) (.description _)).object (by decide)

/-- Errors are written under their name or not at all. -/
theorem errorsEntry_written (errors : Option (List ErrorCase)) :
    WrittenUnder ["errors"] (errorsEntry errors) := by
  refine .entryOf (fun cases => .array fun value member => ?_) _ _
  obtain ⟨error, -, rfl⟩ := List.mem_map.mp member
  exact error.render_distinct

/-- Parameters are written under their name or not at all. -/
theorem parametersEntry_written (parameters : Option (Described Parameters)) :
    WrittenUnder ["parameters"] (parametersEntry parameters) :=
  .entryOf (fun held => held.content.declared.tagged _ _) _ _

/-- Every content declares names of its own, beside those of kind and description. -/
theorem Content.declared (content : Content) : DeclaredApart content.entries := by
  have body (name : String) (held : Option (Described Body)) :
      WrittenUnder [name] (entryOf name Body.render held) :=
    .entryOf Body.render_distinct name held
  cases content with
  | element held => exact held.declared
  | array held => exact held.declared Element.render_distinct
  | token => exact ⟨_, by decide, .nil⟩
  | object held => exact held.declared
  | params held => exact held.declared
  | record held => exact held.declared
  | query held =>
    exact ⟨_, by decide, ((parametersEntry_written held.parameters).append
      (body "output" held.output)).append (errorsEntry_written held.errors)⟩
  | procedure held =>
    exact ⟨_, by decide, (((parametersEntry_written held.parameters).append
      (body "input" held.input)).append
        (body "output" held.output)).append (errorsEntry_written held.errors)⟩
  | subscription held =>
    exact ⟨_, by decide, ((parametersEntry_written held.parameters).append
      (.entryOf Message.render_distinct "message" held.message)).append
        (errorsEntry_written held.errors)⟩

/-- A written node gives every name once, at every depth. -/
theorem Node.render_distinct (node : Node) : (Node.render node).Distinct :=
  node.content.declared.tagged _ _

/-- A written document gives every name once, at every depth. -/
theorem Document.render_distinct (document : Document) : document.render.Distinct := by
  have revision : WrittenUnder ["revision"]
      (entryOf "revision" Codec.count.encode document.revision) :=
    .entryOf Codec.ranged_plain _ _
  have definitions : WrittenUnder ["defs"] [("defs", mapObject Node.render document.definitions)] :=
    .cons _ (mapObject_distinct Node.render_distinct _) .nil
  exact WrittenUnder.object (.cons "lexicon" (.number _) (.cons "id" (.string _)
    ((revision.append (.description document.description)).append definitions))) (by decide)

end LexiconSchema
