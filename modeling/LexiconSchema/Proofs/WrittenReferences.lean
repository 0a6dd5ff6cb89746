import LexiconSchema.Document
import LexiconSchema.Proofs.OrderedMaps

/-!
# References as they are written

The references of a node can be found in two ways. One goes through the node, position by
position. The other goes through the JSON value that is written for it, object by object and
without regard to where an object stands: one of type `ref` has a reference's text under `ref`, and
one of type `union` has its members' texts under `refs`. Both give the same texts, in the same order
and as often.

The second way knows nothing of nodes. So what it finds is all that is written, and no position was
left out of the first. It has to look at all that is written beside nodes too, at constraints, errors
and lists of names; none of that has the form of a reference, and neither has a map, even if a
property is called `type`.

Main statement: `references_as_written`.
-/

namespace LexiconSchema

open Json (Block Codec FieldCodec Value)

namespace Json.Value

/-- The items of a list; any other value has none. -/
def items : Value → List Value
  | .array held => held
  | _ => []

/-- What an object with given entries mentions itself: the text of a reference, or those of the
members of a union. -/
def mentionedBy (entries : List (String × Value)) : List String :=
  let type := (findEntry "type" entries).bind text?
  if type = some "ref" then ((findEntry "ref" entries).bind text?).toList
  else if type = some "union" then
    ((findEntry "refs" entries).toList.flatMap items).filterMap text?
  else []

/-- All references' texts in a value, in the order in which they are written. -/
def mentions : Value → List String
  | .array items => items.attach.flatMap fun item => item.1.mentions
  | .object entries =>
    mentionedBy entries ++ entries.attach.flatMap fun entry => entry.1.2.mentions
  | _ => []
termination_by value => sizeOf value
decreasing_by
  · have inside := List.sizeOf_lt_of_mem item.2
    simp only [array.sizeOf_spec]
    omega
  · have inside := List.sizeOf_lt_of_mem entry.2
    have value : sizeOf entry.1.2 < sizeOf entry.1 := by
      obtain ⟨⟨name, held⟩, member⟩ := entry
      simp only [Prod.mk.sizeOf_spec]
      omega
    simp only [object.sizeOf_spec]
    omega

/-- What the values of some entries mention, one after the other. -/
def mentionedIn (entries : List (String × Value)) : List String :=
  entries.flatMap fun entry => entry.2.mentions

section
variable {entries rest : List (String × Value)}

/-- A text by itself mentions nothing. -/
@[simp] theorem mentions_string (text : String) : (string text).mentions = [] := by
  simp [mentions]

/-- A number mentions nothing. -/
@[simp] theorem mentions_number (held : Number) : (number held).mentions = [] := by
  simp [mentions]

/-- A truth value mentions nothing. -/
@[simp] theorem mentions_bool (flag : Bool) : (bool flag).mentions = [] := by
  simp [mentions]

/-- A list mentions what its items do, in their order. -/
theorem mentions_array (items : List Value) : (array items).mentions = items.flatMap mentions := by
  rw [mentions, ← List.flatMap_map, List.attach_map_subtype_val]

/-- An object mentions what it does itself and then what stands in its entries. -/
theorem mentions_object : (object entries).mentions = mentionedBy entries ++ mentionedIn entries := by
  rw [mentions, mentionedIn, ← List.flatMap_map Subtype.val fun entry : String × Value =>
    entry.2.mentions, List.attach_map_subtype_val]

/-- Nothing is mentioned in no entries. -/
@[simp] theorem mentionedIn_nil : mentionedIn [] = [] := rfl

/-- Entries are gone through one after the other. -/
@[simp] theorem mentionedIn_cons (name : String) (value : Value) :
    mentionedIn ((name, value) :: rest) = value.mentions ++ mentionedIn rest := rfl

/-- Entries in two parts are gone through part by part. -/
@[simp] theorem mentionedIn_append :
    mentionedIn (entries ++ rest) = mentionedIn entries ++ mentionedIn rest :=
  List.flatMap_append

/-- Only an object whose type is a text can mention something itself. -/
theorem mentionedBy_of_untyped (untyped : (findEntry "type" entries).bind text? = none) :
    mentionedBy entries = [] := by
  simp [mentionedBy, untyped]

/-- An object of the kind of references mentions its text, if it has one. -/
theorem mentionedBy_of_ref (typed : findEntry "type" entries = some (.string Kind.ref.name)) :
    mentionedBy entries = ((findEntry "ref" entries).bind text?).toList := by
  rw [mentionedBy, typed]
  rfl

/-- An object of the kind of unions mentions those of its members that are texts. -/
theorem mentionedBy_of_union (typed : findEntry "type" entries = some (.string Kind.union.name)) :
    mentionedBy entries = ((findEntry "refs" entries).toList.flatMap items).filterMap text? := by
  rw [mentionedBy, typed]
  rfl

/-- Objects of other kinds mention nothing themselves. -/
theorem mentionedBy_of_plain {kind : Kind} (plain : [Kind.ref, .union].contains kind = false)
    (typed : findEntry "type" entries = some (.string kind.name)) : mentionedBy entries = [] := by
  rw [mentionedBy, typed]
  cases kind <;> first | rfl | cases plain

end

/-- The entry of a value that may be absent mentions what the value does. -/
theorem mentionedIn_entryOf {α : Type} (name : String) (write : α → Value) (held : Option α) :
    mentionedIn (entryOf name write held) = held.toList.flatMap fun one => (write one).mentions := by
  cases held <;> simp [entryOf]

/-- A description mentions nothing, whatever it says. -/
@[simp] theorem mentionedIn_descriptionEntry (description : Option String) :
    mentionedIn (descriptionEntry description) = [] := by
  simp [descriptionEntry, mentionedIn_entryOf]

/-- A list of names mentions nothing, since it is no union's. -/
@[simp] theorem mentions_textList (texts : List String) : (textList texts).mentions = [] := by
  simp [textList, mentions_array, List.flatMap_map]

end Json.Value

open Json.Value

/-! Constraints mention nothing. -/

/-- Nothing that is written mentions a reference. -/
def Json.Codec.Quiet {α : Type} (codec : Codec α) : Prop := ∀ held, (codec.encode held).mentions = []

/-- Nothing that is written for a field mentions a reference. -/
def Json.FieldCodec.Quiet {σ : Type} (field : FieldCodec σ) : Prop :=
  ∀ record value, field.take record = some value → value.mentions = []

section
variable {α σ : Type}

/-- Integers of a range mention nothing. -/
theorem Json.Codec.ranged_quiet {least bound : Int} {wanted : Json.Wanted}
    {below : -0x8000000000000000 ≤ least} {above : bound ≤ 0x10000000000000000} :
    (Codec.ranged least bound wanted below above).Quiet := fun _ => mentions_number _

/-- Numbers mention nothing. -/
theorem Json.Codec.number_quiet : Codec.number.Quiet := mentions_number

/-- Texts mention nothing. -/
theorem Json.Codec.text_quiet : Codec.text.Quiet := mentions_string

/-- Truth values mention nothing. -/
theorem Json.Codec.flag_quiet : Codec.flag.Quiet := mentions_bool

/-- A list is as quiet as its items. -/
theorem Json.Codec.list_quiet {item : Codec α} (quiet : item.Quiet) : item.list.Quiet := by
  intro items
  rw [Codec.list, mentions_array, List.flatMap_map]
  exact List.flatMap_eq_nil_iff.mpr fun held _ => quiet held

/-- An optional field is as quiet as what it holds. -/
theorem Json.FieldCodec.optional_quiet {codec : Codec α} (quiet : codec.Quiet) {name : String}
    {get : σ → Option α} {set : Option α → σ → σ} :
    (FieldCodec.optional name codec get set).Quiet := by
  intro record value taken
  obtain ⟨held, -, rfl⟩ := Option.map_eq_some_iff.mp taken
  exact quiet held

/-- A block of quiet fields mentions nothing. -/
theorem Json.Block.mentionedIn_entries {block : Block σ} (quiet : ∀ field ∈ block.fields, field.Quiet)
    (record : σ) : mentionedIn (block.entries record) = [] := by
  refine List.flatMap_eq_nil_iff.mpr fun entry member => ?_
  obtain ⟨field, inside, written⟩ := List.mem_filterMap.mp member
  obtain ⟨value, taken, rfl⟩ := Option.map_eq_some_iff.mp written
  exact quiet field inside record value taken

end

section
open Json.Codec Json.FieldCodec

/-- Bounds mention nothing. -/
theorem LengthBounds.mentionedIn_entries (title : String) (bounds : LengthBounds) :
    mentionedIn ((blockTitled title).entries bounds) = [] :=
  Block.mentionedIn_entries (by simp [blockTitled, size, optional_quiet ranged_quiet]) bounds

/-- Scalars mention nothing, not even by their defaults or what they list. -/
theorem Scalar.mentionedIn_entries (scalar : Scalar) : mentionedIn scalar.entries = [] := by
  cases scalar with
  | boolean held =>
    exact Block.mentionedIn_entries
      (by simp [BooleanConstraints.block, optional_quiet flag_quiet]) held
  | integer held =>
    exact Block.mentionedIn_entries (by simp [IntegerConstraints.block, whole,
      optional_quiet ranged_quiet, optional_quiet (list_quiet ranged_quiet)]) held
  | number held =>
    exact Block.mentionedIn_entries (by simp [NumberConstraints.block,
      optional_quiet number_quiet, optional_quiet (list_quiet number_quiet)]) held
  | string held =>
    rw [entries, StringSchema.entries, mentionedIn_append, mentionedIn_entryOf,
      Block.mentionedIn_entries (by simp [StringConstraints.block, size,
        optional_quiet ranged_quiet, optional_quiet text_quiet,
        optional_quiet (list_quiet text_quiet)]), List.append_nil]
    exact List.flatMap_eq_nil_iff.mpr fun format _ => mentions_string format.name

/-- Media mention nothing. -/
theorem Media.mentionedIn_entries (media : Media) : mentionedIn media.entries = [] := by
  cases media with
  | blob held =>
    exact Block.mentionedIn_entries (by simp [BlobConstraints.block, size,
      optional_quiet ranged_quiet, optional_quiet (list_quiet text_quiet)]) held
  | image held =>
    exact Block.mentionedIn_entries (by simp [ImageConstraints.block, size, count,
      optional_quiet ranged_quiet, optional_quiet (list_quiet text_quiet)]) held
  | video held =>
    exact Block.mentionedIn_entries (by simp [VideoConstraints.block, size, count, duration,
      optional_quiet ranged_quiet, optional_quiet (list_quiet text_quiet)]) held
  | audio held =>
    exact Block.mentionedIn_entries (by simp [AudioConstraints.block, size, duration,
      optional_quiet ranged_quiet, optional_quiet (list_quiet text_quiet)]) held

end

/-! Nodes. -/

/-- What a node of a kind other than a reference's or a union's is written with is mentioned by its
parts alone. -/
theorem mentions_taggedObject {kind : Kind} (plain : [Kind.ref, .union].contains kind = false)
    (description : Option String) (rest : List (String × Value)) :
    (taggedObject kind description rest).mentions = mentionedIn rest := by
  rw [taggedObject, mentions_object, List.cons_append, mentionedBy_of_plain plain rfl]
  simp

/-- A reference is written as an object that mentions its text. -/
theorem mentionedBy_reference (description : Option String) (reference : Reference) :
    mentionedBy (("type", .string Kind.ref.name) :: descriptionEntry description ++
      reference.entries) = [reference.target] := by
  rw [List.cons_append, mentionedBy_of_ref rfl]
  cases description <;> rfl

/-- The members of a union are written as a list of their texts, or as an object without entries. -/
theorem Union.items_membersValue (union : Union) :
    (items union.membersValue).filterMap text? = targets union.members := by
  rw [membersValue]
  cases shape : union.members with
  | nil => rfl
  | cons first others => simp [textList, items, targets, List.filterMap_map, Function.comp_def, text?]

/-- A union is written as an object that mentions its members' texts. -/
theorem mentionedBy_union (description : Option String) (union : Union) :
    mentionedBy (("type", .string Kind.union.name) :: descriptionEntry description ++
      union.entries) = targets union.members := by
  have written : findEntry "refs" (("type", .string Kind.union.name) ::
      (descriptionEntry description ++ union.entries)) = some union.membersValue := by
    cases description <;> rfl
  rw [List.cons_append, mentionedBy_of_union rfl, written]
  exact (congrArg (List.filterMap text?) (List.append_nil _)).trans union.items_membersValue

/-- A written union mentions its members' texts. -/
theorem Union.mentions_render (union : Described Union) :
    (Union.render union).mentions = targets union.content.members := by
  have members : union.content.membersValue.mentions = [] := by
    rw [membersValue]
    split
    · rw [mentions_object]
      rfl
    · exact mentions_textList _
  have closed : mentionedIn (entryOf "closed" .bool union.content.closed) = [] := by
    simp [mentionedIn_entryOf]
  rw [render, taggedObject, mentions_object, mentionedBy_union]
  simp [Union.entries, members, closed]

/-- A written element mentions the texts of its references. -/
theorem Element.mentions_render (element : Described Element) :
    (Element.render element).mentions = targets element.content.references := by
  obtain ⟨description, content⟩ := element
  cases content with
  | scalar held =>
    exact (mentions_taggedObject (by cases held <;> rfl) _ _).trans
      held.mentionedIn_entries
  | media held =>
    exact (mentions_taggedObject (by cases held <;> rfl) _ _).trans
      held.mentionedIn_entries
  | bytes bounds =>
    exact (mentions_taggedObject rfl _ _).trans (bounds.mentionedIn_entries _)
  | cidLink => exact mentions_taggedObject rfl _ _
  | unknown => exact mentions_taggedObject rfl _ _
  | ref held =>
    change (taggedObject .ref description held.entries).mentions = _
    rw [taggedObject, mentions_object, mentionedBy_reference]
    simp [Reference.entries, references, targets]
  | union held => exact Union.mentions_render ⟨description, held⟩

/-- An array mentions the texts of its items' references. -/
theorem ArrayOf.mentionedIn_entries (array : ArrayOf Element) :
    mentionedIn (array.entries Element.render) = targets array.items.content.references := by
  rw [entries, mentionedIn_cons, Element.mentions_render, LengthBounds.arrayBlock,
    LengthBounds.mentionedIn_entries, List.append_nil]

/-- A written property mentions the texts of its references. -/
theorem Property.mentions_render (property : Described Property) :
    (Property.render property).mentions = targets (Property.references property.content) := by
  obtain ⟨description, content⟩ := property
  cases content with
  | single held => exact Element.mentions_render ⟨description, held⟩
  | array held =>
    exact (mentions_taggedObject rfl _ _).trans held.mentionedIn_entries

/-- A property is written as an object, so it is never taken for the type of the map around it. -/
theorem Property.text?_render (property : Described Property) :
    (Property.render property).text? = none := by
  obtain ⟨description, content⟩ := property
  cases content <;> rfl

/-- A map mentions what its values do, whatever their names are. -/
theorem mentions_mapObject {α : Type} {write : α → Value} (objects : ∀ held, (write held).text? = none)
    (map : OrderedMap String α) :
    (mapObject write map).mentions = map.values.flatMap fun held => (write held).mentions := by
  have untyped : (findEntry "type" (map.entries.map fun entry => (entry.1, write entry.2))).bind
      text? = none := by
    rw [findEntry_map, Option.bind_map]
    exact Option.bind_eq_none_iff.mpr fun held _ => objects held
  rw [mapObject, mentions_object, mentionedBy_of_untyped untyped]
  simp [mentionedIn, OrderedMap.values, List.flatMap_map]

/-- The texts of collected references are collected texts. -/
theorem targets_flatMap {α : Type} (references : α → List Reference) (all : List α) :
    targets (all.flatMap references) = all.flatMap fun one => targets (references one) :=
  List.map_flatMap

/-- An object mentions what its properties do, in their order, and nothing by its lists of names. -/
theorem ObjectShape.mentionedIn_entries (object : ObjectShape) :
    mentionedIn object.entries = targets object.references := by
  have names (name : String) (texts : Option (List String)) :
      mentionedIn (entryOf name textList texts) = [] := by
    simp [mentionedIn_entryOf]
  rw [references, targets_flatMap]
  simp only [entries, mentionedIn_cons, mentionedIn_append, names, List.append_nil,
    mentions_mapObject Property.text?_render, Property.mentions_render]

/-- A written object mentions the texts of its references. -/
theorem ObjectShape.mentions_render (object : Described ObjectShape) :
    (ObjectShape.render object).mentions = targets object.content.references :=
  (mentions_taggedObject rfl _ _).trans object.content.mentionedIn_entries

/-- What a parameter may be is no reference. -/
theorem Parameter.references_toProperty (parameter : Parameter) :
    Property.references parameter.toProperty = [] := by
  rcases parameter with element | ⟨⟨description, element⟩, bounds⟩ <;> cases element <;> rfl

/-- Parameters mention nothing. -/
theorem Parameters.mentionedIn_entries (parameters : Parameters) :
    mentionedIn parameters.entries = [] := by
  have properties : (mapObject (fun parameter => Property.render (parameter.map
      Parameter.toProperty)) parameters.properties).mentions = [] := by
    rw [mentions_mapObject fun _ => Property.text?_render _]
    refine List.flatMap_eq_nil_iff.mpr fun parameter _ => ?_
    rw [Property.mentions_render]
    exact congrArg targets parameter.content.references_toProperty
  simp [entries, properties, mentionedIn_entryOf]

/-- A written schema of a body mentions the texts of its references. -/
theorem BodySchema.mentions_render (schema : Described BodySchema) :
    (BodySchema.render schema).mentions = targets schema.content.references := by
  obtain ⟨description, content⟩ := schema
  cases content with
  | object held => exact ObjectShape.mentions_render ⟨description, held⟩
  | ref held => exact Element.mentions_render ⟨description, .ref held⟩
  | union held => exact Union.mentions_render ⟨description, held⟩

/-- A part of a method has no type, so it mentions what its schema does. -/
theorem Body.mentions_render (body : Described Body) :
    (Body.render body).mentions =
      (body.content.schema.toList.flatMap fun schema => targets schema.content.references) := by
  obtain ⟨description, encoding, schema⟩ := body
  have untyped : (findEntry "type" (descriptionEntry description ++
      ("encoding", .string encoding) :: entryOf "schema" BodySchema.render schema)).bind text? =
        none := by
    cases description <;> cases schema <;> rfl
  rw [render, mentions_object, mentionedBy_of_untyped untyped]
  simp [mentionedIn_entryOf, BodySchema.mentions_render]

/-- Written messages mention the texts of their union's members. -/
theorem Message.mentions_render (message : Described Message) :
    (Message.render message).mentions =
      (message.content.schema.toList.flatMap fun union => targets union.content.members) := by
  obtain ⟨description, ⟨schema⟩⟩ := message
  have untyped : (findEntry "type" (descriptionEntry description ++
      entryOf "schema" Union.render schema)).bind text? = none := by
    cases description <;> cases schema <;> rfl
  rw [render, mentions_object, mentionedBy_of_untyped untyped]
  simp [mentionedIn_entryOf, Union.mentions_render]

/-- An error mentions nothing. -/
theorem ErrorCase.mentions_render (error : ErrorCase) : (ErrorCase.render error).mentions = [] := by
  obtain ⟨name, description⟩ := error
  have untyped : (findEntry "type" (("name", .string name) :: descriptionEntry description)).bind
      text? = none := by
    cases description <;> rfl
  rw [render, mentions_object, mentionedBy_of_untyped untyped]
  simp

/-! Methods. -/

/-- Errors mention nothing. -/
theorem mentionedIn_errorsEntry (errors : Option (List ErrorCase)) :
    mentionedIn (errorsEntry errors) = [] := by
  simp [errorsEntry, mentionedIn_entryOf, mentions_array, List.flatMap_map,
    ErrorCase.mentions_render]

/-- The parameters of a method mention nothing. -/
theorem mentionedIn_parametersEntry (parameters : Option (Described Parameters)) :
    mentionedIn (parametersEntry parameters) = [] := by
  have each (held : Described Parameters) : (Parameters.render held).mentions = [] :=
    (mentions_taggedObject rfl _ _).trans held.content.mentionedIn_entries
  simp [parametersEntry, mentionedIn_entryOf, each]

/-- An input or output mentions the texts of its references, if there is one. -/
theorem mentionedIn_body (name : String) (body : Option (Described Body)) :
    mentionedIn (entryOf name Body.render body) = targets (Body.references body) := by
  rw [mentionedIn_entryOf]
  rcases body with _ | ⟨description, encoding, schema⟩
  · rfl
  · cases schema <;> simp [Body.mentions_render, Body.references, targets]

/-- Messages mention the texts of their references, if there are any. -/
theorem mentionedIn_message (message : Option (Described Message)) :
    mentionedIn (entryOf "message" Message.render message) = targets (Message.references message) := by
  rw [mentionedIn_entryOf]
  rcases message with _ | ⟨description, ⟨schema⟩⟩
  · rfl
  · cases schema <;> simp [Message.mentions_render, Message.references, targets]

/-- A record mentions the texts of its object's references. -/
theorem Record.mentionedIn_entries (record : Record) :
    mentionedIn record.entries = targets record.object.content.references := by
  simp [entries, mentionedIn_entryOf, ObjectShape.mentions_render]

/-- A written node mentions the texts of its references, in the same order and as often. -/
theorem Node.mentions_render (node : Node) :
    (Node.render node).mentions = targets (Node.references node) := by
  obtain ⟨description, content⟩ := node
  have tagged (plain : [Kind.ref, .union].contains content.kind = false) :
      (Node.render ⟨description, content⟩).mentions = mentionedIn content.entries :=
    mentions_taggedObject plain _ _
  cases content with
  | element held => exact Element.mentions_render ⟨description, held⟩
  | array held => exact (tagged rfl).trans held.mentionedIn_entries
  | token => exact tagged rfl
  | object held => exact (tagged rfl).trans held.mentionedIn_entries
  | params held => exact (tagged rfl).trans held.mentionedIn_entries
  | record held => exact (tagged rfl).trans held.mentionedIn_entries
  | query held =>
    rw [tagged rfl, Content.entries, mentionedIn_append, mentionedIn_append,
      mentionedIn_parametersEntry, mentionedIn_errorsEntry, mentionedIn_body]
    simp [references, Content.references, targets]
  | procedure held =>
    rw [tagged rfl, Content.entries, mentionedIn_append, mentionedIn_append,
      mentionedIn_append, mentionedIn_parametersEntry, mentionedIn_errorsEntry, mentionedIn_body,
      mentionedIn_body]
    simp [references, Content.references, targets]
  | subscription held =>
    rw [tagged rfl, Content.entries, mentionedIn_append, mentionedIn_append,
      mentionedIn_parametersEntry, mentionedIn_errorsEntry, mentionedIn_message]
    simp [references, Content.references, targets]

/-- The references of a node are those that its rendering mentions, in the same order and as often.
The rendering is walked through without regard to what stands where: every object of type `ref`
counts with the text under `ref`, and every object of type `union` with the texts under `refs`.

Proof: by the kind of the node. What it writes beside other nodes mentions nothing, and each of its
positions is written where the node's own walk looks for it. -/
theorem references_as_written (node : Node) :
    (Node.references node).map (·.target) = (Node.render node).mentions :=
  node.mentions_render.symm

end LexiconSchema
