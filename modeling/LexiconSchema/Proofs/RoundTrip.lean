import LexiconSchema.Proofs.Equality
import LexiconSchema.Proofs.Relocation
import LexiconSchema.Proofs.WrittenForms
import LexiconSchema.Proofs.WrittenObjects

/-!
# Reading what was written

A node that was read is written as an object from which the same node is read. The
proof goes up the types of nodes: elements, arrays of them, properties, objects,
and so on to whole nodes and documents. Each type is only nested in later ones, so
no induction over nodes is needed. Two things must be known of a node beforehand,
both of which hold of whatever was read: its references are those of the context,
and the pattern of its key can be written.

Main statement: `reading_rendered_restores`, for nodes and for documents.
-/

namespace LexiconSchema

open Json (Block Codec FieldCodec Value)

/-- References that would have been declared in the context as they are. -/
def Context.Declares (context : Context) (references : List Reference) : Prop :=
  ∀ reference ∈ references, context.adopt reference = reference

/-- The node as it is written is read in the context as the same node. -/
def Node.Restored (context : Context) (node : Node) : Prop :=
  Node.ofEntries context (Node.entries node) = .ok node

/-- What a position holds, as the content that it was accepted from. -/
def Position.content : (position : Position) → position.Accepted → Content
  | .arrayItems, held => .element held
  | .objectProperty, held => Property.toContent held
  | .paramsProperty, .single held => .element held.toElement
  | .paramsProperty, .array held => .array held
  | .recordObject, held => .object held
  | .parameters, held => .params held
  | .bodySchema, held => held.toContent
  | .messageSchema, held => .element (.union held)
  | .unionMember, held => .element (.ref held)
  | .definition, held => held

/-- What a position holds, as a node. -/
def Position.node (position : Position) (held : Described position.Accepted) : Node :=
  held.map position.content

/-- What a position holds is restored by reading it there: its node is read as the
same node, which is accepted as the same thing. -/
structure Position.Restores (position : Position) (context : Context)
    (held : Described position.Accepted) : Prop where
  accepted : position.accept (position.content held.content) = some held.content
  restored : Node.Restored context (position.node held)

/-! Nodes inside others. -/

section
variable {position : Position} {context : Context}

/-- A child is read by reading its node and then asking its position. -/
theorem readChild_of_read {around part : List (String × Value)} {node : Node}
    {content : position.Accepted} (noDocument : isDocument part = false)
    (read : Node.ofEntries context part = .ok node)
    (accepted : position.accept node.content = some content)
    (smaller : sizeOf (Value.object part) < sizeOf around) :
    readChild (Descent.whole around) position context (.object part) smaller =
      .ok ⟨node.description, content⟩ := by
  simp [readChild, noDocument, Descent.whole, read, bind, Except.bind, accepted]

/-- A child whose node is read back from its written form is read back in its position. -/
theorem readChild_restored {around : List (String × Value)} {held : Described position.Accepted}
    (restores : position.Restores context held)
    (smaller : sizeOf (Node.render (position.node held)) < sizeOf around) :
    readChild (Descent.whole around) position context (Node.render (position.node held)) smaller =
      .ok held :=
  readChild_of_read (Node.isDocument_entries _) restores.restored restores.accepted smaller

variable {entries : List (String × Value)} {name : String}

/-- A node that may be absent is restored under its name. -/
theorem optionalChild_restored {held : Option (Described position.Accepted)}
    (found : findEntry name entries = held.map fun child => Node.render (position.node child))
    (restores : ∀ child, held = some child → position.Restores (context.child name) child) :
    Source.entry? ⟨context, entries⟩ name (fun value smaller =>
      readChild (Descent.whole entries) position (context.child name) value smaller) =
        .ok held := by
  have present := present?_of_written found fun child => rfl
  cases held with
  | none => exact Source.entry?_of_absent present _
  | some child =>
    rw [Source.entry?_of_present present, readChild_restored (restores child rfl)]
    rfl

/-- A node that must be present is restored under its name. -/
theorem child_restored {held : Described position.Accepted}
    (found : findEntry name entries = some (Node.render (position.node held)))
    (restores : position.Restores (context.child name) held) :
    Source.entry ⟨context, entries⟩ name (fun value smaller =>
      readChild (Descent.whole entries) position (context.child name) value smaller) =
        .ok held := by
  rw [Source.entry]
  rw [optionalChild_restored found fun child same => Option.some.inj same ▸ restores]
  rfl

/-- The members of a map are restored one after the other. Their names being new,
each goes behind those before it. -/
theorem readMembers_restored {around : List (String × Value)}
    {members : List (String × Described position.Accepted)}
    {sofar finish : OrderedMap String (Described position.Accepted)}
    (complete : finish.entries = sofar.entries ++ members)
    (restores : ∀ member ∈ members, position.Restores (context.child member.1) member.2)
    (smaller : ∀ member ∈ members.map fun member =>
      (member.1, Node.render (position.node member.2)), sizeOf member.2 < sizeOf around) :
    readMembers (Descent.whole around) position context
      (members.map fun member => (member.1, Node.render (position.node member.2))) smaller sofar =
        .ok finish := by
  induction members generalizing sofar with
  | nil =>
    have same : finish = sofar := OrderedMap.ext (by simpa using complete)
    rw [same]
    rfl
  | cons member rest inductionHypothesis =>
    simp only [List.map_cons, readMembers]
    rw [readChild_restored (restores member List.mem_cons_self)]
    exact inductionHypothesis (OrderedMap.insert_next complete)
      (fun other later => restores other (List.mem_cons_of_mem _ later)) _

/-- A map is restored under its name. -/
theorem readMap_restored {inner : Context} {map : OrderedMap String (Described position.Accepted)}
    (found : findEntry name entries =
      some (mapObject (fun held => Node.render (position.node held)) map))
    (restores : ∀ member ∈ map.entries,
      position.Restores ((inner.child name).child member.1) member.2) :
    readMap ⟨context, entries⟩ (Descent.whole entries) name position inner = .ok map := by
  have present := present?_of_findEntry found rfl
  rw [readMap]
  rw [Source.entry?_of_present present]
  have read := @readMembers_restored position _ entries _ .empty map rfl restores
  simp only [mapObject]
  rw [read]
  rfl

end

/-! Leaves. -/

section
variable {context : Context} {kind : Kind} {description : Option String}

/-- A leaf that can be read is read. -/
theorem Source.leaf_of_read {α : Type} {source : Source}
    {read : List (String × Value) → Except Json.Mismatch α} {held : α}
    (success : read source.entries = .ok held) : source.leaf kind read = .ok held := by
  rw [Source.leaf, success]
  rfl

/-- A leaf with constraints is read back from its kind, its description and what the block wrote. -/
theorem readConstrained_restored {σ : Type} {block : Block σ} (lawful : block.Lawful)
    (reported : Kind) (content : σ → Element) (constraints : σ)
    (foreign : "type" ∉ block.fields.map (·.name) ∧ "description" ∉ block.fields.map (·.name)) :
    readConstrained ⟨context, taggedEntries kind description (block.entries constraints)⟩ reported
      block content = .ok ⟨description, .element (content constraints)⟩ := by
  rw [readConstrained]
  rw [Source.leaf_of_read (readLeaf_tagged lawful constraints foreign)]
  rfl

/-- A string is read back, its format as well. -/
theorem readString_restored (schema : StringSchema) :
    (Source.leaf ⟨context, taggedEntries kind description schema.entries⟩ .string
      StringSchema.ofEntries).map
        (Described.map fun held => Content.element (.scalar (.string held))) =
      .ok ⟨description, .element (.scalar (.string schema))⟩ := by
  rw [Source.leaf_of_read schema.ofEntries_tagged]
  rfl

/-- A leaf with nothing but a description is read back. -/
theorem readBare_restored (reported : Kind) (content : Content) :
    readBare ⟨context, taggedEntries kind description []⟩ reported content =
      .ok ⟨description, content⟩ := by
  have read : tokenBlock.ofEntries (taggedEntries kind description []) = .ok ⟨description, ()⟩ :=
    readEntries_description rfl
  rw [readBare]
  rw [Source.leaf_of_read read]
  rfl

/-- The texts of references that the context declares are read as these references. -/
theorem unionItems_restored {entries : List (String × Value)} {members : List Reference}
    (declared : context.Declares members) :
    ((members.map fun member => member.target).map Value.string).mapM
      (readUnionMember ⟨context, entries⟩) = .ok members := by
  induction members with
  | nil => rfl
  | cons member rest inductionHypothesis =>
    have first : context.reference member.target = member := declared member List.mem_cons_self
    have later := inductionHypothesis fun other inside =>
      declared other (List.mem_cons_of_mem _ inside)
    simp only [List.map_cons, List.mapM_cons, later, readUnionMember, first]
    rfl

/-- A union is read back, also without members, where it was written as an empty object. -/
theorem readUnion_restored {held : Union} (declared : context.Declares held.members) :
    readUnion ⟨context, taggedEntries kind description held.entries⟩ =
      .ok ⟨description, .element (.union held)⟩ := by
  obtain ⟨members, closed⟩ := held
  have foundMembers : findEntry "refs" (taggedEntries kind description
      (Union.entries ⟨members, closed⟩)) = some (Union.membersValue ⟨members, closed⟩) := by
    rw [findEntry_taggedEntries (by decide) (by decide)]
    rfl
  have foundClosed : findEntry "closed" (taggedEntries kind description
      (Union.entries ⟨members, closed⟩)) = closed.map .bool := by
    rw [findEntry_taggedEntries (by decide) (by decide), Union.entries, findEntry_cons,
      findEntry_entryOf]
    rfl
  have readMembers : readUnionMembers ⟨context, taggedEntries kind description
      (Union.entries ⟨members, closed⟩)⟩ = .ok members := by
    rw [readUnionMembers]
    cases members with
    | nil =>
      rw [present?_of_findEntry foundMembers rfl]
      rfl
    | cons member rest =>
      rw [present?_of_findEntry foundMembers rfl]
      exact unionItems_restored declared
  have described : Source.description ⟨context, taggedEntries kind description
      (Union.entries ⟨members, closed⟩)⟩ = .ok description :=
    description_taggedEntries (Element.findEntry_reserved (.inl rfl) (.union ⟨members, closed⟩))
  have readClosed : Source.flag? ⟨context, taggedEntries kind description
      (Union.entries ⟨members, closed⟩)⟩ "closed" = .ok closed :=
    field?_of_findEntry Codec.flag_lawful foundClosed
  rw [readUnion, readMembers, described, readClosed]
  rfl

/-- A reference is read back if it is the one that the context declares for its text. -/
theorem readReference_restored {held : Reference} (declared : context.adopt held = held) :
    readReference ⟨context, taggedEntries kind description held.entries⟩ =
      .ok ⟨description, .element (.ref held)⟩ := by
  have target : Source.text ⟨context, taggedEntries kind description held.entries⟩ "ref" =
      .ok held.target := by
    apply text_of_findEntry
    rw [findEntry_taggedEntries (by decide) (by decide)]
    rfl
  have described : Source.description ⟨context, taggedEntries kind description held.entries⟩ =
      .ok description :=
    description_taggedEntries (Element.findEntry_reserved (.inl rfl) (.ref held))
  rw [readReference]
  rw [target, described]
  change Except.ok (⟨description, .element (.ref (context.adopt held))⟩ : Node) = _
  rw [declared]

/-- Elements are restored. All but references and unions are blocks of fields. -/
theorem Element.restored {element : Element} (declared : context.Declares element.references) :
    Node.Restored context ⟨description, .element element⟩ := by
  rw [Node.Restored, Node.entries, Node.kind]
  rw [ofEntries_taggedEntries]
  cases element with
  | scalar scalar =>
    cases scalar with
    | boolean held =>
      exact readConstrained_restored BooleanConstraints.block_lawful _ _ held (by decide)
    | integer held =>
      exact readConstrained_restored IntegerConstraints.block_lawful _ _ held (by decide)
    | number held =>
      exact readConstrained_restored NumberConstraints.block_lawful _ _ held (by decide)
    | string schema =>
      exact readString_restored schema
  | media media =>
    cases media with
    | blob held => exact readConstrained_restored BlobConstraints.block_lawful _ _ held (by decide)
    | image held =>
      exact readConstrained_restored ImageConstraints.block_lawful _ _ held (by decide)
    | video held =>
      exact readConstrained_restored VideoConstraints.block_lawful _ _ held (by decide)
    | audio held =>
      exact readConstrained_restored AudioConstraints.block_lawful _ _ held (by decide)
  | bytes bounds =>
    exact readConstrained_restored (LengthBounds.blockTitled_lawful _) _ _ bounds (by decide)
  | cidLink => exact readBare_restored _ _
  | unknown => exact readBare_restored _ _
  | ref held => exact readReference_restored (declared held List.mem_cons_self)
  | union held => exact readUnion_restored declared

end

/-! Arrays and properties. -/

section
variable {context : Context} {description : Option String}

/-- An element is read back among the items of an array. -/
theorem Element.restores {held : Described Element}
    (declared : context.Declares held.content.references) :
    Position.arrayItems.Restores context held where
  accepted := rfl
  restored := Element.restored declared

/-- An array is read back. -/
theorem ArrayOf.restored {array : ArrayOf Element}
    (declared : context.Declares array.items.content.references) :
    Node.Restored context ⟨description, .array array⟩ := by
  have foundItems : findEntry "items" (Node.entries ⟨description, .array array⟩) =
      some (Node.render (Position.arrayItems.node array.items)) := by
    rw [Node.findEntry_entries _ (by decide) (by decide)]
    rfl
  have bounds : LengthBounds.arrayBlock.ofEntries
      ((("type", Value.string Kind.array.name) :: descriptionEntry description ++
        [("items", Element.render array.items)]) ++
          LengthBounds.arrayBlock.entries array.bounds) = .ok array.bounds := by
    refine Block.ofEntries_behind (LengthBounds.blockTitled_lawful _) array.bounds
      fun entry member => ?_
    rcases List.mem_append.mp member with head | tail
    · exact foreign_head (by decide) entry head
    · obtain rfl := List.mem_singleton.mp tail
      change "items" ∉ LengthBounds.arrayBlock.fields.map (·.name)
      decide
  rw [List.append_assoc] at bounds
  rw [Node.Restored, Node.ofEntries_entries]
  change readArray ⟨context, Node.entries ⟨description, .array array⟩⟩ (Descent.whole _) = _
  rw [readArray]
  rw [child_restored foundItems (Element.restores declared), Source.leaf_of_read bounds,
    Node.description_entries]
  rfl

/-- A property is read back among the properties of an object. -/
theorem Property.restores {held : Described Property}
    (declared : context.Declares (Property.references held.content)) :
    Position.objectProperty.Restores context held := by
  obtain ⟨description, content⟩ := held
  cases content with
  | single held => exact ⟨rfl, Element.restored declared⟩
  | array held => exact ⟨rfl, ArrayOf.restored declared⟩

/-- A property is written as its node is. -/
theorem Property.render_eq :
    Property.render = fun held => Node.render (Position.objectProperty.node held) := by
  funext ⟨description, content⟩
  cases content <;> rfl

/-- An object is read back, its properties in their order. -/
theorem ObjectShape.restored {object : ObjectShape}
    (declared : context.Declares object.references) :
    Node.Restored context ⟨description, .object object⟩ := by
  have foundProperties : findEntry "properties" (Node.entries ⟨description, .object object⟩) =
      some (mapObject (fun held => Node.render (Position.objectProperty.node held))
        object.properties) := by
    rw [Node.findEntry_entries _ (by decide) (by decide), ← Property.render_eq]
    rfl
  have foundRequired : findEntry "required" (Node.entries ⟨description, .object object⟩) =
      object.required.map textList := by
    rw [Node.findEntry_entries _ (by decide) (by decide)]
    simp [Content.entries, ObjectShape.entries, findEntry_cons, findEntry_append,
      findEntry_entryOf]
  have foundNullable : findEntry "nullable" (Node.entries ⟨description, .object object⟩) =
      object.nullable.map textList := by
    rw [Node.findEntry_entries _ (by decide) (by decide)]
    simp [Content.entries, ObjectShape.entries, findEntry_cons, findEntry_append,
      findEntry_entryOf]
  have restores : ∀ member ∈ object.properties.entries,
      Position.objectProperty.Restores ((context.child "properties").child member.1) member.2 := by
    intro member inside
    refine Property.restores fun reference mentioned => declared reference ?_
    exact List.mem_flatMap.mpr ⟨member.2, List.mem_map.mpr ⟨member, inside, rfl⟩, mentioned⟩
  rw [Node.Restored, Node.ofEntries_entries]
  change readObject ⟨context, Node.entries ⟨description, .object object⟩⟩ (Descent.whole _) = _
  rw [readObject]
  rw [Node.description_entries, readMap_restored foundProperties restores,
    texts?_of_findEntry foundRequired, texts?_of_findEntry foundNullable]
  rfl

/-! Parameters. -/

/-- A parameter as it is before the array that it may be was checked. -/
def Parameter.unchecked : Parameter → OrArray ParameterElement Element
  | .single held => .single held
  | .array held => .array ⟨held.items.map ParameterElement.toElement, held.bounds⟩

/-- What an array among parameters holds has no references, so the context declares them all. -/
theorem ParameterElement.declared (element : ParameterElement) :
    context.Declares element.toElement.references := by
  cases element <;> exact List.forall_mem_nil _

/-- A parameter is read back among the properties of parameters, its array not yet checked. -/
theorem Parameter.restores (parameter : Described Parameter) :
    Position.paramsProperty.Restores context (parameter.map Parameter.unchecked) := by
  obtain ⟨description, content⟩ := parameter
  cases content with
  | single held =>
    refine ⟨?_, Element.restored held.declared⟩
    cases held <;> rfl
  | array held => exact ⟨rfl, ArrayOf.restored held.items.content.declared⟩

/-- A parameter is written as its node is. -/
theorem Parameter.render_eq (parameter : Described Parameter) :
    Property.render (parameter.map Parameter.toProperty) =
      Node.render (Position.paramsProperty.node (parameter.map Parameter.unchecked)) := by
  obtain ⟨description, content⟩ := parameter
  cases content <;> rfl

/-- The check of a parameter gives back what was there before the check was undone. -/
theorem checkedParameter_restored {source : Source} {name : String}
    (parameter : Described Parameter) :
    checkedParameter source name (parameter.map Parameter.unchecked) = .ok parameter := by
  obtain ⟨description, content⟩ := parameter
  cases content with
  | single held => rfl
  | array held =>
    obtain ⟨⟨inner, element⟩, bounds⟩ := held
    cases element <;> rfl

/-- So it does for all parameters, behind those that were checked already. -/
theorem checkedParameters_restored {source : Source}
    {parameters : List (String × Described Parameter)}
    {sofar finish : OrderedMap String (Described Parameter)}
    (complete : finish.entries = sofar.entries ++ parameters) :
    checkedParameters source
      (parameters.map fun entry => (entry.1, entry.2.map Parameter.unchecked)) sofar =
        .ok finish := by
  induction parameters generalizing sofar with
  | nil =>
    have same : finish = sofar := OrderedMap.ext (by simpa using complete)
    rw [same]
    rfl
  | cons entry rest inductionHypothesis =>
    simp only [List.map_cons, checkedParameters]
    rw [checkedParameter_restored]
    exact inductionHypothesis (OrderedMap.insert_next complete)

/-- Parameters are read back. -/
theorem Parameters.restored {parameters : Parameters} :
    Node.Restored context ⟨description, .params parameters⟩ := by
  have foundProperties : findEntry "properties" (Node.entries ⟨description, .params parameters⟩) =
      some (mapObject (fun held => Node.render (Position.paramsProperty.node held))
        (parameters.properties.mapValues (Described.map Parameter.unchecked))) := by
    rw [Node.findEntry_entries _ (by decide) (by decide)]
    simp [Content.entries, Parameters.entries, findEntry_cons, mapObject, OrderedMap.mapValues,
      Parameter.render_eq, Function.comp_def]
  have foundRequired : findEntry "required" (Node.entries ⟨description, .params parameters⟩) =
      parameters.required.map textList := by
    rw [Node.findEntry_entries _ (by decide) (by decide)]
    simp [Content.entries, Parameters.entries, findEntry_cons, findEntry_entryOf]
  have restores : ∀ member ∈
      (parameters.properties.mapValues (Described.map Parameter.unchecked)).entries,
      Position.paramsProperty.Restores ((context.child "properties").child member.1) member.2 := by
    intro member inside
    obtain ⟨declared, _, rfl⟩ := List.mem_map.mp inside
    exact Parameter.restores declared.2
  have checked : ∀ source : Source, checkedParameters source
      (parameters.properties.mapValues (Described.map Parameter.unchecked)).entries .empty =
        .ok parameters.properties :=
    fun source => checkedParameters_restored rfl
  rw [Node.Restored, Node.ofEntries_entries]
  change readParameters ⟨context, Node.entries ⟨description, .params parameters⟩⟩
    (Descent.whole _) = _
  rw [readParameters]
  rw [readMap_restored foundProperties restores, Node.description_entries,
    texts?_of_findEntry foundRequired]
  change (checkedParameters _ _ _ >>= _) = _
  rw [checked]
  rfl

/-- Parameters are read back where a method has them. -/
theorem Parameters.restores (parameters : Described Parameters) :
    Position.parameters.Restores context parameters := ⟨rfl, Parameters.restored⟩

/-! Records. -/

/-- An object is read back where a record has it. -/
theorem ObjectShape.restores {held : Described ObjectShape}
    (declared : context.Declares held.content.references) :
    Position.recordObject.Restores context held := ⟨rfl, ObjectShape.restored declared⟩

/-- A record's key, if it has one, is read back from its written form. -/
def Record.KeyWritable (record : Record) : Prop :=
  ∀ key, record.key = some key → RecordKey.parse? key.toString = some key

/-- The pattern of a record's key is read back. -/
theorem readRecordKey_restored {entries : List (String × Value)} {record : Record}
    (writable : record.KeyWritable)
    (found : findEntry "key" entries = record.key.map fun key => .string key.toString) :
    readRecordKey ⟨context, entries⟩ = .ok record.key := by
  have text : Source.text? ⟨context, entries⟩ "key" = .ok (record.key.map RecordKey.toString) := by
    apply text?_of_findEntry
    rw [found, Option.map_map]
    rfl
  rw [readRecordKey]
  rw [text]
  cases held : record.key with
  | none => rfl
  | some key =>
    dsimp only [Option.map, bind, Except.bind]
    rw [writable key held]

/-- A record is read back if the pattern of its key is. -/
theorem Record.restored {record : Record} (writable : record.KeyWritable)
    (declared : context.Declares record.object.content.references) :
    Node.Restored context ⟨description, .record record⟩ := by
  have foundKey : findEntry "key" (Node.entries ⟨description, .record record⟩) =
      record.key.map fun key => .string key.toString := by
    rw [Node.findEntry_entries _ (by decide) (by decide)]
    simp [Content.entries, Record.entries, findEntry_append, findEntry_entryOf, findEntry]
  have foundObject : findEntry "record" (Node.entries ⟨description, .record record⟩) =
      some (Node.render (Position.recordObject.node record.object)) := by
    rw [Node.findEntry_entries _ (by decide) (by decide)]
    simp [Content.entries, Record.entries, findEntry_append, findEntry_entryOf, findEntry]
    rfl
  rw [Node.Restored, Node.ofEntries_entries]
  change readRecord ⟨context, Node.entries ⟨description, .record record⟩⟩ (Descent.whole _) = _
  rw [readRecord]
  rw [readRecordKey_restored writable foundKey,
    child_restored foundObject (ObjectShape.restores declared), Node.description_entries]
  rfl

/-! Parts of methods. -/

/-- The schema of an input or output is read back in each of its three forms. -/
theorem BodySchema.restores {held : Described BodySchema}
    (declared : context.Declares held.content.references) :
    Position.bodySchema.Restores context held := by
  obtain ⟨description, content⟩ := held
  cases content with
  | object held => exact ⟨rfl, ObjectShape.restored declared⟩
  | ref held => exact ⟨rfl, Element.restored declared⟩
  | union held => exact ⟨rfl, Element.restored declared⟩

/-- A body's schema is written as its node is. -/
theorem BodySchema.render_eq :
    BodySchema.render = fun held => Node.render (Position.bodySchema.node held) := by
  funext ⟨description, content⟩
  cases content <;> rfl

/-- A union is read back where messages have it. -/
theorem Union.restores {held : Described Union} (declared : context.Declares held.content.members) :
    Position.messageSchema.Restores context held := ⟨rfl, Element.restored declared⟩

/-- The entries of a body, which is written as an object without a kind. -/
def Body.entries (body : Described Body) : List (String × Value) :=
  descriptionEntry body.description ++ ("encoding", .string body.content.encoding) ::
    entryOf "schema" BodySchema.render body.content.schema

/-- An input or output is read back from its entries. -/
theorem readBodyObject_restored {body : Described Body}
    (declared : context.Declares (Body.references (some body))) :
    readBodyObject ⟨context, Body.entries body⟩ (Descent.whole _) = .ok body := by
  have foundDescription : findEntry "description" (Body.entries body) =
      body.description.map .string := by
    simp [Body.entries, findEntry_append, findEntry_descriptionEntry, findEntry_cons,
      findEntry_entryOf]
  have foundEncoding : findEntry "encoding" (Body.entries body) =
      some (.string body.content.encoding) := by
    simp [Body.entries, findEntry_append, findEntry_descriptionEntry, findEntry_cons]
  have foundSchema : findEntry "schema" (Body.entries body) =
      body.content.schema.map fun held => Node.render (Position.bodySchema.node held) := by
    simp [Body.entries, findEntry_append, findEntry_descriptionEntry, findEntry_cons,
      findEntry_entryOf, BodySchema.render_eq]
  have restores : ∀ child, body.content.schema = some child →
      Position.bodySchema.Restores (context.child "schema") child := by
    intro child same
    rw [Body.references, Option.bind_some, same] at declared
    exact BodySchema.restores declared
  rw [readBodyObject, Source.description]
  rw [text?_of_findEntry foundDescription, text_of_findEntry foundEncoding,
    optionalChild_restored foundSchema restores]
  rfl

/-- The entries of a message, which is written as an object without a kind. -/
def Message.entries (message : Described Message) : List (String × Value) :=
  descriptionEntry message.description ++ entryOf "schema" Union.render message.content.schema

/-- Messages are read back from their entries. -/
theorem readMessageObject_restored {message : Described Message}
    (declared : context.Declares (Message.references (some message))) :
    readMessageObject ⟨context, Message.entries message⟩ (Descent.whole _) = .ok message := by
  have foundDescription : findEntry "description" (Message.entries message) =
      message.description.map .string := by
    simp [Message.entries, findEntry_append, findEntry_descriptionEntry, findEntry_entryOf]
  have foundSchema : findEntry "schema" (Message.entries message) =
      message.content.schema.map fun held => Node.render (Position.messageSchema.node held) := by
    simp only [Message.entries, findEntry_append, findEntry_descriptionEntry, findEntry_entryOf]
    rfl
  have restores : ∀ child, message.content.schema = some child →
      Position.messageSchema.Restores (context.child "schema") child := by
    intro child same
    rw [Message.references, Option.bind_some, same] at declared
    exact Union.restores declared
  rw [readMessageObject, Source.description]
  rw [text?_of_findEntry foundDescription, optionalChild_restored foundSchema restores]
  rfl

/-- A part of a method is restored under its name. -/
theorem readPart_restored {α : Type} {entries : List (String × Value)} {name : String}
    {write : α → List (String × Value)} {held : Option α}
    {read : (part : Source) → Descent part.entries → Except ParseError α}
    (found : findEntry name entries = held.map fun part => .object (write part))
    (restored : ∀ part, held = some part →
      read ⟨context.child name, write part⟩ (Descent.whole _) = .ok part) :
    readPart ⟨context, entries⟩ (Descent.whole entries) name read = .ok held := by
  have present := present?_of_written found fun part => rfl
  rw [readPart]
  cases held with
  | none => exact Source.entry?_of_absent present _
  | some part =>
    rw [Source.entry?_of_present present]
    exact congrArg (Except.map some) (restored part rfl)

/-- An input or output is read back where a method has it, or its absence is. -/
theorem readBody_restored {entries : List (String × Value)} {name : String}
    {body : Option (Described Body)} (found : findEntry name entries = body.map Body.render)
    (declared : context.Declares (Body.references body)) :
    readPart ⟨context, entries⟩ (Descent.whole entries) name readBodyObject = .ok body :=
  readPart_restored found fun _ same => readBodyObject_restored (by rwa [← same])

/-- Messages are read back where a subscription has them, or their absence is. -/
theorem readMessage_restored {entries : List (String × Value)} {name : String}
    {message : Option (Described Message)}
    (found : findEntry name entries = message.map Message.render)
    (declared : context.Declares (Message.references message)) :
    readPart ⟨context, entries⟩ (Descent.whole entries) name readMessageObject = .ok message :=
  readPart_restored found fun _ same => readMessageObject_restored (by rwa [← same])

/-- An error is read back. -/
theorem ErrorCase.decode_render (error : ErrorCase) :
    ErrorCase.decode error.render = .ok error := by
  obtain ⟨name, description⟩ := error
  cases description <;> rfl

/-- The errors of a method are read back, or their absence is. -/
theorem readErrors_restored {entries : List (String × Value)} {errors : Option (List ErrorCase)}
    (found : findEntry "errors" entries =
      errors.map fun errors => .array (errors.map ErrorCase.render)) :
    readErrors ⟨context, entries⟩ = .ok errors := by
  have lawful : Codec.Lawful
      ⟨ErrorCase.decodeAll, fun errors => .array (errors.map ErrorCase.render)⟩ :=
    ⟨Codec.mapM_decode ErrorCase.decode_render, fun _ => rfl⟩
  exact field?_of_findEntry lawful found

/-- The parameters of a method are read back, or their absence is. -/
theorem readMethodParameters_restored {entries : List (String × Value)}
    {parameters : Option (Described Parameters)}
    (found : findEntry "parameters" entries = parameters.map Parameters.render) :
    readMethodParameters ⟨context, entries⟩ (Descent.whole entries) = .ok parameters :=
  optionalChild_restored found fun child _ => Parameters.restores child

/-! Whole nodes. -/

/-- What must be known of a content to be read back, beside its references: a record's
key can be written. -/
def Content.Writable : Content → Prop
  | .record held => held.KeyWritable
  | _ => True

/-- A method that reads is read back. -/
theorem Query.restored {query : Query}
    (declared : context.Declares (Content.references (.query query))) :
    Node.Restored context ⟨description, .query query⟩ := by
  obtain ⟨parameters, output, errors⟩ := query.findEntry_entries
  have found {name : String} := @Node.findEntry_entries ⟨description, .query query⟩ name
  rw [Node.Restored, Node.ofEntries_entries]
  change readQuery ⟨context, Node.entries ⟨description, .query query⟩⟩ (Descent.whole _) = _
  rw [readQuery]
  rw [Node.description_entries,
    readMethodParameters_restored ((found (by decide) (by decide)).trans parameters),
    readBody_restored ((found (by decide) (by decide)).trans output) declared,
    readErrors_restored ((found (by decide) (by decide)).trans errors)]
  rfl

/-- A method that writes is read back. -/
theorem Procedure.restored {procedure : Procedure}
    (declared : context.Declares (Content.references (.procedure procedure))) :
    Node.Restored context ⟨description, .procedure procedure⟩ := by
  obtain ⟨parameters, input, output, errors⟩ := procedure.findEntry_entries
  have found {name : String} := @Node.findEntry_entries ⟨description, .procedure procedure⟩ name
  have declaredInput : context.Declares (Body.references procedure.input) :=
    fun reference member => declared reference (List.mem_append_left _ member)
  have declaredOutput : context.Declares (Body.references procedure.output) :=
    fun reference member => declared reference (List.mem_append_right _ member)
  rw [Node.Restored, Node.ofEntries_entries]
  change readProcedure ⟨context, Node.entries ⟨description, .procedure procedure⟩⟩
    (Descent.whole _) = _
  rw [readProcedure]
  rw [Node.description_entries,
    readMethodParameters_restored ((found (by decide) (by decide)).trans parameters),
    readBody_restored ((found (by decide) (by decide)).trans input) declaredInput,
    readBody_restored ((found (by decide) (by decide)).trans output) declaredOutput,
    readErrors_restored ((found (by decide) (by decide)).trans errors)]
  rfl

/-- A method that answers with a stream is read back. -/
theorem Subscription.restored {subscription : Subscription}
    (declared : context.Declares (Content.references (.subscription subscription))) :
    Node.Restored context ⟨description, .subscription subscription⟩ := by
  obtain ⟨parameters, message, errors⟩ := subscription.findEntry_entries
  have found {name : String} :=
    @Node.findEntry_entries ⟨description, .subscription subscription⟩ name
  rw [Node.Restored, Node.ofEntries_entries]
  change readSubscription ⟨context, Node.entries ⟨description, .subscription subscription⟩⟩
    (Descent.whole _) = _
  rw [readSubscription]
  rw [Node.description_entries,
    readMethodParameters_restored ((found (by decide) (by decide)).trans parameters),
    readMessage_restored ((found (by decide) (by decide)).trans message) declared,
    readErrors_restored ((found (by decide) (by decide)).trans errors)]
  rfl

/-- A node is restored in every context that declares its references. -/
theorem Node.restored {node : Node} (writable : node.content.Writable)
    (declared : context.Declares (Node.references node)) : Node.Restored context node := by
  obtain ⟨description, content⟩ := node
  cases content with
  | element held => exact Element.restored declared
  | array held => exact ArrayOf.restored declared
  | token =>
    rw [Node.Restored, Node.ofEntries_entries]
    exact readBare_restored .token .token
  | object held => exact ObjectShape.restored declared
  | params held => exact Parameters.restored
  | record held => exact Record.restored writable declared
  | query held => exact Query.restored declared
  | procedure held => exact Procedure.restored declared
  | subscription held => exact Subscription.restored declared

end

/-! What is known of anything that was read. -/

/-- The pattern of a key that was read is read again from its written form. -/
theorem readRecordKey_yields {source : Source} :
    Yields (fun key => ∀ held, key = some held → RecordKey.parse? held.toString = some held)
      (readRecordKey source) := by
  refine .bind fun text _ => ?_
  cases text with
  | none => exact .ok fun _ impossible => by cases impossible
  | some text =>
    dsimp only
    cases parsed : RecordKey.parse? text with
    | none => exact .error
    | some key =>
      refine .ok fun held same => ?_
      obtain rfl := Option.some.inj same
      rw [RecordKey.toString_of_parse? parsed]
      exact parsed

/-- Whatever kind of node was read, it can be written. -/
theorem readKind_writable {source : Source} {descent : Descent source.entries} (kind : Kind) :
    Yields (fun node => node.content.Writable) (readKind source descent kind) := by
  cases kind with
  | record =>
    refine .bind fun key read => .bind fun object _ => .bind fun description _ => .ok ?_
    exact readRecordKey_yields key read
  | array => exact .bind fun _ _ => .bind fun _ _ => .bind fun _ _ => .ok trivial
  | object =>
    exact .bind fun _ _ => .bind fun _ _ => .bind fun _ _ => .bind fun _ _ => .ok trivial
  | params =>
    exact .bind fun _ _ => .bind fun _ _ => .bind fun _ _ => .bind fun _ _ => .ok trivial
  | ref => exact .bind fun _ _ => .bind fun _ _ => .ok trivial
  | union => exact .bind fun _ _ => .bind fun _ _ => .bind fun _ _ => .ok trivial
  | query =>
    exact .bind fun _ _ => .bind fun _ _ => .bind fun _ _ => .bind fun _ _ => .ok trivial
  | procedure =>
    exact .bind fun _ _ => .bind fun _ _ => .bind fun _ _ => .bind fun _ _ => .bind fun _ _ =>
      .ok trivial
  | subscription =>
    exact .bind fun _ _ => .bind fun _ _ => .bind fun _ _ => .bind fun _ _ => .ok trivial
  | _ => exact .map fun _ _ => trivial

/-- What makes a node restorable in the surroundings of a context: it can be written,
and its references are those of the context. -/
structure Context.Holds (context : Context) (node : Node) : Prop where
  writable : node.content.Writable
  declared : context.Declares (Node.references node)

/-- A node that was read is one that its context holds. -/
theorem Node.ofEntries_yields (context : Context) (entries : List (String × Value)) :
    Yields context.Holds (Node.ofEntries context entries) := by
  intro node read
  refine ⟨?_, fun reference member => ?_⟩
  · rw [Node.ofEntries] at read
    exact Yields.bind (fun kind _ => readKind_writable kind) node read
  · obtain ⟨base, repository⟩ := Node.references_of_ofEntries read reference member
    obtain ⟨target, declaredIn, attachedTo⟩ := reference
    simp [Context.adopt, Context.reference, ← base, ← repository]

section
variable {position : Position} {context : Context}

/-- What every child yields, every value of the map that they make up has. -/
theorem readMembers_yields {around : List (String × Value)} {descent : Descent around}
    {property : Described position.Accepted → Prop}
    (each : ∀ name value smaller,
      Yields property (readChild descent position (context.child name) value smaller))
    (members : List (String × Value))
    (smaller : ∀ member ∈ members, sizeOf member.2 < sizeOf around)
    {sofar : OrderedMap String (Described position.Accepted)}
    (before : ∀ entry ∈ sofar.entries, property entry.2) :
    Yields (fun map => ∀ entry ∈ map.entries, property entry.2)
      (readMembers descent position context members smaller sofar) := by
  induction members generalizing sofar with
  | nil => exact .ok before
  | cons member rest inductionHypothesis =>
    refine .bind fun node read => inductionHypothesis _ fun entry inside => ?_
    rcases mem_putEntry inside with rfl | earlier
    · exact each _ _ _ node read
    · exact before entry earlier

/-- What holds of every member that can be read holds of all members of a map that was read. -/
theorem readMap_yields {source : Source} {descent : Descent source.entries} {name : String}
    {property : Described position.Accepted → Prop}
    (each : ∀ inner value smaller,
      Yields property
        (readChild descent position ((context.child name).child inner) value smaller)) :
    Yields (fun map => ∀ entry ∈ map.entries, property entry.2)
      (readMap source descent name position context) := by
  have empty :
      ∀ entry ∈ (OrderedMap.empty : OrderedMap String (Described position.Accepted)).entries,
      property entry.2 := List.forall_mem_nil _
  rw [readMap]
  cases present : Value.present? name source.entries with
  | none =>
    rw [Source.entry?_of_absent present]
    exact .ok empty
  | some value =>
    rw [Source.entry?_of_present present]
    cases value with
    | object members =>
      have made := readMembers_yields each members
        (fun _ inside => Nat.lt_trans (sizeOf_member inside) (Value.sizeOf_present? present)) empty
      dsimp only
      revert made
      cases readMembers descent position (context.child name) members _ .empty with
      | error fault => exact fun _ => .error
      | ok map => exact fun made => .ok (made map rfl)
    | array items =>
      cases items with
      | nil => exact .ok empty
      | cons item rest => exact .error
    | _ => exact .error

/-- What makes a node restorable as a definition: it is also accepted as one. -/
structure Context.Defines (context : Context) (node : Node) : Prop extends context.Holds node where
  accepted : Position.definition.accept node.content = some node.content

/-- A definition that was read is one that its context defines. -/
theorem readDefinition_yields {around : List (String × Value)} (value : Value)
    (smaller : sizeOf value < sizeOf around) :
    Yields context.Defines
      (readChild (Descent.whole around) .definition context value smaller) := by
  cases value with
  | object entries =>
    unfold readChild
    dsimp only
    split
    · exact .error
    · refine .bind fun node read => ?_
      have holds := Node.ofEntries_yields context entries node read
      cases accepted : Position.definition.accept node.content with
      | none => exact .error
      | some content =>
        have same : content = node.content := by
          revert accepted
          cases node.content <;> simp [Position.accept, eq_comm]
        subst same
        exact .ok ⟨holds, accepted⟩
  | _ => exact .error

end

/-! Documents. -/

namespace Document

/-- The entries of a document as it is written. -/
def entries (document : Document) : List (String × Value) :=
  ("lexicon", .number languageVersion) :: ("id", .string document.id.toString) ::
    (entryOf "revision" Codec.count.encode document.revision ++
      descriptionEntry document.description ++
      [("defs", mapObject Node.render document.definitions)])

/-- The context of a document's definitions. -/
abbrev around (context : Context) (document : Document) : Context :=
  { context with base := some document.id }

/-- What makes a document restorable: its identifier is read back from its written
form, and so are its definitions, none of which are parameters. -/
structure Writable (context : Context) (document : Document) : Prop where
  identified : ∀ source, identify source document.id.toString = .ok document.id
  defines : ∀ entry ∈ document.definitions.entries, (document.around context).Defines entry.2

/-- The head of a written document gives its identifier. -/
theorem readHead_entries {context : Context} {document : Document}
    (writable : document.Writable context) :
    readHead ⟨context, document.entries⟩ = .ok document.id := by
  rw [@readHead_of_findEntry ⟨context, document.entries⟩ document.id.toString rfl rfl]
  exact writable.identified _

/-- The revision of a written document is read back, or its absence is. -/
theorem readRevision_entries {context : Context} (document : Document) :
    readRevision ⟨context, document.entries⟩ = .ok document.revision := by
  have found : findEntry "revision" document.entries =
      document.revision.map Codec.count.encode := by
    simp [entries, findEntry_append, findEntry_entryOf, findEntry_descriptionEntry, findEntry]
  exact field?_of_findEntry Codec.ranged_lawful found

/-- The rest of a written document is read back. -/
theorem readBody_entries {context : Context} {document : Document}
    (writable : document.Writable context) :
    readBody ⟨context, document.entries⟩ document.id = .ok document := by
  have foundDefinitions : findEntry "defs" document.entries = some (mapObject
      (fun held => Node.render (Position.definition.node held)) document.definitions) := by
    simp [entries, findEntry_cons, findEntry_append, findEntry_entryOf, findEntry_descriptionEntry]
    rfl
  have foundDescription : findEntry "description" document.entries =
      document.description.map .string := by
    simp [entries, findEntry_append, findEntry_entryOf, findEntry_descriptionEntry, findEntry]
  have restores : ∀ member ∈ document.definitions.entries, Position.definition.Restores
      (((document.around context).child "defs").child member.1) member.2 := by
    intro member inside
    obtain ⟨⟨canBeWritten, declared⟩, accepted⟩ := writable.defines member inside
    exact ⟨accepted, Node.restored canBeWritten declared⟩
  rw [readBody]
  rw [readRevision_entries]
  change (readMap ⟨context, document.entries⟩ (Descent.whole _) "defs" .definition
    (document.around context) >>= _) = _
  rw [readMap_restored foundDefinitions restores]
  change (Source.text? ⟨context, document.entries⟩ "description" >>= _) = _
  rw [text?_of_findEntry foundDescription]
  rfl

/-- A document that can be written is read back from its entries. -/
theorem ofEntries_entries {context : Context} {document : Document}
    (writable : document.Writable context) :
    Document.ofEntries context document.entries = .ok document := by
  unfold Document.ofEntries
  dsimp only
  rw [readHead_entries writable]
  exact readBody_entries writable

/-- An identifier that was read from a head is read again from its written form. -/
theorem readHead_yields (source : Source) :
    Yields (fun id => ∀ other, identify other id.toString = .ok id) (readHead source) := by
  intro id read other
  obtain ⟨text, -, whole, parsed⟩ := readHead_text source id read
  rw [Identifier.toString_of_parse whole parsed]
  exact identify_of_parse whole parsed

/-- Definitions that were read are those of their context. The paths of the contexts
differ inside, but no reference knows its path. -/
theorem readDefinitions_yields (source : Source) (context : Context) :
    Yields (fun definitions : OrderedMap String Node =>
        ∀ entry ∈ definitions.entries, context.Defines entry.2)
      (readMap source (Descent.whole _) "defs" .definition context) := by
  have each (inner : String) (value : Value) (smaller : sizeOf value < sizeOf source.entries) :
      Yields context.Defines (readChild (Descent.whole source.entries) .definition
        ((context.child "defs").child inner) value smaller) := by
    intro node made
    obtain ⟨⟨writable, declared⟩, accepted⟩ := readDefinition_yields value smaller node made
    exact ⟨⟨writable, declared⟩, accepted⟩
  exact @readMap_yields .definition context source _ "defs" context.Defines each

/-- Whatever was read as a document can be written. -/
theorem ofEntries_yields (context : Context) (part : List (String × Value)) :
    Yields (Document.Writable context) (Document.ofEntries context part) := by
  refine .bind fun id head => .bind fun revision _ => .bind fun definitions read =>
    .bind fun description _ => .ok ?_
  exact ⟨readHead_yields _ id head, readDefinitions_yields _ _ definitions read⟩

end Document

/-- A node that was read by itself is read again from what it is written as. -/
theorem Node.ofValue_render {context : Context} {value : Value} {node : Node}
    (read : Node.ofValue context value = .ok node) :
    Node.ofValue context (Node.render node) = .ok node := by
  cases value with
  | object part =>
    rw [Node.ofValue] at read
    by_cases document : isDocument part = true
    · simp [document] at read
    · rw [if_neg document] at read
      obtain ⟨writable, declared⟩ := Node.ofEntries_yields context part node read
      rw [Node.render_eq, Node.ofValue, Node.isDocument_entries]
      exact Node.restored writable declared
  | _ => cases read

/-- A document that was read is read again from what it is written as. -/
theorem Document.ofValue_render {value : Value} {document : Document}
    (read : Document.ofValue value = .ok document) :
    Document.ofValue document.render = .ok document := by
  have writable : Yields (Document.Writable {}) (Document.ofValue value) :=
    .bind fun part _ => Document.ofEntries_yields {} part
  exact Document.ofEntries_entries (writable document read)

/-- Reading what was written restores it. Whatever value a node or a document was read
from, it is written as a value from which the same node or document is read: equal to
the first, with its properties and definitions in their order, with the document around
each reference, and so written the same way again. -/
theorem reading_rendered_restores :
    (∀ value node, Node.ofValue {} value = .ok node →
      Node.ofValue {} (Node.render node) = .ok node ∧ (node == node) = true) ∧
    (∀ value document, Document.ofValue value = .ok document →
      Document.ofValue document.render = .ok document ∧ (document == document) = true) :=
  ⟨fun _ _ read => ⟨Node.ofValue_render read, BEq.rfl⟩,
    fun _ _ read => ⟨Document.ofValue_render read, BEq.rfl⟩⟩

/-- The entries of a reference to a definition beside it. -/
def replyEntries : List (String × Value) :=
  [("ref", .string "#reply"), ("description", .null), ("type", .string "ref")]

/-- The entries of a document with such a reference. -/
def feedEntries : List (String × Value) :=
  [("id", .string "com.example.feed"), ("defs", .object [("reply", .object replyEntries)]),
    ("lexicon", .number languageVersion)]

/-- The document's identifier. -/
def feedId : Identifier := ⟨["com", "example"], "feed", "main"⟩

/-- The reference, read in the surroundings of a document or of none. -/
def replyNode (base : Option Identifier) : Node := ⟨none, .element (.ref ⟨"#reply", base, none⟩)⟩

/-- The document with its one definition. -/
def feedDocument : Document :=
  ⟨feedId, none, none, OrderedMap.empty.insert "reply" (replyNode (some feedId))⟩

/-- A node with a reference and a document are read, and read again from what they are written
as. -/
theorem reading_rendered_restores_feed :
    (Node.ofValue {} (.object replyEntries) = .ok (replyNode none) ∧
      Node.ofValue {} (Node.render (replyNode none)) = .ok (replyNode none)) ∧
    (Document.ofValue (.object feedEntries) = .ok feedDocument ∧
      Document.ofValue feedDocument.render = .ok feedDocument) := by
  have readNode : Node.ofValue {} (.object replyEntries) = .ok (replyNode none) := by
    change Node.ofEntries {} replyEntries = _
    rw [Node.ofEntries]
    rfl
  have readDocument : Document.ofValue (.object feedEntries) = .ok feedDocument := by
    have head : Document.readHead ⟨{}, feedEntries⟩ = .ok feedId := by rfl
    change Document.ofEntries {} feedEntries = _
    rw [Document.ofEntries, head]
    change Document.readBody ⟨{}, feedEntries⟩ feedId = _
    rw [Document.readBody, readMap, Source.entry?_of_present (by rfl)]
    simp only [readMembers]
    rw [readChild, Node.ofEntries]
    rfl
  exact ⟨⟨readNode, (reading_rendered_restores.1 _ _ readNode).1⟩,
    ⟨readDocument, (reading_rendered_restores.2 _ _ readDocument).1⟩⟩

end LexiconSchema
