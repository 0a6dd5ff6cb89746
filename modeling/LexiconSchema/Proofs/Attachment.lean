import LexiconSchema.Document
import LexiconSchema.Proofs.OrderedMaps

/-!
# Nodes with their references replaced

A node's references know the document around them and the repository that they
are attached to, and nothing else in a node does. Replacing all references by
others of the same text therefore moves a node to other surroundings. The result
has the same kind, is written the same way and equals the first, and its
references are the replaced ones in the same order.
-/

namespace LexiconSchema

/-- The union with its members replaced. -/
def Union.mapReferences (f : Reference → Reference) (union : Union) : Union :=
  ⟨union.members.map f, union.closed⟩

/-- The element with its references replaced. -/
def Element.mapReferences (f : Reference → Reference) : Element → Element
  | .ref held => .ref (f held)
  | .union held => .union (held.mapReferences f)
  | other => other

/-- The array with the references of its items replaced. -/
def ArrayOf.mapReferences (f : Reference → Reference) (array : ArrayOf Element) :
    ArrayOf Element :=
  ⟨array.items.map (Element.mapReferences f), array.bounds⟩

/-- The property with its references replaced. -/
def Property.mapReferences (f : Reference → Reference) : Property → Property
  | .single held => .single (held.mapReferences f)
  | .array held => .array (held.mapReferences f)

/-- The object with the references of its properties replaced. -/
def ObjectShape.mapReferences (f : Reference → Reference) (object : ObjectShape) : ObjectShape :=
  { object with
    properties := object.properties.mapValues (Described.map (Property.mapReferences f)) }

/-- The record with the references of its object replaced. -/
def Record.mapReferences (f : Reference → Reference) (record : Record) : Record :=
  { record with object := record.object.map (ObjectShape.mapReferences f) }

/-- The body's schema with its references replaced. -/
def BodySchema.mapReferences (f : Reference → Reference) : BodySchema → BodySchema
  | .object held => .object (held.mapReferences f)
  | .ref held => .ref (f held)
  | .union held => .union (held.mapReferences f)

/-- The body with the references of its schema replaced. -/
def Body.mapReferences (f : Reference → Reference) (body : Body) : Body :=
  { body with schema := body.schema.map (Described.map (BodySchema.mapReferences f)) }

/-- The messages with the references of their schema replaced. -/
def Message.mapReferences (f : Reference → Reference) (message : Message) : Message :=
  ⟨message.schema.map (Described.map (Union.mapReferences f))⟩

/-- The content with all its references replaced. -/
def Content.mapReferences (f : Reference → Reference) : Content → Content
  | .element held => .element (held.mapReferences f)
  | .array held => .array (held.mapReferences f)
  | .token => .token
  | .object held => .object (held.mapReferences f)
  | .params held => .params held
  | .record held => .record (held.mapReferences f)
  | .query held =>
    .query { held with output := held.output.map (Described.map (Body.mapReferences f)) }
  | .procedure held =>
    .procedure { held with
      input := held.input.map (Described.map (Body.mapReferences f))
      output := held.output.map (Described.map (Body.mapReferences f)) }
  | .subscription held =>
    .subscription { held with
      message := held.message.map (Described.map (Message.mapReferences f)) }

/-- The node with all its references replaced. -/
def Node.mapReferences (f : Reference → Reference) (node : Node) : Node :=
  Described.map (Content.mapReferences f) node

/-- The document with all references of its definitions replaced. -/
def Document.mapReferences (f : Reference → Reference) (document : Document) : Document :=
  { document with definitions := document.definitions.mapValues (Node.mapReferences f) }

/-- Replacing a content keeps the description. -/
@[simp] theorem Described.map_description {α β : Type} (f : α → β) (described : Described α) :
    (described.map f).description = described.description := rfl

/-- The content is the one that was put in its place. -/
@[simp] theorem Described.map_content {α β : Type} (f : α → β) (described : Described α) :
    (described.map f).content = f described.content := rfl

section
variable (f : Reference → Reference)

/-! Kinds stay. -/

/-- An element is of its kind whatever its references are. -/
@[simp] theorem Element.kind_mapReferences (element : Element) :
    (element.mapReferences f).kind = element.kind := by
  cases element <;> rfl

/-- A content is of its kind whatever its references are. -/
@[simp] theorem Content.kind_mapReferences (content : Content) :
    (content.mapReferences f).kind = content.kind := by
  cases content with
  | element held => exact held.kind_mapReferences f
  | _ => rfl

/-- A node is of its kind whatever its references are. -/
@[simp] theorem Node.kind_mapReferences (node : Node) :
    Node.kind (node.mapReferences f) = Node.kind node :=
  Content.kind_mapReferences f node.content

/-! The references of the result are the replaced ones. -/

/-- An element has one reference if it is one, and a union's members if it is a union; they are
replaced one by one. -/
theorem Element.references_mapReferences (element : Element) :
    (element.mapReferences f).references = element.references.map f := by
  cases element <;> rfl

/-- The references of a property are replaced, those in an array's items included. -/
theorem Property.references_mapReferences (property : Property) :
    (property.mapReferences f).references = property.references.map f := by
  cases property with
  | single held => exact held.references_mapReferences f
  | array held => exact held.items.content.references_mapReferences f

/-- The references of an object are replaced property by property, and so keep their order. -/
theorem ObjectShape.references_mapReferences (object : ObjectShape) :
    (object.mapReferences f).references = object.references.map f := by
  simp [ObjectShape.references, ObjectShape.mapReferences, List.flatMap_map, List.map_flatMap,
    Property.references_mapReferences]

/-- The references of a body's schema are replaced in each of its three forms. -/
theorem BodySchema.references_mapReferences (schema : BodySchema) :
    (schema.mapReferences f).references = schema.references.map f := by
  cases schema with
  | object held => exact held.references_mapReferences f
  | ref held => rfl
  | union held => rfl

/-- The references of an input or output are replaced, and where there is no schema there are
none. -/
theorem Body.references_mapReferences (body : Option (Described Body)) :
    Body.references (body.map (Described.map (Body.mapReferences f))) =
      (Body.references body).map f := by
  rcases body with _ | ⟨description, encoding, schema⟩
  · rfl
  · cases schema with
    | none => rfl
    | some held => exact held.content.references_mapReferences f

/-- The references of a subscription's messages are the members of their union, replaced one by
one. -/
theorem Message.references_mapReferences (message : Option (Described Message)) :
    Message.references (message.map (Described.map (Message.mapReferences f))) =
      (Message.references message).map f := by
  rcases message with _ | ⟨description, ⟨schema⟩⟩
  · rfl
  · cases schema <;> rfl

/-- The references of a content are replaced where they stand: none is lost, none is added, and the
order is kept. -/
theorem Content.references_mapReferences (content : Content) :
    (content.mapReferences f).references = content.references.map f := by
  cases content with
  | element held => exact held.references_mapReferences f
  | array held => exact held.items.content.references_mapReferences f
  | token => rfl
  | object held => exact held.references_mapReferences f
  | params held => rfl
  | record held => exact held.object.content.references_mapReferences f
  | query held => exact Body.references_mapReferences f held.output
  | procedure held =>
    simp [Content.mapReferences, Content.references, Body.references_mapReferences]
  | subscription held => exact Message.references_mapReferences f held.message

/-- The references of a node are replaced where they stand. -/
theorem Node.references_mapReferences (node : Node) :
    Node.references (node.mapReferences f) = (Node.references node).map f :=
  Content.references_mapReferences f node.content

/-- The references of a document are replaced definition by definition. -/
theorem Document.references_mapReferences (document : Document) :
    (document.mapReferences f).references = document.references.map f := by
  simp [Document.references, Document.mapReferences, List.flatMap_map, List.map_flatMap,
    Node.references_mapReferences]

end

section
variable {f : Reference → Reference}
  (keepsText : ∀ reference, (f reference).target = reference.target)
include keepsText

/-! The result is written the same way. -/

/-- A union is written with the texts of its members, which are kept. -/
theorem Union.entries_mapReferences (union : Union) :
    (union.mapReferences f).entries = union.entries := by
  have texts : (union.members.map f).map (·.target) = union.members.map (·.target) := by
    simp [List.map_map, Function.comp_def, keepsText]
  simp only [Union.entries, Union.membersValue, Union.mapReferences, texts, List.isEmpty_map]

/-- An element is written the same: only references and unions have references, and of these the
texts are written. -/
theorem Element.entries_mapReferences (element : Element) :
    (element.mapReferences f).entries = element.entries := by
  cases element with
  | ref held => simp [Element.mapReferences, Element.entries, Reference.entries, keepsText]
  | union held => exact held.entries_mapReferences keepsText
  | _ => rfl

/-- An element with its description is written the same. -/
theorem Element.render_mapReferences (element : Described Element) :
    Element.render (element.map (Element.mapReferences f)) = Element.render element := by
  simp [Element.render, Element.entries_mapReferences keepsText]

/-- An array is written the same, since its items are. -/
theorem ArrayOf.entries_mapReferences (array : ArrayOf Element) :
    (array.mapReferences f).entries Element.render = array.entries Element.render := by
  simp [ArrayOf.entries, ArrayOf.mapReferences, Element.render_mapReferences keepsText]

/-- A property is written the same, be it an array or not. -/
theorem Property.render_mapReferences (property : Described Property) :
    Property.render (property.map (Property.mapReferences f)) = Property.render property := by
  obtain ⟨description, content⟩ := property
  cases content with
  | single held => exact Element.render_mapReferences keepsText ⟨description, held⟩
  | array held =>
    simp only [Property.render, Described.map, Property.mapReferences]
    rw [ArrayOf.entries_mapReferences keepsText]

/-- An object is written the same, since its properties are, in their order. -/
theorem ObjectShape.entries_mapReferences (object : ObjectShape) :
    (object.mapReferences f).entries = object.entries := by
  simp [ObjectShape.entries, ObjectShape.mapReferences, mapObject, OrderedMap.mapValues,
    Function.comp_def, Property.render_mapReferences keepsText]

/-- An object with its description is written the same. -/
theorem ObjectShape.render_mapReferences (object : Described ObjectShape) :
    ObjectShape.render (object.map (ObjectShape.mapReferences f)) = ObjectShape.render object := by
  simp [ObjectShape.render, ObjectShape.entries_mapReferences keepsText]

/-- A union with its description is written the same. -/
theorem Union.render_mapReferences (union : Described Union) :
    Union.render (union.map (Union.mapReferences f)) = Union.render union := by
  simp [Union.render, Union.entries_mapReferences keepsText]

/-- A body's schema is written the same in each of its three forms. -/
theorem BodySchema.render_mapReferences (schema : Described BodySchema) :
    BodySchema.render (schema.map (BodySchema.mapReferences f)) = BodySchema.render schema := by
  obtain ⟨description, content⟩ := schema
  cases content with
  | object held => exact ObjectShape.render_mapReferences keepsText ⟨description, held⟩
  | ref held => exact Element.render_mapReferences keepsText ⟨description, .ref held⟩
  | union held => exact Union.render_mapReferences keepsText ⟨description, held⟩

/-- An input or output is written the same. -/
theorem Body.render_mapReferences (body : Described Body) :
    Body.render (body.map (Body.mapReferences f)) = Body.render body := by
  simp [Body.render, Body.mapReferences, entryOf, Option.map_map, Function.comp_def,
    BodySchema.render_mapReferences keepsText]

/-- A subscription's messages are written the same. -/
theorem Message.render_mapReferences (message : Described Message) :
    Message.render (message.map (Message.mapReferences f)) = Message.render message := by
  simp [Message.render, Message.mapReferences, entryOf, Option.map_map, Function.comp_def,
    Union.render_mapReferences keepsText]

/-- A content is written the same when its references are replaced by others with the same texts. -/
theorem Content.entries_mapReferences (content : Content) :
    (content.mapReferences f).entries = content.entries := by
  cases content with
  | element held => exact held.entries_mapReferences keepsText
  | array held => exact held.entries_mapReferences keepsText
  | object held => exact held.entries_mapReferences keepsText
  | record held =>
    simp [Content.mapReferences, Content.entries, Record.entries, Record.mapReferences,
      ObjectShape.render_mapReferences keepsText]
  | query held =>
    simp [Content.mapReferences, Content.entries, entryOf, Option.map_map, Function.comp_def,
      Body.render_mapReferences keepsText]
  | procedure held =>
    simp [Content.mapReferences, Content.entries, entryOf, Option.map_map, Function.comp_def,
      Body.render_mapReferences keepsText]
  | subscription held =>
    simp [Content.mapReferences, Content.entries, entryOf, Option.map_map, Function.comp_def,
      Message.render_mapReferences keepsText]
  | token => rfl
  | params held => rfl

/-- A node is written the same when its references are replaced by others with the same texts. -/
theorem Node.render_mapReferences (node : Node) :
    Node.render (node.mapReferences f) = Node.render node := by
  simp only [Node.render, Node.kind_mapReferences]
  simp [Node.mapReferences, Content.entries_mapReferences keepsText]

/-- A document is written the same when its references are replaced by others with the same
texts. -/
theorem Document.render_mapReferences (document : Document) :
    (document.mapReferences f).render = document.render := by
  simp [Document.render, Document.mapReferences, mapObject, OrderedMap.mapValues,
    Function.comp_def, Node.render_mapReferences keepsText]

end

/-- What may be absent is changed in two steps or at once. -/
theorem Described.optionMap_optionMap {α β γ : Type} {f : α → β} {g : β → γ} {both : α → γ}
    (steps : ∀ content, g (f content) = both content) (part : Option (Described α)) :
    (part.map (Described.map f)).map (Described.map g) = part.map (Described.map both) := by
  cases part with
  | none => rfl
  | some held => simp [Described.map, steps]

section
variable (f g : Reference → Reference)

/-! References may be replaced in two steps or at once. -/

/-- Replacing the members of a union twice is replacing them once. -/
theorem Union.mapReferences_mapReferences (union : Union) :
    (union.mapReferences f).mapReferences g = union.mapReferences (g ∘ f) := by
  simp [Union.mapReferences]

/-- Replacing the references of an element twice is replacing them once. -/
theorem Element.mapReferences_mapReferences (element : Element) :
    (element.mapReferences f).mapReferences g = element.mapReferences (g ∘ f) := by
  cases element with
  | union held => exact congrArg Element.union (held.mapReferences_mapReferences f g)
  | _ => rfl

/-- Replacing the references of an array's items twice is replacing them once. -/
theorem ArrayOf.mapReferences_mapReferences (array : ArrayOf Element) :
    (array.mapReferences f).mapReferences g = array.mapReferences (g ∘ f) := by
  simp [ArrayOf.mapReferences, Described.map, Element.mapReferences_mapReferences]

/-- Replacing the references of a property twice is replacing them once. -/
theorem Property.mapReferences_mapReferences (property : Property) :
    (property.mapReferences f).mapReferences g = property.mapReferences (g ∘ f) := by
  cases property with
  | single held => exact congrArg OrArray.single (held.mapReferences_mapReferences f g)
  | array held => exact congrArg OrArray.array (held.mapReferences_mapReferences f g)

/-- Replacing the references of an object twice is replacing them once. -/
theorem ObjectShape.mapReferences_mapReferences (object : ObjectShape) :
    (object.mapReferences f).mapReferences g = object.mapReferences (g ∘ f) := by
  simp [ObjectShape.mapReferences, OrderedMap.mapValues, Function.comp_def, Described.map,
    Property.mapReferences_mapReferences]

/-- Replacing the references of a record twice is replacing them once. -/
theorem Record.mapReferences_mapReferences (record : Record) :
    (record.mapReferences f).mapReferences g = record.mapReferences (g ∘ f) := by
  simp [Record.mapReferences, Described.map, ObjectShape.mapReferences_mapReferences]

/-- Replacing the references of a body's schema twice is replacing them once. -/
theorem BodySchema.mapReferences_mapReferences (schema : BodySchema) :
    (schema.mapReferences f).mapReferences g = schema.mapReferences (g ∘ f) := by
  cases schema with
  | object held => exact congrArg BodySchema.object (held.mapReferences_mapReferences f g)
  | ref held => rfl
  | union held => exact congrArg BodySchema.union (held.mapReferences_mapReferences f g)

/-- Replacing the references of an input or output twice is replacing them once. -/
theorem Body.mapReferences_mapReferences (body : Body) :
    (body.mapReferences f).mapReferences g = body.mapReferences (g ∘ f) := by
  exact congrArg (Body.mk body.encoding)
    (Described.optionMap_optionMap (BodySchema.mapReferences_mapReferences f g) body.schema)

/-- Replacing the references of a subscription's messages twice is replacing them once. -/
theorem Message.mapReferences_mapReferences (message : Message) :
    (message.mapReferences f).mapReferences g = message.mapReferences (g ∘ f) := by
  exact congrArg Message.mk
    (Described.optionMap_optionMap (Union.mapReferences_mapReferences f g) message.schema)

/-- Replacing the references of a content twice is replacing them once, by what comes of both. -/
theorem Content.mapReferences_mapReferences (content : Content) :
    (content.mapReferences f).mapReferences g = content.mapReferences (g ∘ f) := by
  have body := Described.optionMap_optionMap (Body.mapReferences_mapReferences f g)
  have message := Described.optionMap_optionMap (Message.mapReferences_mapReferences f g)
  cases content with
  | element held => exact congrArg Content.element (held.mapReferences_mapReferences f g)
  | array held => exact congrArg Content.array (held.mapReferences_mapReferences f g)
  | object held => exact congrArg Content.object (held.mapReferences_mapReferences f g)
  | record held => exact congrArg Content.record (held.mapReferences_mapReferences f g)
  | query held => simp only [Content.mapReferences, body]
  | procedure held => simp only [Content.mapReferences, body]
  | subscription held => simp only [Content.mapReferences, message]
  | token => rfl
  | params held => rfl

/-- Replacing the references of a node twice is replacing them once, by what comes of both. -/
theorem Node.mapReferences_mapReferences (node : Node) :
    (node.mapReferences f).mapReferences g = node.mapReferences (g ∘ f) := by
  simp [Node.mapReferences, Described.map, Content.mapReferences_mapReferences]

/-- Replacing the references of a document twice is replacing them once, by what comes of both. -/
theorem Document.mapReferences_mapReferences (document : Document) :
    (document.mapReferences f).mapReferences g = document.mapReferences (g ∘ f) := by
  simp [Document.mapReferences, OrderedMap.mapValues, Function.comp_def,
    Node.mapReferences_mapReferences]

end

end LexiconSchema
