import LexiconSchema.Proofs.Attachment

/-!
# Equality of nodes and documents

Equality is that of declarations: doubles are compared as numbers, properties and
definitions without regard to their order and references by their texts alone. So
it is not identity, but everything equals itself, and everything equals what it
becomes when its references are replaced by others of the same text.
-/

namespace LexiconSchema

instance : ReflBEq Double where
  rfl {x} := by
    change Double.same x x = true
    simp [Double.same]

instance : ReflBEq Reference where
  rfl {reference} := by
    change (reference.target == reference.target) = true
    exact BEq.rfl

deriving instance ReflBEq for Json.Number, Described, NumberConstraints, StringSchema, Scalar,
  Media, Union, Element, ArrayOf, OrArray, ObjectShape, ParameterElement, Parameters, Record,
  BodySchema, Body, Message, Query, Procedure, Subscription, Content, Document

section
variable {α β : Type} [BEq α] [BEq β]

/-- A changed content that equals the old one leaves something equal. -/
theorem Described.map_beq {f : α → α} (same : ∀ content, (f content == content) = true)
    (described : Described α) : (described.map f == described) = true := by
  change (described.description == described.description &&
    f described.content == described.content) = true
  rw [same, BEq.rfl, Bool.and_self]

/-- What may be absent equals its change if the change of what is there does. -/
theorem optionMap_beq {f : α → α} (same : ∀ content, (f content == content) = true)
    (value : Option α) : (value.map f == value) = true := by
  cases value with
  | none => rfl
  | some held => exact same held

end

section
variable {f : Reference → Reference}
  (keepsText : ∀ reference, (f reference).target = reference.target)
include keepsText

/-- References are equal if their texts are. -/
theorem Reference.beq_of_keepsText (reference : Reference) :
    (f reference == reference) = true := by
  change ((f reference).target == reference.target) = true
  simp [keepsText]

/-- A union equals the one with the other references. -/
theorem Union.mapReferences_beq (union : Union) : (union.mapReferences f == union) = true := by
  have members : (union.members.map f == union.members) = true := by
    induction union.members with
    | nil => rfl
    | cons reference rest inductionHypothesis =>
      simp [Reference.beq_of_keepsText keepsText, inductionHypothesis]
  change (union.members.map f == union.members && union.closed == union.closed) = true
  simp [members]

/-- An element equals the one with the other references. -/
theorem Element.mapReferences_beq (element : Element) :
    (element.mapReferences f == element) = true := by
  cases element with
  | ref held => exact Reference.beq_of_keepsText keepsText held
  | union held => exact held.mapReferences_beq keepsText
  | _ => exact BEq.rfl

/-- An array equals the one with the other references. -/
theorem ArrayOf.mapReferences_beq (array : ArrayOf Element) :
    (array.mapReferences f == array) = true := by
  have items := Described.map_beq (Element.mapReferences_beq keepsText) array.items
  change (array.items.map (Element.mapReferences f) == array.items &&
    array.bounds == array.bounds) = true
  simp [items]

/-- A property equals the one with the other references. -/
theorem Property.mapReferences_beq (property : Property) :
    (property.mapReferences f == property) = true := by
  cases property with
  | single held => exact held.mapReferences_beq keepsText
  | array held => exact held.mapReferences_beq keepsText

/-- An object equals the one with the other references. -/
theorem ObjectShape.mapReferences_beq (object : ObjectShape) :
    (object.mapReferences f == object) = true := by
  have properties := OrderedMap.mapValues_beq object.properties
    (Described.map_beq (Property.mapReferences_beq keepsText))
  change ((object.mapReferences f).properties == object.properties &&
    (object.required == object.required && object.nullable == object.nullable)) = true
  simp [ObjectShape.mapReferences, properties]

/-- A record equals the one with the other references. -/
theorem Record.mapReferences_beq (record : Record) : (record.mapReferences f == record) = true := by
  have object := Described.map_beq (ObjectShape.mapReferences_beq keepsText) record.object
  change (record.key == record.key &&
    record.object.map (ObjectShape.mapReferences f) == record.object) = true
  simp [object]

/-- A body's schema equals the one with the other references. -/
theorem BodySchema.mapReferences_beq (schema : BodySchema) :
    (schema.mapReferences f == schema) = true := by
  cases schema with
  | object held => exact held.mapReferences_beq keepsText
  | ref held => exact Reference.beq_of_keepsText keepsText held
  | union held => exact held.mapReferences_beq keepsText

/-- An input or output equals the one with the other references. -/
theorem Body.mapReferences_beq (body : Body) : (body.mapReferences f == body) = true := by
  have schema := optionMap_beq
    (Described.map_beq (BodySchema.mapReferences_beq keepsText)) body.schema
  change (body.encoding == body.encoding &&
    body.schema.map (Described.map (BodySchema.mapReferences f)) == body.schema) = true
  simp [schema]

/-- A subscription's messages equal those with the other references. -/
theorem Message.mapReferences_beq (message : Message) :
    (message.mapReferences f == message) = true :=
  optionMap_beq (Described.map_beq (Union.mapReferences_beq keepsText)) message.schema

/-- A content equals the one with the other references, as long as their texts are the same. -/
theorem Content.mapReferences_beq (content : Content) :
    (content.mapReferences f == content) = true := by
  have body (part : Option (Described Body)) :
      (part.map (Described.map (Body.mapReferences f)) == part) = true :=
    optionMap_beq (Described.map_beq (Body.mapReferences_beq keepsText)) part
  cases content with
  | element held => exact held.mapReferences_beq keepsText
  | array held => exact held.mapReferences_beq keepsText
  | object held => exact held.mapReferences_beq keepsText
  | record held => exact held.mapReferences_beq keepsText
  | query held =>
    change (held.parameters == held.parameters &&
      (held.output.map (Described.map (Body.mapReferences f)) == held.output &&
        held.errors == held.errors)) = true
    simp [body]
  | procedure held =>
    change (held.parameters == held.parameters &&
      (held.input.map (Described.map (Body.mapReferences f)) == held.input &&
        (held.output.map (Described.map (Body.mapReferences f)) == held.output &&
          held.errors == held.errors))) = true
    simp [body]
  | subscription held =>
    have message := optionMap_beq
      (Described.map_beq (Message.mapReferences_beq keepsText)) held.message
    change (held.parameters == held.parameters &&
      (held.message.map (Described.map (Message.mapReferences f)) == held.message &&
        held.errors == held.errors)) = true
    simp [message]
  | token => rfl
  | params held => exact BEq.rfl

/-- A node equals the one with its references replaced by others of the same text. -/
theorem Node.mapReferences_beq (node : Node) : (node.mapReferences f == node) = true :=
  Described.map_beq (Content.mapReferences_beq keepsText) node

/-- So does a document. -/
theorem Document.mapReferences_beq (document : Document) :
    (document.mapReferences f == document) = true := by
  have definitions := OrderedMap.mapValues_beq document.definitions
    (Node.mapReferences_beq keepsText)
  change (document.id == document.id && (document.revision == document.revision &&
    (document.description == document.description &&
      (document.mapReferences f).definitions == document.definitions))) = true
  simp [Document.mapReferences, definitions]

end

end LexiconSchema
