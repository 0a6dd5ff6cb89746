import LexiconSchema.Node

/-!
# The references of a node

All references that a node declares, itself included, in the order in which they
are written. A union contributes its members. References are not followed.
-/

namespace LexiconSchema

/-- The texts of references. -/
def targets (references : List Reference) : List String := references.map (·.target)

/-- The references of an element. -/
def Element.references : Element → List Reference
  | .ref held => [held]
  | .union held => held.members
  | _ => []

/-- The references of a property. -/
def Property.references : Property → List Reference
  | .single held => held.references
  | .array held => held.items.content.references

/-- The references of an object, property by property. -/
def ObjectShape.references (object : ObjectShape) : List Reference :=
  object.properties.values.flatMap fun property => Property.references property.content

/-- The references of a body's schema. -/
def BodySchema.references : BodySchema → List Reference
  | .object held => held.references
  | .ref held => [held]
  | .union held => held.members

/-- The references of a method's input or output, if there is one. -/
def Body.references (body : Option (Described Body)) : List Reference :=
  match body.bind fun body => body.content.schema with
  | some schema => schema.content.references
  | none => []

/-- The references of a subscription's messages, if there are any. -/
def Message.references (message : Option (Described Message)) : List Reference :=
  match message.bind fun message => message.content.schema with
  | some union => union.content.members
  | none => []

/-- The references of a content. Parameters are scalars and have none. -/
def Content.references : Content → List Reference
  | .element held => held.references
  | .array held => held.items.content.references
  | .token => []
  | .object held => held.references
  | .params _ => []
  | .record held => held.object.content.references
  | .query held => Body.references held.output
  | .procedure held => Body.references held.input ++ Body.references held.output
  | .subscription held => Message.references held.message

/-- The references of a node. -/
def Node.references (node : Node) : List Reference := node.content.references

end LexiconSchema
