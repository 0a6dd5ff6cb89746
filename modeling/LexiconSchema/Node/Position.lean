import LexiconSchema.Node

/-!
# Positions of nodes

Where a node may stand inside another, and which kinds are allowed there. Each
position has a type of its own for what it accepts; `accept` takes a content to
that type and `allows` is the same rule as a table of kinds.

Main statement: a content is accepted in a position exactly when its kind is
allowed there.
-/

namespace LexiconSchema

/-- The positions of nodes inside nodes and documents. -/
inductive Position
  | arrayItems | objectProperty | paramsProperty | recordObject | parameters | bodySchema
  | messageSchema | unionMember | definition
deriving DecidableEq, Repr

namespace Position

/-- How a position is called in messages. -/
def message : Position → String
  | .arrayItems => "array items"
  | .objectProperty => "object properties"
  | .paramsProperty => "params properties"
  | .recordObject => "a record body"
  | .parameters => "xrpc parameters"
  | .bodySchema => "an xrpc body schema"
  | .messageSchema => "a subscription message schema"
  | .unionMember => "union refs"
  | .definition => "document defs"

/-- The kinds allowed in an array. -/
def isElementKind (kind : Kind) : Bool :=
  kind.isScalar || kind.isMedia || [.bytes, .cidLink, .ref, .union, .unknown].contains kind

/-- The composition table. -/
def allows : Position → Kind → Bool
  | .arrayItems, kind => isElementKind kind
  | .objectProperty, kind => kind == .array || isElementKind kind
  | .paramsProperty, kind => kind.isScalar || kind == .unknown || kind == .array
  | .recordObject, kind => kind == .object
  | .parameters, kind => kind == .params
  | .bodySchema, kind => kind == .object || kind == .ref || kind == .union
  | .messageSchema, kind => kind == .union
  | .unionMember, kind => kind == .ref
  | .definition, kind => kind != .params

/-- The type of what a position accepts. What the arrays among parameters hold is
checked later, all parameters having been read. -/
@[reducible] def Accepted : Position → Type
  | .arrayItems => Element
  | .objectProperty => Property
  | .paramsProperty => OrArray ParameterElement Element
  | .recordObject => ObjectShape
  | .parameters => Parameters
  | .bodySchema => BodySchema
  | .messageSchema => Union
  | .unionMember => Reference
  | .definition => Content

/-- The content as what a position accepts, if it is accepted. -/
def accept : (position : Position) → Content → Option position.Accepted
  | .arrayItems, .element held => some held
  | .objectProperty, .element held => some (.single held)
  | .objectProperty, .array held => some (.array held)
  | .paramsProperty, .element (.scalar held) => some (.single (.scalar held))
  | .paramsProperty, .element .unknown => some (.single .unknown)
  | .paramsProperty, .array held => some (.array held)
  | .recordObject, .object held => some held
  | .parameters, .params held => some held
  | .bodySchema, .object held => some (.object held)
  | .bodySchema, .element (.ref held) => some (.ref held)
  | .bodySchema, .element (.union held) => some (.union held)
  | .messageSchema, .element (.union held) => some held
  | .unionMember, .element (.ref held) => some held
  | .definition, .params _ => none
  | .definition, content => some content
  | _, _ => none

/-- A content is accepted exactly when its kind is allowed. -/
theorem isSome_accept (position : Position) (content : Content) :
    (position.accept content).isSome = position.allows content.kind := by
  cases position <;> cases content with
  | element element =>
    cases element with
    | scalar scalar => cases scalar <;> rfl
    | media media => cases media <;> rfl
    | _ => rfl
  | _ => rfl

end Position

/-- An element as a parameter's, if it can be one. -/
def Element.parameterElement? : Element → Option ParameterElement
  | .scalar held => some (.scalar held)
  | .unknown => some .unknown
  | _ => none

end LexiconSchema
