import LexiconSchema.Constraints
import LexiconSchema.Kind
import LexiconSchema.RecordKey
import LexiconSchema.Reference

/-!
# Schema nodes

A schema is a tree of nodes, and what may stand where is fixed: an array holds
elements but no arrays, an object's properties are elements or arrays, a method's
parameters are scalars or arrays of scalars, and so on down to the documents,
whose definitions are anything but parameters. The types of this module say so,
hence no node is nested more deeply than this and none is out of place.

Every node has an optional description beside what its kind declares. Nodes are
equal when they declare the same; properties are compared without regard to their
order and references by their texts.
-/

namespace LexiconSchema

/-- Something with an optional description. -/
structure Described (α : Type) where
  description : Option String
  content : α
deriving BEq

/-- The same description of another content. -/
def Described.map {α β : Type} (f : α → β) (described : Described α) : Described β :=
  ⟨described.description, f described.content⟩

/-- What a string node declares. -/
structure StringSchema where
  format : Option StringFormat := none
  constraints : StringConstraints := {}
deriving BEq

/-- The scalar nodes. -/
inductive Scalar
  | boolean (constraints : BooleanConstraints)
  | integer (constraints : IntegerConstraints)
  | number (constraints : NumberConstraints)
  | string (schema : StringSchema)
deriving BEq

/-- The media nodes. -/
inductive Media
  | blob (constraints : BlobConstraints)
  | image (constraints : ImageConstraints)
  | video (constraints : VideoConstraints)
  | audio (constraints : AudioConstraints)
deriving BEq

/-- A union of references. Unless it is closed, values outside it are allowed. -/
structure Union where
  members : List Reference
  closed : Option Bool
deriving BEq

/-- Whether values outside the union are refused. -/
def Union.isClosed (union : Union) : Bool := union.closed.getD false

/-- What an array may hold. -/
inductive Element
  | scalar (scalar : Scalar)
  | media (media : Media)
  | bytes (bounds : LengthBounds)
  | cidLink
  | unknown
  | ref (reference : Reference)
  | union (union : Union)
deriving BEq

/-- An array of items of a certain sort. -/
structure ArrayOf (ε : Type) where
  items : Described ε
  bounds : LengthBounds
deriving BEq

/-- Something single or an array. -/
inductive OrArray (σ ε : Type)
  | single (content : σ)
  | array (array : ArrayOf ε)
deriving BEq

/-- What an object's property may be. -/
abbrev Property := OrArray Element Element

/-- An object: its properties in order, and the names of those that are required
and of those that may be null. -/
structure ObjectShape where
  properties : OrderedMap String (Described Property)
  required : Option (List String)
  nullable : Option (List String)
deriving BEq

/-- Whether a property is required. -/
def ObjectShape.isRequired (object : ObjectShape) (name : String) : Bool :=
  object.required.any fun names => names.contains name

/-- What a parameter may be, alone or in an array. -/
inductive ParameterElement
  | scalar (scalar : Scalar)
  | unknown
deriving BEq

/-- What a method's parameter may be. -/
abbrev Parameter := OrArray ParameterElement ParameterElement

/-- A method's parameters in order, and the names of those that are required. -/
structure Parameters where
  properties : OrderedMap String (Described Parameter)
  required : Option (List String)
deriving BEq

/-- A record: the pattern of its key and the object that it is. -/
structure Record where
  key : Option RecordKey
  object : Described ObjectShape
deriving BEq

/-- What the schema of a method's input or output may be. -/
inductive BodySchema
  | object (object : ObjectShape)
  | ref (reference : Reference)
  | union (union : Union)
deriving BEq

/-- A method's input or output. -/
structure Body where
  encoding : String
  schema : Option (Described BodySchema)
deriving BEq

/-- A subscription's messages. -/
structure Message where
  schema : Option (Described Union)
deriving BEq

/-- An error that a method may answer with. -/
structure ErrorCase where
  name : String
  description : Option String
deriving DecidableEq, Repr

/-- A method that reads. -/
structure Query where
  parameters : Option (Described Parameters)
  output : Option (Described Body)
  errors : Option (List ErrorCase)
deriving BEq

/-- A method that writes. -/
structure Procedure where
  parameters : Option (Described Parameters)
  input : Option (Described Body)
  output : Option (Described Body)
  errors : Option (List ErrorCase)
deriving BEq

/-- A method that answers with a stream of messages. -/
structure Subscription where
  parameters : Option (Described Parameters)
  message : Option (Described Message)
  errors : Option (List ErrorCase)
deriving BEq

/-- What a node declares beside its description. -/
inductive Content
  | element (element : Element)
  | array (array : ArrayOf Element)
  | token
  | object (object : ObjectShape)
  | params (parameters : Parameters)
  | record (record : Record)
  | query (query : Query)
  | procedure (procedure : Procedure)
  | subscription (subscription : Subscription)
deriving BEq

/-- A schema node. -/
abbrev Node := Described Content

/-- The kind of a scalar. -/
def Scalar.kind : Scalar → Kind
  | .boolean _ => .boolean
  | .integer _ => .integer
  | .number _ => .number
  | .string _ => .string

/-- The kind of a media node. -/
def Media.kind : Media → Kind
  | .blob _ => .blob
  | .image _ => .image
  | .video _ => .video
  | .audio _ => .audio

/-- The kind of an element. -/
def Element.kind : Element → Kind
  | .scalar held => held.kind
  | .media held => held.kind
  | .bytes _ => .bytes
  | .cidLink => .cidLink
  | .unknown => .unknown
  | .ref _ => .ref
  | .union _ => .union

/-- The kind of a content. -/
def Content.kind : Content → Kind
  | .element held => held.kind
  | .array _ => .array
  | .token => .token
  | .object _ => .object
  | .params _ => .params
  | .record _ => .record
  | .query _ => .query
  | .procedure _ => .procedure
  | .subscription _ => .subscription

/-- The kind of a node. -/
def Node.kind (node : Node) : Kind := node.content.kind

/-- A parameter's element as an element. -/
def ParameterElement.toElement : ParameterElement → Element
  | .scalar held => .scalar held
  | .unknown => .unknown

/-- A property as a content. -/
def Property.toContent : Property → Content
  | .single held => .element held
  | .array held => .array held

/-- A parameter as a property. -/
def Parameter.toProperty : Parameter → Property
  | .single held => .single held.toElement
  | .array held => .array ⟨held.items.map ParameterElement.toElement, held.bounds⟩

/-- A body's schema as a content. -/
def BodySchema.toContent : BodySchema → Content
  | .object shape => .object shape
  | .ref reference => .element (.ref reference)
  | .union held => .element (.union held)

namespace Content

/-- The reference, if the node is one. -/
def reference? : Content → Option Reference
  | .element (.ref reference) => some reference
  | _ => none

/-- The union, if the node is one. -/
def union? : Content → Option Union
  | .element (.union held) => some held
  | _ => none

/-- What a string node declares, if the node is one. -/
def string? : Content → Option StringSchema
  | .element (.scalar (.string schema)) => some schema
  | _ => none

/-- The object, if the node is one. -/
def object? : Content → Option ObjectShape
  | .object shape => some shape
  | _ => none

/-- The record, if the node is one. -/
def record? : Content → Option Record
  | .record held => some held
  | _ => none

/-- The object whose properties the node declares: the node itself or, for a
record, its object. -/
def properties? : Content → Option (OrderedMap String (Described Property))
  | .object shape => some shape.properties
  | .record held => some held.object.content.properties
  | _ => none

end Content

/-- The node of a property of an object or a record. -/
def Node.property? (node : Node) (name : String) : Option Node := do
  let properties ← node.content.properties?
  let property ← properties.get? name
  pure (property.map Property.toContent)

end LexiconSchema
