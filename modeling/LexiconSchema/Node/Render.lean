import LexiconSchema.Node

/-!
# Writing nodes as JSON

A node is written as an object with its kind first, its description second and
then what its kind declares, always in the same order. What is absent is not
written, but properties always are. A union without members is written as an
empty object in place of a list.
-/

namespace LexiconSchema

open Json (Block Codec FieldCodec Value)

/-- The entry of a value that may be absent. -/
def entryOf {α : Type} (name : String) (write : α → Value) (value : Option α) :
    List (String × Value) :=
  (value.map fun held => (name, write held)).toList

/-- The entry of a description. -/
def descriptionEntry (description : Option String) : List (String × Value) :=
  entryOf "description" .string description

/-- A list of texts. -/
def textList (texts : List String) : Value := .array (texts.map .string)

/-- The object of a node of a kind: the kind, the description, then the rest. -/
def taggedObject (kind : Kind) (description : Option String) (rest : List (String × Value)) :
    Value :=
  .object (("type", .string kind.name) :: descriptionEntry description ++ rest)

/-- The object of a map, value by value. -/
def mapObject {α : Type} (write : α → Value) (map : OrderedMap String α) : Value :=
  .object (map.entries.map fun entry => (entry.1, write entry.2))

/-- What a string node declares. -/
def StringSchema.entries (schema : StringSchema) : List (String × Value) :=
  entryOf "format" Codec.format.encode schema.format ++
    StringConstraints.block.entries schema.constraints

/-- What a scalar declares. -/
def Scalar.entries : Scalar → List (String × Value)
  | .boolean constraints => BooleanConstraints.block.entries constraints
  | .integer constraints => IntegerConstraints.block.entries constraints
  | .number constraints => NumberConstraints.block.entries constraints
  | .string held => held.entries

/-- What a media node declares. -/
def Media.entries : Media → List (String × Value)
  | .blob constraints => BlobConstraints.block.entries constraints
  | .image constraints => ImageConstraints.block.entries constraints
  | .video constraints => VideoConstraints.block.entries constraints
  | .audio constraints => AudioConstraints.block.entries constraints

/-- What a reference declares. -/
def Reference.entries (reference : Reference) : List (String × Value) :=
  [("ref", .string reference.target)]

/-- The members of a union. -/
def Union.membersValue (union : Union) : Value :=
  if union.members.isEmpty then .object []
  else textList (union.members.map (·.target))

/-- What a union declares. -/
def Union.entries (union : Union) : List (String × Value) :=
  ("refs", union.membersValue) :: entryOf "closed" .bool union.closed

/-- What an element declares. -/
def Element.entries : Element → List (String × Value)
  | .scalar held => held.entries
  | .media held => held.entries
  | .bytes bounds => LengthBounds.bytesBlock.entries bounds
  | .cidLink => []
  | .unknown => []
  | .ref held => held.entries
  | .union held => held.entries

/-- The object of an element. -/
def Element.render (element : Described Element) : Value :=
  taggedObject element.content.kind element.description element.content.entries

/-- What an array declares, given how its items are written. -/
def ArrayOf.entries {ε : Type} (write : Described ε → Value) (array : ArrayOf ε) :
    List (String × Value) :=
  ("items", write array.items) :: LengthBounds.arrayBlock.entries array.bounds

/-- The object of a property. -/
def Property.render (property : Described Property) : Value :=
  match property.content with
  | .single held => Element.render ⟨property.description, held⟩
  | .array held => taggedObject .array property.description (held.entries Element.render)

/-- What an object declares. -/
def ObjectShape.entries (object : ObjectShape) : List (String × Value) :=
  ("properties", mapObject Property.render object.properties) ::
    (entryOf "required" textList object.required ++ entryOf "nullable" textList object.nullable)

/-- The object of an object node. -/
def ObjectShape.render (object : Described ObjectShape) : Value :=
  taggedObject .object object.description object.content.entries

/-- What parameters declare. -/
def Parameters.entries (parameters : Parameters) : List (String × Value) :=
  ("properties",
      mapObject (fun parameter => Property.render (parameter.map Parameter.toProperty))
        parameters.properties) ::
    entryOf "required" textList parameters.required

/-- The object of parameters. -/
def Parameters.render (parameters : Described Parameters) : Value :=
  taggedObject .params parameters.description parameters.content.entries

/-- What a record declares. -/
def Record.entries (record : Record) : List (String × Value) :=
  entryOf "key" (fun key => .string key.toString) record.key ++
    [("record", ObjectShape.render record.object)]

/-- The object of a union node. -/
def Union.render (union : Described Union) : Value :=
  taggedObject .union union.description union.content.entries

/-- The object of a body's schema. -/
def BodySchema.render (schema : Described BodySchema) : Value :=
  match schema.content with
  | .object held => ObjectShape.render ⟨schema.description, held⟩
  | .ref held => Element.render ⟨schema.description, .ref held⟩
  | .union held => Union.render ⟨schema.description, held⟩

/-- The object of a body, which has no kind of its own. -/
def Body.render (body : Described Body) : Value :=
  .object (descriptionEntry body.description ++
    ("encoding", .string body.content.encoding) ::
      entryOf "schema" BodySchema.render body.content.schema)

/-- The object of a message, which has no kind of its own. -/
def Message.render (message : Described Message) : Value :=
  .object (descriptionEntry message.description ++
    entryOf "schema" Union.render message.content.schema)

/-- The object of an error case. -/
def ErrorCase.render (error : ErrorCase) : Value :=
  .object (("name", .string error.name) :: descriptionEntry error.description)

/-- The entry of a method's errors. -/
def errorsEntry (errors : Option (List ErrorCase)) : List (String × Value) :=
  entryOf "errors" (fun errors => .array (errors.map ErrorCase.render)) errors

/-- The entry of a method's parameters. -/
def parametersEntry (parameters : Option (Described Parameters)) : List (String × Value) :=
  entryOf "parameters" Parameters.render parameters

/-- What a node declares beside its kind and description. -/
def Content.entries : Content → List (String × Value)
  | .element held => held.entries
  | .array held => held.entries Element.render
  | .token => []
  | .object held => held.entries
  | .params held => held.entries
  | .record held => held.entries
  | .query held =>
    parametersEntry held.parameters ++ entryOf "output" Body.render held.output ++
      errorsEntry held.errors
  | .procedure held =>
    parametersEntry held.parameters ++ entryOf "input" Body.render held.input ++
      entryOf "output" Body.render held.output ++ errorsEntry held.errors
  | .subscription held =>
    parametersEntry held.parameters ++ entryOf "message" Message.render held.message ++
      errorsEntry held.errors

/-- The object of a node. -/
def Node.render (node : Node) : Value :=
  taggedObject node.kind node.description node.content.entries

end LexiconSchema
