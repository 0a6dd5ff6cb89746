import LexiconSchema.Node.Leaf
import LexiconSchema.ParseError

/-!
# Reading nodes

A node is read from the entries of its object by going down the value once. The
kind selects what is read and in which order; a node inside is read first as a
node of any kind and then has to be one that its position allows. So the first
error met on the way is the one reported.

A context goes along: the path from the top, the document around, and the
repository, if any, that references are attached to. It decides nothing else.
The recursion ends since a node inside is smaller than the entries around it.
-/

namespace LexiconSchema

open Json (Block Codec FieldCodec Mismatch Value)

/-- What is known of the surroundings of a node. -/
structure Context where
  path : List String := []
  base : Option Identifier := none
  repository : Option Handle := none

/-- The context of what an entry holds. -/
def Context.child (context : Context) (name : String) : Context :=
  { context with path := context.path ++ [name] }

/-- A reference declared in a context. -/
def Context.reference (context : Context) (target : String) : Reference :=
  ⟨target, context.base, context.repository⟩

/-- Whether the entries are those of a document: it has a version and an id. -/
def isDocument (entries : List (String × Value)) : Bool :=
  (findEntry "lexicon" entries).isSome && (findEntry "id" entries).isSome

/-- An object being read, with its context. -/
structure Source where
  context : Context
  entries : List (String × Value)

namespace Source

/-- The error for something wrong with the object. -/
def fault (source : Source) (reason : Reason) : ParseError :=
  .shape source.context.path reason source.entries

/-- The object as a leaf of a kind. -/
def leaf {α : Type} (source : Source) (kind : Kind)
    (read : List (String × Value) → Except Mismatch α) : Except ParseError α :=
  (read source.entries).mapError fun mismatch => source.fault (.badLeaf kind mismatch)

/-- The entry of a name, if present, read with the knowledge that it is smaller. -/
def entry? {α : Type} (source : Source) (name : String)
    (read : (value : Value) → sizeOf value < sizeOf source.entries → Except ParseError α) :
    Except ParseError (Option α) :=
  match found : Value.present? name source.entries with
  | none => .ok none
  | some value => (read value (Value.sizeOf_present? found)).map some

/-- The entry of a name, which must be present. -/
def entry {α : Type} (source : Source) (name : String)
    (read : (value : Value) → sizeOf value < sizeOf source.entries → Except ParseError α) :
    Except ParseError α := do
  match ← source.entry? name read with
  | some value => .ok value
  | none => .error (source.fault (.missing name))

/-- An entry that may be absent and must decode; the object is at fault if it does not. -/
def field? {α : Type} (source : Source) (name : String) (decode : Value → Except Mismatch α)
    (reason : Mismatch → Reason) : Except ParseError (Option α) :=
  source.entry? name fun value _ =>
    (decode value).mapError fun mismatch => source.fault (reason mismatch)

/-- An entry that may be absent and must be a text. -/
def text? (source : Source) (name : String) : Except ParseError (Option String) :=
  source.field? name Codec.text.decode fun _ => .notText name

/-- An entry that must be a text. -/
def text (source : Source) (name : String) : Except ParseError String := do
  match ← source.text? name with
  | some text => .ok text
  | none => .error (source.fault (.missing name))

/-- An entry that may be absent and must be a truth value. -/
def flag? (source : Source) (name : String) : Except ParseError (Option Bool) :=
  source.field? name Codec.flag.decode fun _ => .notFlag name

/-- An entry that may be absent and must be a list of texts. -/
def texts? (source : Source) (name : String) : Except ParseError (Option (List String)) :=
  source.field? name Codec.text.list.decode fun _ => .notTexts name

/-- The description. -/
def description (source : Source) : Except ParseError (Option String) :=
  source.text? "description"

/-- The kind that the object declares. Unlike elsewhere a `null` is not absent. -/
def kind (source : Source) : Except ParseError Kind :=
  match findEntry "type" source.entries with
  | none => .error (source.fault .missingKind)
  | some (.string name) =>
    match Kind.ofName? name with
    | some kind => .ok kind
    | none => .error (.unknownKind name source.context.path source.entries)
  | some _ => .error (source.fault .kindNotText)

end Source

/-- A way to read the nodes inside given entries, all of which are smaller. -/
abbrev Descent (around : List (String × Value)) : Type :=
  Context → (entries : List (String × Value)) → sizeOf entries < sizeOf around →
    Except ParseError Node

/-- The same way inside smaller entries. -/
def Descent.within {around part : List (String × Value)} (descent : Descent around)
    (less : sizeOf part < sizeOf around) : Descent part :=
  fun context entries inside => descent context entries (Nat.lt_trans inside less)

/-- The entries of an object are smaller than the object. -/
theorem sizeOf_entries (entries : List (String × Value)) :
    sizeOf entries < sizeOf (Value.object entries) := by
  simp only [Value.object.sizeOf_spec]
  omega

/-- Reads a node in a position: it must be an object, must not be a document, must
be a node and must be of an allowed kind, in this order. -/
def readChild {around : List (String × Value)} (descent : Descent around)
    (position : Position) (context : Context) :
    (value : Value) → sizeOf value < sizeOf around →
    Except ParseError (Described position.Accepted)
  | .object entries, smaller =>
    let source : Source := ⟨context, entries⟩
    if isDocument entries then .error (source.fault (.documentInside position))
    else do
      let node ← descent context entries (Nat.lt_trans (sizeOf_entries entries) smaller)
      match position.accept node.content with
      | some content => .ok ⟨node.description, content⟩
      | none => .error (source.fault (.kindNotAllowed node.kind position))
  | found, _ => .error (.notObject context.path found)

/-- Reads the nodes of a map one after the other. -/
def readMembers {around : List (String × Value)} (descent : Descent around)
    (position : Position) (context : Context) : (members : List (String × Value)) →
    (∀ member ∈ members, sizeOf member.2 < sizeOf around) →
    OrderedMap String (Described position.Accepted) →
    Except ParseError (OrderedMap String (Described position.Accepted))
  | [], _, sofar => .ok sofar
  | (name, value) :: rest, smaller, sofar => do
    let node ← readChild descent position (context.child name) value
      (smaller (name, value) List.mem_cons_self)
    readMembers descent position context rest
      (fun member inside => smaller member (List.mem_cons_of_mem _ inside))
      (sofar.insert name node)

/-- The members of an object are smaller than the object. -/
theorem sizeOf_member {members : List (String × Value)} {member : String × Value}
    (inside : member ∈ members) : sizeOf member.2 < sizeOf (Value.object members) := by
  have below := List.sizeOf_lt_of_mem inside
  obtain ⟨name, value⟩ := member
  simp only [Prod.mk.sizeOf_spec, Value.object.sizeOf_spec] at below ⊢
  omega

/-- Reads a map of nodes under a name. Absence and an empty list stand for a map
without entries. -/
def readMap (source : Source) (descent : Descent source.entries) (name : String)
    (position : Position) (context : Context) :
    Except ParseError (OrderedMap String (Described position.Accepted)) := do
  let map ← source.entry? name fun value smaller =>
    match value, smaller with
    | .object members, smaller =>
      readMembers descent position (context.child name) members
        (fun _ inside => Nat.lt_trans (sizeOf_member inside) smaller) .empty
    | .array [], _ => .ok .empty
    | _, _ => .error (source.fault (.notMap name))
  .ok (map.getD .empty)

/-- An array: its items, its bounds, its description. -/
def readArray (source : Source) (descent : Descent source.entries) :
    Except ParseError Node := do
  let items ← source.entry "items" fun value smaller =>
    readChild descent .arrayItems (source.context.child "items") value smaller
  let bounds ← source.leaf .array LengthBounds.arrayBlock.ofEntries
  let description ← source.description
  .ok ⟨description, .array ⟨items, bounds⟩⟩

/-- An object: its description, its properties and the two lists of names. -/
def readObject (source : Source) (descent : Descent source.entries) :
    Except ParseError Node := do
  let description ← source.description
  let properties ← readMap source descent "properties" .objectProperty source.context
  let required ← source.texts? "required"
  let nullable ← source.texts? "nullable"
  .ok ⟨description, .object ⟨properties, required, nullable⟩⟩

/-- A parameter whose array, if it is one, holds what parameters may hold. -/
def checkedParameter (source : Source) (name : String)
    (parameter : Described (OrArray ParameterElement Element)) :
    Except ParseError (Described Parameter) :=
  match parameter.content with
  | .single held => .ok ⟨parameter.description, .single held⟩
  | .array held =>
    match held.items.content.parameterElement? with
    | some element =>
      .ok ⟨parameter.description, .array ⟨⟨held.items.description, element⟩, held.bounds⟩⟩
    | none => .error (source.fault (.compositeParameter name held.items.content.kind))

/-- Checks the arrays among parameters one after the other. -/
def checkedParameters (source : Source) :
    (parameters : List (String × Described (OrArray ParameterElement Element))) →
    OrderedMap String (Described Parameter) →
    Except ParseError (OrderedMap String (Described Parameter))
  | [], sofar => .ok sofar
  | (name, parameter) :: rest, sofar => do
    let checked ← checkedParameter source name parameter
    checkedParameters source rest (sofar.insert name checked)

/-- Parameters: the properties, the arrays among them, then the rest. -/
def readParameters (source : Source) (descent : Descent source.entries) :
    Except ParseError Node := do
  let candidates ← readMap source descent "properties" .paramsProperty source.context
  let properties ← checkedParameters source candidates.entries .empty
  let description ← source.description
  let required ← source.texts? "required"
  .ok ⟨description, .params ⟨properties, required⟩⟩

/-- A reference: its text, then its description. -/
def readReference (source : Source) : Except ParseError Node := do
  let target ← source.text "ref"
  let description ← source.description
  .ok ⟨description, .element (.ref (source.context.reference target))⟩

/-- One member of a union. Its text stands for the node `{"type": "ref", "ref": text}` in the
position of a member, and is read as that node would be. That never fails: the node is no
document, its kind is the one allowed there, and its text is a text (`Node.readChild_member`). -/
def readUnionMember (source : Source) : Value → Except ParseError Reference
  | .string target => .ok (source.context.reference target)
  | _ => .error (source.fault (.notTexts "refs"))

/-- The members of a union. An empty object stands for a list without members. -/
def readUnionMembers (source : Source) : Except ParseError (List Reference) :=
  match Value.present? "refs" source.entries with
  | none => .error (source.fault (.missing "refs"))
  | some (.array items) => items.mapM (readUnionMember source)
  | some (.object []) => .ok []
  | some _ => .error (source.fault (.notTexts "refs"))

/-- A union: its members, its description, whether it is closed. -/
def readUnion (source : Source) : Except ParseError Node := do
  let members ← readUnionMembers source
  let description ← source.description
  let closed ← source.flag? "closed"
  .ok ⟨description, .element (.union ⟨members, closed⟩)⟩

/-- The pattern of a record's key. -/
def readRecordKey (source : Source) : Except ParseError (Option RecordKey) := do
  match ← source.text? "key" with
  | none => .ok none
  | some text =>
    match RecordKey.parse? text with
    | some key => .ok (some key)
    | none => .error (source.fault (.unknownRecordKey text))

/-- A record: the pattern of its key, its object, its description. -/
def readRecord (source : Source) (descent : Descent source.entries) :
    Except ParseError Node := do
  let key ← readRecordKey source
  let object ← source.entry "record" fun value smaller =>
    readChild descent .recordObject (source.context.child "record") value smaller
  let description ← source.description
  .ok ⟨description, .record ⟨key, object⟩⟩

/-- The parameters of a method. -/
def readMethodParameters (source : Source) (descent : Descent source.entries) :
    Except ParseError (Option (Described Parameters)) :=
  source.entry? "parameters" fun value smaller =>
    readChild descent .parameters (source.context.child "parameters") value smaller

/-- An input or output from its object: its description, its encoding, its schema. -/
def readBodyObject (source : Source) (descent : Descent source.entries) :
    Except ParseError (Described Body) := do
  let description ← source.description
  let encoding ← source.text "encoding"
  let schema ← source.entry? "schema" fun value smaller =>
    readChild descent .bodySchema (source.context.child "schema") value smaller
  .ok ⟨description, ⟨encoding, schema⟩⟩

/-- A subscription's messages from their object: description, then schema. -/
def readMessageObject (source : Source) (descent : Descent source.entries) :
    Except ParseError (Described Message) := do
  let description ← source.description
  let schema ← source.entry? "schema" fun value smaller =>
    readChild descent .messageSchema (source.context.child "schema") value smaller
  .ok ⟨description, ⟨schema⟩⟩

/-- An entry of a method that must be an object but is no node. -/
def readPart {α : Type} (source : Source) (descent : Descent source.entries)
    (name : String)
    (read : (part : Source) → Descent part.entries → Except ParseError α) :
    Except ParseError (Option α) :=
  source.entry? name fun value smaller =>
    match value, smaller with
    | .object entries, smaller =>
      read ⟨source.context.child name, entries⟩
        (descent.within (Nat.lt_trans (sizeOf_entries entries) smaller))
    | found, _ => .error (.notObject (source.context.child name).path found)

/-- The errors of a method. -/
def readErrors (source : Source) : Except ParseError (Option (List ErrorCase)) :=
  source.field? "errors" ErrorCase.decodeAll .badErrors

/-- A method that reads. -/
def readQuery (source : Source) (descent : Descent source.entries) :
    Except ParseError Node := do
  let description ← source.description
  let parameters ← readMethodParameters source descent
  let output ← readPart source descent "output" readBodyObject
  let errors ← readErrors source
  .ok ⟨description, .query ⟨parameters, output, errors⟩⟩

/-- A method that writes. -/
def readProcedure (source : Source) (descent : Descent source.entries) :
    Except ParseError Node := do
  let description ← source.description
  let parameters ← readMethodParameters source descent
  let input ← readPart source descent "input" readBodyObject
  let output ← readPart source descent "output" readBodyObject
  let errors ← readErrors source
  .ok ⟨description, .procedure ⟨parameters, input, output, errors⟩⟩

/-- A method that answers with a stream of messages. -/
def readSubscription (source : Source) (descent : Descent source.entries) :
    Except ParseError Node := do
  let description ← source.description
  let parameters ← readMethodParameters source descent
  let message ← readPart source descent "message" readMessageObject
  let errors ← readErrors source
  .ok ⟨description, .subscription ⟨parameters, message, errors⟩⟩

/-- A leaf with constraints, as a node. -/
def readConstrained {σ : Type} (source : Source) (kind : Kind) (block : Block σ)
    (content : σ → Element) : Except ParseError Node :=
  (source.leaf kind (readLeaf block)).map (Described.map fun held => .element (content held))

/-- A leaf with nothing but a description, as a node. -/
def readBare (source : Source) (kind : Kind) (content : Content) : Except ParseError Node :=
  (source.leaf kind tokenBlock.ofEntries).map (Described.map fun _ => content)

/-- Reads a node of a known kind. -/
def readKind (source : Source) (descent : Descent source.entries) :
    Kind → Except ParseError Node
  | .boolean =>
    readConstrained source .boolean BooleanConstraints.block fun held => .scalar (.boolean held)
  | .integer =>
    readConstrained source .integer IntegerConstraints.block fun held => .scalar (.integer held)
  | .number =>
    readConstrained source .number NumberConstraints.block fun held => .scalar (.number held)
  | .string =>
    (source.leaf .string StringSchema.ofEntries).map
      (Described.map fun held => .element (.scalar (.string held)))
  | .bytes => readConstrained source .bytes LengthBounds.bytesBlock .bytes
  | .cidLink => readBare source .cidLink (.element .cidLink)
  | .unknown => readBare source .unknown (.element .unknown)
  | .token => readBare source .token .token
  | .blob => readConstrained source .blob BlobConstraints.block fun held => .media (.blob held)
  | .image => readConstrained source .image ImageConstraints.block fun held => .media (.image held)
  | .video => readConstrained source .video VideoConstraints.block fun held => .media (.video held)
  | .audio => readConstrained source .audio AudioConstraints.block fun held => .media (.audio held)
  | .array => readArray source descent
  | .object => readObject source descent
  | .params => readParameters source descent
  | .ref => readReference source
  | .union => readUnion source
  | .record => readRecord source descent
  | .query => readQuery source descent
  | .procedure => readProcedure source descent
  | .subscription => readSubscription source descent

namespace Node

/-- Reads a node from the entries of its object. -/
def ofEntries (context : Context) (entries : List (String × Value)) : Except ParseError Node := do
  let source : Source := ⟨context, entries⟩
  let kind ← source.kind
  readKind source (fun inner entries _ => ofEntries inner entries) kind
termination_by sizeOf entries

/-- The text of a union's member, written out as a reference and read as the child that stands in
the member's place, gives the member. -/
theorem readChild_member (source : Source) (target : String) (index : Nat)
    {around : List (String × Value)}
    (smaller : sizeOf (Value.object [("type", .string "ref"), ("ref", .string target)]) <
      sizeOf around) :
    readChild (fun context entries _ => ofEntries context entries) .unionMember
        ((source.context.child "refs").child (toString index))
        (.object [("type", .string "ref"), ("ref", .string target)]) smaller =
      (readUnionMember source (.string target)).map (⟨none, ·⟩) := by
  have read (context : Context) :
      ofEntries context [("type", .string "ref"), ("ref", .string target)] =
        .ok ⟨none, .element (.ref (context.reference target))⟩ := by
    rw [ofEntries]
    rfl
  rw [readChild, read]
  rfl

/-- Reads a value that must be a node by itself: an object, and no document. -/
def ofValue (context : Context) : Value → Except ParseError Node
  | .object entries =>
    if isDocument entries then .error (Source.fault ⟨context, entries⟩ .notNode)
    else ofEntries context entries
  | found => .error (.notObject context.path found)

end Node

end LexiconSchema
