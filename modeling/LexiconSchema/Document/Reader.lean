import LexiconSchema.Document
import LexiconSchema.Json.Reader
import LexiconSchema.Node.Reader

/-!
# Reading documents

A document is read in two parts. The head, version and identifier, settles which
document it is; the body has the rest. A reader that keeps documents looks at the
head alone when it has the document already.

The definitions are nodes whose references know the document around them.
-/

namespace LexiconSchema

open Json (Codec Value)

namespace Document

/-- The version that a document must have. -/
def checkVersion (source : Source) : Except ParseError Unit :=
  match Value.present? "lexicon" source.entries with
  | none => .error (source.fault (.missing "lexicon"))
  | some (.number (.integer version)) =>
    if version.value = 1 then .ok () else .error (.badVersion (.number (.integer version)))
  | some found => .error (.badVersion found)

/-- The identifier that a text is, which must not name a definition. -/
def identify (source : Source) (text : String) : Except ParseError Identifier :=
  if text.toList.contains '#' then .error (source.fault .fragmentInId)
  else (Identifier.parse text).mapError .badId

/-- The identifier of a document, its version being checked first. -/
def readHead (source : Source) : Except ParseError Identifier := do
  checkVersion source
  let text ← source.text "id"
  identify source text

/-- The revision, a natural number of limited size. -/
def readRevision (source : Source) : Except ParseError (Option Count) :=
  source.field? "revision" Codec.count.decode fun _ => .badRevision

/-- The document of a known identifier: revision, definitions, description. -/
def readBody (source : Source) (id : Identifier) : Except ParseError Document := do
  let revision ← readRevision source
  let definitions ← readMap source (fun context entries _ => Node.ofEntries context entries)
    "defs" .definition { source.context with base := some id }
  let description ← source.description
  .ok ⟨id, revision, description, definitions⟩

/-- Reads a document from the entries of its object. -/
def ofEntries (context : Context) (entries : List (String × Value)) :
    Except ParseError Document := do
  let source : Source := ⟨context, entries⟩
  let id ← readHead source
  readBody source id

/-- The entries of a value that must be a document. -/
def entriesOf : Value → Except ParseError (List (String × Value))
  | .object entries =>
    if isDocument entries then .ok entries
    else .error (Source.fault ⟨{}, entries⟩ .notDocument)
  | found => .error (.notObject [] found)

/-- Reads a value that must be a document. -/
def ofValue (value : Value) : Except ParseError Document := do
  let entries ← entriesOf value
  ofEntries {} entries

end Document

/-- A schema: a document or a node by itself. -/
inductive Schema
  | document (document : Document)
  | node (node : Node)

/-- Reads a value as what it is, a document or a node by itself. -/
def Schema.ofValue : Value → Except ParseError Schema
  | .object entries =>
    if isDocument entries then (Document.ofEntries {} entries).map .document
    else (Node.ofEntries {} entries).map .node
  | found => .error (.notObject [] found)

/-- What a schema is read from: a JSON text or a decoded value. -/
inductive Input
  | text (text : String)
  | value (value : Value)

/-- The decoded value of an input. -/
def Input.decode : Input → Except ParseError Value
  | .text written => (Json.read written).mapError .badJson
  | .value decoded => .ok decoded

/-- Equality of schemas: a document never equals a node. -/
def Schema.same : Schema → Schema → Bool
  | .document left, .document right => left == right
  | .node left, .node right => left == right
  | _, _ => false

instance : BEq Schema := ⟨Schema.same⟩

end LexiconSchema
