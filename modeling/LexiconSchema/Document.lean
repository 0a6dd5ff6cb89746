import LexiconSchema.Node.References
import LexiconSchema.Node.Render

/-!
# Schema documents

A document has an identifier and named definitions in the order in which they
are declared; a revision and a description are optional. Documents are equal when
they declare the same, whatever the order of their definitions.
-/

namespace LexiconSchema

open Json (Codec Number Value)

/-- The language version of all documents. -/
def languageVersion : Number := .integer ⟨1, by decide, by decide⟩

/-- A document. -/
structure Document where
  id : Identifier
  revision : Option Count
  description : Option String
  definitions : OrderedMap String Node
deriving BEq

namespace Document

/-- A document without definitions. -/
def new (id : Identifier) : Document := ⟨id, none, none, .empty⟩

/-- The document with a definition set; one of that name is replaced in place. -/
def withDefinition (document : Document) (name : String) (node : Node) : Document :=
  { document with definitions := document.definitions.insert name node }

/-- The definition of a name. -/
def definition? (document : Document) (name : String) : Option Node :=
  document.definitions.get? name

/-- The main definition. -/
def main? (document : Document) : Option Node := document.definition? mainDefinition

/-- The references of all definitions, definition by definition. -/
def references (document : Document) : List Reference :=
  document.definitions.values.flatMap Node.references

/-- The object of a document: version, identifier, what else is present, and always
the definitions. -/
def render (document : Document) : Value :=
  .object (("lexicon", .number languageVersion) :: ("id", .string document.id.toString) ::
    (entryOf "revision" Codec.count.encode document.revision ++
      descriptionEntry document.description ++
      [("defs", mapObject Node.render document.definitions)]))

end Document

end LexiconSchema
