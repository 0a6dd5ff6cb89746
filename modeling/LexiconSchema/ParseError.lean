import LexiconSchema.FileTree
import LexiconSchema.Json.Fault
import LexiconSchema.Json.FieldCodec
import LexiconSchema.Node.Position

/-!
# Errors of schema reading

Why a JSON text or value is no schema. An error that concerns a part of the value
tells the path to it, from `$` down through the names of entries, and the part
itself, of which a message shows the first 240 characters.
-/

namespace LexiconSchema

open Json (Mismatch ReadError Value)

/-- What is wrong with an object that should be a node or a document. -/
inductive Reason
  | missing (name : String)
  | missingKind
  | kindNotText
  | notText (name : String)
  | notFlag (name : String)
  | notTexts (name : String)
  | notMap (name : String)
  | badLeaf (kind : Kind) (mismatch : Mismatch)
  | badErrors (mismatch : Mismatch)
  | documentInside (position : Position)
  | kindNotAllowed (kind : Kind) (position : Position)
  | compositeParameter (name : String) (items : Kind)
  | unknownRecordKey (text : String)
  | fragmentInId
  | badRevision
  | notDocument
  | notNode
deriving Repr

/-- The wording of a reason. -/
def Reason.message : Reason → String
  | .missing name => s!"missing '{name}'"
  | .missingKind => "missing 'type' discriminator"
  | .kindNotText => "'type' must be a string"
  | .notText name => s!"'{name}' must be a string"
  | .notFlag name => s!"'{name}' must be a boolean"
  | .notTexts name => s!"'{name}' must be an array of strings"
  | .notMap name => s!"'{name}' must be an object"
  | .badLeaf kind mismatch => "invalid " ++ kind.name ++ ": " ++ mismatch.message
  | .badErrors mismatch => "invalid 'errors': " ++ mismatch.message
  | .documentInside position => "a lexicon document is not allowed in " ++ position.message
  | .kindNotAllowed kind position =>
    "'" ++ kind.name ++ "' is not allowed in " ++ position.message
  | .compositeParameter name items =>
    s!"params property '{name}' is an array of '" ++ items.name ++
      "'; only primitive items are allowed"
  | .unknownRecordKey text => RecordKey.unknownMessage text
  | .fragmentInId => "document id must not carry a '#fragment'"
  | .badRevision => "'revision' must be a non-negative integer"
  | .notDocument => "expected a lexicon document with 'lexicon' and 'id'"
  | .notNode => "expected a type node, found a lexicon document"

/-- Why something is no schema. -/
inductive ParseError
  | badJson (error : ReadError)
  | unreadable (fault : FileFault)
  | notObject (path : List String) (found : Value)
  | unknownKind (name : String) (path : List String) (node : List (String × Value))
  | shape (path : List String) (reason : Reason) (node : List (String × Value))
  | badVersion (found : Value)
  | badId (error : IdentifierError)
deriving Repr

/-- The longest part of a value that a message shows, in characters. -/
def excerptLimit : Nat := 240

/-- The compact text of a value, cut off where it gets too long. -/
def excerpt (value : Value) : String :=
  let chars := value.write.toList
  if chars.length ≤ excerptLimit then String.ofList chars
  else String.ofList (chars.take excerptLimit) ++ "..."

/-- The written form of a path. -/
def pathText (path : List String) : String :=
  path.foldl (fun text segment => text ++ "." ++ segment) "$"

/-- The whole message of a reading error. -/
def ParseError.message : ParseError → String
  | .badJson error => "Invalid JSON: " ++ error.message
  | .unreadable fault => "IO error: " ++ fault.message
  | .notObject path found =>
    "Expected a JSON object at " ++ pathText path ++ ", got " ++ excerpt found
  | .unknownKind name path node =>
    s!"No parser registered for type '{name}' at " ++ pathText path ++ ": " ++
      excerpt (.object node)
  | .shape path reason node =>
    "Invalid schema at " ++ pathText path ++ ": " ++ reason.message ++ ": " ++
      excerpt (.object node)
  | .badVersion found => "Invalid lexicon version: expected 1, got " ++ excerpt found
  | .badId error => error.message

end LexiconSchema
