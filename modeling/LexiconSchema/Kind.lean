/-!
# Kinds of schema nodes

Every node of a schema declares its kind in the field `type`. There are
twenty-one kinds, listed here by their wire names in alphabetical order, which
is also the order of the kinds. Three groups of them are named: scalar kinds,
media kinds and the kinds of remote methods.
-/

namespace LexiconSchema

/-- The kinds of nodes, in the alphabetical order of their wire names. -/
inductive Kind
  | array | audio | blob | boolean | bytes | cidLink | image | integer | number | object
  | params | procedure | query | record | ref | string | subscription | token | union
  | unknown | video
deriving DecidableEq, Ord, Repr

namespace Kind

/-- Every kind once, in ascending order. -/
def all : List Kind :=
  [.array, .audio, .blob, .boolean, .bytes, .cidLink, .image, .integer, .number, .object,
    .params, .procedure, .query, .record, .ref, .string, .subscription, .token, .union,
    .unknown, .video]

/-- The wire name of a kind. -/
def name : Kind → String
  | .array => "array"
  | .audio => "audio"
  | .blob => "blob"
  | .boolean => "boolean"
  | .bytes => "bytes"
  | .cidLink => "cid-link"
  | .image => "image"
  | .integer => "integer"
  | .number => "number"
  | .object => "object"
  | .params => "params"
  | .procedure => "procedure"
  | .query => "query"
  | .record => "record"
  | .ref => "ref"
  | .string => "string"
  | .subscription => "subscription"
  | .token => "token"
  | .union => "union"
  | .unknown => "unknown"
  | .video => "video"

/-- The kind with a given wire name, if there is one. -/
def ofName? (name : String) : Option Kind := all.find? (·.name == name)

/-- Boolean, integer, number and string are the scalar kinds. -/
def isScalar : Kind → Bool
  | .boolean | .integer | .number | .string => true
  | _ => false

/-- The media kinds are the blob and its three specialisations. -/
def isMedia : Kind → Bool
  | .blob | .image | .video | .audio => true
  | _ => false

/-- Query, procedure and subscription are the kinds of remote methods. -/
def isMethod : Kind → Bool
  | .query | .procedure | .subscription => true
  | _ => false

/-- The kinds in ascending order; repeated ones stay repeated. -/
def sort (kinds : List Kind) : List Kind :=
  kinds.mergeSort fun left right => (compare left right).isLE

/-- A wire name is read back as its kind. -/
theorem ofName?_name (kind : Kind) : ofName? kind.name = some kind := by
  cases kind <;> decide +kernel

end Kind

end LexiconSchema
