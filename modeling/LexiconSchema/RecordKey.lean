import LexiconSchema.Text.Split

/-!
# Record keys

A record definition may say what its records' keys look like: a timestamp
identifier, a namespaced identifier, any key at all, or one fixed key. The fixed
key is written behind `literal:` and must not be empty.
-/

namespace LexiconSchema

/-- The pattern of a record's key. -/
inductive RecordKey
  | tid
  | nsid
  | any
  | literal (key : String)
deriving DecidableEq, Repr

namespace RecordKey

/-- The written form of a pattern. -/
def toString : RecordKey → String
  | .tid => "tid"
  | .nsid => "nsid"
  | .any => "any"
  | .literal key => "literal:" ++ key

instance : ToString RecordKey := ⟨toString⟩

/-- The pattern with a given written form, if there is one. -/
def parse? (text : String) : Option RecordKey :=
  if text = "tid" then some .tid
  else if text = "nsid" then some .nsid
  else if text = "any" then some .any
  else match Text.afterOpening? "literal:" text with
    | some key => if key.toList.isEmpty then none else some (.literal key)
    | none => none

/-- What is said of a text that is no pattern. -/
def unknownMessage (text : String) : String := s!"unknown record key type '{text}'"

end RecordKey

end LexiconSchema
