/-!
# String formats

A string node may declare a format, which names a rule for the text of its
values. This module has the eleven formats and their wire names; the rules
themselves are in `LexiconSchema.StringFormat.Syntax`.
-/

namespace LexiconSchema

/-- The formats, in the order in which they are listed to a reader. -/
inductive StringFormat
  | atIdentifier | atUri | cid | datetime | did | handle | nsid | tid | recordKey | uri | language
deriving DecidableEq, Repr

namespace StringFormat

/-- Every format once. -/
def all : List StringFormat :=
  [.atIdentifier, .atUri, .cid, .datetime, .did, .handle, .nsid, .tid, .recordKey, .uri,
    .language]

/-- The wire name of a format. -/
def name : StringFormat → String
  | .atIdentifier => "at-identifier"
  | .atUri => "at-uri"
  | .cid => "cid"
  | .datetime => "datetime"
  | .did => "did"
  | .handle => "handle"
  | .nsid => "nsid"
  | .tid => "tid"
  | .recordKey => "record-key"
  | .uri => "uri"
  | .language => "language"

/-- The format with a given wire name, if there is one. -/
def ofName? (name : String) : Option StringFormat := all.find? (·.name == name)

/-- What is said of a name that belongs to no format. -/
def unknownMessage (name : String) : String := s!"unknown string format '{name}'"

/-- A wire name is read back as its format. -/
theorem ofName?_name (format : StringFormat) : ofName? format.name = some format := by
  cases format <;> decide +kernel

end StringFormat

end LexiconSchema
