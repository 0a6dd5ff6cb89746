/-!
# Labels of dotted names

A dotted name is made of labels. A label is a non-empty run of ASCII letters,
digits and hyphens that starts with a letter and does not end with a hyphen. Its
size is counted in UTF-8 bytes, and the limit depends on where the label stands.

`labelFault?` reports the first rule that a label breaks, in a fixed order, so a
label with two faults always gets the same report.
-/

namespace LexiconSchema

/-- The rule that a label breaks, with the label as written. -/
inductive LabelFault
  | empty
  | tooLong (label : String) (limit : Nat)
  | badStart (label : String)
  | badCharacter (label : String)
  | trailingHyphen (label : String)
deriving DecidableEq, Repr

/-- The wording of a label's fault. -/
def LabelFault.message : LabelFault → String
  | .empty => "empty label"
  | .tooLong label limit => s!"label '{label}' exceeds {limit} characters"
  | .badStart label => s!"label '{label}' must start with an ASCII letter"
  | .badCharacter label => s!"label '{label}' contains invalid characters"
  | .trailingHyphen label => s!"label '{label}' ends with a hyphen"

/-- ASCII letters, ASCII digits and the hyphen. -/
def isLabelCharacter (c : Char) : Bool := c.isAlphanum || c == '-'

/-- Whether a text starts with an ASCII letter. The empty text does not. -/
def startsWithLetter (text : List Char) : Bool := text.head?.any Char.isAlpha

/-- The first rule that a label breaks; none for a sound label. Emptiness comes
first, then size, first character, alphabet and last character. -/
def labelFault? (limit : Nat) (label : String) : Option LabelFault :=
  if label.toList.isEmpty then some .empty
  else if limit < label.utf8ByteSize then some (.tooLong label limit)
  else if !startsWithLetter label.toList then some (.badStart label)
  else if !label.toList.all isLabelCharacter then some (.badCharacter label)
  else if label.toList.getLast? == some '-' then some (.trailingHyphen label)
  else none

/-- The largest size of a label of a host name. -/
def domainLabelLimit : Nat := 63

end LexiconSchema
