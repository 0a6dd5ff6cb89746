import LexiconSchema.Text.Split
import LexiconSchema.Identifier.Label

/-!
# Namespaced identifiers

An identifier such as `com.example.feed#reply` names a definition inside a
schema document. Before the `#` stand the labels of an authority, written from
the most general one down, and a name; behind it stands the definition's name.
Without a `#` the definition is `main`, and `main` is never written out.

The labels are kept in the order in which they are declared. Read backwards they
are the authority's host name, by which identifiers are ordered.

`Identifier.parse` is strict about each part but knows no least number of
labels. `structureFault?` is the other, purely structural check on dotted names;
it wants three parts, knows no definitions and lets a trailing `.*` pass.
-/

namespace LexiconSchema

/-- The rule that an authority breaks. -/
inductive AuthorityFault
  | empty
  | tooLong
  | label (fault : LabelFault)
deriving DecidableEq, Repr

/-- The rule that an identifier breaks outside its authority. -/
inductive IdentifierFault
  | missingAuthority
  | emptyName
  | nameTooLong
  | badName (name : String)
  | badFragment (fragment : String)
  | tooLong
  | tooFewParts
  | label (fault : LabelFault)
deriving DecidableEq, Repr

/-- Why a text is no identifier. A bad authority is reported with the declared
authority alone, every other fault with the whole text. -/
inductive IdentifierError
  | badAuthority (declared : String) (fault : AuthorityFault)
  | malformed (text : String) (fault : IdentifierFault)
deriving DecidableEq, Repr

/-- The largest size of a host name. -/
def hostnameLimit : Nat := 253

/-- The largest size of an identifier's name. -/
def nameLimit : Nat := 128

/-- The largest size of a dotted name, a trailing `.*` not counted. -/
def structureLimit : Nat := 382

/-- The wording of an authority's fault. -/
def AuthorityFault.message : AuthorityFault → String
  | .empty => "authority is empty"
  | .tooLong => s!"hostname exceeds {hostnameLimit} characters"
  | .label fault => fault.message

/-- The wording of an identifier's fault. -/
def IdentifierFault.message : IdentifierFault → String
  | .missingAuthority => "missing authority"
  | .emptyName => "name is empty"
  | .nameTooLong => s!"name exceeds {nameLimit} characters"
  | .badName name => s!"invalid name '{name}'"
  | .badFragment fragment => s!"invalid fragment '{fragment}'"
  | .tooLong => s!"exceeds {structureLimit} characters"
  | .tooFewParts => "needs at least 3 dot-separated parts"
  | .label fault => fault.message

/-- The whole message of an identifier error. -/
def IdentifierError.message : IdentifierError → String
  | .badAuthority declared fault => s!"Invalid NSID authority '{declared}': " ++ fault.message
  | .malformed text fault => s!"Invalid NSID '{text}': " ++ fault.message

/-- A namespaced identifier: the authority's labels as declared, the name, and
the name of the definition meant. -/
structure Identifier where
  labels : List String
  name : String
  definition : String
deriving DecidableEq, Repr

/-- The definition meant when none is written. -/
def mainDefinition : String := "main"

/-- The first rule that a host name breaks, given its labels from left to right.
A single empty label is an empty authority; any other empty label is a fault of
that label. -/
def hostnameFault? (labels : List String) : Option AuthorityFault :=
  let hostname := Text.join '.' labels
  if hostname.toList.isEmpty then some .empty
  else if hostnameLimit < hostname.utf8ByteSize then some .tooLong
  else (labels.findSome? (labelFault? domainLabelLimit)).map .label

/-- The host name of a declared authority: its labels in reverse order. The
error carries the authority as declared. -/
def parseAuthority (declared : String) : Except IdentifierError String :=
  let labels := (Text.split '.' declared).reverse
  match hostnameFault? labels with
  | some fault => .error (.badAuthority declared fault)
  | none => .ok (Text.join '.' labels)

namespace Identifier

/-- The first rule that a name breaks. A name may end with a hyphen. -/
def nameFault? (name : String) : Option IdentifierFault :=
  if name.toList.isEmpty then some .emptyName
  else if nameLimit < name.utf8ByteSize then some .nameTooLong
  else if startsWithLetter name.toList && name.toList.all isLabelCharacter then none
  else some (.badName name)

/-- Whether a text can stand behind the `#`: a non-empty run of ASCII letters,
digits, underscores and hyphens. -/
def isDefinitionName (text : String) : Bool :=
  !text.toList.isEmpty && text.toList.all fun c => c.isAlphanum || c == '_' || c == '-'

/-- The definition meant by what stands behind the `#`, if anything does. -/
def definitionOf (text : String) : Option String → Except IdentifierError String
  | none => .ok mainDefinition
  | some fragment =>
    if isDefinitionName fragment then .ok fragment
    else .error (.malformed text (.badFragment fragment))

/-- Reads an identifier. The text is cut at its first `#` and the part before it
at every dot; the last piece is the name. The name is checked first, then the
authority, then the definition. -/
def parse (text : String) : Except IdentifierError Identifier :=
  let (body, fragment) := match Text.cut? '#' text with
    | some (body, fragment) => (body, some fragment)
    | none => (text, none)
  let parts := Text.split '.' body
  let labels := parts.dropLast
  let name := parts.getLastD ""
  if labels.isEmpty then .error (.malformed text .missingAuthority)
  else match nameFault? name with
    | some fault => .error (.malformed text fault)
    | none =>
      match hostnameFault? labels.reverse with
      | some fault => .error (.badAuthority (Text.join '.' labels) fault)
      | none => (definitionOf text fragment).map fun definition => ⟨labels, name, definition⟩

/-- The authority as a host name, most specific label first. -/
def hostname (identifier : Identifier) : String := Text.join '.' identifier.labels.reverse

/-- Whether the definition meant is the main one. -/
def isMain (identifier : Identifier) : Bool := identifier.definition == mainDefinition

/-- The same name with another definition, which is taken as it is. -/
def withDefinition (identifier : Identifier) (definition : String) : Identifier :=
  { identifier with definition := definition }

/-- The identifier of the document that holds the definition. -/
def document (identifier : Identifier) : Identifier := identifier.withDefinition mainDefinition

/-- The labels and the name with dots between them: the document's written name. -/
def dotted (identifier : Identifier) : String :=
  Text.join '.' (identifier.labels ++ [identifier.name])

/-- The written form. The main definition is left out. -/
def toString (identifier : Identifier) : String :=
  if identifier.isMain then identifier.dotted
  else identifier.dotted ++ "#" ++ identifier.definition

instance : ToString Identifier := ⟨toString⟩

/-- The components of the schema file's path below a root: a folder for each
label and a file for the name. -/
def relativePath (identifier : Identifier) : List String :=
  identifier.labels ++ [identifier.name ++ ".json"]

/-- Identifiers are ordered by host name, then by name, then by definition, each
text by its characters' code points. -/
def order (left right : Identifier) : Ordering :=
  (compare left.hostname right.hostname).then
    ((compare left.name right.name).then (compare left.definition right.definition))

instance : Ord Identifier := ⟨order⟩

/-- The identifiers in ascending order; equal ones stay beside each other. -/
def sort (identifiers : List Identifier) : List Identifier :=
  identifiers.mergeSort fun left right => (order left right).isLE

end Identifier

/-- The first label that breaks a rule, where only the last may have the size of
a name. -/
def partFault? : List String → Option LabelFault
  | [] => none
  | [last] => labelFault? nameLimit last
  | part :: others => labelFault? domainLabelLimit part <|> partFault? others

/-- The first rule that a dotted name breaks as a mere structure: at most 382
bytes, at least three parts, every part a sound label. One trailing `.*` is
left aside before. -/
def structureFault? (text : String) : Option IdentifierFault :=
  let body := (Text.beforeEnding? ".*" text).getD text
  let parts := Text.split '.' body
  if structureLimit < body.utf8ByteSize then some .tooLong
  else if parts.length < 3 then some .tooFewParts
  else (partFault? parts).map .label

/-- Checks a dotted name's structure; the error carries the text as written. -/
def checkStructure (text : String) : Except IdentifierError Unit :=
  match structureFault? text with
  | some fault => .error (.malformed text fault)
  | none => .ok ()

end LexiconSchema
