import LexiconSchema.Identifier
import LexiconSchema.StringFormat
import LexiconSchema.StringFormat.Datetime
import LexiconSchema.Text.Characters

/-!
# The syntax of string formats

For each format a check of its texts. The checks are structural: nothing is
resolved, decoded or looked up in a registry. A check yields the first fault in a
fixed order, so that the same text is always refused for the same reason; sizes
are counted in bytes.
-/

namespace LexiconSchema

/-- Why a text is not of a format. -/
inductive FormatFault
  | notAtUri
  | noAuthority
  | authority (fault : FormatFault)
  | notCid
  | notDatetime (fault : DatetimeFault)
  | notDid
  | badMethod (method : String)
  | noMethodIdentifier
  | badMethodIdentifier
  | handleTooLong
  | tooFewLabels
  | badLabel (label : String)
  | badLabelCharacter (label : String)
  | outerHyphen (label : String)
  | badTopLabel
  | notNsid (error : IdentifierError)
  | notTidLength
  | notTidCharacter
  | keyLength
  | reservedKey
  | keyCharacter
  | noScheme
  | badScheme (scheme : String)
  | badHierarchy
  | badPrimary (subtag : String)
  | badSubtag
deriving DecidableEq, Repr

/-- The wording of a format's fault. -/
def FormatFault.message : FormatFault → String
  | .notAtUri => "must start with 'at://'"
  | .noAuthority => "missing authority"
  | .authority fault => "authority: " ++ fault.message
  | .notCid => "not a multibase-encoded CID"
  | .notDatetime fault => "not an RFC 3339 datetime: " ++ fault.message
  | .notDid => "must start with 'did:'"
  | .badMethod method => s!"invalid method '{method}'"
  | .noMethodIdentifier => "missing method-specific identifier"
  | .badMethodIdentifier => "invalid character in identifier"
  | .handleTooLong => "longer than 253 characters"
  | .tooFewLabels => "needs at least two labels"
  | .badLabel label => s!"invalid label '{label}'"
  | .badLabelCharacter label => s!"invalid character in '{label}'"
  | .outerHyphen label => s!"label '{label}' starts or ends with a hyphen"
  | .badTopLabel => "top-level label must start with a letter"
  | .notNsid error => error.message
  | .notTidLength => "must be 13 characters"
  | .notTidCharacter => "invalid base32-sortable character"
  | .keyLength => "must be 1-512 characters"
  | .reservedKey => "reserved record key"
  | .keyCharacter => "invalid character"
  | .noScheme => "missing scheme"
  | .badScheme scheme => s!"invalid scheme '{scheme}'"
  | .badHierarchy => "invalid hierarchical part"
  | .badPrimary subtag => s!"invalid primary subtag '{subtag}'"
  | .badSubtag => "invalid subtag"

namespace StringFormat

/-- A content identifier is at least eight ASCII letters and digits. -/
def cidFault? (text : String) : Option FormatFault :=
  if 8 ≤ text.utf8ByteSize && text.toList.all Char.isAlphanum then none else some .notCid

/-- The characters of a decentralized identifier behind its method. -/
def isDidCharacter (c : Char) : Bool := c.isAlphanum || ['.', '_', ':', '%', '-'].contains c

/-- The fault in what stands behind `did:`, given as method and rest. -/
def didPartsFault? (method rest : String) : Option FormatFault :=
  if method.toList.isEmpty || !method.toList.all (fun c => c.isLower || c.isDigit) then
    some (.badMethod method)
  else if rest.toList.isEmpty || rest.toList.getLast? == some ':' then some .noMethodIdentifier
  else if !rest.toList.all isDidCharacter then some .badMethodIdentifier
  else none

/-- A decentralized identifier is `did`, a method and an identifier with colons
between; further colons belong to the identifier. -/
def didFault? (text : String) : Option FormatFault :=
  let (scheme, behind) := (Text.cut? ':' text).getD (text, "")
  if scheme ≠ "did" then some .notDid
  else
    let (method, rest) := (Text.cut? ':' behind).getD (behind, "")
    didPartsFault? method rest

/-- The fault of one label of a handle. Unlike the labels of identifiers these may
start with a digit. -/
def handleLabelFault? (label : String) : Option FormatFault :=
  if label.toList.isEmpty || domainLabelLimit < label.utf8ByteSize then some (.badLabel label)
  else if !label.toList.all isLabelCharacter then some (.badLabelCharacter label)
  else if label.toList.head? == some '-' || label.toList.getLast? == some '-' then
    some (.outerHyphen label)
  else none

/-- A handle is a host name of at least two labels of which the last starts with a
letter. -/
def handleFault? (text : String) : Option FormatFault :=
  let labels := Text.split '.' text
  if hostnameLimit < text.utf8ByteSize then some .handleTooLong
  else if labels.length < 2 then some .tooFewLabels
  else match labels.findSome? handleLabelFault? with
    | some fault => some fault
    | none =>
      if startsWithLetter (labels.getLastD "").toList then none else some .badTopLabel

/-- What opens with `did:` must be a decentralized identifier, anything else a
handle. -/
def atIdentifierFault? (text : String) : Option FormatFault :=
  if (Text.afterOpening? "did:" text).isSome then didFault? text else handleFault? text

/-- Whether a character ends the authority of an at-uri. -/
def endsAuthority (c : Char) : Bool := c == '/' || c == '?' || c == '#'

/-- An at-uri is `at://` and an authority; what follows the authority is free. -/
def atUriFault? (text : String) : Option FormatFault :=
  match Text.afterOpening? "at://" text with
  | none => some .notAtUri
  | some rest =>
    let authority := String.ofList (rest.toList.takeWhile fun c => !endsAuthority c)
    if authority.toList.isEmpty then some .noAuthority
    else (atIdentifierFault? authority).map .authority

/-- A timestamp identifier is thirteen characters of the sortable base-32 alphabet. -/
def tidFault? (text : String) : Option FormatFault :=
  if text.utf8ByteSize ≠ 13 then some .notTidLength
  else if text.toList.all (fun c => c.isLower || ('2' ≤ c && c ≤ '7')) then none
  else some .notTidCharacter

/-- The characters of a record key. -/
def isKeyCharacter (c : Char) : Bool := c.isAlphanum || ['-', '_', '.', '~', ':'].contains c

/-- A record key has at most 512 characters of a small alphabet; one dot and two
dots are reserved. -/
def recordKeyFault? (text : String) : Option FormatFault :=
  if text.toList.isEmpty || 512 < text.utf8ByteSize then some .keyLength
  else if text = "." ∨ text = ".." then some .reservedKey
  else if text.toList.all isKeyCharacter then none
  else some .keyCharacter

/-- The characters of a scheme behind its first. -/
def isSchemeCharacter (c : Char) : Bool := c.isAlphanum || ['+', '-', '.'].contains c

/-- A uri is a scheme, a colon and something without white space. -/
def uriFault? (text : String) : Option FormatFault :=
  match Text.cut? ':' text with
  | none => some .noScheme
  | some (scheme, rest) =>
    if !startsWithLetter scheme.toList || !scheme.toList.all isSchemeCharacter then
      some (.badScheme scheme)
    else if rest.toList.isEmpty || rest.toList.any Text.isBlank then some .badHierarchy
    else none

/-- Whether a text can be a language tag's first subtag: two or three letters, or
the letter i or x. -/
def isPrimarySubtag (subtag : String) : Bool :=
  let size := subtag.utf8ByteSize
  ((2 ≤ size && size ≤ 3) || subtag == "i" || subtag == "x") && subtag.toList.all Char.isAlpha

/-- Whether a text can be a later subtag: one to eight letters and digits. -/
def isSubtag (subtag : String) : Bool :=
  !subtag.toList.isEmpty && subtag.utf8ByteSize ≤ 8 && subtag.toList.all Char.isAlphanum

/-- A language tag is subtags with hyphens between. -/
def languageFault? (text : String) : Option FormatFault :=
  let subtags := Text.split '-' text
  let primary := subtags.headD ""
  if !isPrimarySubtag primary then some (.badPrimary primary)
  else if (subtags.drop 1).all isSubtag then none
  else some .badSubtag

/-- The first fault of a dotted name's structure, as a format's fault. -/
def nsidFault? (text : String) : Option FormatFault :=
  (structureFault? text).map fun fault => .notNsid (.malformed text fault)

/-- The first fault of a datetime. -/
def datetimeFault? (text : String) : Option FormatFault :=
  match Datetime.check text with
  | .ok () => none
  | .error fault => some (.notDatetime fault)

/-- The first fault of a text under a format. -/
def fault? : StringFormat → String → Option FormatFault
  | .atIdentifier => atIdentifierFault?
  | .atUri => atUriFault?
  | .cid => cidFault?
  | .datetime => datetimeFault?
  | .did => didFault?
  | .handle => handleFault?
  | .nsid => nsidFault?
  | .tid => tidFault?
  | .recordKey => recordKeyFault?
  | .uri => uriFault?
  | .language => languageFault?

/-- Whether a text is of a format. -/
def accepts (format : StringFormat) (text : String) : Bool := (format.fault? text).isNone

end StringFormat

end LexiconSchema
