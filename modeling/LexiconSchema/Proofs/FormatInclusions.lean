import LexiconSchema.StringFormat.Syntax
import LexiconSchema.Proofs.DottedNames
import LexiconSchema.Proofs.Places

/-!
# Formats within formats

What each check of a format asks for is said here without the order in which its faults are
reported. From this follows which formats lie within others: what is made of labels with dots
between, or of the sortable alphabet, is a record key; a decentralized identifier is a uri and,
but for its size and percent signs, a record key; an at-uri is a uri unless it has white space;
and a host name of an identifier is a handle once it has two labels.

Main statement: `formats_within_formats`.
-/

namespace LexiconSchema

/-! Characters. -/

/-- ASCII letters and digits lie between `0` and `z`. -/
theorem range_of_isAlphanum {c : Char} (alphanumeric : c.isAlphanum = true) :
    48 ≤ c.toNat ∧ c.toNat ≤ 122 := by
  have shape : c.isAlphanum = ((decide (65 ≤ c.val ∧ c.val ≤ 90) ||
      decide (97 ≤ c.val) && decide (c.val ≤ 122)) ||
        decide (48 ≤ c.val) && decide (c.val ≤ 57)) := rfl
  simp only [shape, Bool.or_eq_true, Bool.and_eq_true, decide_eq_true_eq,
    UInt32.le_iff_toNat_le, UInt32.reduceToNat] at alphanumeric
  simp only [Char.toNat]
  omega

/-- No letter and no digit is white space. -/
theorem Text.isBlank_of_isAlphanum {c : Char} (alphanumeric : c.isAlphanum = true) :
    isBlank c = false := by
  have range := range_of_isAlphanum alphanumeric
  simp only [isBlank, isWithin, blankRanges, List.any_cons, List.any_nil, Bool.or_eq_false_iff,
    Bool.and_eq_false_iff, decide_eq_false_iff_not, and_true]
  omega

namespace StringFormat

variable {c : Char} {text : String}

/-- The characters of labels are characters of record keys. -/
theorem isKeyCharacter_of_isLabelCharacter (label : isLabelCharacter c = true) :
    isKeyCharacter c = true := by
  simp only [isLabelCharacter, Bool.or_eq_true, beq_iff_eq] at label
  rcases label with alphanumeric | rfl
  · simp [isKeyCharacter, alphanumeric]
  · decide

/-- Besides the percent sign the characters of decentralized identifiers are characters of
record keys. -/
theorem isKeyCharacter_of_isDidCharacter (did : isDidCharacter c = true) (other : c ≠ '%') :
    isKeyCharacter c = true := by
  simp only [isDidCharacter, isKeyCharacter, List.contains_eq_mem, List.mem_cons,
    List.not_mem_nil, or_false, Bool.or_eq_true, decide_eq_true_eq] at did ⊢
  grind

/-- No character of a decentralized identifier is white space. -/
theorem isBlank_of_isDidCharacter (did : isDidCharacter c = true) : Text.isBlank c = false := by
  simp only [isDidCharacter, List.contains_eq_mem, List.mem_cons, List.not_mem_nil, or_false,
    Bool.or_eq_true, decide_eq_true_eq] at did
  rcases did with alphanumeric | rfl | rfl | rfl | rfl | rfl
  · exact Text.isBlank_of_isAlphanum alphanumeric
  all_goals decide

/-- The characters of a method are letters and digits. -/
theorem isAlphanum_of_methodCharacter (method : (c.isLower || c.isDigit) = true) :
    c.isAlphanum = true := by
  have shape : c.isAlphanum = (c.isUpper || c.isLower || c.isDigit) := rfl
  rw [shape, Bool.or_assoc, method, Bool.or_true]

/-- The sortable alphabet is made of letters and digits. -/
theorem isAlphanum_of_sortable (sortable : (c.isLower || ('2' ≤ c && c ≤ '7')) = true) :
    c.isAlphanum = true := by
  refine isAlphanum_of_methodCharacter ?_
  rcases (Bool.or_eq_true ..).mp sortable with lower | between
  · rw [lower, Bool.true_or]
  · have digit : c.isDigit = (decide (48 ≤ c.val) && decide (c.val ≤ 57)) := rfl
    have bounds : '2'.val.toNat = 50 ∧ '7'.val.toNat = 55 := ⟨rfl, rfl⟩
    simp only [Bool.and_eq_true, decide_eq_true_eq, Char.le_def, UInt32.le_iff_toNat_le] at between
    simp only [digit, Bool.or_eq_true, Bool.and_eq_true, decide_eq_true_eq, UInt32.le_iff_toNat_le,
      UInt32.reduceToNat]
    omega

/-! What the checks ask for. -/

/-- A format accepts a text exactly if the format's check is silent. -/
theorem accepts_iff {format : StringFormat} : format.accepts text = true ↔ format.fault? text = none :=
  Option.isNone_iff_eq_none

/-- A record key has characters, not too many, is neither of the reserved ones and has only
characters of record keys. -/
theorem recordKeyFault?_eq_none_iff :
    recordKeyFault? text = none ↔ text ≠ "" ∧ text.utf8ByteSize ≤ 512 ∧ text ≠ "." ∧ text ≠ ".." ∧
      ∀ c ∈ text.toList, isKeyCharacter c = true := by
  have rules : recordKeyFault? text = none ↔ (text ≠ "" ∧ text.utf8ByteSize ≤ 512) ∧
      (text ≠ "." ∧ text ≠ "..") ∧ ∀ c ∈ text.toList, isKeyCharacter c = true := by
    simp [recordKeyFault?, ite_fault_eq_none_iff]
  rw [rules, and_assoc, and_assoc]

/-- A timestamp identifier has thirteen bytes of the sortable alphabet. -/
theorem tidFault?_eq_none_iff :
    tidFault? text = none ↔ text.utf8ByteSize = 13 ∧
      ∀ c ∈ text.toList, (c.isLower || ('2' ≤ c && c ≤ '7')) = true := by
  rw [tidFault?, ite_fault_eq_none_iff, Decidable.not_not, ← List.all_eq_true]
  simp only [ite_eq_left_iff, reduceCtorEq, imp_false, Decidable.not_not]

/-- A label of a handle, which may start with a digit but neither start nor end with a
hyphen. -/
structure HandleLabel (label : String) : Prop where
  present : label ≠ ""
  bounded : label.utf8ByteSize ≤ domainLabelLimit
  spelled : ∀ c ∈ label.toList, isLabelCharacter c = true
  opening : label.toList.head? ≠ some '-'
  ending : label.toList.getLast? ≠ some '-'

/-- The check of a handle's label is silent exactly if the label keeps all rules. -/
theorem handleLabelFault?_eq_none_iff {label : String} :
    handleLabelFault? label = none ↔ HandleLabel label := by
  have rules : handleLabelFault? label = none ↔ (label ≠ "" ∧
      label.utf8ByteSize ≤ domainLabelLimit) ∧ (∀ c ∈ label.toList, isLabelCharacter c = true) ∧
      label.toList.head? ≠ some '-' ∧ label.toList.getLast? ≠ some '-' := by
    simp [handleLabelFault?, ite_fault_eq_none_iff]
  rw [rules]
  constructor
  · rintro ⟨⟨present, bounded⟩, spelled, opening, ending⟩
    exact ⟨present, bounded, spelled, opening, ending⟩
  · rintro ⟨present, bounded, spelled, opening, ending⟩
    exact ⟨⟨present, bounded⟩, spelled, opening, ending⟩

/-- A handle is not too large and has at least two labels, each fit for a handle, of which the
last starts with a letter. -/
theorem handleFault?_eq_none_iff :
    handleFault? text = none ↔ text.utf8ByteSize ≤ hostnameLimit ∧
      2 ≤ (Text.split '.' text).length ∧ (∀ label ∈ Text.split '.' text, HandleLabel label) ∧
      startsWithLetter ((Text.split '.' text).getLastD "").toList = true := by
  have silent : (∀ label ∈ Text.split '.' text, HandleLabel label) ↔
      (Text.split '.' text).findSome? handleLabelFault? = none := by
    simp only [List.findSome?_eq_none_iff, handleLabelFault?_eq_none_iff]
  rw [handleFault?, ite_fault_eq_none_iff, ite_fault_eq_none_iff, Nat.not_lt, Nat.not_lt, silent]
  cases (Text.split '.' text).findSome? handleLabelFault? with
  | none => simp
  | some fault => simp

/-- The parts of a decentralized identifier behind `did:`: a method of lower case letters and
digits, and an identifier that does not end with a colon. -/
structure DidParts (method rest : String) : Prop where
  methodPresent : method ≠ ""
  methodSpelled : ∀ c ∈ method.toList, (c.isLower || c.isDigit) = true
  present : rest ≠ ""
  ending : rest.toList.getLast? ≠ some ':'
  spelled : ∀ c ∈ rest.toList, isDidCharacter c = true

/-- The check of what stands behind `did:` is silent exactly if both parts keep all rules. -/
theorem didPartsFault?_eq_none_iff {method rest : String} :
    didPartsFault? method rest = none ↔ DidParts method rest := by
  have rules : didPartsFault? method rest = none ↔
      (method ≠ "" ∧ ∀ c ∈ method.toList, (c.isLower || c.isDigit) = true) ∧
      (rest ≠ "" ∧ rest.toList.getLast? ≠ some ':') ∧
      ∀ c ∈ rest.toList, isDidCharacter c = true := by
    simp [didPartsFault?, ite_fault_eq_none_iff, Decidable.or_iff_not_imp_left]
  rw [rules]
  constructor
  · rintro ⟨⟨methodPresent, methodSpelled⟩, ⟨present, ending⟩, spelled⟩
    exact ⟨methodPresent, methodSpelled, present, ending, spelled⟩
  · rintro ⟨methodPresent, methodSpelled, present, ending, spelled⟩
    exact ⟨⟨methodPresent, methodSpelled⟩, ⟨present, ending⟩, spelled⟩

/-- A decentralized identifier is `did:`, a method, a colon and an identifier. -/
theorem didFault?_eq_none_iff :
    didFault? text = none ↔
      ∃ method rest, text = "did:" ++ method ++ ":" ++ rest ∧ DidParts method rest := by
  constructor
  · intro silent
    cases cut : Text.cut? ':' text with
    | none =>
      simp only [didFault?, cut, Option.getD_none, ite_fault_eq_none_iff] at silent
      exact absurd rfl (didPartsFault?_eq_none_iff.mp silent.2).methodPresent
    | some sides =>
      obtain ⟨scheme, behind⟩ := sides
      obtain ⟨sum, -⟩ := Text.cut?_eq_some_iff.mp cut
      simp only [didFault?, cut, Option.getD_some, ite_fault_eq_none_iff,
        Decidable.not_not] at silent
      obtain ⟨rfl, silent⟩ := silent
      cases second : Text.cut? ':' behind with
      | none =>
        rw [second] at silent
        exact absurd rfl (didPartsFault?_eq_none_iff.mp silent).present
      | some parts =>
        obtain ⟨method, rest⟩ := parts
        obtain ⟨later, -⟩ := Text.cut?_eq_some_iff.mp second
        rw [second] at silent
        refine ⟨method, rest, ?_, didPartsFault?_eq_none_iff.mp silent⟩
        rw [sum, later, ← String.append_assoc, ← String.append_assoc]
        rfl
  · rintro ⟨method, rest, rfl, parts⟩
    have first : Text.cut? ':' ("did:" ++ method ++ ":" ++ rest) =
        some ("did", method ++ ":" ++ rest) := by
      refine Text.cut?_eq_some_iff.mpr ⟨?_, by decide⟩
      rw [← String.append_assoc, ← String.append_assoc]
      rfl
    have second : Text.cut? ':' (method ++ ":" ++ rest) = some (method, rest) := by
      refine Text.cut?_eq_some_iff.mpr ⟨rfl, fun member => ?_⟩
      exact absurd (parts.methodSpelled ':' member) (by decide)
    simp only [didFault?, first, second, Option.getD_some]
    exact didPartsFault?_eq_none_iff.mpr parts

/-- A uri is a scheme, a colon and something without white space. -/
theorem uriFault?_eq_none_iff :
    uriFault? text = none ↔ ∃ scheme rest, text = scheme ++ ":" ++ rest ∧
      startsWithLetter scheme.toList = true ∧ (∀ c ∈ scheme.toList, isSchemeCharacter c = true) ∧
      rest ≠ "" ∧ ∀ c ∈ rest.toList, Text.isBlank c = false := by
  constructor
  · intro silent
    cases cut : Text.cut? ':' text with
    | none =>
      rw [uriFault?, cut] at silent
      cases silent
    | some sides =>
      obtain ⟨scheme, rest⟩ := sides
      obtain ⟨sum, -⟩ := Text.cut?_eq_some_iff.mp cut
      rw [uriFault?, cut] at silent
      obtain ⟨⟨letter, spelled⟩, present, unblank⟩ : (startsWithLetter scheme.toList = true ∧
          ∀ c ∈ scheme.toList, isSchemeCharacter c = true) ∧
          rest ≠ "" ∧ ∀ c ∈ rest.toList, Text.isBlank c = false := by
        simpa [ite_fault_eq_none_iff] using silent
      exact ⟨scheme, rest, sum, letter, spelled, present, unblank⟩
  · rintro ⟨scheme, rest, rfl, letter, spelled, present, unblank⟩
    have cut : Text.cut? ':' (scheme ++ ":" ++ rest) = some (scheme, rest) := by
      refine Text.cut?_eq_some_iff.mpr ⟨rfl, fun member => ?_⟩
      exact absurd (spelled ':' member) (by decide)
    have filled : rest.toList ≠ [] := by simpa using present
    have all : scheme.toList.all isSchemeCharacter = true := List.all_eq_true.mpr spelled
    have none : rest.toList.any Text.isBlank = false := by simpa using unblank
    simp [uriFault?, cut, letter, all, filled, none]

/-- An at-uri starts with its scheme. -/
theorem opening_of_atUriFault? (silent : atUriFault? text = none) :
    ∃ rest, text = "at://" ++ rest := by
  cases opened : Text.afterOpening? "at://" text with
  | none =>
    rw [atUriFault?, opened] at silent
    cases silent
  | some rest => exact ⟨rest, Text.afterOpening?_eq_some_iff.mp opened⟩

/-! What lies within what. -/

/-- Parts that are spelled with letters, digits and hyphens make a record key when dots stand
between them. -/
theorem recordKey_of_parts (bounded : text.utf8ByteSize ≤ 512)
    (parts : ∀ part ∈ Text.split '.' text, Identifier.Spelled part) :
    recordKeyFault? text = none := by
  have proper (reserved : String) (hollow : "" ∈ Text.split '.' reserved) : text ≠ reserved := by
    rintro rfl
    exact absurd rfl (parts "" hollow).1
  refine recordKeyFault?_eq_none_iff.mpr
    ⟨proper "" (by decide), bounded, proper "." (by decide), proper ".." (by decide), ?_⟩
  intro c member
  rw [← Text.join_split '.' text] at member
  rcases Text.mem_join member with rfl | ⟨part, among, inside⟩
  · decide
  · exact isKeyCharacter_of_isLabelCharacter ((parts part among).2 c inside)

/-- Timestamp identifiers are record keys. -/
theorem recordKey_of_tid (silent : tidFault? text = none) : recordKeyFault? text = none := by
  obtain ⟨size, sortable⟩ := tidFault?_eq_none_iff.mp silent
  have proper (reserved : String) (other : reserved.utf8ByteSize ≠ 13) : text ≠ reserved := by
    rintro rfl
    exact other size
  refine recordKeyFault?_eq_none_iff.mpr
    ⟨proper "" (by decide), by omega, proper "." (by decide), proper ".." (by decide), ?_⟩
  intro c member
  simp [isKeyCharacter, isAlphanum_of_sortable (sortable c member)]

/-- What is a handle is a record key. -/
theorem recordKey_of_handle (silent : handleFault? text = none) : recordKeyFault? text = none := by
  obtain ⟨bounded, -, labels, -⟩ := handleFault?_eq_none_iff.mp silent
  refine recordKey_of_parts (Nat.le_trans bounded (by decide)) fun part among => ?_
  exact ⟨(labels part among).present, (labels part among).spelled⟩

/-- A structured text is a record key. -/
theorem recordKey_of_structured (structured : Structured text) : recordKeyFault? text = none := by
  obtain ⟨bounded, labels, name, cut, -, sound, soundName⟩ := structured
  refine recordKey_of_parts (Nat.le_trans bounded (by decide)) fun part among => ?_
  rw [cut] at among
  rcases List.mem_append.mp among with label | last
  · exact Identifier.spelled_of_worded (sound part label).toWorded
  · obtain rfl := List.mem_singleton.mp last
    exact Identifier.spelled_of_worded soundName.toWorded

/-- Dotted names that are accepted are record keys unless they end with `.*`. -/
theorem recordKey_iff_of_nsid (silent : nsidFault? text = none) :
    recordKeyFault? text = none ↔ ∀ body, text ≠ body ++ ".*" := by
  have structured := structureFault?_eq_none_iff.mp (Option.map_eq_none_iff.mp silent)
  constructor
  · rintro key body rfl
    have spelled := (recordKeyFault?_eq_none_iff.mp key).2.2.2.2
    exact absurd (spelled '*' (by simp)) (by decide)
  · intro unmarked
    rw [Text.beforeEnding?_eq_none_iff.mpr unmarked] at structured
    exact recordKey_of_structured structured

/-- Decentralized identifiers are record keys unless they are too large or have a percent
sign. -/
theorem recordKey_iff_of_did (silent : didFault? text = none) :
    recordKeyFault? text = none ↔ text.utf8ByteSize ≤ 512 ∧ '%' ∉ text.toList := by
  obtain ⟨method, rest, rfl, parts⟩ := didFault?_eq_none_iff.mp silent
  constructor
  · intro key
    obtain ⟨-, bounded, -, -, spelled⟩ := recordKeyFault?_eq_none_iff.mp key
    exact ⟨bounded, fun member => absurd (spelled '%' member) (by decide)⟩
  · rintro ⟨bounded, unescaped⟩
    have proper (reserved : String) (other : reserved.toList.head? ≠ some 'd') :
        "did:" ++ method ++ ":" ++ rest ≠ reserved := by
      rintro rfl
      exact other (by simp)
    refine recordKeyFault?_eq_none_iff.mpr
      ⟨proper "" (by decide), bounded, proper "." (by decide), proper ".." (by decide), ?_⟩
    intro c member
    simp only [String.toList_append, List.mem_append] at member unescaped
    rcases member with ((scheme | inMethod) | colon) | inRest
    · have spelled : "did:".toList.all isKeyCharacter = true := by decide
      exact List.all_eq_true.mp spelled c scheme
    · simp [isKeyCharacter, isAlphanum_of_methodCharacter (parts.methodSpelled c inMethod)]
    · obtain rfl : c = ':' := by simpa using colon
      decide
    · refine isKeyCharacter_of_isDidCharacter (parts.spelled c inRest) ?_
      rintro rfl
      exact unescaped (.inr inRest)

/-- Decentralized identifiers are uris. -/
theorem uri_of_did (silent : didFault? text = none) : uriFault? text = none := by
  obtain ⟨method, rest, rfl, parts⟩ := didFault?_eq_none_iff.mp silent
  have spelled : "did".toList.all isSchemeCharacter = true := by decide
  refine uriFault?_eq_none_iff.mpr
    ⟨"did", method ++ ":" ++ rest, ?_, by decide, List.all_eq_true.mp spelled, ?_, ?_⟩
  · rw [← String.append_assoc, ← String.append_assoc]
    rfl
  · intro empty
    have colon : ':' ∈ (method ++ ":" ++ rest).toList := by simp
    rw [empty] at colon
    cases colon
  · intro c member
    simp only [String.toList_append, List.mem_append] at member
    rcases member with (inMethod | colon) | inRest
    · exact Text.isBlank_of_isAlphanum
        (isAlphanum_of_methodCharacter (parts.methodSpelled c inMethod))
    · obtain rfl : c = ':' := by simpa using colon
      decide
    · exact isBlank_of_isDidCharacter (parts.spelled c inRest)

/-- No uri has white space, not even in its scheme. -/
theorem unblank_of_uri (silent : uriFault? text = none) :
    ∀ c ∈ text.toList, Text.isBlank c = false := by
  obtain ⟨scheme, rest, rfl, -, spelled, -, unblank⟩ := uriFault?_eq_none_iff.mp silent
  intro c member
  simp only [String.toList_append, List.mem_append] at member
  rcases member with (inScheme | colon) | inRest
  · have character := spelled c inScheme
    simp only [isSchemeCharacter, List.contains_eq_mem, List.mem_cons, List.not_mem_nil, or_false,
      Bool.or_eq_true, decide_eq_true_eq] at character
    rcases character with alphanumeric | rfl | rfl | rfl
    · exact Text.isBlank_of_isAlphanum alphanumeric
    all_goals decide
  · obtain rfl : c = ':' := by simpa using colon
    decide
  · exact unblank c inRest

/-- At-uris are uris unless they have white space. -/
theorem uri_iff_of_atUri (silent : atUriFault? text = none) :
    uriFault? text = none ↔ ∀ c ∈ text.toList, Text.isBlank c = false := by
  refine ⟨unblank_of_uri, fun unblank => ?_⟩
  obtain ⟨rest, rfl⟩ := opening_of_atUriFault? silent
  have sum : "at://" ++ rest = "at" ++ ":" ++ ("//" ++ rest) := by
    rw [← String.append_assoc]
    rfl
  rw [sum] at unblank ⊢
  have spelled : "at".toList.all isSchemeCharacter = true := by decide
  refine uriFault?_eq_none_iff.mpr
    ⟨"at", "//" ++ rest, rfl, by decide, List.all_eq_true.mp spelled, ?_, ?_⟩
  · intro empty
    have slash : '/' ∈ ("//" ++ rest).toList := by simp
    rw [empty] at slash
    cases slash
  · intro c member
    refine unblank c ?_
    rw [String.toList_append]
    exact List.mem_append_right _ member

/-- A label of an identifier is fit for a handle. -/
theorem handleLabel_of_sound {label : String} (sound : SoundLabel domainLabelLimit label) :
    HandleLabel label := by
  refine ⟨sound.present, sound.bounded, sound.spelled, fun hyphen => ?_, sound.ending⟩
  have opening := sound.opening
  rw [startsWithLetter, hyphen] at opening
  cases opening

/-- The host name of an identifier is a handle exactly if it has two labels. -/
theorem handle_iff_of_hostname {id : Identifier} (formed : id.WellFormed) :
    handleFault? id.hostname = none ↔ 2 ≤ id.labels.length := by
  rw [handleFault?_eq_none_iff, formed.split_hostname, List.length_reverse]
  refine ⟨fun ⟨_, enough, _⟩ => enough, fun enough => ⟨?_, enough, ?_, ?_⟩⟩
  · rw [Identifier.hostname, Text.utf8ByteSize_join_reverse]
    exact formed.bounded
  · exact fun label member =>
      handleLabel_of_sound (formed.labels label (List.mem_reverse.mp member))
  · obtain ⟨first, others, labels⟩ := List.exists_cons_of_ne_nil formed.labelled
    have last : id.labels.reverse.getLastD "" = first := by simp [labels]
    rw [last]
    exact (formed.labels first (labels ▸ List.mem_cons_self)).opening

end StringFormat

/-- Formats lie within formats. Timestamp identifiers and handles are record keys, and so are
dotted names, exactly when no `.*` is at their end. A decentralized identifier is a uri, and a
record key exactly when it is not too large and has no percent sign. An at-uri is a uri exactly
when it has no white space. The host name of an identifier is a handle exactly when it has two
labels. -/
theorem formats_within_formats (text : String) :
    (StringFormat.tid.accepts text = true → StringFormat.recordKey.accepts text = true) ∧
    (StringFormat.handle.accepts text = true → StringFormat.recordKey.accepts text = true) ∧
    (StringFormat.nsid.accepts text = true →
      (StringFormat.recordKey.accepts text = true ↔ ∀ body, text ≠ body ++ ".*")) ∧
    (StringFormat.did.accepts text = true →
      (StringFormat.recordKey.accepts text = true ↔
        text.utf8ByteSize ≤ 512 ∧ '%' ∉ text.toList) ∧
      StringFormat.uri.accepts text = true) ∧
    (StringFormat.atUri.accepts text = true →
      (StringFormat.uri.accepts text = true ↔ ∀ c ∈ text.toList, Text.isBlank c = false)) ∧
    ∀ id, Identifier.parse text = .ok id →
      (StringFormat.handle.accepts id.hostname = true ↔ 2 ≤ id.labels.length) := by
  simp only [StringFormat.accepts_iff]
  refine ⟨StringFormat.recordKey_of_tid, StringFormat.recordKey_of_handle,
    StringFormat.recordKey_iff_of_nsid, fun silent => ⟨StringFormat.recordKey_iff_of_did silent,
      StringFormat.uri_of_did silent⟩, StringFormat.uri_iff_of_atUri, fun id parsed => ?_⟩
  exact StringFormat.handle_iff_of_hostname (Identifier.parse_eq_ok_iff.mp parsed).1

/-- Texts on either side of the borders: those that lie in both formats, and those that lie in one
only. -/
theorem formats_within_formats_feed :
    StringFormat.recordKey.accepts "3jzfcijpj2z2a" = true ∧
    StringFormat.recordKey.accepts "9gag.com" = true ∧
    StringFormat.recordKey.accepts "com.example.feed" = true ∧
    (StringFormat.recordKey.accepts "did:plc:abc:d%20e" ≠ true ∧
      StringFormat.uri.accepts "did:plc:abc:d%20e" = true) ∧
    StringFormat.uri.accepts "at://example.com/a b" ≠ true ∧
    StringFormat.handle.accepts
      (Identifier.hostname ⟨["com", "example"], "feed", "reply"⟩) = true := by
  refine ⟨?_, ?_, ?_, ?_, ?_, ?_⟩
  · exact (formats_within_formats "3jzfcijpj2z2a").1 (by decide)
  · exact (formats_within_formats "9gag.com").2.1 (by decide)
  · exact ((formats_within_formats "com.example.feed").2.2.1 (by decide)).mpr
      (Text.beforeEnding?_eq_none_iff.mp rfl)
  · obtain ⟨key, uri⟩ := (formats_within_formats "did:plc:abc:d%20e").2.2.2.1 (by decide)
    exact ⟨fun accepted => absurd (key.mp accepted).2 (by decide), uri⟩
  · have exact := (formats_within_formats "at://example.com/a b").2.2.2.2.1 (by decide)
    exact fun accepted => absurd (exact.mp accepted ' ' (by decide)) (by decide)
  · exact ((formats_within_formats "com.example.feed#reply").2.2.2.2.2 _ rfl).mpr (by decide)

end LexiconSchema
