import LexiconSchema.Proofs.WellFormedIdentifiers

/-!
# Authorities and their host names

An authority is declared from its most general label down, and its host name has the same
labels the other way round. Mirroring the labels of any text twice gives the text back, however
many labels it has and even if some of them are empty. The checks of a host name do not depend
on the order of its labels, only the fault that is reported first does. So what is read of a
host name is the authority again, and an authority is refused together with its mirror image.

Main statement: `authorities_are_mirrored`.
-/

namespace LexiconSchema

/-- The text with its labels in reverse order. -/
def mirrored (text : String) : String := Text.join '.' (Text.split '.' text).reverse

section
variable (text : String)

/-- Mirroring neither makes nor loses a dot, so the labels stay what they are. -/
theorem split_mirrored : Text.split '.' (mirrored text) = (Text.split '.' text).reverse := by
  refine Text.split_join ?_ fun label member => ?_
  · exact List.reverse_ne_nil_iff.mpr (Text.split_ne_nil '.' text)
  · exact Text.not_mem_of_mem_split (List.mem_reverse.mp member)

/-- Mirroring twice gives the text back, empty labels included. -/
theorem mirrored_mirrored : mirrored (mirrored text) = text := by
  rw [mirrored, split_mirrored, List.reverse_reverse, Text.join_split]

/-- The mirrored text has the same size. -/
theorem utf8ByteSize_mirrored : (mirrored text).utf8ByteSize = text.utf8ByteSize := by
  rw [mirrored, Text.utf8ByteSize_join_reverse, Text.join_split]

end

/-- An authority of at most 253 bytes whose labels are all sound. -/
structure SoundAuthority (declared : String) : Prop where
  bounded : declared.utf8ByteSize ≤ hostnameLimit
  labels : ∀ label ∈ Text.split '.' declared, SoundLabel domainLabelLimit label

/-- What an authority is asked for it is asked for in any order of its labels. -/
theorem soundAuthority_mirrored_iff {declared : String} :
    SoundAuthority (mirrored declared) ↔ SoundAuthority declared := by
  constructor
  · rintro ⟨bounded, labels⟩
    rw [utf8ByteSize_mirrored] at bounded
    rw [split_mirrored] at labels
    exact ⟨bounded, fun label member => labels label (List.mem_reverse.mpr member)⟩
  · rintro ⟨bounded, labels⟩
    refine ⟨(utf8ByteSize_mirrored declared).symm ▸ bounded, ?_⟩
    rw [split_mirrored]
    exact fun label member => labels label (List.mem_reverse.mp member)

/-- The host name of a declared authority breaks no rule exactly if the authority is sound. -/
theorem hostnameFault?_declared_iff {declared : String} :
    hostnameFault? (Text.split '.' declared).reverse = none ↔ SoundAuthority declared := by
  rw [hostnameFault?_eq_none_iff, Text.utf8ByteSize_join_reverse, Text.join_split]
  constructor
  · rintro ⟨-, bounded, labels⟩
    exact ⟨bounded, fun label member => labels label (List.mem_reverse.mpr member)⟩
  · rintro ⟨bounded, labels⟩
    refine ⟨List.reverse_ne_nil_iff.mpr (Text.split_ne_nil '.' declared), bounded, ?_⟩
    exact fun label member => labels label (List.mem_reverse.mp member)

/-- A sound authority gives its mirror image, and nothing else gives anything. -/
theorem parseAuthority_eq_ok_iff {declared hostname : String} :
    parseAuthority declared = .ok hostname ↔
      SoundAuthority declared ∧ hostname = mirrored declared := by
  rw [← hostnameFault?_declared_iff, parseAuthority]
  cases hostnameFault? (Text.split '.' declared).reverse with
  | none =>
    constructor
    · intro given
      exact ⟨rfl, (Except.ok.inj given).symm⟩
    · rintro ⟨-, rfl⟩
      rfl
  | some fault =>
    constructor
    · intro given
      cases given
    · rintro ⟨silent, -⟩
      cases silent

/-- An authority that is not sound is refused as it is declared. -/
theorem parseAuthority_of_unsound {declared : String} (unsound : ¬ SoundAuthority declared) :
    ∃ fault, parseAuthority declared = .error (.badAuthority declared fault) := by
  rw [← hostnameFault?_declared_iff] at unsound
  obtain ⟨fault, found⟩ := Option.ne_none_iff_exists'.mp unsound
  exact ⟨fault, by rw [parseAuthority, found]⟩

/-- What is sound, label by label and character by character. -/
theorem soundLabel_iff {limit : Nat} {label : String} :
    SoundLabel limit label ↔ 1 ≤ label.utf8ByteSize ∧ label.utf8ByteSize ≤ limit ∧
      (∀ c ∈ label.toList, c.isAlphanum = true ∨ c = '-') ∧
      (∃ first rest, label.toList = first :: rest ∧ first.isAlpha = true) ∧
      label.toList.getLast? ≠ some '-' := by
  have spelled : (∀ c ∈ label.toList, isLabelCharacter c = true) ↔
      ∀ c ∈ label.toList, c.isAlphanum = true ∨ c = '-' := by
    simp only [isLabelCharacter, Bool.or_eq_true, beq_iff_eq]
  have opening : startsWithLetter label.toList = true ↔
      ∃ first rest, label.toList = first :: rest ∧ first.isAlpha = true := by
    rw [startsWithLetter]
    cases label.toList with
    | nil => simp
    | cons first rest => simp
  constructor
  · intro sound
    refine ⟨Nat.pos_of_ne_zero ?_, sound.bounded, spelled.mp sound.spelled,
      opening.mp sound.opening, sound.ending⟩
    exact fun empty => sound.present (String.utf8ByteSize_eq_zero_iff.mp empty)
  · rintro ⟨-, bounded, letters, start, ending⟩
    exact ⟨⟨bounded, opening.mpr start, spelled.mpr letters⟩, ending⟩

/-- Authorities are mirrored. A host name that is read from an authority has its labels in
reverse order and its size, and the authority is read from it again. An authority is refused
exactly if its mirror image is, each with an error that carries it as it is written. It is read
exactly if it has 1 to 253 bytes and each of its labels has 1 to 63, all of them ASCII letters,
digits and hyphens, the first a letter and the last no hyphen. -/
theorem authorities_are_mirrored (declared : String) :
    (∀ hostname, parseAuthority declared = .ok hostname →
      parseAuthority hostname = .ok declared ∧
      hostname.utf8ByteSize = declared.utf8ByteSize ∧
      Text.split '.' hostname = (Text.split '.' declared).reverse) ∧
    (∀ error, parseAuthority declared = .error error →
      (∃ fault, error = .badAuthority declared fault) ∧
      ∃ fault, parseAuthority (mirrored declared) =
        .error (.badAuthority (mirrored declared) fault)) ∧
    ((∃ hostname, parseAuthority declared = .ok hostname) ↔
      1 ≤ declared.utf8ByteSize ∧ declared.utf8ByteSize ≤ 253 ∧
      ∀ label ∈ Text.split '.' declared,
        1 ≤ label.utf8ByteSize ∧ label.utf8ByteSize ≤ 63 ∧
        (∀ c ∈ label.toList, c.isAlphanum = true ∨ c = '-') ∧
        (∃ first rest, label.toList = first :: rest ∧ first.isAlpha = true) ∧
        label.toList.getLast? ≠ some '-') := by
  refine ⟨fun hostname read => ?_, fun error refused => ?_, ?_, ?_⟩
  · obtain ⟨sound, rfl⟩ := parseAuthority_eq_ok_iff.mp read
    refine ⟨?_, utf8ByteSize_mirrored declared, split_mirrored declared⟩
    exact parseAuthority_eq_ok_iff.mpr
      ⟨soundAuthority_mirrored_iff.mpr sound, (mirrored_mirrored declared).symm⟩
  · have unsound : ¬ SoundAuthority declared := by
      intro sound
      rw [parseAuthority_eq_ok_iff.mpr ⟨sound, rfl⟩] at refused
      cases refused
    obtain ⟨fault, carried⟩ := parseAuthority_of_unsound unsound
    rw [carried] at refused
    refine ⟨⟨fault, (Except.error.inj refused).symm⟩, parseAuthority_of_unsound ?_⟩
    exact fun sound => unsound (soundAuthority_mirrored_iff.mp sound)
  · rintro ⟨hostname, read⟩
    obtain ⟨sound, -⟩ := parseAuthority_eq_ok_iff.mp read
    refine ⟨Nat.pos_of_ne_zero fun empty => ?_, sound.bounded,
      fun label member => soundLabel_iff.mp (sound.labels label member)⟩
    obtain rfl := String.utf8ByteSize_eq_zero_iff.mp empty
    exact (sound.labels "" (by decide)).present rfl
  · rintro ⟨-, bounded, labels⟩
    refine ⟨mirrored declared, parseAuthority_eq_ok_iff.mpr ⟨⟨bounded, ?_⟩, rfl⟩⟩
    exact fun label member => soundLabel_iff.mpr (labels label member)

/-- A declared authority and its host name mirror each other, and an empty label is refused in both
directions. -/
theorem authorities_are_mirrored_feed :
    (parseAuthority "com.example.feed" = .ok "feed.example.com" ∧
      parseAuthority "feed.example.com" = .ok "com.example.feed") ∧
    ∃ fault, parseAuthority "feed..com" = .error (.badAuthority "feed..com" fault) := by
  have read : parseAuthority "com.example.feed" = .ok "feed.example.com" := rfl
  have refused : parseAuthority "com..feed" =
      .error (.badAuthority "com..feed" (.label .empty)) := rfl
  refine ⟨⟨read, ((authorities_are_mirrored _).1 _ read).1⟩, ?_⟩
  obtain ⟨-, fault, carried⟩ := (authorities_are_mirrored _).2.1 _ refused
  exact ⟨fault, carried⟩

end LexiconSchema
