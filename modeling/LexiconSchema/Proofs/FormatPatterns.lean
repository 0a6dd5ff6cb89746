import LexiconSchema.Proofs.FormatInclusions
import Mathlib.Computability.RegularExpressions
import Mathlib.Data.List.TakeWhile

/-!
# Patterns of formats

The identifiers of accounts have grammars that are regular, and here they are written down as
regular expressions. The checks of `did` and `handle` cut a text into parts and look at each part
on its own; still they accept exactly what the expressions match, whatever characters the text
has. A character outside ASCII is matched by no expression, so the limits, which count bytes,
count characters wherever it matters. What opens with `did:` is never a handle, hence the choice
between the two checks is no choice: either accepts or neither does. And no character that ends
an authority stands in one, hence an at-uri is cut where its authority ends.

Main statement: `formats_have_patterns`.
-/

namespace LexiconSchema

/-! Patterns of texts. -/

namespace Text

/-- A pattern of texts. -/
abbrev Pattern := RegularExpression Char

/-- The text is matched as a whole. -/
def Matches (pattern : Pattern) (text : List Char) : Prop := text ∈ pattern.matches'

/-- The characters from one to another. -/
def span (first last : Char) : List Char :=
  (List.range' first.toNat (last.toNat + 1 - first.toNat)).map Char.ofNat

/-- One of the characters. -/
def oneOf : List Char → Pattern
  | [] => 0
  | c :: others => .char c + oneOf others

/-- These characters in this order. -/
def word : List Char → Pattern
  | [] => 1
  | c :: rest => .char c * word rest

/-- At least one of what the pattern matches. -/
def repeated (pattern : Pattern) : Pattern := pattern * pattern.star

/-- What the pattern matches, or nothing. -/
def optional (pattern : Pattern) : Pattern := 1 + pattern

section
variable {characters text : List Char} {pattern other : Pattern}

/-- A sequence of two patterns matches what can be cut into a match of each. -/
theorem matches_mul_iff : Matches (pattern * other) text ↔
    ∃ front back, Matches pattern front ∧ Matches other back ∧ text = front ++ back := by
  constructor
  · intro matched
    obtain ⟨front, first, back, second, rfl⟩ := Language.mem_mul.mp matched
    exact ⟨front, back, first, second, rfl⟩
  · rintro ⟨front, back, first, second, rfl⟩
    exact Language.mem_mul.mpr ⟨front, first, back, second, rfl⟩

/-- An optional pattern matches nothing, or what the pattern matches. -/
theorem matches_optional_iff : Matches (optional pattern) text ↔ text = [] ∨ Matches pattern text :=
  (Language.mem_add ..).trans (or_congr_left (Language.mem_one text))

/-- Between two ASCII characters stand those whose numbers are between theirs. -/
theorem mem_span_iff {first last c : Char} (ascii : last.toNat < 128) :
    c ∈ span first last ↔ first.toNat ≤ c.toNat ∧ c.toNat ≤ last.toNat := by
  simp only [span, List.mem_map, List.mem_range'_1]
  constructor
  · rintro ⟨number, between, rfl⟩
    have valid : number.isValidChar := .inl (by omega)
    have same : (Char.ofNat number).toNat = number := by
      rw [Char.ofNat, dif_pos valid]
      rfl
    omega
  · intro between
    exact ⟨c.toNat, by omega, Char.ofNat_toNat c⟩

/-- A choice of characters matches each of them, alone. -/
theorem matches_oneOf_iff : Matches (oneOf characters) text ↔ ∃ c ∈ characters, text = [c] := by
  induction characters with
  | nil =>
    constructor
    · intro matched
      cases matched
    · rintro ⟨c, member, -⟩
      cases member
  | cons c others inductionHypothesis =>
    rw [List.exists_mem_cons_iff, ← inductionHypothesis]
    exact Language.mem_add ..

/-- A character before what a pattern matches. -/
theorem matches_oneOf_mul_iff : Matches (oneOf characters * pattern) text ↔
    ∃ c ∈ characters, ∃ rest, Matches pattern rest ∧ text = c :: rest := by
  rw [matches_mul_iff]
  constructor
  · rintro ⟨front, rest, one, later, rfl⟩
    obtain ⟨c, listed, rfl⟩ := matches_oneOf_iff.mp one
    exact ⟨c, listed, rest, later, rfl⟩
  · rintro ⟨c, listed, rest, later, rfl⟩
    exact ⟨[c], rest, matches_oneOf_iff.mpr ⟨c, listed, rfl⟩, later, rfl⟩

/-- A character behind what a pattern matches. -/
theorem matches_mul_oneOf_iff : Matches (pattern * oneOf characters) text ↔
    ∃ front last, Matches pattern front ∧ last ∈ characters ∧ text = front ++ [last] := by
  rw [matches_mul_iff]
  constructor
  · rintro ⟨front, back, first, one, rfl⟩
    obtain ⟨last, listed, rfl⟩ := matches_oneOf_iff.mp one
    exact ⟨front, last, first, listed, rfl⟩
  · rintro ⟨front, last, first, listed, rfl⟩
    exact ⟨front, [last], first, matches_oneOf_iff.mpr ⟨last, listed, rfl⟩, rfl⟩

/-- A word matches itself only. -/
theorem matches_word_iff {letters : List Char} : Matches (word letters) text ↔ text = letters := by
  induction letters generalizing text with
  | nil => exact Language.mem_one text
  | cons c rest inductionHypothesis =>
    rw [word, matches_mul_iff]
    constructor
    · rintro ⟨front, back, first, later, rfl⟩
      obtain rfl : front = [c] := first
      obtain rfl := inductionHypothesis.mp later
      rfl
    · rintro rfl
      exact ⟨[c], rest, rfl, inductionHypothesis.mpr rfl, rfl⟩

/-- A repeated choice of characters matches the texts made of these characters. -/
theorem matches_star_oneOf_iff :
    Matches (oneOf characters).star text ↔ ∀ c ∈ text, c ∈ characters := by
  constructor
  · intro matched c member
    obtain ⟨parts, rfl, each⟩ := Language.mem_kstar.mp matched
    obtain ⟨part, among, inside⟩ := List.mem_flatten.mp member
    obtain ⟨one, listed, rfl⟩ := matches_oneOf_iff.mp (each part among)
    obtain rfl := List.mem_singleton.mp inside
    exact listed
  · intro spelled
    refine Language.mem_kstar.mpr ⟨text.map fun c => [c], ?_, fun part among => ?_⟩
    · rw [← List.flatMap_def, List.flatMap_singleton']
    · obtain ⟨c, member, rfl⟩ := List.mem_map.mp among
      exact matches_oneOf_iff.mpr ⟨c, spelled c member, rfl⟩

/-- A repeated pattern matches what is made of one or more parts that it matches. -/
theorem matches_repeated_iff : Matches (repeated pattern) text ↔
    ∃ parts, parts ≠ [] ∧ (∀ part ∈ parts, Matches pattern part) ∧ text = parts.flatten := by
  rw [repeated, matches_mul_iff]
  constructor
  · rintro ⟨part, back, first, later, rfl⟩
    obtain ⟨others, rfl, each⟩ := Language.mem_kstar.mp later
    exact ⟨part :: others, List.cons_ne_nil part others, List.forall_mem_cons.mpr ⟨first, each⟩, rfl⟩
  · rintro ⟨parts, present, each, rfl⟩
    obtain ⟨part, others, rfl⟩ := List.exists_cons_of_ne_nil present
    obtain ⟨first, later⟩ := List.forall_mem_cons.mp each
    exact ⟨part, others.flatten, first, Language.mem_kstar.mpr ⟨others, rfl, later⟩, rfl⟩

/-- A choice of characters repeated at least once matches the texts of these characters that are not
empty. -/
theorem matches_repeated_oneOf_iff :
    Matches (repeated (oneOf characters)) text ↔ text ≠ [] ∧ ∀ c ∈ text, c ∈ characters := by
  rw [repeated, matches_oneOf_mul_iff]
  constructor
  · rintro ⟨c, listed, rest, later, rfl⟩
    refine ⟨List.cons_ne_nil c rest, List.forall_mem_cons.mpr ⟨listed, ?_⟩⟩
    exact matches_star_oneOf_iff.mp later
  · rintro ⟨present, spelled⟩
    obtain ⟨c, rest, rfl⟩ := List.exists_cons_of_ne_nil present
    obtain ⟨listed, later⟩ := List.forall_mem_cons.mp spelled
    exact ⟨c, listed, rest, matches_star_oneOf_iff.mpr later, rfl⟩

/-- A choice of characters allowed a number of times matches the texts of these characters that are
no longer than that. -/
theorem matches_pow_iff {limit : Nat} :
    Matches (optional (oneOf characters) ^ limit) text ↔
      text.length ≤ limit ∧ ∀ c ∈ text, c ∈ characters := by
  induction limit generalizing text with
  | zero =>
    refine (Language.mem_one text).trans ?_
    rw [Nat.le_zero, List.length_eq_zero_iff]
    constructor
    · rintro rfl
      exact ⟨rfl, List.forall_mem_nil _⟩
    · exact And.left
  | succ limit inductionHypothesis =>
    change Matches (optional (oneOf characters) ^ limit * optional (oneOf characters)) text ↔ _
    rw [matches_mul_iff]
    constructor
    · rintro ⟨front, back, first, later, rfl⟩
      obtain ⟨bounded, spelled⟩ := inductionHypothesis.mp first
      rcases matches_optional_iff.mp later with rfl | one
      · rw [List.append_nil]
        exact ⟨Nat.le_succ_of_le bounded, spelled⟩
      · obtain ⟨c, listed, rfl⟩ := matches_oneOf_iff.mp one
        rw [List.length_append, List.forall_mem_append, List.forall_mem_singleton]
        exact ⟨Nat.succ_le_succ bounded, spelled, listed⟩
    · rintro ⟨bounded, spelled⟩
      rcases List.eq_nil_or_concat text with rfl | ⟨front, c, rfl⟩
      · refine ⟨[], [], inductionHypothesis.mpr ⟨Nat.zero_le _, List.forall_mem_nil _⟩, ?_, rfl⟩
        exact matches_optional_iff.mpr (.inl rfl)
      · rw [List.concat_eq_append] at bounded spelled ⊢
        rw [List.length_append] at bounded
        rw [List.forall_mem_append, List.forall_mem_singleton] at spelled
        refine ⟨front, [c], inductionHypothesis.mpr ⟨Nat.le_of_succ_le_succ bounded, spelled.1⟩, ?_,
          rfl⟩
        exact matches_optional_iff.mpr (.inr (matches_oneOf_iff.mpr ⟨c, spelled.2, rfl⟩))

end

end Text

namespace StringFormat

open Text

/-! Classes of characters. -/

/-- `[A-Za-z]` -/
def letters : List Char := span 'A' 'Z' ++ span 'a' 'z'

/-- `[A-Za-z0-9]` -/
def alphanumerics : List Char := letters ++ span '0' '9'

/-- `[a-z0-9]` -/
def methodCharacters : List Char := span 'a' 'z' ++ span '0' '9'

variable {c : Char}

/-- The span of the upper case letters. -/
theorem mem_uppers_iff : c ∈ span 'A' 'Z' ↔ c.isUpper = true := by
  have shape : c.isUpper = decide (65 ≤ c.val ∧ c.val ≤ 90) := rfl
  rw [mem_span_iff (by decide), shape, decide_eq_true_iff]
  rfl

/-- The span from `a` to `z` has the lower case letters. -/
theorem mem_lowers_iff : c ∈ span 'a' 'z' ↔ c.isLower = true := by
  have shape : c.isLower = (decide (97 ≤ c.val) && decide (c.val ≤ 122)) := rfl
  rw [mem_span_iff (by decide), shape, Bool.and_eq_true, decide_eq_true_iff, decide_eq_true_iff]
  rfl

/-- The span from `0` to `9` has the digits. -/
theorem mem_digits_iff : c ∈ span '0' '9' ↔ c.isDigit = true := by
  have shape : c.isDigit = (decide (48 ≤ c.val) && decide (c.val ≤ 57)) := rfl
  rw [mem_span_iff (by decide), shape, Bool.and_eq_true, decide_eq_true_iff, decide_eq_true_iff]
  rfl

/-- Letters are those of either case. -/
theorem mem_letters_iff : c ∈ letters ↔ c.isAlpha = true := by
  have shape : c.isAlpha = (c.isUpper || c.isLower) := rfl
  rw [letters, List.mem_append, mem_uppers_iff, mem_lowers_iff, shape, Bool.or_eq_true]

/-- The letters and digits of the patterns are those of the checks. -/
theorem mem_alphanumerics_iff : c ∈ alphanumerics ↔ c.isAlphanum = true := by
  have shape : c.isAlphanum = (c.isAlpha || c.isDigit) := rfl
  rw [alphanumerics, List.mem_append, mem_letters_iff, mem_digits_iff, shape, Bool.or_eq_true]

/-- Letters are among letters and digits. -/
theorem letters_alphanumeric : ∀ c ∈ letters, c ∈ alphanumerics :=
  fun _ => List.mem_append_left _

/-- A method has lower case letters and digits. -/
theorem mem_methodCharacters_iff : c ∈ methodCharacters ↔ (c.isLower || c.isDigit) = true := by
  rw [methodCharacters, List.mem_append, mem_lowers_iff, mem_digits_iff, Bool.or_eq_true]

/-- `[A-Za-z0-9-]` has the characters that a label may have. -/
theorem mem_hyphenated_iff : c ∈ '-' :: alphanumerics ↔ isLabelCharacter c = true := by
  rw [List.mem_cons, mem_alphanumerics_iff, isLabelCharacter, Bool.or_eq_true, beq_iff_eq, or_comm]

/-- `[A-Za-z0-9._%-]`, the characters with which a decentralized identifier may end. -/
def finalCharacters : List Char := ['.', '_', '%', '-'] ++ alphanumerics

/-- Behind the method there are the characters that may end an identifier, and the colon. -/
theorem mem_colon_final_iff : c ∈ ':' :: finalCharacters ↔ isDidCharacter c = true := by
  simp only [finalCharacters, isDidCharacter, List.mem_cons, List.cons_append, List.nil_append,
    mem_alphanumerics_iff, List.contains_eq_mem, List.not_mem_nil, or_false, Bool.or_eq_true,
    decide_eq_true_eq]
  grind

/-- An identifier may end with all its characters but the colon. -/
theorem mem_finalCharacters_iff :
    c ∈ finalCharacters ↔ isDidCharacter c = true ∧ c ≠ ':' := by
  have noColon : ':' ∉ finalCharacters := by decide
  rw [← mem_colon_final_iff, List.mem_cons]
  constructor
  · intro member
    exact ⟨.inr member, fun same => noColon (same ▸ member)⟩
  · rintro ⟨same | member, other⟩
    · exact absurd same other
    · exact member

/-! Decentralized identifiers. -/

/-- `[A-Za-z0-9._:%-]*[A-Za-z0-9._%-]` -/
def didRestPattern : Pattern := (oneOf (':' :: finalCharacters)).star * oneOf finalCharacters

/-- `did:[a-z0-9]+:[A-Za-z0-9._:%-]*[A-Za-z0-9._%-]` -/
def didPattern : Pattern :=
  word "did:".toList * repeated (oneOf methodCharacters) * word ":".toList * didRestPattern

variable {text : String}

/-- What stands behind the method is not empty, has the characters of identifiers, and does not end
with a colon. -/
theorem matches_didRestPattern_iff {rest : List Char} :
    Matches didRestPattern rest ↔
      rest ≠ [] ∧ rest.getLast? ≠ some ':' ∧ ∀ c ∈ rest, isDidCharacter c = true := by
  rw [didRestPattern, matches_mul_oneOf_iff]
  constructor
  · rintro ⟨front, last, first, listed, rfl⟩
    obtain ⟨did, noColon⟩ := mem_finalCharacters_iff.mp listed
    refine ⟨by simp, ?_, List.forall_mem_append.mpr ⟨fun c member => ?_, ?_⟩⟩
    · rw [List.getLast?_concat]
      exact fun same => noColon (Option.some.inj same)
    · exact mem_colon_final_iff.mp (matches_star_oneOf_iff.mp first c member)
    · exact List.forall_mem_singleton.mpr did
  · rintro ⟨present, ending, spelled⟩
    obtain ⟨front, last, rfl⟩ := (List.eq_nil_or_concat rest).resolve_left present
    rw [List.concat_eq_append] at ending spelled ⊢
    rw [List.getLast?_concat] at ending
    obtain ⟨before, did⟩ := List.forall_mem_append.mp spelled
    refine ⟨front, last, ?_, mem_finalCharacters_iff.mpr ⟨?_, ?_⟩, rfl⟩
    · exact matches_star_oneOf_iff.mpr fun c member => mem_colon_final_iff.mpr (before c member)
    · exact did last (List.mem_singleton.mpr rfl)
    · exact fun same => ending (congrArg some same)

/-- A decentralized identifier is what its pattern matches. -/
theorem didFault?_eq_none_iff_matches :
    didFault? text = none ↔ Matches didPattern text.toList := by
  rw [didFault?_eq_none_iff, didPattern, matches_mul_iff]
  constructor
  · rintro ⟨method, rest, rfl, parts⟩
    refine ⟨("did:" ++ method ++ ":").toList, rest.toList, ?_, ?_, by simp⟩
    · refine matches_mul_iff.mpr ⟨("did:" ++ method).toList, ":".toList, ?_,
        matches_word_iff.mpr rfl, by simp⟩
      refine matches_mul_iff.mpr ⟨"did:".toList, method.toList, matches_word_iff.mpr rfl, ?_,
        by simp⟩
      exact matches_repeated_oneOf_iff.mpr ⟨by simpa using parts.methodPresent,
        fun c member => mem_methodCharacters_iff.mpr (parts.methodSpelled c member)⟩
    · exact matches_didRestPattern_iff.mpr
        ⟨by simpa using parts.present, parts.ending, parts.spelled⟩
  · rintro ⟨front, rest, first, second, sum⟩
    obtain ⟨opening, colon, third, fourth, rfl⟩ := matches_mul_iff.mp first
    obtain ⟨scheme, method, fifth, sixth, rfl⟩ := matches_mul_iff.mp third
    obtain rfl := matches_word_iff.mp fourth
    obtain rfl := matches_word_iff.mp fifth
    obtain ⟨methodPresent, methodSpelled⟩ := matches_repeated_oneOf_iff.mp sixth
    obtain ⟨present, ending, spelled⟩ := matches_didRestPattern_iff.mp second
    refine ⟨String.ofList method, String.ofList rest, String.toList_inj.mp (by simp [sum]), ?_⟩
    refine ⟨by simpa using methodPresent, ?_, by simpa using present, ?_, ?_⟩
    · rw [String.toList_ofList]
      exact fun c member => mem_methodCharacters_iff.mp (methodSpelled c member)
    · rwa [String.toList_ofList]
    · rwa [String.toList_ofList]

/-! Handles. -/

/-- `([A-Za-z0-9-]{0,61}[A-Za-z0-9])?`, what stands behind the first character of a label. -/
def labelRestPattern : Pattern :=
  Text.optional (Text.optional (oneOf ('-' :: alphanumerics)) ^ 61 * oneOf alphanumerics)

/-- A label that starts with one of the characters. -/
def labelPattern (first : List Char) : Pattern := oneOf first * labelRestPattern

/-- `([A-Za-z0-9]([A-Za-z0-9-]{0,61}[A-Za-z0-9])?\.)+[A-Za-z]([A-Za-z0-9-]{0,61}[A-Za-z0-9])?` -/
def handlePattern : Pattern :=
  repeated (labelPattern alphanumerics * word ".".toList) * labelPattern letters

/-- What stands behind the first character of a label has at most 62 characters, all of them a
label's, and does not end with a hyphen. -/
theorem matches_labelRestPattern_iff {rest : List Char} :
    Matches labelRestPattern rest ↔
      rest.length ≤ 62 ∧ (∀ c ∈ rest, isLabelCharacter c = true) ∧ rest.getLast? ≠ some '-' := by
  have noHyphen : '-' ∉ alphanumerics := by decide
  rw [labelRestPattern, matches_optional_iff, matches_mul_oneOf_iff]
  constructor
  · rintro (rfl | ⟨front, last, first, listed, rfl⟩)
    · exact ⟨Nat.zero_le _, List.forall_mem_nil _, by simp⟩
    · obtain ⟨bounded, spelled⟩ := matches_pow_iff.mp first
      refine ⟨?_, List.forall_mem_append.mpr ⟨fun c member => ?_, ?_⟩, ?_⟩
      · rw [List.length_append]
        exact Nat.succ_le_succ bounded
      · exact mem_hyphenated_iff.mp (spelled c member)
      · exact List.forall_mem_singleton.mpr (mem_hyphenated_iff.mp (List.mem_cons_of_mem _ listed))
      · rw [List.getLast?_concat]
        exact fun same => noHyphen (Option.some.inj same ▸ listed)
  · rintro ⟨bounded, spelled, ending⟩
    rcases List.eq_nil_or_concat rest with rfl | ⟨front, last, rfl⟩
    · exact .inl rfl
    · rw [List.concat_eq_append] at bounded spelled ending ⊢
      rw [List.getLast?_concat] at ending
      rw [List.length_append] at bounded
      obtain ⟨before, hyphenated⟩ := List.forall_mem_append.mp spelled
      refine .inr ⟨front, last, ?_, ?_, rfl⟩
      · exact matches_pow_iff.mpr ⟨Nat.le_of_succ_le_succ bounded,
          fun c member => mem_hyphenated_iff.mpr (before c member)⟩
      · have listed := mem_hyphenated_iff.mpr (hyphenated last (List.mem_singleton.mpr rfl))
        refine (List.mem_cons.mp listed).resolve_left ?_
        exact fun same => ending (congrArg some same)

/-- Texts of label characters have as many bytes as characters. -/
theorem utf8ByteSize_of_spelled {label : List Char}
    (spelled : ∀ c ∈ label, isLabelCharacter c = true) :
    (String.ofList label).utf8ByteSize = label.length := by
  induction label with
  | nil => rfl
  | cons c rest inductionHypothesis =>
    obtain ⟨first, later⟩ := List.forall_mem_cons.mp spelled
    have small : c.utf8Size = 1 := by
      rw [Char.utf8Size_eq_one_iff, UInt32.le_iff_toNat_le]
      rw [isLabelCharacter, Bool.or_eq_true, beq_iff_eq] at first
      rcases first with alphanumeric | rfl
      · exact Nat.le_trans (range_of_isAlphanum alphanumeric).2 (by decide)
      · decide
    rw [String.ofList_cons, String.utf8ByteSize_append, String.utf8ByteSize_singleton, small,
      inductionHypothesis later, List.length_cons, Nat.add_comm]

/-- A label is fit for a handle and starts with one of the characters exactly if the pattern
matches it. -/
theorem matches_labelPattern_iff {first : List Char} (proper : ∀ c ∈ first, c ∈ alphanumerics)
    {label : String} : Matches (labelPattern first) label.toList ↔
      HandleLabel label ∧ ∃ c ∈ first, label.toList.head? = some c := by
  have noHyphen : '-' ∉ alphanumerics := by decide
  rw [labelPattern, matches_oneOf_mul_iff]
  constructor
  · rintro ⟨c, listed, rest, later, sum⟩
    obtain ⟨bounded, spelled, ending⟩ := matches_labelRestPattern_iff.mp later
    have hyphenated := mem_hyphenated_iff.mp (List.mem_cons_of_mem '-' (proper c listed))
    have all : ∀ d ∈ label.toList, isLabelCharacter d = true := by
      rw [sum]
      exact List.forall_mem_cons.mpr ⟨hyphenated, spelled⟩
    have size := utf8ByteSize_of_spelled all
    rw [String.ofList_toList, sum, List.length_cons] at size
    refine ⟨⟨?_, ?_, all, ?_, ?_⟩, c, listed, by rw [sum]; rfl⟩
    · rintro rfl
      cases sum
    · rw [size]
      exact Nat.succ_le_succ bounded
    · rw [sum, List.head?_cons]
      exact fun same => noHyphen (Option.some.inj same ▸ proper c listed)
    · rw [sum, List.getLast?_cons]
      cases back : rest.getLast? with
      | none => exact fun same => noHyphen (Option.some.inj same ▸ proper c listed)
      | some last => exact fun same => ending (back.trans same)
  · rintro ⟨⟨-, bounded, spelled, -, ending⟩, c, listed, start⟩
    obtain ⟨rest, sum⟩ := List.head?_eq_some_iff.mp start
    have size := utf8ByteSize_of_spelled spelled
    rw [String.ofList_toList, sum, List.length_cons] at size
    rw [sum] at spelled ending ⊢
    refine ⟨c, listed, rest, ?_, rfl⟩
    refine matches_labelRestPattern_iff.mpr ⟨?_, (List.forall_mem_cons.mp spelled).2, ?_⟩
    · rw [size] at bounded
      exact Nat.le_of_succ_le_succ bounded
    · intro hyphen
      rw [List.getLast?_cons, hyphen] at ending
      exact ending rfl

/-- A join is its parts, each but the last with a separator behind it. -/
theorem toList_join_concat {separator : Char} (parts : List String) (last : String) :
    (Text.join separator (parts ++ [last])).toList =
      (parts.map fun part => part.toList ++ [separator]).flatten ++ last.toList := by
  induction parts with
  | nil => simp [Text.join]
  | cons part rest inductionHypothesis =>
    have onward := @Text.join_append separator [part] (rest ++ [last]) (by simp) (by simp)
    rw [List.singleton_append] at onward
    rw [List.cons_append, onward, String.toList_append, inductionHypothesis]
    simp [Text.join]

/-- Texts that are matched with a dot behind each of them. -/
theorem exists_dotted {pattern : Pattern} {parts : List (List Char)}
    (each : ∀ part ∈ parts, Matches (pattern * word ".".toList) part) :
    ∃ labels : List String, (∀ label ∈ labels, Matches pattern label.toList) ∧
      parts = labels.map fun label => label.toList ++ ['.'] := by
  induction parts with
  | nil => exact ⟨[], List.forall_mem_nil _, rfl⟩
  | cons part others inductionHypothesis =>
    obtain ⟨first, later⟩ := List.forall_mem_cons.mp each
    obtain ⟨labels, matched, rfl⟩ := inductionHypothesis later
    obtain ⟨label, dot, one, two, rfl⟩ := matches_mul_iff.mp first
    obtain rfl := matches_word_iff.mp two
    refine ⟨String.ofList label :: labels, List.forall_mem_cons.mpr ⟨?_, matched⟩, by simp⟩
    rwa [String.toList_ofList]

/-- The pattern of a handle matches labels that it fits, with dots between them. -/
theorem matches_handlePattern_iff : Matches handlePattern text.toList ↔
    ∃ labels top, labels ≠ [] ∧ Text.split '.' text = labels ++ [top] ∧
      (∀ label ∈ labels, Matches (labelPattern alphanumerics) label.toList) ∧
      Matches (labelPattern letters) top.toList := by
  have dotless {first : List Char} {label : String} (proper : ∀ c ∈ first, c ∈ alphanumerics)
      (matched : Matches (labelPattern first) label.toList) : '.' ∉ label.toList := by
    obtain ⟨fit, -⟩ := (matches_labelPattern_iff proper).mp matched
    exact fun member => absurd (fit.spelled '.' member) (by decide)
  rw [handlePattern, matches_mul_iff]
  constructor
  · rintro ⟨front, top, first, last, sum⟩
    obtain ⟨parts, present, each, rfl⟩ := matches_repeated_iff.mp first
    obtain ⟨labels, matched, rfl⟩ := exists_dotted each
    have joined : text = Text.join '.' (labels ++ [String.ofList top]) := by
      apply String.toList_inj.mp
      rw [toList_join_concat, String.toList_ofList, sum]
    rw [← String.toList_ofList (l := top)] at last
    refine ⟨labels, String.ofList top, ?_, ?_, matched, last⟩
    · rintro rfl
      exact present rfl
    · rw [joined]
      refine Text.split_join (by simp) fun part member => ?_
      rcases List.mem_append.mp member with inside | final
      · exact dotless (fun _ => id) (matched part inside)
      · obtain rfl := List.mem_singleton.mp final
        exact dotless letters_alphanumeric last
  · rintro ⟨labels, top, present, cut, each, last⟩
    refine ⟨_, top.toList, matches_repeated_iff.mpr
      ⟨labels.map fun label => label.toList ++ ['.'], ?_, ?_, rfl⟩, last, ?_⟩
    · exact List.map_eq_nil_iff.not.mpr present
    · intro part member
      obtain ⟨label, among, rfl⟩ := List.mem_map.mp member
      exact matches_mul_iff.mpr ⟨label.toList, ['.'], each label among, matches_word_iff.mpr rfl, rfl⟩
    · rw [← toList_join_concat, ← cut, Text.join_split]

/-- A handle is what its pattern matches, unless that is too large. -/
theorem handleFault?_eq_none_iff_matches : handleFault? text = none ↔
    text.utf8ByteSize ≤ hostnameLimit ∧ Matches handlePattern text.toList := by
  have starts {label : String} : (∃ c ∈ letters, label.toList.head? = some c) ↔
      startsWithLetter label.toList = true := by
    rw [startsWithLetter, Option.any_eq_true]
    simp only [mem_letters_iff, and_comm]
  have begins {label : String} (fit : HandleLabel label) :
      ∃ c ∈ alphanumerics, label.toList.head? = some c := by
    have filled : label.toList ≠ [] := by simpa using fit.present
    obtain ⟨c, rest, shape⟩ := List.exists_cons_of_ne_nil filled
    have listed := mem_hyphenated_iff.mpr (fit.spelled c (shape ▸ List.mem_cons_self))
    have start : label.toList.head? = some c := by rw [shape, List.head?_cons]
    refine ⟨c, (List.mem_cons.mp listed).resolve_left ?_, start⟩
    rintro rfl
    exact fit.opening start
  rw [handleFault?_eq_none_iff, matches_handlePattern_iff]
  refine and_congr_right fun _ => ?_
  constructor
  · rintro ⟨enough, fit, letter⟩
    obtain ⟨labels, top, cut⟩ : ∃ labels top, Text.split '.' text = labels ++ [top] :=
      ⟨_, _, (List.dropLast_concat_getLast (Text.split_ne_nil '.' text)).symm⟩
    rw [cut] at enough fit letter
    obtain ⟨fitLabels, fitTop⟩ := List.forall_mem_append.mp fit
    refine ⟨labels, top, ?_, cut, fun label member => ?_, ?_⟩
    · rintro rfl
      exact absurd enough (by simp)
    · have one := fitLabels label member
      exact (matches_labelPattern_iff fun _ => id).mpr ⟨one, begins one⟩
    · refine (matches_labelPattern_iff letters_alphanumeric).mpr ⟨fitTop top (by simp), starts.mpr ?_⟩
      simpa using letter
  · rintro ⟨labels, top, present, cut, each, last⟩
    obtain ⟨fitTop, start⟩ := (matches_labelPattern_iff letters_alphanumeric).mp last
    rw [cut]
    refine ⟨?_, List.forall_mem_append.mpr ⟨fun label member => ?_, ?_⟩, ?_⟩
    · have some := List.length_pos_of_ne_nil present
      rw [List.length_append, List.length_singleton]
      omega
    · exact ((matches_labelPattern_iff fun _ => id).mp (each label member)).1
    · exact List.forall_mem_singleton.mpr fitTop
    · simpa using starts.mp start

/-! Either of both. -/

/-- A handle is spelled with labels and dots. -/
theorem spelled_of_handle (silent : handleFault? text = none) :
    ∀ c ∈ text.toList, c = '.' ∨ isLabelCharacter c = true := by
  obtain ⟨-, -, labels, -⟩ := handleFault?_eq_none_iff.mp silent
  intro c member
  rw [← Text.join_split '.' text] at member
  rcases Text.mem_join member with dot | ⟨label, among, inside⟩
  · exact .inl dot
  · exact .inr ((labels label among).spelled c inside)

/-- A decentralized identifier is spelled with its own characters throughout. -/
theorem spelled_of_did (silent : didFault? text = none) :
    ∀ c ∈ text.toList, isDidCharacter c = true := by
  obtain ⟨method, rest, rfl, parts⟩ := didFault?_eq_none_iff.mp silent
  intro c member
  simp only [String.toList_append, List.mem_append] at member
  rcases member with ((scheme | inMethod) | colon) | inRest
  · have spelled : "did:".toList.all isDidCharacter = true := by decide
    exact List.all_eq_true.mp spelled c scheme
  · simp [isDidCharacter, isAlphanum_of_methodCharacter (parts.methodSpelled c inMethod)]
  · obtain rfl : c = ':' := by simpa using colon
    decide
  · exact parts.spelled c inRest

/-- What opens as a decentralized identifier is no handle. -/
theorem not_handle_of_opening (opening : (Text.afterOpening? "did:" text).isSome = true) :
    handleFault? text ≠ none := by
  obtain ⟨rest, found⟩ := Option.isSome_iff_exists.mp opening
  rw [Text.afterOpening?_eq_some_iff.mp found]
  intro silent
  exact absurd (spelled_of_handle silent ':' (by simp)) (by decide)

/-- A text that is a decentralized identifier has its opening. -/
theorem opening_of_did (silent : didFault? text = none) :
    (Text.afterOpening? "did:" text).isSome = true := by
  obtain ⟨method, rest, rfl, -⟩ := didFault?_eq_none_iff.mp silent
  rw [String.append_assoc, String.append_assoc, Text.afterOpening?_eq_some_iff.mpr rfl]
  rfl

/-- Choosing the check by the opening of the text comes to accepting what either check accepts. -/
theorem atIdentifierFault?_eq_none_iff :
    atIdentifierFault? text = none ↔ didFault? text = none ∨ handleFault? text = none := by
  rw [atIdentifierFault?]
  by_cases opening : (Text.afterOpening? "did:" text).isSome
  · rw [if_pos opening]
    exact (or_iff_left (not_handle_of_opening opening)).symm
  · rw [if_neg opening]
    exact (or_iff_right fun silent => opening (opening_of_did silent)).symm

/-- Nothing in an identifier of an account ends an authority. -/
theorem endsAuthority_of_atIdentifier (silent : atIdentifierFault? text = none) :
    ∀ c ∈ text.toList, endsAuthority c = false := by
  have ends {c : Char} (ending : endsAuthority c = true) : c = '/' ∨ c = '?' ∨ c = '#' := by
    simpa [endsAuthority, or_assoc] using ending
  intro c member
  refine Bool.eq_false_iff.mpr fun ending => ?_
  rcases atIdentifierFault?_eq_none_iff.mp silent with did | handle
  · have spelled := spelled_of_did did c member
    rcases ends ending with rfl | rfl | rfl <;> cases spelled
  · have spelled := spelled_of_handle handle c member
    rcases ends ending with rfl | rfl | rfl <;> revert spelled <;> decide

/-- What may stand behind an authority: nothing, or something that starts with a slash, a question
mark or a hash sign. -/
def IsTail (tail : String) : Prop :=
  tail = "" ∨ ∃ c ∈ ['/', '?', '#'], tail.toList.head? = some c

/-- What stands behind the longest run of other characters is such a tail, and the run before such
a tail is found again. -/
theorem isTail_iff {tail : String} :
    IsTail tail ↔ tail.toList.takeWhile (fun c => !endsAuthority c) = [] := by
  have ends {c : Char} : endsAuthority c = true ↔ c ∈ ['/', '?', '#'] := by
    simp [endsAuthority, or_assoc]
  rw [IsTail, ← String.toList_eq_nil_iff]
  cases tail.toList with
  | nil => simp
  | cons c rest => simp [List.takeWhile_cons, ← ends]

/-- An at-uri is its scheme, an identifier of an account and a tail. -/
theorem atUriFault?_eq_none_iff : atUriFault? text = none ↔
    ∃ authority tail, text = "at://" ++ authority ++ tail ∧
      atIdentifierFault? authority = none ∧ IsTail tail := by
  constructor
  · intro silent
    obtain ⟨rest, rfl⟩ := opening_of_atUriFault? silent
    rw [atUriFault?, Text.afterOpening?_eq_some_iff.mpr rfl] at silent
    dsimp only at silent
    split at silent
    · cases silent
    · let other (c : Char) := !endsAuthority c
      refine ⟨String.ofList (rest.toList.takeWhile other), String.ofList (rest.toList.dropWhile other),
        ?_, Option.map_eq_none_iff.mp silent, ?_⟩
      · rw [String.append_assoc, ← String.ofList_append, List.takeWhile_append_dropWhile,
          String.ofList_toList]
      · rw [isTail_iff, String.toList_ofList, List.takeWhile_eq_nil_iff]
        intro present
        simpa [other] using List.dropWhile_get_zero_not other rest.toList present
  · rintro ⟨authority, tail, rfl, silent, isTail⟩
    have run : (authority ++ tail).toList.takeWhile (fun c => !endsAuthority c) =
        authority.toList := by
      rw [String.toList_append, List.takeWhile_append_of_pos, isTail_iff.mp isTail, List.append_nil]
      exact fun c member => by rw [endsAuthority_of_atIdentifier silent c member, Bool.not_false]
    have filled : authority.toList.isEmpty = false := by
      refine List.isEmpty_eq_false_iff.mpr fun empty => ?_
      rw [String.toList_eq_nil_iff.mp empty] at silent
      exact absurd silent (by decide)
    rw [String.append_assoc, atUriFault?, Text.afterOpening?_eq_some_iff.mpr rfl]
    dsimp only
    rw [run, String.ofList_toList, filled, silent]
    rfl

end StringFormat

/-- The identifiers of accounts have patterns. A decentralized identifier is what its pattern
matches, and a handle is what its pattern matches in at most 253 bytes. What is accepted as either
is accepted as an at-identifier and nothing else is; nothing is accepted as both. An at-uri is
`at://`, an at-identifier, and nothing or a tail that starts with a slash, a question mark or a
hash sign. -/
theorem formats_have_patterns (text : String) :
    (StringFormat.did.accepts text = true ↔
      Text.Matches StringFormat.didPattern text.toList) ∧
    (StringFormat.handle.accepts text = true ↔
      text.utf8ByteSize ≤ 253 ∧ Text.Matches StringFormat.handlePattern text.toList) ∧
    (StringFormat.atIdentifier.accepts text = true ↔
      StringFormat.did.accepts text = true ∨ StringFormat.handle.accepts text = true) ∧
    ¬ (StringFormat.did.accepts text = true ∧ StringFormat.handle.accepts text = true) ∧
    (StringFormat.atUri.accepts text = true ↔
      ∃ authority tail, text = "at://" ++ authority ++ tail ∧
        StringFormat.atIdentifier.accepts authority = true ∧
        (tail = "" ∨ ∃ c ∈ ['/', '?', '#'], tail.toList.head? = some c)) := by
  simp only [StringFormat.accepts_iff]
  refine ⟨StringFormat.didFault?_eq_none_iff_matches, StringFormat.handleFault?_eq_none_iff_matches,
    StringFormat.atIdentifierFault?_eq_none_iff, ?_, StringFormat.atUriFault?_eq_none_iff⟩
  rintro ⟨did, handle⟩
  exact StringFormat.not_handle_of_opening (StringFormat.opening_of_did did) handle

end LexiconSchema
