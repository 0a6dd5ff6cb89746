import LexiconSchema.Identifier
import LexiconSchema.RecordKey
import LexiconSchema.Proofs.CutTexts

/-!
# Identifiers and key patterns by their written forms

The text of an identifier is cut at dots, and joining the pieces gives it back. So
an identifier that was read has labels and a name without dots, and when its text
names no definition the text is its written form. A key's pattern is always written
as it was read.
-/

namespace LexiconSchema

/-- A key's pattern is written as it was read. -/
theorem RecordKey.toString_of_parse? {text : String} {key : RecordKey}
    (parsed : RecordKey.parse? text = some key) : key.toString = text := by
  by_cases tid : text = "tid"
  · subst tid
    obtain rfl := Option.some.inj parsed
    rfl
  by_cases nsid : text = "nsid"
  · subst nsid
    obtain rfl := Option.some.inj parsed
    rfl
  by_cases any : text = "any"
  · subst any
    obtain rfl := Option.some.inj parsed
    rfl
  simp only [RecordKey.parse?, tid, nsid, any, if_false] at parsed
  cases found : Text.afterOpening? "literal:" text with
  | none => simp [found] at parsed
  | some rest =>
    simp only [found, Option.ite_none_left_eq_some] at parsed
    obtain rfl := Option.some.inj parsed.2
    exact (Text.afterOpening?_eq_some_iff.mp found).symm

/-- A key's pattern is read as it was written, unless it is a fixed key without characters. -/
theorem RecordKey.parse?_toString {key : RecordKey} (proper : key ≠ .literal "") :
    RecordKey.parse? key.toString = some key := by
  cases key with
  | literal fixed =>
    have behind : Text.afterOpening? "literal:" ("literal:" ++ fixed) = some fixed := by
      simp only [Text.afterOpening?, String.toList_append, Text.behind?_append, Option.map_some,
        String.ofList_toList]
    have filled : fixed.toList.isEmpty = false := by
      cases empty : fixed.toList with
      | nil => exact absurd (congrArg RecordKey.literal (String.toList_eq_nil_iff.mp empty)) proper
      | cons c rest => rfl
    have other {word : String} (different : ∀ rest : List Char, 'l' :: rest ≠ word.toList) :
        "literal:" ++ fixed ≠ word := by
      rintro rfl
      exact different ("iteral:".toList ++ fixed.toList) (by rw [String.toList_append]; rfl)
    simp only [RecordKey.parse?, RecordKey.toString, behind, filled]
    rw [if_neg (other (by simp)), if_neg (other (by simp)), if_neg (other (by simp))]
    rfl
  | _ => rfl

/-- A text that was read as a pattern is not a fixed key without characters. -/
theorem RecordKey.proper_of_parse? {text : String} {key : RecordKey}
    (parsed : RecordKey.parse? text = some key) : key ≠ .literal "" := by
  rintro rfl
  obtain rfl := RecordKey.toString_of_parse? parsed
  exact absurd parsed (by decide)

namespace Identifier

/-- What is cut at dots: the text up to its first `#`. -/
def bodyOf (text : String) : String := ((Text.cut? '#' text).map Prod.fst).getD text

/-- What stands behind the first `#`, if there is one. -/
def fragmentOf (text : String) : Option String := (Text.cut? '#' text).map Prod.snd

/-- The identifier of some parts, the last of which is the name. -/
def ofParts (text : String) (parts : List String) (fragment : Option String) :
    Except IdentifierError Identifier :=
  if parts.dropLast.isEmpty then .error (.malformed text .missingAuthority)
  else match nameFault? (parts.getLastD "") with
    | some fault => .error (.malformed text fault)
    | none =>
      match hostnameFault? parts.dropLast.reverse with
      | some fault => .error (.badAuthority (Text.join '.' parts.dropLast) fault)
      | none =>
        (definitionOf text fragment).map fun definition =>
          ⟨parts.dropLast, parts.getLastD "", definition⟩

/-- A text is cut at its first `#` and then at every dot. -/
theorem parse_eq (text : String) :
    parse text = ofParts text (Text.split '.' (bodyOf text)) (fragmentOf text) := by
  rw [parse, bodyOf, fragmentOf]
  cases Text.cut? '#' text <;> rfl

/-! The text of an identifier around its `#`. -/

/-- The body of a text has no `#`, and either it is the whole text or the fragment stands
behind its `#`. -/
theorem body_and_fragment (text : String) :
    '#' ∉ (bodyOf text).toList ∧
      (text = bodyOf text ∧ fragmentOf text = none ∨
        ∃ fragment, text = bodyOf text ++ "#" ++ fragment ∧ fragmentOf text = some fragment) := by
  cases cut : Text.cut? '#' text with
  | none =>
    have body : bodyOf text = text := by rw [bodyOf, cut]; rfl
    have fragment : fragmentOf text = none := by rw [fragmentOf, cut]; rfl
    rw [body]
    exact ⟨Text.cut?_eq_none_iff.mp cut, .inl ⟨rfl, fragment⟩⟩
  | some sides =>
    have body : bodyOf text = sides.1 := by rw [bodyOf, cut]; rfl
    have fragment : fragmentOf text = some sides.2 := by rw [fragmentOf, cut]; rfl
    obtain ⟨sum, whole⟩ := Text.cut?_eq_some_iff.mp cut
    rw [body]
    exact ⟨whole, .inr ⟨sides.2, sum, fragment⟩⟩

section
variable {text fragment : String} (whole : '#' ∉ text.toList)
include whole

/-- A text without a `#` is all body. -/
theorem bodyOf_of_whole : bodyOf text = text := by
  rw [bodyOf, Text.cut?_eq_none_iff.mpr whole]
  rfl

/-- A text without a `#` has no fragment. -/
theorem fragmentOf_of_whole : fragmentOf text = none := by
  rw [fragmentOf, Text.cut?_eq_none_iff.mpr whole]
  rfl

/-- A text is cut at its first `#`. -/
theorem cut?_sum : Text.cut? '#' (text ++ "#" ++ fragment) = some (text, fragment) :=
  Text.cut?_eq_some_iff.mpr ⟨rfl, whole⟩

/-- What stands before the first `#` is the body. -/
theorem bodyOf_sum : bodyOf (text ++ "#" ++ fragment) = text := by
  rw [bodyOf, cut?_sum whole]
  rfl

/-- What stands behind the first `#` is the fragment, further ones included. -/
theorem fragmentOf_sum : fragmentOf (text ++ "#" ++ fragment) = some fragment := by
  rw [fragmentOf, cut?_sum whole]
  rfl

end

/-! What was read. -/

/-- An identifier made of parts has them as its labels and its name, and there is a
label. -/
theorem of_ofParts {text : String} {parts : List String} {fragment : Option String}
    {id : Identifier} (present : parts ≠ []) (made : ofParts text parts fragment = .ok id) :
    id.labels ≠ [] ∧ id.labels ++ [id.name] = parts ∧
      definitionOf text fragment = .ok id.definition := by
  rw [ofParts] at made
  by_cases labelled : parts.dropLast.isEmpty
  · rw [if_pos labelled] at made
    cases made
  · rw [if_neg labelled] at made
    cases named : nameFault? (parts.getLastD "") with
    | some fault => cases named ▸ made
    | none =>
      rw [named] at made
      cases hosted : hostnameFault? parts.dropLast.reverse with
      | some fault => cases hosted ▸ made
      | none =>
        rw [hosted] at made
        cases definition : definitionOf text fragment with
        | error fault => simp [definition, Except.map] at made
        | ok name =>
          rw [definition] at made
          obtain rfl := Except.ok.inj made
          refine ⟨by simpa using labelled, ?_, rfl⟩
          rw [List.getLastD_eq_getLast?, List.getLast?_eq_some_getLast present]
          exact List.dropLast_concat_getLast present

/-- An identifier that was read: its labels and its name are the parts of the text's
body, and its definition is what the rest of the text means. -/
theorem parts_of_parse {text : String} {id : Identifier} (parsed : parse text = .ok id) :
    id.labels ≠ [] ∧ id.labels ++ [id.name] = Text.split '.' (bodyOf text) ∧
      definitionOf text (fragmentOf text) = .ok id.definition :=
  of_ofParts (Text.split_ne_nil '.' _) (parse_eq text ▸ parsed)

section
variable {text : String} {id : Identifier} (whole : '#' ∉ text.toList)
  (parsed : parse text = .ok id)
include whole parsed

/-- A text that names no definition means the main one. -/
theorem definition_of_parse : id.definition = mainDefinition := by
  obtain ⟨-, -, definition⟩ := parts_of_parse parsed
  rw [fragmentOf_of_whole whole] at definition
  exact (Except.ok.inj definition).symm

/-- A text that names no definition is the written form of its identifier. -/
theorem toString_of_parse : id.toString = text := by
  obtain ⟨-, parts, -⟩ := parts_of_parse parsed
  rw [toString, isMain, definition_of_parse whole parsed]
  simp [dotted, parts, bodyOf_of_whole whole, Text.join_split]

/-- A text that names no definition has the document's own identifier. -/
theorem document_of_parse : id.document = id := by
  rw [document, withDefinition, ← definition_of_parse whole parsed]

end

/-- The document's identifier was read from some text. Whatever an identifier was made
from, its labels and its name were. -/
def Named (id : Identifier) : Prop :=
  ∃ text parsed, parse text = .ok parsed ∧ parsed.document = id.document

/-- An identifier that was read is written as some text. -/
theorem named_of_parse {text : String} {id : Identifier} (parsed : parse text = .ok id) :
    id.Named := ⟨text, id, parsed, rfl⟩

/-- So is the document's identifier. -/
theorem Named.document {id : Identifier} (named : id.Named) : id.document.Named := named

/-- No label of a named identifier has a dot, and there is a label. -/
theorem Named.labels {id : Identifier} (named : id.Named) :
    id.labels ≠ [] ∧ ∀ label ∈ id.labels, '.' ∉ label.toList := by
  obtain ⟨text, parsed, read, same⟩ := named
  have labels : parsed.labels = id.labels := congrArg (fun document => document.labels) same
  obtain ⟨labelled, parts, -⟩ := parts_of_parse read
  rw [labels] at labelled parts
  refine ⟨labelled, fun label member => ?_⟩
  have part : label ∈ Text.split '.' (bodyOf text) := parts ▸ List.mem_append_left _ member
  exact Text.not_mem_of_mem_split part

/-! The order of identifiers. -/

/-- Identifiers are compared text by text. -/
theorem order_eq_compareLex : order = compareLex (compareOn hostname)
    (compareLex (compareOn name) (compareOn definition)) := rfl

instance : Std.TransCmp order := by
  rw [order_eq_compareLex]
  infer_instance

/-- Named identifiers of documents that are neither before nor behind one another are
one: a host name is cut into its labels again. -/
theorem eq_of_order_eq {left right : Identifier} (namedLeft : left.Named) (namedRight : right.Named)
    (same : order left right = .eq) : left = right := by
  obtain ⟨presentLeft, cleanLeft⟩ := namedLeft.labels
  obtain ⟨presentRight, cleanRight⟩ := namedRight.labels
  simp only [order, Ordering.then_eq_eq, Std.compare_eq_iff_eq] at same
  obtain ⟨hostname, name, definition⟩ := same
  have cutLeft : Text.split '.' left.hostname = left.labels.reverse :=
    Text.split_join (by simpa using presentLeft) (by simpa using cleanLeft)
  have cutRight : Text.split '.' right.hostname = right.labels.reverse :=
    Text.split_join (by simpa using presentRight) (by simpa using cleanRight)
  have labels : left.labels = right.labels := by
    rw [← List.reverse_inj, ← cutLeft, ← cutRight, hostname]
  cases left
  cases right
  cases labels
  cases name
  cases definition
  rfl

/-- Distinct named identifiers are sorted strictly. -/
theorem sort_strict {ids : List Identifier} (named : ∀ id ∈ ids, id.Named) (distinct : ids.Nodup) :
    (sort ids).Pairwise fun left right => order left right = .lt := by
  have ascending : (sort ids).Pairwise fun left right => (order left right).isLE = true := by
    refine List.pairwise_mergeSort (fun _ _ _ => Std.TransCmp.isLE_trans) (fun left right => ?_) ids
    rw [← Std.OrientedCmp.isGE_eq_isLE (a := left)]
    cases order left right <;> rfl
  have permuted : (sort ids).Perm ids := List.mergeSort_perm _ _
  have apart : (sort ids).Pairwise fun left right => left ≠ right := permuted.symm.nodup distinct
  refine (ascending.and apart).imp_of_mem fun {left right} first second both => ?_
  have different : order left right ≠ .eq := fun same => both.2 (eq_of_order_eq
    (named left (permuted.mem_iff.mp first)) (named right (permuted.mem_iff.mp second)) same)
  revert different
  cases compared : order left right with
  | lt => exact fun _ => rfl
  | eq => exact fun impossible => absurd rfl impossible
  | gt =>
    have notAbove := both.1
    simp [compared] at notAbove

end Identifier

end LexiconSchema
