import LexiconSchema.Proofs.WrittenForms

/-!
# Well-formed identifiers

The checks of labels, host names and names report the first rule that is broken. Here the
rules are said without an order, and a check is silent exactly when all of them hold. An
identifier is well formed when its labels, its name and its definition keep their rules;
reading a text gives an identifier exactly when it is well formed and has the parts of that
text.

Reading and writing undo each other on well-formed identifiers: a text loses nothing but a
written-out `#main`, and a host name is cut into the labels again, from the last to the
first.

Main statement: `identifiers_survive_writing`.
-/

namespace LexiconSchema

/-! The rules of labels, host names and names. -/

/-- A check with others behind it is silent exactly if its rule is not broken and the others are
silent. -/
theorem ite_fault_eq_none_iff {α : Type} {broken : Prop} [Decidable broken] {fault : α}
    {others : Option α} :
    (if broken then some fault else others) = none ↔ ¬ broken ∧ others = none := by
  by_cases holds : broken
  · simp [holds]
  · simp [holds]

/-- What labels and names have in common: a letter and then letters, digits and hyphens, of
which there are not too many. -/
structure Worded (limit : Nat) (text : String) : Prop where
  bounded : text.utf8ByteSize ≤ limit
  opening : startsWithLetter text.toList = true
  spelled : ∀ c ∈ text.toList, isLabelCharacter c = true

/-- A label, of which the last character is no hyphen. -/
structure SoundLabel (limit : Nat) (label : String) : Prop extends Worded limit label where
  ending : label.toList.getLast? ≠ some '-'

namespace Worded

variable {limit : Nat} {text : String} (worded : Worded limit text)
include worded

/-- It is not empty, since it starts with a letter. -/
theorem present : text ≠ "" := by
  rintro rfl
  cases worded.opening

/-- A character that no label has is not in the text. -/
theorem absent {c : Char} (foreign : isLabelCharacter c = false) : c ∉ text.toList :=
  fun member => Bool.false_ne_true (foreign.symm.trans (worded.spelled c member))

end Worded

/-- A label breaks no rule exactly if it is sound. -/
theorem labelFault?_eq_none_iff {limit : Nat} {label : String} :
    labelFault? limit label = none ↔ SoundLabel limit label := by
  have rules : labelFault? limit label = none ↔ label ≠ "" ∧ label.utf8ByteSize ≤ limit ∧
      startsWithLetter label.toList = true ∧ (∀ c ∈ label.toList, isLabelCharacter c = true) ∧
      label.toList.getLast? ≠ some '-' := by
    simp [labelFault?, ite_fault_eq_none_iff]
  rw [rules]
  constructor
  · rintro ⟨-, bounded, opening, spelled, ending⟩
    exact ⟨⟨bounded, opening, spelled⟩, ending⟩
  · intro sound
    exact ⟨sound.present, sound.bounded, sound.opening, sound.spelled, sound.ending⟩

/-- A name breaks no rule exactly if it is worded: it may end with a hyphen. -/
theorem Identifier.nameFault?_eq_none_iff {name : String} :
    nameFault? name = none ↔ Worded nameLimit name := by
  have rules : nameFault? name = none ↔ name ≠ "" ∧ name.utf8ByteSize ≤ nameLimit ∧
      startsWithLetter name.toList = true ∧ ∀ c ∈ name.toList, isLabelCharacter c = true := by
    simp [nameFault?, ite_fault_eq_none_iff]
  rw [rules]
  constructor
  · rintro ⟨-, bounded, opening, spelled⟩
    exact ⟨bounded, opening, spelled⟩
  · intro worded
    exact ⟨worded.present, worded.bounded, worded.opening, worded.spelled⟩

section
variable {labels : List String}

/-- A host name is cut into its labels. -/
theorem split_join_of_sound {limit : Nat} (present : labels ≠ [])
    (sound : ∀ label ∈ labels, SoundLabel limit label) :
    Text.split '.' (Text.join '.' labels) = labels :=
  Text.split_join present fun label member => (sound label member).absent (by decide)

/-- A host name of sound labels is not empty. -/
theorem join_ne_empty_of_sound {limit : Nat} (present : labels ≠ [])
    (sound : ∀ label ∈ labels, SoundLabel limit label) : Text.join '.' labels ≠ "" := by
  intro empty
  have cut := split_join_of_sound present sound
  rw [empty] at cut
  have member : "" ∈ labels := cut ▸ List.mem_singleton.mpr rfl
  exact (sound "" member).present rfl

/-- The size of a host name is checked before its labels. -/
theorem hostnameFault?_of_long (long : hostnameLimit < (Text.join '.' labels).utf8ByteSize) :
    hostnameFault? labels = some .tooLong := by
  have present : (Text.join '.' labels).toList ≠ [] := by
    intro empty
    rw [String.toList_eq_nil_iff.mp empty] at long
    exact Nat.not_lt_zero _ long
  simp [hostnameFault?, present, long]

/-- A host name breaks no rule exactly if it has a label, is not too large and all its labels
are sound. -/
theorem hostnameFault?_eq_none_iff :
    hostnameFault? labels = none ↔ labels ≠ [] ∧
      (Text.join '.' labels).utf8ByteSize ≤ hostnameLimit ∧
      ∀ label ∈ labels, SoundLabel domainLabelLimit label := by
  have rules : hostnameFault? labels = none ↔ Text.join '.' labels ≠ "" ∧
      (Text.join '.' labels).utf8ByteSize ≤ hostnameLimit ∧
      ∀ label ∈ labels, SoundLabel domainLabelLimit label := by
    simp [hostnameFault?, ite_fault_eq_none_iff, labelFault?_eq_none_iff]
  rw [rules]
  constructor
  · rintro ⟨filled, bounded, sound⟩
    refine ⟨?_, bounded, sound⟩
    rintro rfl
    exact filled rfl
  · rintro ⟨present, bounded, sound⟩
    exact ⟨join_ne_empty_of_sound present sound, bounded, sound⟩

end

namespace Identifier

/-! Which identifiers are read, and from which texts. -/

/-- The labels, the name and the definition each keep their rules. -/
structure WellFormed (id : Identifier) : Prop where
  labelled : id.labels ≠ []
  bounded : (Text.join '.' id.labels).utf8ByteSize ≤ hostnameLimit
  labels : ∀ label ∈ id.labels, SoundLabel domainLabelLimit label
  name : Worded nameLimit id.name
  definition : isDefinitionName id.definition = true

variable {text : String} {id : Identifier}

/-- What is meant behind the `#` is what is written there, or else the main definition. -/
theorem definitionOf_eq_ok_iff {fragment : Option String} {definition : String} :
    definitionOf text fragment = .ok definition ↔
      isDefinitionName definition = true ∧ fragment.getD mainDefinition = definition := by
  cases fragment with
  | none =>
    constructor
    · intro meant
      obtain rfl := Except.ok.inj meant
      exact ⟨by decide, rfl⟩
    · rintro ⟨-, rfl⟩
      rfl
  | some written =>
    rw [definitionOf, Option.getD_some]
    by_cases proper : isDefinitionName written = true
    · rw [if_pos proper]
      constructor
      · intro meant
        obtain rfl := Except.ok.inj meant
        exact ⟨proper, rfl⟩
      · rintro ⟨-, rfl⟩
        rfl
    · rw [if_neg proper]
      constructor
      · intro meant
        cases meant
      · rintro ⟨other, rfl⟩
        exact absurd other proper

/-- Labels and a name that keep their rules leave the fragment to be checked. -/
theorem ofParts_of_sound {labels : List String} {name : String} {fragment : Option String}
    (host : hostnameFault? labels.reverse = none) (worded : nameFault? name = none)
    (labelled : labels ≠ []) :
    ofParts text (labels ++ [name]) fragment =
      (definitionOf text fragment).map fun definition => ⟨labels, name, definition⟩ := by
  simp [ofParts, labelled, worded, host]

/-- Of a name that keeps its rules and too many labels only the size is reported. -/
theorem ofParts_of_long {labels : List String} {name : String} {fragment : Option String}
    (labelled : labels ≠ []) (worded : Worded nameLimit name)
    (long : hostnameLimit < (Text.join '.' labels).utf8ByteSize) :
    ofParts text (labels ++ [name]) fragment =
      .error (.badAuthority (Text.join '.' labels) .tooLong) := by
  have host : hostnameFault? labels.reverse = some .tooLong := by
    apply hostnameFault?_of_long
    rw [Text.utf8ByteSize_join_reverse]
    exact long
  simp [ofParts, labelled, nameFault?_eq_none_iff.mpr worded, host]

/-- Parts make an identifier exactly if they are its labels and its name, the fragment is its
definition, and it is well formed. -/
theorem ofParts_eq_ok_iff {parts : List String} {fragment : Option String} (present : parts ≠ []) :
    ofParts text parts fragment = .ok id ↔
      id.WellFormed ∧ parts = id.labels ++ [id.name] ∧
        fragment.getD mainDefinition = id.definition := by
  constructor
  · intro made
    obtain ⟨labelled, spelled, defined⟩ := of_ofParts present made
    obtain ⟨definition, meant⟩ := definitionOf_eq_ok_iff.mp defined
    refine ⟨?_, spelled.symm, meant⟩
    subst spelled
    have worded : nameFault? id.name = none := by
      cases fault : nameFault? id.name with
      | none => rfl
      | some rule => simp [ofParts, labelled, fault] at made
    have host : hostnameFault? id.labels.reverse = none := by
      cases fault : hostnameFault? id.labels.reverse with
      | none => rfl
      | some rule => simp [ofParts, labelled, worded, fault] at made
    obtain ⟨-, bounded, labels⟩ := hostnameFault?_eq_none_iff.mp host
    rw [Text.utf8ByteSize_join_reverse] at bounded
    exact ⟨labelled, bounded, fun label member => labels label (List.mem_reverse.mpr member),
      nameFault?_eq_none_iff.mp worded, definition⟩
  · rintro ⟨formed, rfl, meant⟩
    have host : hostnameFault? id.labels.reverse = none := by
      refine hostnameFault?_eq_none_iff.mpr ⟨List.reverse_ne_nil_iff.mpr formed.labelled, ?_, ?_⟩
      · rw [Text.utf8ByteSize_join_reverse]
        exact formed.bounded
      · exact fun label member => formed.labels label (List.mem_reverse.mp member)
    rw [ofParts_of_sound host (nameFault?_eq_none_iff.mpr formed.name) formed.labelled,
      definitionOf_eq_ok_iff.mpr ⟨formed.definition, meant⟩]
    rfl

/-- A text is read as an identifier exactly if that is well formed, its labels and its name
are what stands between the dots before the `#`, and its definition is what stands behind. -/
theorem parse_eq_ok_iff :
    parse text = .ok id ↔ id.WellFormed ∧
      Text.split '.' (bodyOf text) = id.labels ++ [id.name] ∧
      (fragmentOf text).getD mainDefinition = id.definition := by
  rw [parse_eq]
  exact ofParts_eq_ok_iff (Text.split_ne_nil '.' _)

namespace WellFormed

variable (formed : id.WellFormed)
include formed

/-- A character that no label has is in no part of an identifier. -/
theorem parts_clean {c : Char} (foreign : isLabelCharacter c = false) :
    ∀ part ∈ id.labels ++ [id.name], c ∉ part.toList := by
  intro part member
  rcases List.mem_append.mp member with label | last
  · exact (formed.labels part label).absent foreign
  · obtain rfl := List.mem_singleton.mp last
    exact formed.name.absent foreign

/-- The dotted name is cut into the labels and the name. -/
theorem split_dotted : Text.split '.' id.dotted = id.labels ++ [id.name] :=
  Text.split_join (by simp) (formed.parts_clean (by decide))

/-- Besides dots the dotted name has no character that labels do not have. -/
theorem dotted_absent {c : Char} (foreign : isLabelCharacter c = false) (noDot : c ≠ '.') :
    c ∉ id.dotted.toList := by
  intro member
  rcases Text.mem_join member with between | ⟨part, among, inside⟩
  · exact noDot between
  · exact formed.parts_clean foreign part among inside

/-- The dotted part of an identifier has no `#`. -/
theorem dotted_whole : '#' ∉ id.dotted.toList := formed.dotted_absent (by decide) (by decide)

/-- The host name is cut into the labels again, from the last to the first. -/
theorem split_hostname : Text.split '.' id.hostname = id.labels.reverse :=
  split_join_of_sound (List.reverse_ne_nil_iff.mpr formed.labelled)
    fun label member => formed.labels label (List.mem_reverse.mp member)

/-- What is written is read again. -/
theorem parse_toString : parse id.toString = .ok id := by
  rw [toString]
  by_cases main : id.isMain
  · rw [if_pos main]
    refine parse_eq_ok_iff.mpr ⟨formed, ?_, ?_⟩
    · rw [bodyOf_of_whole formed.dotted_whole, formed.split_dotted]
    · rw [fragmentOf_of_whole formed.dotted_whole]
      exact (beq_iff_eq.mp main).symm
  · rw [if_neg main]
    refine parse_eq_ok_iff.mpr ⟨formed, ?_, ?_⟩
    · rw [bodyOf_sum formed.dotted_whole, formed.split_dotted]
    · rw [fragmentOf_sum formed.dotted_whole]
      rfl

/-- Besides underscores a definition's name has no character that labels do not have. -/
theorem definition_absent {c : Char} (foreign : isLabelCharacter c = false)
    (noUnderscore : c ≠ '_') : c ∉ id.definition.toList := by
  intro member
  have proper := formed.definition
  simp only [isDefinitionName, Bool.and_eq_true, List.all_eq_true] at proper
  have spelled := proper.2 c member
  simp only [isLabelCharacter, Bool.or_eq_false_iff] at foreign
  simp [foreign, noUnderscore] at spelled

/-- The labels and the name are all that stands before the `#`, the labels before the last
dot. -/
theorem dotted_eq : id.dotted = Text.join '.' id.labels ++ "." ++ id.name :=
  Text.join_append formed.labelled (List.cons_ne_nil id.name [])

end WellFormed

/-- A text that is read is the dotted name, which means the main definition, or the dotted
name with the definition behind it. -/
theorem text_of_parse (parsed : parse text = .ok id) :
    text = id.dotted ∧ id.isMain = true ∨ text = id.dotted ++ "#" ++ id.definition := by
  obtain ⟨-, parts, meant⟩ := parse_eq_ok_iff.mp parsed
  have dotted : id.dotted = bodyOf text := by rw [Identifier.dotted, ← parts, Text.join_split]
  rw [dotted]
  rcases (body_and_fragment text).2 with ⟨whole, none⟩ | ⟨fragment, sum, some⟩
  · rw [none, Option.getD_none] at meant
    exact .inl ⟨whole, beq_iff_eq.mpr meant.symm⟩
  · rw [some, Option.getD_some] at meant
    exact .inr (meant ▸ sum)

/-- A text that is read has the labels before the last dot of its dotted name, and nothing or
a `#` behind that. -/
theorem declared_of_parse (parsed : parse text = .ok id) :
    ∃ declared behind, text = declared ++ "." ++ id.name ++ behind ∧
      '#' ∉ (declared ++ "." ++ id.name).toList ∧ '.' ∉ id.name.toList ∧
      (behind = "" ∨ ∃ fragment, behind = "#" ++ fragment) ∧
      id.labels = Text.split '.' declared := by
  have formed := (parse_eq_ok_iff.mp parsed).1
  have whole : '#' ∉ (Text.join '.' id.labels ++ "." ++ id.name).toList :=
    formed.dotted_eq ▸ formed.dotted_whole
  have cut := split_join_of_sound formed.labelled formed.labels
  have dotless : '.' ∉ id.name.toList := formed.name.absent (by decide)
  rcases text_of_parse parsed with ⟨undefined, -⟩ | defined
  · refine ⟨Text.join '.' id.labels, "", ?_, whole, dotless, .inl rfl, cut.symm⟩
    rw [undefined, formed.dotted_eq, String.append_empty]
  · refine ⟨Text.join '.' id.labels, "#" ++ id.definition, ?_, whole, dotless, .inr ⟨_, rfl⟩,
      cut.symm⟩
    rw [defined, formed.dotted_eq, ← String.append_assoc]

/-- A text that is read is written again without a `#main` at its end. -/
theorem toString_of_marked {rest : String} (parsed : parse (rest ++ "#main") = .ok id) :
    id.toString = rest := by
  have formed := (parse_eq_ok_iff.mp parsed).1
  rcases text_of_parse parsed with ⟨undefined, -⟩ | defined
  · have marked : '#' ∈ (rest ++ "#main").toList := by simp
    exact absurd (undefined ▸ marked) formed.dotted_whole
  · -- Neither `main` nor the definition has a `#`, so both texts are cut at the same place.
    have left : Text.split '#' (rest ++ "#main") = Text.split '#' rest ++ ["main"] := by
      have whole : Text.split '#' "main" = ["main"] := Text.split_of_whole (by decide)
      rw [← whole, ← Text.split_append, String.append_assoc]
      rfl
    have right : Text.split '#' (rest ++ "#main") =
        Text.split '#' id.dotted ++ [id.definition] := by
      have whole := formed.definition_absent (c := '#') (by decide) (by decide)
      rw [defined, ← Text.split_of_whole whole]
      exact Text.split_append id.dotted id.definition
    obtain ⟨fronts, ends⟩ := List.append_inj' (left.symm.trans right) rfl
    have main : "main" = id.definition := List.singleton_inj.mp ends
    have same : rest = id.dotted := by
      rw [← Text.join_split '#' rest, fronts, Text.join_split]
    rw [toString, isMain, ← main, same]
    rfl

/-- A text that is read is written again as it is if it has no `#main` at its end. -/
theorem toString_of_unmarked (parsed : parse text = .ok id)
    (unmarked : ∀ rest, text ≠ rest ++ "#main") : id.toString = text := by
  rcases text_of_parse parsed with ⟨undefined, main⟩ | defined
  · rw [toString, if_pos main, undefined]
  · have other : id.isMain = false := by
      refine Bool.eq_false_iff.mpr fun main => unmarked id.dotted ?_
      rw [defined, beq_iff_eq.mp main, String.append_assoc]
      rfl
    rw [toString, other, if_neg Bool.false_ne_true, ← defined]

/-- Identifiers survive writing. What is written of an identifier is the text that it was read
from, less a `#main` at the end, and is read as the same identifier. The text's dotted name
holds the labels before its last dot, in the order of the identifier's labels; the host name
has them in reverse order and is cut into them again. Identifiers that are written alike are
the same. -/
theorem identifiers_survive_writing (parsed : parse text = .ok id) :
    (∀ rest, text = rest ++ "#main" → id.toString = rest) ∧
    ((∀ rest, text ≠ rest ++ "#main") → id.toString = text) ∧
    parse id.toString = .ok id ∧
    (∃ declared behind, text = declared ++ "." ++ id.name ++ behind ∧
      '#' ∉ (declared ++ "." ++ id.name).toList ∧ '.' ∉ id.name.toList ∧
      (behind = "" ∨ ∃ fragment, behind = "#" ++ fragment) ∧
      id.labels = Text.split '.' declared ∧
      id.hostname = Text.join '.' (Text.split '.' declared).reverse ∧
      (Text.split '.' id.hostname).reverse = id.labels) ∧
    ∀ otherText other, parse otherText = .ok other → other.toString = id.toString →
      other = id := by
  have formed := (parse_eq_ok_iff.mp parsed).1
  refine ⟨?_, toString_of_unmarked parsed, formed.parse_toString, ?_, ?_⟩
  · rintro rest rfl
    exact toString_of_marked parsed
  · obtain ⟨declared, behind, sum, whole, dotless, kind, labels⟩ := declared_of_parse parsed
    refine ⟨declared, behind, sum, whole, dotless, kind, labels, ?_, ?_⟩
    · rw [← labels]
      rfl
    · rw [formed.split_hostname, List.reverse_reverse]
  · intro otherText other otherParsed same
    have reread := (parse_eq_ok_iff.mp otherParsed).1.parse_toString
    rw [same, formed.parse_toString] at reread
    exact (Except.ok.inj reread).symm

/-- A written-out `#main` is lost when an identifier is written, and nothing else. -/
theorem identifiers_survive_writing_feed :
    parse "app.bsky.feed#main" = .ok ⟨["app", "bsky"], "feed", "main"⟩ ∧
    toString ⟨["app", "bsky"], "feed", "main"⟩ = "app.bsky.feed" ∧
    parse "app.bsky.feed" = .ok ⟨["app", "bsky"], "feed", "main"⟩ := by
  have read : parse "app.bsky.feed#main" = .ok ⟨["app", "bsky"], "feed", "main"⟩ := rfl
  obtain ⟨unmarked, -, reread, -, -⟩ := identifiers_survive_writing read
  have written := unmarked "app.bsky.feed" rfl
  exact ⟨read, written, written ▸ reread⟩

end Identifier

end LexiconSchema
