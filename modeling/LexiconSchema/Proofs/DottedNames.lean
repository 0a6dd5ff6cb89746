import LexiconSchema.Proofs.WellFormedIdentifiers

/-!
# Two checks of dotted names

A dotted name can be read as an identifier, and its mere structure can be checked. Both ask
for the same labels, but the reading limits the host name where the check limits the whole,
the reading accepts a name that ends with a hyphen and a single label before it, and only the
check passes over a `.*` at the end while only the reading knows definitions. On texts
without `#` and without that ending these are all the differences.

Main statement: `readings_of_dotted_names`.
-/

namespace LexiconSchema

/-- A text of at most 382 bytes with at least three sound parts between its dots, of which
the last may have the size of a name. -/
structure Structured (text : String) : Prop where
  bounded : text.utf8ByteSize ≤ structureLimit
  parts : ∃ labels name, Text.split '.' text = labels ++ [name] ∧ 2 ≤ labels.length ∧
    (∀ label ∈ labels, SoundLabel domainLabelLimit label) ∧
    SoundLabel nameLimit name

/-- The parts break no rule exactly if the labels and the last part are sound, each for its
own limit. -/
theorem partFault?_eq_none_iff {labels : List String} {name : String} :
    partFault? (labels ++ [name]) = none ↔
      (∀ label ∈ labels, SoundLabel domainLabelLimit label) ∧ SoundLabel nameLimit name := by
  induction labels with
  | nil => simp [partFault?, labelFault?_eq_none_iff]
  | cons label others inductionHypothesis =>
    have onward : partFault? (label :: others ++ [name]) =
        (labelFault? domainLabelLimit label).or (partFault? (others ++ [name])) := by
      cases others <;> exact Option.orElse_eq_or
    rw [onward, Option.or_eq_none_iff, labelFault?_eq_none_iff, inductionHypothesis,
      List.forall_mem_cons, and_assoc]

/-- A text keeps the rules of structure exactly if it is structured without a `.*` at its
end. -/
theorem structureFault?_eq_none_iff {text : String} :
    structureFault? text = none ↔ Structured ((Text.beforeEnding? ".*" text).getD text) := by
  unfold structureFault?
  generalize (Text.beforeEnding? ".*" text).getD text = body
  dsimp only
  rw [ite_fault_eq_none_iff, ite_fault_eq_none_iff, Option.map_eq_none_iff, Nat.not_lt, Nat.not_lt]
  have cut := List.dropLast_concat_getLast (Text.split_ne_nil '.' body)
  constructor
  · rintro ⟨bounded, enough, sound⟩
    rw [← cut, partFault?_eq_none_iff] at sound
    refine ⟨bounded, _, _, cut.symm, ?_, sound⟩
    rw [List.length_dropLast]
    omega
  · rintro ⟨bounded, labels, name, parts, enough, sound⟩
    refine ⟨bounded, ?_, ?_⟩
    · rw [parts, List.length_append, List.length_singleton]
      omega
    · rw [parts, partFault?_eq_none_iff]
      exact sound

/-- The check of structure passes exactly the structured texts, a `.*` at their end apart. -/
theorem checkStructure_eq_ok_iff {text : String} :
    checkStructure text = .ok () ↔ Structured ((Text.beforeEnding? ".*" text).getD text) := by
  rw [← structureFault?_eq_none_iff, checkStructure]
  cases structureFault? text with
  | none => exact ⟨fun _ => rfl, fun _ => rfl⟩
  | some fault =>
    constructor
    · intro passed
      cases passed
    · intro silent
      cases silent

/-- Without the ending the text itself is checked. -/
theorem checkStructure_of_unmarked {text : String} (unmarked : ∀ body, text ≠ body ++ ".*") :
    checkStructure text = .ok () ↔ Structured text := by
  rw [checkStructure_eq_ok_iff, Text.beforeEnding?_eq_none_iff.mpr unmarked]
  rfl

/-- With the ending what stands before it is checked. -/
theorem checkStructure_of_marked {body : String} :
    checkStructure (body ++ ".*") = .ok () ↔ Structured body := by
  rw [checkStructure_eq_ok_iff, Text.beforeEnding?_eq_some_iff.mpr rfl]
  rfl

namespace Structured

variable {text : String} (structured : Structured text)
include structured

/-- Besides dots there is no character that labels do not have. -/
theorem absent {c : Char} (foreign : isLabelCharacter c = false) (noDot : c ≠ '.') :
    c ∉ text.toList := by
  obtain ⟨-, labels, name, parts, -, sound, soundName⟩ := structured
  rw [← Text.join_split '.' text, parts]
  intro member
  rcases Text.mem_join member with between | ⟨part, among, inside⟩
  · exact noDot between
  · rcases List.mem_append.mp among with label | last
    · exact (sound part label).absent foreign inside
    · obtain rfl := List.mem_singleton.mp last
      exact soundName.absent foreign inside

/-- The text is read as an identifier unless its host name is too large. -/
theorem parse : ∃ declared name, text = declared ++ "." ++ name ∧ '.' ∉ name.toList ∧
    if declared.utf8ByteSize ≤ hostnameLimit then ∃ id, Identifier.parse text = .ok id
    else Identifier.parse text = .error (.badAuthority declared .tooLong) := by
  have whole := structured.absent (c := '#') (by decide) (by decide)
  obtain ⟨-, labels, name, parts, enough, sound, soundName⟩ := structured
  have labelled : labels ≠ [] := by
    rintro rfl
    exact absurd enough (by decide)
  refine ⟨Text.join '.' labels, name, ?_, soundName.absent (by decide), ?_⟩
  · rw [← Text.join_split '.' text, parts]
    exact Text.join_append labelled (List.cons_ne_nil name [])
  · by_cases bounded : (Text.join '.' labels).utf8ByteSize ≤ hostnameLimit
    · rw [if_pos bounded]
      refine ⟨⟨labels, name, mainDefinition⟩, Identifier.parse_eq_ok_iff.mpr ⟨?_, ?_, ?_⟩⟩
      · have proper : Identifier.isDefinitionName mainDefinition = true := by decide
        exact ⟨labelled, bounded, sound, soundName.toWorded, proper⟩
      · rw [Identifier.bodyOf_of_whole whole, parts]
      · rw [Identifier.fragmentOf_of_whole whole]
        rfl
    · rw [if_neg bounded, Identifier.parse_eq, Identifier.bodyOf_of_whole whole, parts]
      exact Identifier.ofParts_of_long labelled soundName.toWorded (Nat.lt_of_not_le bounded)

end Structured

namespace Identifier

variable {text : String} {id : Identifier}

/-- An identifier's dotted name is within the limit of dotted names. -/
theorem WellFormed.utf8ByteSize_dotted (formed : id.WellFormed) :
    id.dotted.utf8ByteSize ≤ structureLimit := by
  have host := formed.bounded
  have name := formed.name.bounded
  rw [formed.dotted_eq, String.utf8ByteSize_append, String.utf8ByteSize_append]
  have dot : ".".utf8ByteSize = 1 := rfl
  simp only [hostnameLimit, nameLimit, structureLimit] at *
  omega

/-- An identifier's dotted name is structured if it has enough labels and its name does not
end with a hyphen. -/
theorem WellFormed.structured_dotted (formed : id.WellFormed) :
    Structured id.dotted ↔ 2 ≤ id.labels.length ∧ id.name.toList.getLast? ≠ some '-' := by
  have cut := formed.split_dotted
  constructor
  · rintro ⟨-, labels, name, parts, enough, -, soundName⟩
    obtain ⟨same, last⟩ := List.append_inj' (cut.symm.trans parts) rfl
    obtain rfl := List.singleton_inj.mp last
    exact ⟨same ▸ enough, soundName.ending⟩
  · rintro ⟨enough, ending⟩
    exact ⟨formed.utf8ByteSize_dotted, id.labels, id.name, cut, enough, formed.labels,
      formed.name, ending⟩

end Identifier

/-- How the two checks of a dotted name differ. Let a text have neither `#` nor a `.*` at its
end. If its structure is sound it is read as an identifier, except when what stands before its
last dot is too large for a host name: then that is the fault. If it is read as an identifier
it is small enough as a structure, and its structure is sound except when it has fewer than
three parts or its last part ends with a hyphen. A `.*` behind it does not change whether its
structure is sound.

No text that ends with `.*` is read as an identifier, and the structure of no text with `#` is
sound. -/
theorem readings_of_dotted_names (text : String) :
    ('#' ∉ text.toList → (∀ body, text ≠ body ++ ".*") →
      (checkStructure text = .ok () →
        ∃ declared name, text = declared ++ "." ++ name ∧ '.' ∉ name.toList ∧
          if declared.utf8ByteSize ≤ 253 then ∃ id, Identifier.parse text = .ok id
          else Identifier.parse text = .error (.badAuthority declared .tooLong)) ∧
      (∀ id, Identifier.parse text = .ok id →
        text.utf8ByteSize ≤ 382 ∧
        (checkStructure text = .ok () ↔
          3 ≤ (Text.split '.' text).length ∧
          ((Text.split '.' text).getLastD "").toList.getLast? ≠ some '-')) ∧
      (checkStructure (text ++ ".*") = .ok () ↔ checkStructure text = .ok ())) ∧
    ((∃ body, text = body ++ ".*") → ∀ id, Identifier.parse text ≠ .ok id) ∧
    ('#' ∈ text.toList → checkStructure text ≠ .ok ()) := by
  refine ⟨fun whole unmarked => ⟨?_, ?_, ?_⟩, ?_, ?_⟩
  · intro checked
    exact ((checkStructure_of_unmarked unmarked).mp checked).parse
  · intro id parsed
    have formed := (Identifier.parse_eq_ok_iff.mp parsed).1
    have dotted : id.dotted = text := by
      rcases Identifier.text_of_parse parsed with ⟨same, -⟩ | defined
      · exact same.symm
      · exact absurd (by simp [defined]) whole
    have cut := formed.split_dotted
    rw [dotted] at cut
    refine ⟨dotted ▸ formed.utf8ByteSize_dotted, ?_⟩
    rw [checkStructure_of_unmarked unmarked, ← dotted, formed.structured_dotted, dotted, cut]
    simp
  · rw [checkStructure_of_marked, checkStructure_of_unmarked unmarked]
  · rintro ⟨body, rfl⟩ id parsed
    have formed := (Identifier.parse_eq_ok_iff.mp parsed).1
    have star : '*' ∈ (body ++ ".*").toList := by simp
    have inDotted : '*' ∉ id.dotted.toList := formed.dotted_absent (by decide) (by decide)
    rcases Identifier.text_of_parse parsed with ⟨same, -⟩ | defined
    · exact inDotted (same ▸ star)
    · have inDefinition : '*' ∉ id.definition.toList :=
        formed.definition_absent (by decide) (by decide)
      rw [defined] at star
      simp [inDotted, inDefinition] at star
  · intro marked checked
    have structured := checkStructure_eq_ok_iff.mp checked
    refine structured.absent (c := '#') (by decide) (by decide) ?_
    cases found : Text.beforeEnding? ".*" text with
    | none => exact marked
    | some body =>
      rw [Text.beforeEnding?_eq_some_iff.mp found] at marked
      simpa using marked

/-- A label of the greatest size. -/
def wideLabel : String := String.ofList (List.replicate 63 'a')

/-- A dotted name with too much for a host name before its last dot. -/
def wideName : String := Text.join '.' (List.replicate 4 wideLabel ++ ["feed"])

/-- The wide name keeps the rules of structure, though not those of host names. -/
theorem wideName_structured : Structured wideName := by
  have label : SoundLabel domainLabelLimit wideLabel :=
    labelFault?_eq_none_iff.mp (by decide +kernel)
  have name : SoundLabel nameLimit "feed" := labelFault?_eq_none_iff.mp (by decide)
  have labels : ∀ part ∈ List.replicate 4 wideLabel, SoundLabel domainLabelLimit part :=
    fun part member => List.eq_of_mem_replicate member ▸ label
  have size : wideLabel.utf8ByteSize = 63 := by decide +kernel
  have sizes : ".".utf8ByteSize = 1 ∧ "feed".utf8ByteSize = 4 := ⟨rfl, rfl⟩
  refine ⟨?_, List.replicate 4 wideLabel, "feed", Text.split_join (by simp) ?_, by simp, labels, name⟩
  · have written : wideName = wideLabel ++ "." ++ (wideLabel ++ "." ++ (wideLabel ++ "." ++
        (wideLabel ++ "." ++ "feed"))) := by
      simp [wideName, Text.join, List.replicate_succ]
    simp only [written, String.utf8ByteSize_append, size, sizes, structureLimit]
    decide
  · intro part member
    rcases List.mem_append.mp member with inside | final
    · exact (labels part inside).absent (by decide)
    · obtain rfl := List.mem_singleton.mp final
      exact name.absent (by decide)

/-- Each of the differences occurs: a hyphen at the end of a name, a host name that is too large, a
wildcard, and a definition. -/
theorem readings_of_dotted_names_feed :
    (Identifier.parse "com.example.feed-" = .ok ⟨["com", "example"], "feed-", "main"⟩ ∧
      checkStructure "com.example.feed-" ≠ .ok ()) ∧
    ((∃ declared name, wideName = declared ++ "." ++ name ∧ '.' ∉ name.toList ∧
        if declared.utf8ByteSize ≤ 253 then ∃ id, Identifier.parse wideName = .ok id
        else Identifier.parse wideName = .error (.badAuthority declared .tooLong)) ∧
      checkStructure (wideName ++ ".*") = .ok ()) ∧
    (∀ id, Identifier.parse "com.example.feed.*" ≠ .ok id) ∧
    checkStructure "com.example.feed#main" ≠ .ok () := by
  refine ⟨?_, ?_, ?_, ?_⟩
  · have read : Identifier.parse "com.example.feed-" = .ok ⟨["com", "example"], "feed-", "main"⟩ :=
      rfl
    obtain ⟨-, exact, -⟩ := (readings_of_dotted_names "com.example.feed-").1 (by decide)
      (Text.beforeEnding?_eq_none_iff.mp rfl)
    refine ⟨read, fun checked => ?_⟩
    exact absurd ((exact _ read).2.mp checked).2 (by decide)
  · have unmarked : ∀ body, wideName ≠ body ++ ".*" := by
      intro body same
      refine wideName_structured.absent (c := '*') (by decide) (by decide) ?_
      rw [same]
      simp
    have checked := (checkStructure_of_unmarked unmarked).mpr wideName_structured
    obtain ⟨toRead, -, marked⟩ := (readings_of_dotted_names wideName).1
      (wideName_structured.absent (by decide) (by decide)) unmarked
    exact ⟨toRead checked, marked.mpr checked⟩
  · exact (readings_of_dotted_names "com.example.feed.*").2.1 ⟨"com.example.feed", rfl⟩
  · exact (readings_of_dotted_names "com.example.feed#main").2.2 (by decide)

end LexiconSchema
