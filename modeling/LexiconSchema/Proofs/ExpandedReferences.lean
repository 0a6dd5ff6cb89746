import LexiconSchema.Proofs.LocalReferences
import LexiconSchema.Proofs.WellFormedIdentifiers

/-!
# What the text of a reference stands for

A text that opens with a `#` stands for a definition of the document around it. It is put behind
the document's identifier and the whole is read again. No character of the text can move the place
at which the whole is cut, since a document's identifier has no `#` of its own; so the text is
refused or names exactly what stands behind its `#`. Any other text is read as it is, wherever it
stands.

What a text stands for is written in a way that stands for the same thing in every document and in
none. So a local text and the text that spells its document out name one definition.

Main statement: `texts_expand_canonically`.
-/

namespace LexiconSchema

namespace Identifier.WellFormed

variable {id : Identifier} (formed : id.WellFormed)
include formed

/-- An identifier stays well formed with any definition's name that can stand behind a `#`. -/
theorem withDefinition {name : String} (proper : isDefinitionName name = true) :
    (id.withDefinition name).WellFormed := { formed with definition := proper }

/-- A document's identifier is written without a `#`. -/
theorem document_whole : '#' ∉ id.document.toString.toList := formed.dotted_whole

/-- It is read again. -/
theorem parse_document : parse id.document.toString = .ok id.document :=
  parse_toString (formed.withDefinition (by decide))

end Identifier.WellFormed

namespace Reference

/-! Texts that are read. -/

/-- A text is identified exactly as it is read as an identifier. -/
theorem identify_eq_ok_iff {target text : String} {id : Identifier} :
    identify target text = .ok id ↔ Identifier.parse text = .ok id := by
  rw [identify, mapError_eq_ok_iff]

/-- A text that is no identifier is reported with the text of the reference. -/
theorem identify_of_error {target text : String} {error : IdentifierError}
    (refused : Identifier.parse text = .error error) :
    identify target text = .error (.invalid target (.notIdentifier error)) := by
  rw [identify, refused]
  rfl

/-- A text that does not open with a `#` is read as it is, wherever it stands. -/
theorem expand_whole {target : String} (present : target ≠ "") (whole : ∀ name, target ≠ "#" ++ name)
    (base : Option Identifier) : expand target base = identify target target := by
  have filled : target.toList.isEmpty = false := by simpa using present
  have unopened : Text.afterOpening? "#" target = none := by
    cases opened : Text.afterOpening? "#" target with
    | none => rfl
    | some name => exact absurd (Text.afterOpening?_eq_some_iff.mp opened) (whole name)
  rw [expand, filled, unopened]
  rfl

/-- Without a document nothing is meant by what opens with a `#`. -/
theorem expand_outside (name : String) :
    expand ("#" ++ name) none = .error (.invalid ("#" ++ name) .outsideDocument) := by
  have opened : Text.afterOpening? "#" ("#" ++ name) = some name :=
    Text.afterOpening?_eq_some_iff.mpr rfl
  rw [expand, opened]
  simp

/-! Definitions of a document. -/

section
variable {document : Identifier} (formed : document.WellFormed)
include formed

/-- The identifier of a document with a name behind it is cut at the `#` between them, whatever
the name is. -/
theorem identify_behind (target name : String) :
    identify target (document.document.toString ++ "#" ++ name) =
      if Identifier.isDefinitionName name then .ok (document.withDefinition name)
      else .error (.invalid target (.notIdentifier
        (.malformed (document.document.toString ++ "#" ++ name) (.badFragment name)))) := by
  rw [identify, Identifier.parse_behind formed.document_whole formed.parse_document,
    Identifier.definitionOf]
  split <;> rfl

/-- What opens with a `#` means a definition of the document, if one can have the name. -/
theorem expand_opened_eq_ok_iff {name : String} {id : Identifier} :
    expand ("#" ++ name) (some document) = .ok id ↔
      Identifier.Names name ∧ id = document.withDefinition name := by
  rw [expand_local, identify_behind formed, ← Identifier.isDefinitionName_iff]
  split <;> simp [*, eq_comm]

/-- Else it is refused for the name. -/
theorem expand_opened_of_misnamed {name : String} (misnamed : ¬ Identifier.Names name) :
    expand ("#" ++ name) (some document) = .error (.invalid ("#" ++ name) (.notIdentifier
      (.malformed (document.document.toString ++ "#" ++ name) (.badFragment name)))) := by
  rw [expand_local, identify_behind formed, if_neg (mt Identifier.isDefinitionName_iff.mp misnamed)]

/-- The document and the name can be written together. -/
theorem expand_spelled_out {name : String} (named : Identifier.Names name)
    (base : Option Identifier) : expand (document.document.toString ++ "#" ++ name) base =
      .ok (document.withDefinition name) := by
  rw [String.append_assoc, expand_spelled base formed.document_whole formed.parse_document,
    ← String.append_assoc, identify_behind formed,
    if_pos (Identifier.isDefinitionName_iff.mpr named)]

/-- What is written for an identifier stands for it in every document and in none. -/
theorem expand_toString (base : Option Identifier) : expand document.toString base = .ok document := by
  obtain ⟨behind, spelled⟩ : ∃ behind, document.toString = document.document.toString ++ behind := by
    rw [Identifier.toString]
    split
    · exact ⟨"", String.append_empty.symm⟩
    · exact ⟨"#" ++ document.definition, String.append_assoc⟩
  rw [spelled, expand_spelled base formed.document_whole formed.parse_document, ← spelled,
    identify_eq_ok_iff]
  exact formed.parse_toString

end

end Reference

open Reference in
/-- How a text is expanded, in a document whose identifier was read from some text or in none. The
empty text stands for nothing. A text that opens with a `#` stands for what is behind it in that
document, exactly if a definition can have that name, and whatever definition the document's own
identifier means; it stands for nothing without a document. Any other text stands for what it is
read as, and the document does not matter. Every refusal has the text as it was written. What a text
stands for is written in a way that stands for it everywhere, and so does the spelling with the
document and the name.

Proof: a well-formed identifier has its only `#` where it was put, so both its parts are read
again. -/
theorem texts_expand_canonically (base : Option Identifier)
    (read : ∀ document, base = some document → ∃ text, Identifier.parse text = .ok document) :
    expand "" base = .error .empty ∧
    (∀ document, base = some document → ∀ name,
      (∀ id, expand ("#" ++ name) base = .ok id ↔
        Identifier.Names name ∧ id = document.withDefinition name) ∧
      (¬ Identifier.Names name → expand ("#" ++ name) base =
        .error (.invalid ("#" ++ name) (.notIdentifier
          (.malformed (document.document.toString ++ "#" ++ name) (.badFragment name))))) ∧
      (Identifier.Names name → ∀ other, expand (document.document.toString ++ "#" ++ name) other =
        .ok (document.withDefinition name))) ∧
    (∀ name, expand ("#" ++ name) none = .error (.invalid ("#" ++ name) .outsideDocument)) ∧
    (∀ target, target ≠ "" → (∀ name, target ≠ "#" ++ name) →
      (∀ other, expand target other = expand target base) ∧
      (∀ id, expand target base = .ok id ↔ Identifier.parse target = .ok id) ∧
      (∀ error, Identifier.parse target = .error error →
        expand target base = .error (.invalid target (.notIdentifier error)))) ∧
    ∀ target id, expand target base = .ok id → ∀ other, expand id.toString other = .ok id := by
  refine ⟨rfl, ?_, expand_outside, ?_, ?_⟩
  · rintro document rfl name
    obtain ⟨text, parsed⟩ := read document rfl
    have formed := (Identifier.parse_eq_ok_iff.mp parsed).1
    exact ⟨fun id => expand_opened_eq_ok_iff formed, expand_opened_of_misnamed formed,
      expand_spelled_out formed⟩
  · intro target present whole
    have asItIs := expand_whole present whole
    refine ⟨fun other => (asItIs other).trans (asItIs base).symm, fun id => ?_, fun error refused => ?_⟩
    · rw [asItIs]
      exact identify_eq_ok_iff
    · rw [asItIs]
      exact identify_of_error refused
  · intro target id expanded
    obtain ⟨text, parsed⟩ := parsed_of_expand expanded
    exact expand_toString (Identifier.parse_eq_ok_iff.mp parsed).1

/-- An identifier that means a definition other than the main one. -/
def replyId : Identifier := ⟨["com", "example"], "thread", "reply"⟩

/-- In its document another definition is meant by its name, and a second `#` is refused. -/
theorem texts_expand_canonically_thread :
    Identifier.parse "com.example.thread#reply" = .ok replyId ∧
    Reference.expand "#re_ply" (some replyId) = .ok (replyId.withDefinition "re_ply") ∧
    Reference.expand "com.example.thread#re_ply" none = .ok (replyId.withDefinition "re_ply") ∧
    Reference.expand "#re#ply" (some replyId) = .error (.invalid "#re#ply" (.notIdentifier
      (.malformed "com.example.thread#re#ply" (.badFragment "re#ply")))) := by
  have parsed : Identifier.parse "com.example.thread#reply" = .ok replyId := rfl
  obtain ⟨-, inside, -, -, everywhere⟩ := texts_expand_canonically (some replyId) fun document same =>
    Option.some.inj same ▸ ⟨_, parsed⟩
  have spelled : Identifier.Names "re_ply" := Identifier.isDefinitionName_iff.mp (by decide)
  have misspelled : ¬ Identifier.Names "re#ply" :=
    mt Identifier.isDefinitionName_iff.mpr (by decide)
  have expanded := ((inside replyId rfl "re_ply").1 _).mpr ⟨spelled, rfl⟩
  exact ⟨parsed, expanded, everywhere _ _ expanded none, (inside replyId rfl "re#ply").2.1 misspelled⟩

end LexiconSchema
