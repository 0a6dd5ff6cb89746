import LexiconSchema.Proofs.Origins
import LexiconSchema.Proofs.Refusals

/-!
# References inside their own document

A local reference names a definition of the document around it. It is followed by writing
the document's identifier before it and reading the whole again, so its text is cut where it
was put together and every fault lies behind the `#`. As long as the document is kept,
following the reference comes back to this very document: no file is looked at, nothing
changes, and the definition found is the one that the document holds under the name.

A reference in any other document that spells the identifier out leads to the same place.

Main statement: `local_references_stay_inside`.
-/

namespace LexiconSchema

open Json (Value)

namespace Identifier

variable {text name : String} {id : Identifier}

/-- The parts of an identifier without a definition's name make one with any name that can
stand behind the `#`. -/
theorem ofParts_fragment {parts : List String} {other : String}
    (made : ofParts text parts none = .ok id) :
    ofParts other parts (some name) = (definitionOf other (some name)).map id.withDefinition := by
  rw [ofParts] at made ⊢
  by_cases labelled : parts.dropLast.isEmpty
  · rw [if_pos labelled] at made
    cases made
  · rw [if_neg labelled] at made ⊢
    cases named : nameFault? (parts.getLastD "") with
    | some fault => cases named ▸ made
    | none =>
      rw [named] at made
      cases hosted : hostnameFault? parts.dropLast.reverse with
      | some fault => cases hosted ▸ made
      | none =>
        rw [hosted] at made
        obtain rfl := Except.ok.inj made
        rfl

/-- Behind an identifier a definition's name is checked by itself. -/
theorem parse_behind (whole : '#' ∉ text.toList) (parsed : parse text = .ok id) :
    parse (text ++ "#" ++ name) =
      (definitionOf (text ++ "#" ++ name) (some name)).map id.withDefinition := by
  rw [parse_eq, bodyOf_of_whole whole, fragmentOf_of_whole whole] at parsed
  rw [parse_eq, bodyOf_sum whole, fragmentOf_sum whole]
  exact ofParts_fragment parsed

end Identifier

/-! What references of documents that were read stand for. -/

/-- A document's identifier is written as it was read, without a definition's name. -/
structure Document.Declared (document : Document) : Prop where
  whole : '#' ∉ document.id.toString.toList
  parsed : Identifier.parse document.id.toString = .ok document.id
  main : document.id.document = document.id

/-- The identifier of a document that was read is written as it was read. -/
theorem Document.declared_of_ofEntries {context : Context} {entries : List (String × Value)}
    {document : Document} (read : Document.ofEntries context entries = .ok document) :
    document.Declared := by
  have head := Repository.readHead_of_ofEntries read
  obtain ⟨text, -, whole, parsed⟩ := Document.readHead_text _ _ head
  have written := Identifier.toString_of_parse whole parsed
  exact ⟨written ▸ whole, written ▸ parsed, Identifier.document_of_parse whole parsed⟩

namespace Reference

/-- A local text stands for the document's identifier with the name behind it. -/
theorem expand_local (name : String) (base : Identifier) :
    expand ("#" ++ name) (some base) =
      identify ("#" ++ name) (base.document.toString ++ "#" ++ name) := by
  have characters : ("#" ++ name).toList = '#' :: name.toList := by simp
  have opened : Text.afterOpening? "#" ("#" ++ name) = some name := by
    simp [Text.afterOpening?, characters, Text.behind?]
  rw [expand, opened, characters]
  rfl

/-- A text that starts with an identifier stands for itself, whatever document it is in. -/
theorem expand_spelled {text rest : String} {id : Identifier} (base : Option Identifier)
    (whole : '#' ∉ text.toList) (parsed : Identifier.parse text = .ok id) :
    expand (text ++ rest) base = identify (text ++ rest) (text ++ rest) := by
  cases characters : text.toList with
  | nil =>
    obtain rfl := String.toList_eq_nil_iff.mp characters
    cases parsed
  | cons c others =>
    have first : '#' ≠ c := by
      rintro rfl
      exact whole (characters ▸ List.mem_cons_self)
    have unopened : Text.afterOpening? "#" (text ++ rest) = none := by
      simp [Text.afterOpening?, characters, Text.behind?, first]
    rw [expand, unopened, String.toList_append, characters]
    rfl

end Reference

/-- What following a reference of some text ends with when the text names a definition of a
kept document. -/
def Kept.lookUp (kept : Kept) (target name : String) : Except ResolutionError Found :=
  if Identifier.isDefinitionName name then
    match kept.document.definition? name with
    | some node => .ok ⟨kept, name, node⟩
    | none => .error (.noDefinition kept.document.id name)
  else .error (.badReference (.invalid target (.notIdentifier
    (.malformed (kept.document.id.toString ++ "#" ++ name) (.badFragment name)))))

/-- What can stand behind a `#`: one or more ASCII letters, digits, underscores and hyphens. -/
def Identifier.Names (name : String) : Prop :=
  name ≠ "" ∧ ∀ c ∈ name.toList, c.isAlphanum = true ∨ c = '_' ∨ c = '-'

/-- The check of a definition's name passes exactly the names that can stand behind a `#`. -/
theorem Identifier.isDefinitionName_iff {name : String} :
    isDefinitionName name = true ↔ Names name := by
  simp [isDefinitionName, Names, or_assoc]

/-- The three ways in which following a reference to a definition of a kept document ends. The
definition is found exactly if its name can stand behind a `#` and the document has it, and
it is the document's own. The reference is invalid exactly if the name cannot stand there,
whatever the document has. Otherwise the definition is missing. -/
structure Kept.Leads (kept : Kept) (target name : String)
    (answer : Except ResolutionError Found) : Prop where
  found : ∀ found, answer = .ok found ↔ Identifier.Names name ∧
    ∃ node, kept.document.definition? name = some node ∧ found = ⟨kept, name, node⟩
  invalid : (∃ fault, answer = .error (.badReference (.invalid target fault))) ↔
    ¬ Identifier.Names name
  missing : answer = .error (.noDefinition kept.document.id name) ↔
    Identifier.Names name ∧ kept.document.definition? name = none

/-- Looking up a definition in a kept document ends in one of the three ways, each in just its
case. -/
theorem Kept.lookUp_leads (kept : Kept) (target name : String) :
    kept.Leads target name (kept.lookUp target name) := by
  by_cases proper : Identifier.isDefinitionName name = true
  · have spelled := Identifier.isDefinitionName_iff.mp proper
    rw [lookUp, if_pos proper]
    cases held : kept.document.definition? name with
    | none => exact ⟨by simp [held], by simp [spelled], by simp [spelled, held]⟩
    | some node =>
      exact ⟨by simp [held, spelled, eq_comm], by simp [spelled], by simp [held]⟩
  · have misspelled := mt Identifier.isDefinitionName_iff.mpr proper
    rw [lookUp, if_neg proper]
    exact ⟨fun found => by simp [misspelled], by simp [misspelled], by simp [misspelled]⟩

section
variable {repository : Repository} {kept : Kept} {reference : Reference}

/-- A reference whose text stands for a name behind the identifier of a kept document is
looked up there, and nothing else happens. -/
theorem resolve_of_identifier {name : String} (files : FileTree)
    (attached : reference.repository = some repository.handle)
    (declared : kept.document.Declared) (found : repository.get? kept.document.id = some kept)
    (stands : reference.identifier =
      Reference.identify reference.target (kept.document.id.toString ++ "#" ++ name)) :
    reference.resolve files (some repository) =
      (kept.lookUp reference.target name, some repository) := by
  have target : reference.targetIdentifier = ((Identifier.definitionOf
      (kept.document.id.toString ++ "#" ++ name) (some name)).map
        kept.document.id.withDefinition).mapError fun error =>
          .badReference (.invalid reference.target (.notIdentifier error)) := by
    rw [Reference.targetIdentifier, stands, Reference.identify,
      Identifier.parse_behind declared.whole declared.parsed]
    cases Identifier.definitionOf _ (some name) <;> rfl
  rw [Reference.resolve, inRepository_some, Reference.followIn, if_pos attached, target,
    Identifier.definitionOf, Kept.lookUp]
  by_cases proper : Identifier.isDefinitionName name = true
  · rw [if_pos proper, if_pos proper]
    have given : repository.Gives kept (kept.document.id.withDefinition name) :=
      Repository.gives_of_get? found
    change Prod.map id some (repository.resolve files (kept.document.id.withDefinition name)) = _
    rw [given.resolve files]
    change (match kept.document.definition? name with | some node => _ | none => _, _) = _
    cases kept.document.definition? name <;> rfl
  · rw [if_neg proper, if_neg proper]
    rfl

/-- A reference whose text is the identifier of a kept document leads to its main definition. -/
theorem resolve_of_document (files : FileTree)
    (attached : reference.repository = some repository.handle)
    (declared : kept.document.Declared) (found : repository.get? kept.document.id = some kept)
    (spelled : reference.target = kept.document.id.toString) :
    reference.resolve files (some repository) =
      (kept.lookUp reference.target mainDefinition, some repository) := by
  have stands : reference.targetIdentifier = .ok kept.document.id := by
    have expanded : Reference.expand (kept.document.id.toString ++ "") reference.base = _ :=
      Reference.expand_spelled reference.base declared.whole declared.parsed
    rw [String.append_empty, ← spelled] at expanded
    rw [Reference.targetIdentifier, Reference.identifier, expanded, Reference.identify, spelled,
      declared.parsed]
    rfl
  have main : kept.document.id.definition = mainDefinition :=
    congrArg Identifier.definition declared.main.symm
  rw [Reference.resolve, inRepository_some, Reference.followIn, if_pos attached, stands]
  have given : repository.Gives kept kept.document.id := Repository.gives_of_get? found
  change Prod.map id some (repository.resolve files kept.document.id) = _
  rw [given.resolve files, main, Kept.lookUp, if_pos (by rfl)]
  change (match kept.document.definition? mainDefinition with | some node => _ | none => _, _) = _
  cases kept.document.definition? mainDefinition <;> rfl

end

/-- Local references stay inside their own document. Let a step introduce a document into a
repository, by reading or by loading it, and let the document be kept still after anything
else that was asked. Then every local reference in it leads to the document itself, the
answer is the same whatever the files are, and nothing changes. A reference from anywhere else
that spells out the document's identifier, with a name behind it or for the main definition,
leads there in the same way. -/
theorem local_references_stay_inside (handle : Handle) (config : RepositoryConfig)
    (earlier later : List Step) (step : Step) (kept : Kept) :
    let before := run earlier (.new handle config)
    let last := run later (step.take before).2
    step.Introduces before kept → last.get? kept.document.id = some kept →
      (∀ reference ∈ kept.document.references, ∀ name, reference.target = "#" ++ name →
        ∃ answer, kept.Leads reference.target name answer ∧
          ∀ files, reference.resolve files (some last) = (answer, some last)) ∧
      ∀ reference : Reference, reference.repository = some handle → ∀ name,
        (reference.target = kept.document.id.toString ++ "#" ++ name ∨
          reference.target = kept.document.id.toString ∧ name = mainDefinition) →
        ∃ answer, kept.Leads reference.target name answer ∧
          ∀ files, reference.resolve files (some last) = (answer, some last) := by
  intro before last introduces found
  have sound : before.Sound := sound_run handle config earlier
  have extended := (step.request.perform_performs step.files sound).extended
  -- No step changes the handle, so a reference that was attached on reading still is.
  have beforeHandle : before.handle = handle :=
    (run_extends earlier (Repository.sound_new handle config)).handle
  have lastHandle : last.handle = handle :=
    ((run_extends later (extended.sound sound)).handle.trans extended.handle).trans beforeHandle
  obtain ⟨entries, read⟩ := introduces.read
  have declared := Document.declared_of_ofEntries read
  constructor
  · intro reference member name spelled
    obtain ⟨base, repository⟩ := Document.references_of_ofEntries read reference member
    have attached : reference.repository = some last.handle := by
      rw [repository, lastHandle, ← beforeHandle]
      rfl
    refine ⟨_, kept.lookUp_leads reference.target name, fun files =>
      resolve_of_identifier files attached declared found ?_⟩
    rw [Reference.identifier, base, spelled, Reference.expand_local, declared.main]
  · intro reference repository name spelled
    have attached : reference.repository = some last.handle := by rw [repository, lastHandle]
    rcases spelled with spelled | ⟨spelled, rfl⟩
    · refine ⟨_, kept.lookUp_leads reference.target name, fun files =>
        resolve_of_identifier files attached declared found ?_⟩
      rw [Reference.identifier, spelled, String.append_assoc]
      exact Reference.expand_spelled reference.base declared.whole declared.parsed
    · exact ⟨_, kept.lookUp_leads reference.target mainDefinition, fun files =>
        resolve_of_document files attached declared found spelled⟩

/-- The entries of a document with two local references. The name of the second definition
cannot stand behind a `#`. -/
def threadEntries : List (String × Value) :=
  [("lexicon", .number languageVersion), ("id", .string "com.example.thread"),
    ("defs", .object [("reply", .object [("type", .string "ref"), ("ref", .string "#reply")]),
      ("re:ply", .object [("type", .string "ref"), ("ref", .string "#re:ply")])])]

/-- The document's identifier. -/
def threadId : Identifier := ⟨["com", "example"], "thread", "main"⟩

/-- A reference declared in the document, for the first repository. -/
def threadReference (target : String) : Reference := ⟨target, some threadId, some ⟨0⟩⟩

/-- The document. -/
def threadDocument : Document :=
  ⟨threadId, none, none, (OrderedMap.empty.insert "reply"
    ⟨none, .element (.ref (threadReference "#reply"))⟩).insert "re:ply"
    ⟨none, .element (.ref (threadReference "#re:ply"))⟩⟩

/-- The document as it is kept when it is read first. -/
def threadKept : Kept := ⟨threadDocument, 0⟩

/-- Of a document read and loaded again, the first reference leads to itself and the second
is invalid although its name is that of a definition. -/
theorem local_references_stay_inside_thread :
    let step : Step := ⟨.empty, .read (.value (.object threadEntries))⟩
    let last := run [⟨.empty, .load threadId⟩] (step.take (.new ⟨0⟩ {})).2
    step.Introduces (.new ⟨0⟩ {}) threadKept ∧ last.get? threadId = some threadKept ∧
    (∃ node, ∀ files, (threadReference "#reply").resolve files (some last) =
      (.ok ⟨threadKept, "reply", node⟩, some last)) ∧
    (threadDocument.definition? "re:ply").isSome ∧
    (∃ fault, ∀ files, (threadReference "#re:ply").resolve files (some last) =
      (.error (.badReference (.invalid "#re:ply" fault)), some last)) := by
  intro step last
  have read : Document.ofEntries { repository := some ⟨0⟩ } threadEntries = .ok threadDocument := by
    have head : Document.readHead ⟨{ repository := some ⟨0⟩ }, threadEntries⟩ = .ok threadId := by
      rfl
    rw [Document.ofEntries, head]
    change Document.readBody ⟨{ repository := some ⟨0⟩ }, threadEntries⟩ threadId = _
    rw [Document.readBody, readMap, Source.entry?_of_present (by rfl)]
    simp only [readMembers]
    rw [readChild, Node.ofEntries, readChild, Node.ofEntries]
    rfl
  have stored : (Repository.new ⟨0⟩ {}).readEntries threadEntries =
      (.ok threadKept, ((Repository.new ⟨0⟩ {}).store threadDocument).2) :=
    Repository.readEntries_of_missing read rfl
  have taken : (step.take (.new ⟨0⟩ {})).2 = ((Repository.new ⟨0⟩ {}).store threadDocument).2 :=
    congrArg Prod.snd stored
  have introduces : step.Introduces (.new ⟨0⟩ {}) threadKept :=
    ⟨(Option.some_ne_none threadKept).symm, by rw [taken]; rfl, id⟩
  have found : last.get? threadId = some threadKept := by
    have loaded : last = (step.take (.new ⟨0⟩ {})).2 := by
      have given : ((Repository.new ⟨0⟩ {}).store threadDocument).2.Gives threadKept threadId :=
        Repository.gives_of_get? rfl
      change (Repository.load .empty (step.take (.new ⟨0⟩ {})).2 threadId).2 = _
      rw [taken, given.load]
    rw [loaded, taken]
    rfl
  obtain ⟨inside, -⟩ := local_references_stay_inside ⟨0⟩ {} [] [⟨.empty, .load threadId⟩] step
    threadKept introduces found
  have declared : threadKept.document.references =
      [threadReference "#reply", threadReference "#re:ply"] := rfl
  refine ⟨introduces, found, ?_, rfl, ?_⟩
  · obtain ⟨answer, leads, resolved⟩ := inside (threadReference "#reply") (by simp [declared])
      "reply" rfl
    have named : Identifier.Names "reply" := Identifier.isDefinitionName_iff.mp (by decide)
    have same := (leads.found _).mpr ⟨named, _, rfl, rfl⟩
    exact ⟨_, fun files => same ▸ resolved files⟩
  · obtain ⟨answer, leads, resolved⟩ := inside (threadReference "#re:ply") (by simp [declared])
      "re:ply" rfl
    have misnamed : ¬ Identifier.Names "re:ply" :=
      mt Identifier.isDefinitionName_iff.mpr (by decide)
    obtain ⟨fault, same⟩ := leads.invalid.mpr misnamed
    exact ⟨fault, fun files => same ▸ resolved files⟩

end LexiconSchema
