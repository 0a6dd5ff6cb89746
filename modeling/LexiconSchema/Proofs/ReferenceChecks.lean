import LexiconSchema.Proofs.Origins
import LexiconSchema.Proofs.Refusals

/-!
# Checking all references of a document

All references of a document are checked at once by a way of its own: each text is expanded with
the document around it, in the repository that does the checking. A reference that is followed by
itself goes by the document and the repository that it knows. For a document that was read in
the repository the two ways are one, and checking it is following its references one by one,
each in the repository that the one before left, and keeping the errors.

Main statement: `checks_follow_each_reference`.
-/

namespace LexiconSchema

open Json (Value)

/-! Following references one by one. -/

/-- The error of an outcome, if it is one. -/
def failure? {α ε : Type} : Except ε α → Option ε
  | .error error => some error
  | .ok _ => none

/-- Follows references one after the other, whatever comes of each, and answers for every one. -/
def followOneByOne (files : FileTree) :
    List Reference → Option Repository → List (Except ResolutionError Found) × Option Repository
  | [], live => ([], live)
  | reference :: rest, live =>
    let (answer, between) := reference.resolve files live
    let (answers, last) := followOneByOne files rest between
    (answer :: answers, last)

/-- There is an answer for every reference, since none of them stops the others. -/
theorem length_followOneByOne (files : FileTree) (references : List Reference)
    (live : Option Repository) :
    (followOneByOne files references live).1.length = references.length := by
  induction references generalizing live with
  | nil => rfl
  | cons reference rest inductionHypothesis =>
    rw [List.length_cons, ← inductionHypothesis (reference.resolve files live).2]
    rfl

/-- The reference knows a document around it and the repository that it is attached to. -/
structure Reference.Knows (reference : Reference) (document : Identifier) (handle : Handle) :
    Prop where
  base : reference.base = some document
  attached : reference.repository = some handle

namespace Repository

section
variable {files : FileTree} {repository : Repository} {document : Identifier}

variable (files) in
/-- Such a reference is followed in the way in which its text is when it is checked. -/
theorem resolve_eq_of_knows {reference : Reference}
    (knows : reference.Knows document repository.handle) :
    reference.resolve files (some repository) =
      (repository.resolveText files reference.target
        (some (reference.base.getD document))).map id some := by
  rw [Reference.resolve, inRepository_some, Reference.followIn, if_pos knows.attached,
    Reference.targetIdentifier, Reference.identifier, resolveText, knows.base]
  dsimp only [Option.getD_some]
  cases Reference.expand reference.target (some document) <;> rfl

variable (files) in
/-- Collecting errors is following one by one and keeping the errors.

Proof: by induction on the references. What one of them leaves is the same repository as before,
with other documents in it perhaps, so the others still know it. -/
theorem collectErrors_eq {references : List Reference}
    (know : ∀ reference ∈ references, reference.Knows document repository.handle) :
    ∃ answers last, followOneByOne files references (some repository) = (answers, some last) ∧
      collectErrors files document references repository = (answers.filterMap failure?, last) := by
  induction references generalizing repository with
  | nil => exact ⟨[], repository, rfl, rfl⟩
  | cons reference rest inductionHypothesis =>
    obtain ⟨knows, others⟩ := List.forall_mem_cons.mp know
    have followed := resolve_eq_of_knows files knows
    have reached := resolveText_reaches files repository reference.target
      (some (reference.base.getD document))
    rw [followOneByOne, collectErrors, followed]
    dsimp only
    generalize repository.resolveText files reference.target _ = outcome at reached ⊢
    obtain ⟨answer, between⟩ := outcome
    rw [← reached.handle] at others
    obtain ⟨answers, last, followedRest, collected⟩ := inductionHypothesis others
    refine ⟨answer :: answers, last, ?_, ?_⟩
    · change ((answer :: (followOneByOne files rest (some between)).1),
        (followOneByOne files rest (some between)).2) = _
      rw [followedRest]
    · cases answer with
      | error error =>
        dsimp only
        rw [collected]
        rfl
      | ok found => exact collected

/-- The references of a document that was read in the repository know both. -/
theorem HasRead.knows {kept : Document} (read : repository.HasRead kept) {reference : Reference}
    (member : reference ∈ kept.references) : reference.Knows kept.id repository.handle := by
  obtain ⟨entries, made⟩ := read
  obtain ⟨base, attached⟩ := Document.references_of_ofEntries made reference member
  exact ⟨base, attached⟩

/-- What was read in a repository was read in any other of its identity. -/
theorem HasRead.of_handle {after : Repository} {kept : Document} (read : repository.HasRead kept)
    (same : after.handle = repository.handle) : after.HasRead kept := by
  rw [HasRead, context, same]
  exact read

/-- A document that was not kept and is loaded is read. -/
theorem hasRead_of_load (sound : repository.Sound) {id : Identifier} {kept : Kept}
    {after : Repository} (absent : repository.get? id = none)
    (loaded : repository.load files id = (.ok (some kept), after)) :
    repository.HasRead kept.document := by
  have loads := load_cases files sound id
  rw [loaded] at loads
  cases loads with
  | kept found =>
    rw [absent] at found
    cases found
  | stored absent located content read head own => exact ⟨_, read⟩

/-- A document that an earlier step introduced was read. -/
theorem hasRead_of_introduces {handle : Handle} {config : RepositoryConfig}
    {earlier later : List Step} {step : Step} {kept : Kept}
    (introduces : step.Introduces (run earlier (.new handle config)) kept) :
    (run (earlier ++ step :: later) (.new handle config)).HasRead kept.document := by
  have new := Repository.sound_new handle config
  refine introduces.read.of_handle ?_
  rw [(run_extends _ new).handle, (run_extends earlier new).handle]

/-- Checking fails exactly if the document cannot be loaded, and otherwise collects errors. -/
theorem checkReferences_of_load {id : Identifier} {kept : Kept} {after : Repository}
    (loaded : repository.load files id = (.ok (some kept), after)) :
    repository.checkReferences files id =
      (collectErrors files kept.document.id kept.document.references after).map .ok
        fun last => last := by
  rw [checkReferences_eq, require_eq, loaded]
  rfl

/-- The check as a whole fails exactly if the document itself cannot be loaded, or is not there. -/
theorem checkReferences_eq_error_iff {id : Identifier} {error : ResolutionError}
    {after : Repository} :
    repository.checkReferences files id = (.error error, after) ↔
      (∃ fault, repository.load files id = (.error fault, after) ∧
        error = .loadFailed id.document fault) ∨
      repository.load files id = (.ok none, after) ∧ error = .noSchemaFile id.document := by
  rw [checkReferences_eq, require_eq]
  constructor
  · intro failed
    cases loaded : repository.load files id with
    | mk answer between =>
      rw [loaded] at failed
      rcases answer with fault | _ | kept
      · cases failed
        exact .inl ⟨fault, rfl, rfl⟩
      · cases failed
        exact .inr ⟨rfl, rfl⟩
      · cases failed
  · rintro (⟨fault, loaded, rfl⟩ | ⟨loaded, rfl⟩)
    · rw [loaded]
      rfl
    · rw [loaded]
      rfl

end

end Repository

/-- Checks follow each reference. Let a repository be asked anything and then to check the
references of a document. If the document was read by the repository, the reply is the list that
comes of going through its definitions in order and through the references of each in order,
following every one in the repository that the one before left, and keeping the errors. There is
an answer for every reference, so none hides another, and what is left is the same repository.
A document was read if it is loaded only now or if an earlier step introduced it. The check
itself fails exactly if the document cannot be loaded.

Proof: all references of a document that was read know it and the repository, and following
them changes neither. -/
theorem checks_follow_each_reference (files : FileTree) (handle : Handle)
    (config : RepositoryConfig) (history : List Step) (id : Identifier) :
    let before := run history (.new handle config)
    (∀ kept after, before.load files id = (.ok (some kept), after) →
      before.HasRead kept.document →
      let references := kept.document.definitions.values.flatMap Node.references
      ∃ answers last, followOneByOne files references (some after) = (answers, some last) ∧
        answers.length = references.length ∧
        before.checkReferences files id = (.ok (answers.filterMap failure?), last)) ∧
    (∀ kept after, before.load files id = (.ok (some kept), after) →
      (before.get? id = none ∨ ∃ earlier step later, history = earlier ++ step :: later ∧
        step.Introduces (run earlier (.new handle config)) kept) →
      before.HasRead kept.document) ∧
    ∀ error after, before.checkReferences files id = (.error error, after) ↔
      (∃ fault, before.load files id = (.error fault, after) ∧
        error = .loadFailed id.document fault) ∨
      before.load files id = (.ok none, after) ∧ error = .noSchemaFile id.document := by
  intro before
  have sound : before.Sound := sound_run handle config history
  refine ⟨?_, ?_, ?_⟩
  · intro kept after loaded read references
    have reached : before.Reaches after := by
      have reaches := Repository.load_reaches files before id
      rw [loaded] at reaches
      exact reaches
    have readAfter : after.HasRead kept.document := read.of_handle reached.handle
    obtain ⟨answers, last, followed, collected⟩ :=
      Repository.collectErrors_eq files fun reference member => readAfter.knows member
    refine ⟨answers, last, followed, ?_, ?_⟩
    · have counted := length_followOneByOne files kept.document.references (some after)
      rw [followed] at counted
      exact counted
    · rw [Repository.checkReferences_of_load loaded, collected]
      rfl
  · intro kept after loaded origin
    rcases origin with absent | ⟨earlier, step, later, same, introduces⟩
    · exact Repository.hasRead_of_load sound absent loaded
    · change (run history _).HasRead _
      rw [same]
      exact Repository.hasRead_of_introduces introduces
  · intro error after
    exact Repository.checkReferences_eq_error_iff

/-- The entries of a document whose two definitions refer to the same one, which is absent. -/
def draftEntries : List (String × Value) :=
  [("lexicon", .number languageVersion), ("id", .string "com.example.draft"),
    ("defs", .object [("main", .object [("type", .string "ref"), ("ref", .string "#absent")]),
      ("other", .object [("type", .string "ref"), ("ref", .string "#absent")])])]

/-- The document's identifier. -/
def draftId : Identifier := ⟨["com", "example"], "draft", "main"⟩

/-- The reference in both definitions, for the first repository. -/
def draftReference : Reference := ⟨"#absent", some draftId, some ⟨0⟩⟩

/-- The document. -/
def draftDocument : Document :=
  ((Document.new draftId).withDefinition "main"
    ⟨none, .element (.ref draftReference)⟩).withDefinition "other"
    ⟨none, .element (.ref draftReference)⟩

/-- The error that both references give is reported twice. -/
theorem checks_follow_each_reference_draft :
    let before := run [⟨.empty, .readDocument (.value (.object draftEntries))⟩] (.new ⟨0⟩ {})
    before.load .empty draftId = (.ok (some ⟨draftDocument, 0⟩), before) ∧
    before.HasRead draftDocument ∧
    before.checkReferences .empty draftId =
      (.ok [.noDefinition draftId "absent", .noDefinition draftId "absent"], before) := by
  intro before
  have read : Document.ofEntries { repository := some ⟨0⟩ } draftEntries = .ok draftDocument := by
    have head : Document.readHead ⟨{ repository := some ⟨0⟩ }, draftEntries⟩ = .ok draftId := by
      rfl
    rw [Document.ofEntries, head]
    change Document.readBody ⟨{ repository := some ⟨0⟩ }, draftEntries⟩ draftId = _
    rw [Document.readBody, readMap, Source.entry?_of_present (by rfl)]
    simp only [readMembers]
    rw [readChild, Node.ofEntries, readChild, Node.ofEntries]
    rfl
  have entered : (Repository.new ⟨0⟩ {}).readEntries draftEntries =
      (.ok ⟨draftDocument, 0⟩, ((Repository.new ⟨0⟩ {}).store draftDocument).2) :=
    Repository.readEntries_of_missing read rfl
  have stored : before = ((Repository.new ⟨0⟩ {}).store draftDocument).2 :=
    congrArg Prod.snd entered
  have found : before.get? draftId = some ⟨draftDocument, 0⟩ := by
    rw [stored]
    rfl
  have given := Repository.gives_of_get? found
  have hasRead : before.HasRead draftDocument := by
    rw [stored]
    exact ⟨draftEntries, read⟩
  have missed : draftReference.resolve .empty (some before) =
      (.error (.noDefinition draftId "absent"), some before) := by
    rw [stored]
    rfl
  obtain ⟨checked, -, -⟩ := checks_follow_each_reference .empty ⟨0⟩ {}
    [⟨.empty, .readDocument (.value (.object draftEntries))⟩] draftId
  obtain ⟨answers, last, followed, -, reply⟩ := checked _ _ (given.load .empty) hasRead
  have references : draftDocument.definitions.values.flatMap Node.references =
      [draftReference, draftReference] := rfl
  rw [references, followOneByOne, missed] at followed
  dsimp only at followed
  rw [followOneByOne, missed] at followed
  cases followed
  exact ⟨given.load .empty, hasRead, reply⟩

end LexiconSchema
