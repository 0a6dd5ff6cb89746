import LexiconSchema.Proofs.Runs

/-!
# Where kept documents come from

Apart from storing, a request changes a repository in one way only: documents are read
through it, one after the other. However a request is made up, the repository that it leaves
is reached from the one before by such readings. So a document that is kept afterwards was
kept before, or it was read from the entries of some object in the repository's own context.

The references of a document that was read this way know the document itself and the
repository, at whatever depth they stand.

Main statements: `perform_reaches`, and `Step.Introduces.read` for what a single step brings.
-/

namespace LexiconSchema

open Json (Value)

namespace Repository

/-- The later repository is left when documents are read through the earlier one, one after
the other. -/
inductive Reaches (repository : Repository) : Repository → Prop
  | start : Reaches repository repository
  | read {between : Repository} (before : Reaches repository between)
      (entries : List (String × Value)) : Reaches repository (between.readEntries entries).2

namespace Reaches

variable {α β ε δ : Type} {repository between after : Repository}

/-- What a later repository reaches is reached from the earlier one. -/
theorem trans (first : repository.Reaches between) (second : between.Reaches after) :
    repository.Reaches after := by
  induction second with
  | start => exact first
  | read before entries inductionHypothesis => exact inductionHypothesis.read entries

/-- A sequence reaches what its second part reaches from what the first one left. -/
theorem andThen {outcome : Except ε α × Repository} {fault : ε → δ}
    {next : α → Repository → Except δ β × Repository} (first : repository.Reaches outcome.2)
    (second : ∀ result (between : Repository), between.Reaches (next result between).2) :
    repository.Reaches (Repository.andThen outcome fault next).2 := by
  obtain ⟨answer, between⟩ := outcome
  cases answer with
  | error error => exact first
  | ok result => exact first.trans (second result between)

end Reaches

section
variable {repository : Repository}

/-! What the operations reach, from readings up to whole requests. -/

/-- Reading entries is one step. -/
theorem readEntries_reaches (repository : Repository) (entries : List (String × Value)) :
    repository.Reaches (repository.readEntries entries).2 :=
  .read .start entries

/-- Reading a document is one step, or none if the value is no document. -/
theorem readDocument_reaches (repository : Repository) (value : Value) :
    repository.Reaches (repository.readDocument value).2 := by
  rw [readDocument]
  cases Document.entriesOf value with
  | error error => exact .start
  | ok entries => exact readEntries_reaches repository entries

/-- Reading a value as what it is takes at most one step. -/
theorem read_reaches (repository : Repository) (value : Value) :
    repository.Reaches (repository.read value).2 := by
  cases value with
  | object entries =>
    rw [read]
    dsimp only
    split
    · exact readEntries_reaches repository entries
    · exact .start
  | _ => exact .start

variable (files : FileTree)

/-- Loading reads at most one file. -/
theorem load_reaches (repository : Repository) (id : Identifier) :
    repository.Reaches (repository.load files id).2 := by
  rw [load]
  cases repository.get? id with
  | some kept => exact .start
  | none =>
    dsimp only
    cases locate? files repository id with
    | none => exact .start
    | some path =>
      dsimp only
      rw [loadFile_eq]
      cases fileEntries files path with
      | error error => exact .start
      | ok entries => exact readEntries_reaches repository entries

/-- Requiring only loads. -/
theorem require_reaches (repository : Repository) (id : Identifier) :
    repository.Reaches (repository.require files id).2 := by
  rw [require_eq]
  refine (load_reaches files repository id).andThen fun loaded between => ?_
  cases loaded <;> exact .start

/-- Resolving an identifier only loads. -/
theorem resolve_reaches (repository : Repository) (id : Identifier) :
    repository.Reaches (repository.resolve files id).2 := by
  rw [resolve_eq]
  refine (require_reaches files repository id).andThen fun kept between => ?_
  rw [definitionOf]
  cases kept.document.definition? id.definition <;> exact .start

/-- Resolving the text of a reference only loads. -/
theorem resolveText_reaches (repository : Repository) (target : String)
    (base : Option Identifier) :
    repository.Reaches (repository.resolveText files target base).2 := by
  rw [resolveText]
  cases Reference.expand target base with
  | error error => exact .start
  | ok id => exact resolve_reaches files repository id

/-- The references of a document are resolved one after the other. -/
theorem collectErrors_reaches (document : Identifier) (references : List Reference)
    (repository : Repository) :
    repository.Reaches (collectErrors files document references repository).2 := by
  induction references generalizing repository with
  | nil => exact .start
  | cons reference rest inductionHypothesis =>
    have first := resolveText_reaches files repository reference.target
      (some (reference.base.getD document))
    rw [collectErrors]
    dsimp only
    generalize repository.resolveText files reference.target _ = outcome at first ⊢
    obtain ⟨answer, between⟩ := outcome
    cases answer <;> exact first.trans (inductionHypothesis between)

/-- Checking references loads the document and what they lead to. -/
theorem checkReferences_reaches (repository : Repository) (id : Identifier) :
    repository.Reaches (repository.checkReferences files id).2 := by
  rw [checkReferences_eq]
  exact (require_reaches files repository id).andThen fun kept between =>
    collectErrors_reaches files _ _ between

/-- The recursion is that of the chain: every link comes nearer to the limit. -/
theorem follow_reaches (limit : Nat) (chain : List Identifier) (next : Identifier)
    (repository : Repository) :
    repository.Reaches (follow files limit chain next repository).2 := by
  rw [follow_eq]
  split
  · exact .start
  · split
    · exact .start
    · refine (resolve_reaches files repository next).andThen fun found between => ?_
      rw [onward]
      cases found.node.content.reference? with
      | none => exact .start
      | some inner =>
        dsimp only
        cases inner.identifier with
        | error error => exact .start
        | ok id => exact follow_reaches limit (chain ++ [next]) id between
termination_by limit - chain.length
decreasing_by simp only [List.length_append, List.length_singleton]; omega

omit files in
/-- Following a reference reaches what the act on its identifier does. -/
theorem followIn_reaches {α : Type} (reference : Reference)
    {act : Repository → Identifier → Answer α}
    (reaches : ∀ id, repository.Reaches (act repository id).2) :
    repository.Reaches (reference.followIn repository act).2 := by
  rw [Reference.followIn]
  split
  · cases reference.targetIdentifier with
    | error error => exact .start
    | ok id => exact reaches id
  · exact .start

/-- References are followed one after the other. -/
theorem followEach_reaches (references : List Reference) (repository : Repository) :
    repository.Reaches (followEach files references repository).2 := by
  induction references generalizing repository with
  | nil => exact .start
  | cons reference rest inductionHypothesis =>
    refine Reaches.andThen (followIn_reaches reference (resolve_reaches files repository))
      fun found between => ?_
    exact (inductionHypothesis between).andThen fun others last => .start

end

/-- Whatever is asked of a repository, unless it is to store a document, reaches the
repository that is left. -/
theorem perform_reaches (files : FileTree) (repository : Repository) (request : Request)
    (unstored : ∀ key, ¬ request.Stores key) :
    repository.Reaches (request.perform files repository).2 := by
  cases request with
  | read source =>
    dsimp only [Request.perform]
    cases source.decode with
    | error error => exact .start
    | ok value => exact read_reaches repository value
  | readDocument source =>
    dsimp only [Request.perform]
    cases source.decode with
    | error error => exact .start
    | ok value => exact readDocument_reaches repository value
  | readNode source => exact .start
  | store document named => exact absurd rfl (unstored document.id.document)
  | load id => exact load_reaches files repository id
  | resolve id => exact resolve_reaches files repository id
  | resolveText target base => exact resolveText_reaches files repository target base
  | checkReferences id => exact checkReferences_reaches files repository id
  | follow reference =>
    dsimp only [Request.perform, Reference.resolve]
    rw [inRepository_some]
    exact followIn_reaches reference (resolve_reaches files repository)
  | followToEnd reference =>
    dsimp only [Request.perform, Reference.resolveTarget]
    rw [inRepository_some]
    have reached : repository.Reaches (reference.followIn repository fun repository id =>
        repository.follow files repository.config.maxDepth [] id).2 :=
      followIn_reaches reference fun id => follow_reaches files _ [] id repository
    exact reached
  | followAll union =>
    dsimp only [Request.perform, Union.resolve]
    rw [resolveAll_some]
    exact followEach_reaches files union.members repository

/-! What is kept after readings. -/

/-- The document was read from the entries of some object in the repository's context. -/
def HasRead (repository : Repository) (document : Document) : Prop :=
  ∃ entries, Document.ofEntries repository.context entries = .ok document

section
variable {repository after : Repository}

/-- Readings keep the repository's identity. -/
theorem Reaches.handle (reaches : repository.Reaches after) : after.handle = repository.handle := by
  induction reaches with
  | start => rfl
  | @read between before entries inductionHypothesis =>
    exact (readEntries_cases between entries).extends.handle.trans inductionHypothesis

/-- A document that is kept after readings was kept before or was read. -/
theorem Reaches.kept (reaches : repository.Reaches after) {key : Identifier} {kept : Kept}
    (found : after.kept.get? key = some kept) :
    repository.kept.get? key = some kept ∨ repository.HasRead kept.document := by
  induction reaches with
  | start => exact .inl found
  | @read between before entries inductionHypothesis =>
    have reads := readEntries_cases between entries
    generalize between.readEntries entries = outcome at reads found
    cases reads with
    | refused read => exact inductionHypothesis found
    | kept head there => exact inductionHypothesis found
    | stored read head absent =>
      rcases kept_of_store found with ⟨-, rfl⟩ | earlier
      · have same : between.context = repository.context := by
          rw [context, context, before.handle]
        exact .inr ⟨entries, same ▸ read⟩
      · exact inductionHypothesis earlier

end

end Repository

/-- A step introduces a document if the document is kept afterwards and was not before,
although the step was not to store one under its identifier. -/
structure Step.Introduces (step : Step) (before : Repository) (kept : Kept) : Prop where
  new : before.get? kept.document.id ≠ some kept
  present : (step.take before).2.get? kept.document.id = some kept
  unstored : ¬ step.request.Stores kept.document.id.document

/-- What a step introduces was read in the repository's context. -/
theorem Step.Introduces.read {step : Step} {before : Repository} {kept : Kept}
    (introduces : step.Introduces before kept) : before.HasRead kept.document := by
  obtain ⟨files, request⟩ := step
  by_cases stores : ∃ key, request.Stores key
  · -- A store of another identifier leaves what is found under this one.
    obtain ⟨key, stores⟩ := stores
    cases request with
    | store document named =>
      have present := introduces.present
      have other : document.id.document ≠ kept.document.id.document :=
        fun same => introduces.unstored same.symm
      change (before.store document).2.kept.get? kept.document.id.document = some kept at present
      rw [Repository.get?_store, if_neg other] at present
      exact absurd present introduces.new
    | _ => cases stores
  · have reaches := Repository.perform_reaches files before request
      fun key stored => stores ⟨key, stored⟩
    rcases reaches.kept introduces.present with earlier | read
    · exact absurd earlier introduces.new
    · exact read

/-- The references of a document that was read know the document and the repository of the
context. Moving the document to where it is already leaves it as it is. -/
theorem Document.references_of_ofEntries {context : Context} {entries : List (String × Value)}
    {document : Document} (read : Document.ofEntries context entries = .ok document) :
    ∀ reference ∈ document.references,
      reference.base = some document.id ∧ reference.repository = context.repository := by
  have again := @Document.ofEntries_inside { context with path := [] } context entries
  have stays : Document.ofEntries (Context.inside { context with path := [] } context) entries =
      .ok document := read
  rw [read, stays] at again
  cases again with
  | ok same =>
    intro reference member
    rw [same, Document.inside, Document.references_mapReferences] at member
    obtain ⟨declared, -, rfl⟩ := List.mem_map.mp member
    exact ⟨rfl, rfl⟩

end LexiconSchema
