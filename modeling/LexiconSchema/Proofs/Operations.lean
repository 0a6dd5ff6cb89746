import LexiconSchema.Repository.Resolution
import LexiconSchema.Proofs.Loading

/-!
# Operations in sequence

An operation that follows references does one thing after the other, each in the
repository that the one before left, and stops at the first error. Here the operations
are written as such sequences. What every step preserves the whole sequence preserves,
so an operation is settled by looking at its steps.

An operation serves a repository when it replaces no document and keeps every document
that its result shows.
-/

namespace LexiconSchema

open Json (Value)

namespace Repository

/-! Sequences. -/

/-- Goes on with a result in the repository that it left, or stops with the error. -/
def andThen {α β ε δ : Type} (outcome : Except ε α × Repository) (fault : ε → δ)
    (next : α → Repository → Except δ β × Repository) : Except δ β × Repository :=
  match outcome with
  | (.error error, repository) => (.error (fault error), repository)
  | (.ok result, repository) => next result repository

/-- The document of an identifier, if one was loaded. -/
def documentOf (id : Identifier) (loaded : Option Kept) (repository : Repository) : Answer Kept :=
  match loaded with
  | none => (.error (.noSchemaFile id.document), repository)
  | some kept => (.ok kept, repository)

/-- The definition that an identifier names in its document. -/
def definitionOf (id : Identifier) (kept : Kept) (repository : Repository) : Answer Found :=
  match kept.document.definition? id.definition with
  | none => (.error (.noDefinition kept.document.id id.definition), repository)
  | some node => (.ok ⟨kept, id.definition, node⟩, repository)

/-- The errors of a document's references. -/
def errorsOf (files : FileTree) (kept : Kept) (repository : Repository) :
    Answer (List ResolutionError) :=
  (collectErrors files kept.document.id kept.document.references repository).map .ok id

/-- Where a chain goes on behind a definition: at its end nowhere. -/
def onward (files : FileTree) (limit : Nat) (chain : List Identifier) (found : Found)
    (repository : Repository) : Answer Found :=
  match found.node.content.reference? with
  | none => (.ok found, repository)
  | some inner =>
    match inner.identifier with
    | .error error => (.error (.badReference error), repository)
    | .ok id => follow files limit chain id repository

section
variable (files : FileTree) (repository : Repository) (id : Identifier)

/-- Requiring a document is loading it and then taking no document for an error. -/
theorem require_eq : repository.require files id =
    andThen (repository.load files id) (.loadFailed id.document) (documentOf id) := by
  rw [require]
  obtain ⟨answer, after⟩ := repository.load files id
  rcases answer with error | _ | kept <;> rfl

/-- Resolving an identifier is requiring its document and then looking up the definition. -/
theorem resolve_eq : repository.resolve files id =
    andThen (repository.require files id) (fun error => error) (definitionOf id) := by
  rw [resolve]
  obtain ⟨answer, after⟩ := repository.require files id
  cases answer <;> rfl

/-- The ways in which resolving an identifier ends: its document cannot be loaded, there is
none, or it is there and has the definition or not. -/
inductive Resolves : Answer Found → Prop
  | unloaded {error : RepositoryError} {after : Repository}
      (loaded : repository.load files id = (.error error, after)) :
      Resolves (.error (.loadFailed id.document error), after)
  | missing {after : Repository} (loaded : repository.load files id = (.ok none, after)) :
      Resolves (.error (.noSchemaFile id.document), after)
  | undefined {kept : Kept} {after : Repository}
      (loaded : repository.load files id = (.ok (some kept), after))
      (absent : kept.document.definition? id.definition = none) :
      Resolves (.error (.noDefinition kept.document.id id.definition), after)
  | found {kept : Kept} {node : Node} {after : Repository}
      (loaded : repository.load files id = (.ok (some kept), after))
      (held : kept.document.definition? id.definition = some node) :
      Resolves (.ok ⟨kept, id.definition, node⟩, after)

/-- Resolving ends in one of the ways. -/
theorem resolve_cases : Resolves files repository id (repository.resolve files id) := by
  rw [resolve_eq, require_eq]
  cases loaded : repository.load files id with
  | mk answer after =>
    rcases answer with error | _ | kept
    · exact .unloaded loaded
    · exact .missing loaded
    · change Resolves files repository id (definitionOf id kept after)
      rw [definitionOf]
      cases held : kept.document.definition? id.definition with
      | none => exact .undefined loaded held
      | some node => exact .found loaded held

/-- It ends in no other of them. -/
theorem Resolves.eq {files : FileTree} {repository : Repository} {id : Identifier}
    {outcome : Answer Found} (resolves : Resolves files repository id outcome) :
    repository.resolve files id = outcome := by
  rw [resolve_eq, require_eq]
  cases resolves with
  | unloaded loaded =>
    rw [loaded]
    rfl
  | missing loaded =>
    rw [loaded]
    rfl
  | undefined loaded absent =>
    rw [loaded]
    change definitionOf id _ _ = _
    rw [definitionOf, absent]
  | found loaded held =>
    rw [loaded]
    change definitionOf id _ _ = _
    rw [definitionOf, held]

/-- Checking the references of a document is requiring the document and then resolving each of
them. -/
theorem checkReferences_eq : repository.checkReferences files id =
    andThen (repository.require files id) (fun error => error) (errorsOf files) := by
  rw [checkReferences]
  obtain ⟨answer, after⟩ := repository.require files id
  cases answer <;> rfl

/-- A chain stops at a circle or at the limit; otherwise the next identifier is resolved and its
node decides. -/
theorem follow_eq (limit : Nat) (chain : List Identifier) (next : Identifier) :
    follow files limit chain next repository =
      if (chain.map Identifier.toString).contains next.toString then
        (.error (.circular (chain ++ [next])), repository)
      else if limit ≤ chain.length then (.error (.tooDeep limit chain), repository)
      else andThen (repository.resolve files next) (fun error => error)
        (onward files limit (chain ++ [next])) := by
  rw [follow]
  obtain ⟨answer, after⟩ := repository.resolve files next
  cases answer <;> rfl

end

end Repository

/-! References in a live repository. -/

/-- An identifier that a text stands for was read from some text. -/
theorem parsed_of_expand {target : String} {base : Option Identifier} {id : Identifier}
    (expanded : Reference.expand target base = .ok id) :
    ∃ text, Identifier.parse text = .ok id := by
  let Parsed (id : Identifier) : Prop := ∃ text, Identifier.parse text = .ok id
  have identified (text : String) : Yields Parsed (Reference.identify target text) :=
    fun _ read => ⟨text, mapError_eq_ok_iff.mp read⟩
  have yields : Yields Parsed (Reference.expand target base) := by
    rw [Reference.expand]
    split
    · exact .error
    · split
      · exact identified _
      · split
        · exact .error
        · exact identified _
  exact yields id expanded

/-- What a reference expands to is written as some text. -/
theorem named_of_expand {target : String} {base : Option Identifier} {id : Identifier}
    (expanded : Reference.expand target base = .ok id) : id.Named := by
  obtain ⟨text, parsed⟩ := parsed_of_expand expanded
  exact Identifier.named_of_parse parsed

/-- Does something with a reference's identifier in a repository, if the reference is
attached to it. -/
def Reference.followIn {α : Type} (reference : Reference) (repository : Repository)
    (act : Repository → Identifier → Answer α) : Answer α :=
  if reference.repository = some repository.handle then
    match reference.targetIdentifier with
    | .error error => (.error error, repository)
    | .ok id => act repository id
  else (.error (.noRepository reference.target), repository)

/-- A live repository stays alive, whatever is done in it. -/
theorem inRepository_some {α : Type} (reference : Reference) (repository : Repository)
    (act : Repository → Identifier → Answer α) :
    reference.inRepository (some repository) act =
      (reference.followIn repository act).map id some := by
  rw [Reference.inRepository, Reference.repositoryOf?, Reference.followIn]
  by_cases attached : reference.repository = some repository.handle
  · simp only [Option.filter_some, attached, BEq.rfl, if_true]
    cases reference.targetIdentifier <;> rfl
  · simp [Option.filter_some, attached]

/-- Follows references one after the other in a live repository. -/
def followEach (files : FileTree) : List Reference → Repository → Answer (List Found)
  | [], repository => (.ok [], repository)
  | reference :: rest, repository =>
    Repository.andThen (reference.followIn repository (Repository.resolve files))
      (fun error => error) fun found between =>
        Repository.andThen (followEach files rest between) (fun error => error)
          fun others last => (.ok (found :: others), last)

/-- In a repository that is alive the members of a union are followed one after the other. -/
theorem resolveAll_some (files : FileTree) (references : List Reference) (repository : Repository) :
    resolveAll files references (some repository) =
      (followEach files references repository).map id some := by
  induction references generalizing repository with
  | nil => rfl
  | cons reference rest inductionHypothesis =>
    rw [resolveAll, followEach, Reference.resolve]
    rw [inRepository_some]
    obtain ⟨answer, between⟩ := reference.followIn repository (Repository.resolve files)
    cases answer with
    | error error => rfl
    | ok found =>
      dsimp only [Prod.map, id, Repository.andThen]
      rw [inductionHypothesis]
      obtain ⟨answers, last⟩ := followEach files rest between
      cases answers <;> rfl

/-! What operations preserve and show. -/

namespace Repository

/-- The document that was read, if it was one. -/
def Reading.shown : Reading → List Kept
  | .document kept => [kept]
  | .node _ => []

section
variable {α β ε δ : Type} {repository : Repository}

/-- An operation replaces no document, and the documents that its result shows are kept
afterwards. -/
structure Serves (repository : Repository) (shown : α → List Kept)
    (outcome : Except ε α × Repository) : Prop where
  extended : repository.Extends noneExempt outcome.2
  keeps : Yields (fun result => ∀ kept ∈ shown result, outcome.2.Keeps kept) outcome.1

variable {shown : α → List Kept} {seen : β → List Kept}

/-- An error that changes nothing shows nothing. -/
theorem Serves.error {error : ε} : repository.Serves shown (.error error, repository) :=
  ⟨.refl, .error⟩

/-- A result that changes nothing may show what is kept. -/
theorem Serves.ok {result : α} (keeps : ∀ kept ∈ shown result, repository.Keeps kept) :
    repository.Serves shown ((.ok result, repository) : Except ε α × Repository) :=
  ⟨.refl, .ok keeps⟩

/-- A sequence serves a repository if its first part does and the second part serves what
the first one left. -/
theorem Serves.andThen {outcome : Except ε α × Repository} {fault : ε → δ}
    {next : α → Repository → Except δ β × Repository} (first : repository.Serves shown outcome)
    (second : ∀ result between, repository.Extends noneExempt between →
      (∀ kept ∈ shown result, between.Keeps kept) → between.Serves seen (next result between)) :
    repository.Serves seen (andThen outcome fault next) := by
  obtain ⟨answer, between⟩ := outcome
  cases answer with
  | error error => exact ⟨first.extended, .error⟩
  | ok result =>
    have later := second result between first.extended (first.keeps result rfl)
    exact ⟨first.extended.trans later.extended, later.keeps⟩

/-- Loading replaces no document, and the one that it gives is kept. -/
theorem load_serves (files : FileTree) (sound : repository.Sound) (id : Identifier) :
    repository.Serves Option.toList (repository.load files id) := by
  have loads := load_cases files sound id
  refine ⟨loads.extends, fun loaded same kept member => ?_⟩
  exact loads.keeps sound loaded same kept (Option.mem_toList.mp member)

/-- Requiring does the same. -/
theorem require_serves (files : FileTree) (sound : repository.Sound) (id : Identifier) :
    repository.Serves (fun kept => [kept]) (repository.require files id) := by
  rw [require_eq]
  refine (load_serves files sound id).andThen fun loaded between _ keeps => ?_
  cases loaded with
  | none => exact .error
  | some kept => exact .ok keeps

/-- Resolving an identifier replaces no document, and keeps the one that it shows. -/
theorem resolve_serves (files : FileTree) (sound : repository.Sound) (id : Identifier) :
    repository.Serves (fun found : Found => [found.kept]) (repository.resolve files id) := by
  rw [resolve_eq]
  refine (require_serves files sound id).andThen fun kept between _ keeps => ?_
  rw [definitionOf]
  cases kept.document.definition? id.definition with
  | none => exact .error
  | some node => exact .ok keeps

/-- So does resolving the text of a reference. -/
theorem resolveText_serves (files : FileTree) (sound : repository.Sound) (target : String)
    (base : Option Identifier) :
    repository.Serves (fun found : Found => [found.kept])
      (repository.resolveText files target base) := by
  rw [resolveText]
  cases Reference.expand target base with
  | error error => exact .error
  | ok id => exact resolve_serves files sound id

/-- Collecting errors over references one after the other replaces nothing. -/
theorem collectErrors_extends (files : FileTree) (document : Identifier)
    (references : List Reference) (sound : repository.Sound) :
    repository.Extends noneExempt (collectErrors files document references repository).2 := by
  induction references generalizing repository with
  | nil => exact .refl
  | cons reference rest inductionHypothesis =>
    have first := (resolveText_serves files sound reference.target
      (some (reference.base.getD document))).extended
    rw [collectErrors]
    dsimp only
    generalize repository.resolveText files reference.target _ = outcome at first ⊢
    obtain ⟨answer, between⟩ := outcome
    cases answer <;> exact first.trans (inductionHypothesis (first.sound sound))

/-- Checking references replaces no document; its answer shows none. -/
theorem checkReferences_serves (files : FileTree) (sound : repository.Sound) (id : Identifier) :
    repository.Serves (fun _ => []) (repository.checkReferences files id) := by
  rw [checkReferences_eq]
  refine (require_serves files sound id).andThen fun kept between extended _ => ?_
  exact ⟨collectErrors_extends files _ _ (extended.sound sound), .ok (List.forall_mem_nil _)⟩

/-- Following a chain replaces nothing, and the definition at its end is a kept one. The
recursion is that of the chain: every link comes nearer to the limit. -/
theorem follow_serves (files : FileTree) (limit : Nat) (chain : List Identifier)
    (next : Identifier) {repository : Repository} (sound : repository.Sound) :
    repository.Serves (fun found : Found => [found.kept])
      (follow files limit chain next repository) := by
  rw [follow_eq]
  split
  · exact .error
  · split
    · exact .error
    · refine (resolve_serves files sound next).andThen fun found between extended keeps => ?_
      rw [onward]
      cases found.node.content.reference? with
      | none => exact .ok keeps
      | some inner =>
        dsimp only
        cases inner.identifier with
        | error error => exact .error
        | ok id => exact follow_serves files limit (chain ++ [next]) id (extended.sound sound)
termination_by limit - chain.length
decreasing_by simp only [List.length_append, List.length_singleton]; omega

/-- Of a reference that is attached elsewhere nothing is followed here; any other is
followed by its identifier, if it has one. -/
theorem followIn_serves {reference : Reference} {act : Repository → Identifier → Answer α}
    (serves : ∀ id, repository.Serves shown (act repository id)) :
    repository.Serves shown (reference.followIn repository act) := by
  rw [Reference.followIn]
  split
  · cases reference.targetIdentifier with
    | error error => exact .error
    | ok id => exact serves id
  · exact .error

/-- Following references one after the other keeps all the documents that are shown on the way. -/
theorem followEach_serves (files : FileTree) (references : List Reference)
    (sound : repository.Sound) :
    repository.Serves (List.map fun found : Found => found.kept)
      (followEach files references repository) := by
  induction references generalizing repository with
  | nil => exact .ok (List.forall_mem_nil _)
  | cons reference rest inductionHypothesis =>
    have first : repository.Serves (fun found : Found => [found.kept])
        (reference.followIn repository (resolve files)) :=
      followIn_serves fun id => resolve_serves files sound id
    refine first.andThen fun found between extended keeps => ?_
    refine (inductionHypothesis (extended.sound sound)).andThen fun others last later keepsOthers =>
      .ok fun kept member => ?_
    rcases List.mem_cons.mp member with rfl | member
    · exact (keeps _ List.mem_cons_self).extends later
    · exact keepsOthers kept member

/-- Reading through the repository replaces nothing and keeps a document that was read. -/
theorem readEntries_serves (sound : repository.Sound) (entries : List (String × Value)) :
    repository.Serves (fun kept => [kept]) (repository.readEntries entries) := by
  have reads := readEntries_cases repository entries
  refine ⟨reads.extends, fun kept same other member => ?_⟩
  obtain rfl := List.mem_singleton.mp member
  exact reads.keeps sound _ same

/-- Reading a document replaces none, and the one that was read is kept. -/
theorem readDocument_serves (sound : repository.Sound) (value : Value) :
    repository.Serves (fun kept => [kept]) (repository.readDocument value) := by
  rw [readDocument]
  cases Document.entriesOf value with
  | error error => exact .error
  | ok entries => exact readEntries_serves sound entries

/-- Reading a value as what it is does so, too; a node shows no document. -/
theorem read_serves (sound : repository.Sound) (value : Value) :
    repository.Serves Reading.shown (repository.read value) := by
  cases value with
  | object entries =>
    rw [read]
    dsimp only
    split
    · have served := readEntries_serves sound entries
      generalize repository.readEntries entries = outcome at served ⊢
      exact ⟨served.extended, .map served.keeps⟩
    · exact ⟨.refl, .map fun node _ => List.forall_mem_nil _⟩
  | _ => exact .error

end

end Repository

end LexiconSchema
