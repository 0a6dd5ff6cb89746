import LexiconSchema.Proofs.Operations

/-!
# Runs of requests

A run is a list of requests to one repository, each made while the files are in some
state, which may be another one every time. What one request does to the repository is
settled first: it keeps every document kept before and replaces one only if it is asked
to store another under the same identifier, and every document that its reply shows is
kept afterwards. By induction the same holds of a run.

Main statement: `shown_documents_remain`.
-/

namespace LexiconSchema

open Json (Value)

/-! Requests. -/

/-- What may be asked of a repository and may change it. A document to be stored has an
identifier that was read from some text. -/
inductive Request
  | read (source : Input)
  | readDocument (source : Input)
  | readNode (source : Input)
  | store (document : Document) (named : document.id.Named)
  | load (id : Identifier)
  | resolve (id : Identifier)
  | resolveText (target : String) (base : Option Identifier)
  | checkReferences (id : Identifier)
  | follow (reference : Reference)
  | followToEnd (reference : Reference)
  | followAll (union : Union)

/-- The reply to a request. -/
inductive Reply
  | read (answer : Except ParseError Repository.Reading)
  | document (answer : Except ParseError Kept)
  | node (answer : Except ParseError Node)
  | stored (kept : Kept)
  | loaded (answer : Except RepositoryError (Option Kept))
  | found (answer : Except ResolutionError Found)
  | checked (answer : Except ResolutionError (List ResolutionError))
  | allFound (answer : Except ResolutionError (List Found))

/-- The documents that a reply shows, by themselves or around definitions. -/
def Reply.shown : Reply → List Kept
  | .read (.ok reading) => reading.shown
  | .document (.ok kept) => [kept]
  | .stored kept => [kept]
  | .loaded (.ok outcome) => outcome.toList
  | .found (.ok definition) => [definition.kept]
  | .allFound (.ok definitions) => definitions.map fun definition => definition.kept
  | _ => []

/-- The live repository after an operation, which is the one before if it is gone. -/
def Repository.after {α : Type} (repository : Repository)
    (outcome : Except ResolutionError α × Option Repository) : Answer α :=
  (outcome.1, outcome.2.getD repository)

/-- Serves a request while the files are in a certain state. -/
def Request.perform (files : FileTree) (repository : Repository) : Request → Reply × Repository
  | .read source =>
    match source.decode with
    | .error error => (.read (.error error), repository)
    | .ok value => (repository.read value).map .read id
  | .readDocument source =>
    match source.decode with
    | .error error => (.document (.error error), repository)
    | .ok value => (repository.readDocument value).map .document id
  | .readNode source => (.node (source.decode >>= repository.readNode), repository)
  | .store document _ => (repository.store document).map .stored id
  | .load id => (repository.load files id).map .loaded fun after => after
  | .resolve id => (repository.resolve files id).map .found fun after => after
  | .resolveText target base => (repository.resolveText files target base).map .found id
  | .checkReferences id => (repository.checkReferences files id).map .checked fun after => after
  | .follow reference =>
    (repository.after (reference.resolve files (some repository))).map .found id
  | .followToEnd reference =>
    (repository.after (reference.resolveTarget files (some repository))).map .found id
  | .followAll union => (repository.after (union.resolve files (some repository))).map .allFound id

namespace Request

/-- Whether the request is to store a document of an identifier. -/
def Stores : Request → Identifier → Prop
  | .store document _, key => key = document.id.document
  | _, _ => False

/-- What one request does: it keeps every document, replaces one only by storing, and
what its reply shows is kept afterwards. -/
structure Performs (repository : Repository) (request : Request)
    (outcome : Reply × Repository) : Prop where
  extended : repository.Extends request.Stores outcome.2
  keeps : ∀ kept ∈ outcome.1.shown, outcome.2.Keeps kept

/-- An operation that serves a repository performs a request whose reply shows what the
operation's result does. -/
theorem performs_of_serves {α ε : Type} {repository : Repository} {request : Request}
    {shown : α → List Kept} {outcome : Except ε α × Repository}
    (serves : repository.Serves shown outcome) (reply : Except ε α → Reply)
    (showsNothing : ∀ error, (reply (.error error)).shown = [])
    (shows : ∀ result, (reply (.ok result)).shown = shown result) :
    Performs repository request (reply outcome.1, outcome.2) := by
  refine ⟨serves.extended.weaken, fun kept member => ?_⟩
  cases answer : outcome.1 with
  | error error => simp [answer, showsNothing] at member
  | ok result =>
    rw [answer, shows] at member
    exact serves.keeps result answer kept member

/-- Whatever is asked of a repository, what it kept before it keeps, and what it shows is kept
afterwards. -/
theorem perform_performs (files : FileTree) {repository : Repository} (sound : repository.Sound)
    (request : Request) : Performs repository request (request.perform files repository) := by
  cases request with
  | read source =>
    dsimp only [perform]
    cases source.decode with
    | error error => exact ⟨.refl, List.forall_mem_nil _⟩
    | ok value =>
      exact performs_of_serves (Repository.read_serves sound value) .read (fun _ => rfl)
        fun _ => rfl
  | readDocument source =>
    dsimp only [perform]
    cases source.decode with
    | error error => exact ⟨.refl, List.forall_mem_nil _⟩
    | ok value =>
      exact performs_of_serves (Repository.readDocument_serves sound value) .document (fun _ => rfl)
        fun _ => rfl
  | readNode source => exact ⟨.refl, List.forall_mem_nil _⟩
  | store document named =>
    refine ⟨Repository.store_extends named, fun kept member => ?_⟩
    obtain rfl := List.mem_singleton.mp member
    exact Repository.keeps_store repository document
  | load id =>
    exact performs_of_serves (Repository.load_serves files sound id) .loaded (fun _ => rfl)
      fun _ => rfl
  | resolve id =>
    exact performs_of_serves (Repository.resolve_serves files sound id) .found (fun _ => rfl)
      fun _ => rfl
  | resolveText target base =>
    exact performs_of_serves (Repository.resolveText_serves files sound target base) .found
      (fun _ => rfl) fun _ => rfl
  | checkReferences id =>
    exact performs_of_serves (Repository.checkReferences_serves files sound id) .checked
      (fun _ => rfl) fun _ => rfl
  | follow reference =>
    dsimp only [perform, Reference.resolve]
    rw [inRepository_some]
    have served : repository.Serves (fun found : Found => [found.kept])
        (reference.followIn repository (Repository.resolve files)) :=
      Repository.followIn_serves fun id => Repository.resolve_serves files sound id
    exact performs_of_serves served .found (fun _ => rfl) fun _ => rfl
  | followToEnd reference =>
    dsimp only [perform, Reference.resolveTarget]
    rw [inRepository_some]
    have served : repository.Serves (fun found : Found => [found.kept])
        (reference.followIn repository fun repository id =>
          repository.follow files repository.config.maxDepth [] id) :=
      Repository.followIn_serves fun id => Repository.follow_serves files _ [] id sound
    exact performs_of_serves served .found (fun _ => rfl) fun _ => rfl
  | followAll union =>
    dsimp only [perform, Union.resolve]
    rw [resolveAll_some]
    exact performs_of_serves (Repository.followEach_serves files union.members sound) .allFound
      (fun _ => rfl) fun _ => rfl

end Request

/-- A request and the files while it is served. -/
structure Step where
  files : FileTree
  request : Request

/-- One step from a repository: the reply and the repository afterwards. -/
def Step.take (step : Step) (repository : Repository) : Reply × Repository :=
  step.request.perform step.files repository

/-- The repository after some steps. -/
def run (steps : List Step) (repository : Repository) : Repository :=
  steps.foldl (fun repository step => (step.take repository).2) repository

/-- Whether one of some steps stores a document of an identifier. -/
def Stored (steps : List Step) (key : Identifier) : Prop :=
  ∃ step ∈ steps, step.request.Stores key

/-- What one step does, a whole run does: it removes no document and replaces only those
that one of its steps stores. -/
theorem run_extends (steps : List Step) {repository : Repository} (sound : repository.Sound) :
    repository.Extends (Stored steps) (run steps repository) := by
  induction steps generalizing repository with
  | nil => exact .refl
  | cons step rest inductionHypothesis =>
    have first := (step.request.perform_performs step.files sound).extended
    have later := inductionHypothesis (first.sound sound)
    refine ⟨later.handle.trans first.handle, later.config.trans first.config,
      fun key present => later.remains key (first.remains key present), ?_,
      fun held => later.sound (first.sound held)⟩
    intro key kept present unstored
    refine later.same key kept (first.same key kept present ?_) ?_
    · exact fun stores => unstored ⟨step, List.mem_cons_self, stores⟩
    · rintro ⟨other, member, stores⟩
      exact unstored ⟨other, List.mem_cons_of_mem _ member, stores⟩

/-- Whatever was asked of a new repository left it sound. -/
theorem sound_run (handle : Handle) (config : RepositoryConfig) (steps : List Step) :
    (run steps (.new handle config)).Sound :=
  (run_extends steps (Repository.sound_new handle config)).sound
    (Repository.sound_new handle config)

namespace Repository

variable {repository : Repository}

/-- What the identifiers of a repository say about its documents: each is the identifier
of a document, which is kept under it alone, and all of them are listed once, in order. -/
structure Listed (repository : Repository) : Prop where
  main : ∀ key ∈ repository.kept.keys, key.definition = mainDefinition
  keyed : ∀ key kept, repository.kept.get? key = some kept → kept.document.id.document = key
  apart : ∀ key other kept twin, repository.kept.get? key = some kept →
    repository.kept.get? other = some twin → kept.serial = twin.serial → key = other
  ascending : repository.ids.Pairwise fun left right => left.order right = .lt
  listed : ∀ key, key ∈ repository.ids ↔ key ∈ repository.kept.keys
  counted : repository.size = repository.ids.length

/-- In a sound repository the listing has every kept document once, under its identifier, in
ascending order. -/
theorem listed_of_sound (sound : repository.Sound) : repository.Listed where
  main key member := by
    obtain ⟨kept, found⟩ := Option.isSome_iff_exists.mp (OrderedMap.isSome_get?_iff.mpr member)
    rw [← (sound.placed key kept found).keyed]
    rfl
  keyed key kept found := (sound.placed key kept found).keyed
  apart := sound.apart
  ascending := by
    refine Identifier.sort_strict (fun key member => ?_) repository.kept.distinct
    obtain ⟨kept, found⟩ := Option.isSome_iff_exists.mp (OrderedMap.isSome_get?_iff.mpr member)
    rw [← (sound.placed key kept found).keyed]
    exact (sound.placed key kept found).named.document
  listed key := (List.mergeSort_perm _ _).mem_iff
  counted := by
    have permuted : repository.ids.length = repository.kept.keys.length :=
      (List.mergeSort_perm _ _).length_eq
    rw [permuted]
    simp [size, OrderedMap.size, OrderedMap.keys]

/-- Every way to ask for a document of an identifier gives this very one and leaves the
repository as it is, whatever the files are and whatever else an object of that
identifier declares. -/
structure Gives (repository : Repository) (kept : Kept) (id : Identifier) : Prop where
  get : repository.get? id = some kept
  contains : repository.contains id = true
  load : ∀ files, repository.load files id = (.ok (some kept), repository)
  resolve : ∀ files, repository.resolve files id =
    (match kept.document.definition? id.definition with
      | some node => .ok ⟨kept, id.definition, node⟩
      | none => .error (.noDefinition kept.document.id id.definition), repository)
  readDocument : ∀ entries text, findEntry "lexicon" entries = some (.number languageVersion) →
    findEntry "id" entries = some (.string text) → '#' ∉ text.toList →
    Identifier.parse text = .ok id →
      repository.readDocument (.object entries) = (.ok kept, repository)

/-- A document that is kept is given by every way to ask for it, and nothing is read for it. -/
theorem gives_of_get? {kept : Kept} {id : Identifier} (found : repository.get? id = some kept) :
    repository.Gives kept id := by
  have loaded (files : FileTree) : repository.load files id = (.ok (some kept), repository) := by
    rw [load]
    rw [found]
  refine ⟨found, by simp [contains, found], loaded, fun files => ?_, ?_⟩
  · rw [resolve, require]
    rw [loaded files]
    dsimp only
    cases kept.document.definition? id.definition <;> rfl
  · intro entries text version named whole parsed
    have document : isDocument entries = true := by simp [isDocument, version, named]
    have head : Document.readHead ⟨repository.context, entries⟩ = .ok id :=
      (Document.readHead_of_findEntry version named).trans
        (Document.identify_of_parse whole parsed)
    have given : Document.entriesOf (.object entries) = .ok entries := by
      simp [Document.entriesOf, document]
    rw [Repository.readDocument]
    rw [given]
    exact readEntries_of_kept head found

end Repository

/-- Documents that were shown remain. Let a new repository be asked anything, then once
more, and anything again, while the files change as they like. In the end every document
is kept under its own identifier and the identifiers are listed once and in order. No
identifier was lost since the one request, and a document was replaced only if another of
its identifier was stored since. So each document that the one request showed, by itself
or around a definition, is the one given for its identifier until such a store. -/
theorem shown_documents_remain (handle : Handle) (config : RepositoryConfig)
    (earlier later : List Step) (step : Step) :
    let (reply, between) := step.take (run earlier (.new handle config))
    let last := run later between
    last.Listed ∧
    (∀ key, (between.kept.get? key).isSome → (last.kept.get? key).isSome) ∧
    (∀ key kept, between.kept.get? key = some kept → ¬ Stored later key →
      last.kept.get? key = some kept) ∧
    (∀ kept ∈ reply.shown, ∀ id, id.document = kept.document.id.document →
      ¬ Stored later id.document → last.Gives kept id) := by
  have sound := sound_run handle config earlier
  have performs := step.request.perform_performs step.files sound
  have soundBetween : (step.take (run earlier (.new handle config))).2.Sound :=
    performs.extended.sound sound
  have extended := run_extends later soundBetween
  refine ⟨Repository.listed_of_sound (extended.sound soundBetween), extended.remains,
    extended.same, fun kept member id own unstored => ?_⟩
  have keeps : (step.take (run earlier (.new handle config))).2.Keeps kept :=
    performs.keeps kept member
  rw [Repository.Keeps, ← own] at keeps
  exact Repository.gives_of_get? (extended.same id.document kept keeps unstored)

/-- An identifier to store a document under. -/
def noticeId : Identifier := ⟨["com", "example"], "notice", "main"⟩

/-- The example's identifier is written as some text. -/
theorem noticeId_named : noticeId.Named := ⟨"com.example.notice", noticeId, rfl, rfl⟩

/-- A document that was stored is given after a later request, though there are no files. -/
theorem shown_documents_remain_notice :
    (run [⟨.empty, .load noticeId⟩]
      (Step.take ⟨.empty, .store (.new noticeId) noticeId_named⟩ (.new ⟨0⟩ {})).2).Gives
        ⟨.new noticeId, 0⟩ noticeId := by
  obtain ⟨-, -, -, given⟩ := shown_documents_remain ⟨0⟩ {} [] [⟨.empty, .load noticeId⟩]
    ⟨.empty, .store (.new noticeId) noticeId_named⟩
  refine given _ (List.mem_singleton.mpr rfl) noticeId rfl ?_
  rintro ⟨step, member, stores⟩
  obtain rfl := List.mem_singleton.mp member
  exact stores

end LexiconSchema
