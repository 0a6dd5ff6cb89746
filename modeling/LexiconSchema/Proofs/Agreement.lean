import Mathlib.Data.List.Forall2
import LexiconSchema.Proofs.Equality
import LexiconSchema.Proofs.Runs
import LexiconSchema.Proofs.Twins

/-!
# Repositories that agree

Where every file declares the document that it is found for, a repository that was only
asked for documents and definitions is faithful: each document that it keeps is the one
in its file. So a kept document is what reading the file again would give. Two faithful
repositories with the same setup over the same files are alike, whatever each of them
keeps, and each operation is shown to give twin answers in repositories that are alike
and to leave them alike.
-/

namespace LexiconSchema

open Json (Value)

/-- The identifier under the name of a file's document, if the file holds a document and
something that can be read as an identifier is there. -/
def FileTree.declared? (files : FileTree) (path : String) : Option Identifier :=
  match Repository.fileEntries files path with
  | .error _ => none
  | .ok entries =>
    match findEntry "id" entries with
    | some (.string text) => (Identifier.parse text).toOption
    | _ => none

/-- No file found for an identifier declares another document. -/
def WellPlaced (files : FileTree) (config : RepositoryConfig) : Prop :=
  ∀ repository : Repository, repository.config = config → ∀ id : Identifier, id.Named →
    ∀ path other, Repository.locate? files repository id = some path →
      files.declared? path = some other → other.document = id.document

namespace Repository

/-- Every document kept is the one in the file of its identifier. -/
structure Faithful (files : FileTree) (repository : Repository) : Prop where
  sound : repository.Sound
  filed : ∀ key kept, repository.kept.get? key = some kept → ∃ path entries,
    locate? files repository key = some path ∧ fileEntries files path = .ok entries ∧
      Document.ofEntries repository.context entries = .ok kept.document

/-- A new repository holds nothing, so all it holds is as the files have it. -/
theorem faithful_new (files : FileTree) (handle : Handle) (config : RepositoryConfig) :
    Faithful files (.new handle config) where
  sound := sound_new handle config
  filed key kept impossible := by cases impossible

/-- The document in a file, which must be the one of an identifier. -/
def ofFile (files : FileTree) (handle : Handle) (id : Identifier) (path : String) :
    Except RepositoryError Document := do
  let entries ← fileEntries files path
  let document ← (Document.ofEntries handle.context entries).mapError (.unparsable path)
  if document.id.document = id.document then .ok document
  else .error (.otherId path id.document document.id)

/-- The document of an identifier according to the files alone. -/
def filed (files : FileTree) (repository : Repository) (id : Identifier) :
    Except RepositoryError (Option Document) :=
  match locate? files repository id with
  | none => .ok none
  | some path => (ofFile files repository.handle id path).map some

section
variable {files : FileTree} {config : RepositoryConfig} {repository : Repository} {id : Identifier}

/-- The file of an identifier is that of its document's identifier. -/
theorem locate?_document : locate? files repository id = locate? files repository id.document := rfl

/-- A file gives its document if the file's entries are read as one of the right identifier. -/
theorem ofFile_of_read {path : String} {entries : List (String × Value)} {document : Document}
    (content : fileEntries files path = .ok entries)
    (read : Document.ofEntries repository.context entries = .ok document)
    (own : document.id.document = id.document) :
    ofFile files repository.handle id path = .ok document := by
  rw [ofFile]
  rw [content]
  change ((Document.ofEntries repository.context entries).mapError _ >>= _) = _
  rw [read]
  exact if_pos own

/-- What the head of a file's document says is what the file declares. -/
theorem declared_of_readHead {path : String} {entries : List (String × Value)} {other : Identifier}
    (content : fileEntries files path = .ok entries)
    (head : Document.readHead ⟨repository.context, entries⟩ = .ok other) :
    files.declared? path = some other := by
  obtain ⟨text, found, -, parsed⟩ := Document.readHead_text _ other head
  rw [FileTree.declared?, content]
  dsimp only
  rw [findEntry_of_text found]
  dsimp only
  rw [parsed]
  rfl

/-- What the files have under an identifier is what the file found for it gives. -/
theorem filed_of_located {path : String} (located : locate? files repository id = some path) :
    filed files repository id = (ofFile files repository.handle id path).map some := by
  rw [filed, located]

/-- Storing what stands in the file of an identifier leaves a repository faithful. -/
theorem Faithful.store (faithful : Faithful files repository) {path : String}
    {entries : List (String × Value)} {document : Document}
    (located : locate? files repository id = some path)
    (content : fileEntries files path = .ok entries)
    (read : Document.ofEntries repository.context entries = .ok document)
    (named : document.id.Named) (own : document.id.document = id.document) :
    Faithful files (repository.store document).2 where
  sound := sound_store named faithful.sound
  filed key kept found := by
    rcases kept_of_store found with ⟨same, rfl⟩ | earlier
    · refine ⟨path, entries, ?_, content, read⟩
      rw [← same, own]
      exact located
    · exact faithful.filed key kept earlier

/-- Loading in a faithful repository answers according to the files alone and leaves the
repository faithful. A file that declares another document is not found for the
identifier. -/
theorem load_of_faithful (placed : WellPlaced files config) (setup : repository.config = config)
    (faithful : Faithful files repository) (named : id.Named) :
    (repository.load files id).1.map (Option.map fun kept => kept.document) =
        filed files repository id ∧
      Faithful files (repository.load files id).2 := by
  have loads := load_cases files faithful.sound id
  generalize repository.load files id = outcome at loads ⊢
  have placedHere := placed repository setup id named
  cases loads with
  | @kept kept found =>
    refine ⟨?_, faithful⟩
    obtain ⟨path, entries, located, content, read⟩ := faithful.filed id.document kept found
    have own := (faithful.sound.placed id.document kept found).keyed
    rw [← locate?_document] at located
    rw [filed_of_located located, ofFile_of_read content read own]
    rfl
  | nowhere absent unlocated =>
    refine ⟨?_, faithful⟩
    rw [filed, unlocated]
    rfl
  | unusable absent located content =>
    refine ⟨?_, faithful⟩
    rw [filed_of_located located, ofFile, content]
    rfl
  | refused absent located content read =>
    refine ⟨?_, faithful⟩
    rw [filed_of_located located, ofFile, content]
    change _ = (((Document.ofEntries repository.context _).mapError _ >>= _).map some)
    rw [read]
    rfl
  | foreignKept absent located content head found =>
    -- Well-placed files declare what they are found for, so neither foreign case can occur.
    have own := placedHere _ _ located (declared_of_readHead content head)
    rw [get?, own] at found
    exact absurd (absent.symm.trans found) (by simp)
  | foreignStored absent located content read head foreign missing =>
    exact absurd (placedHere _ _ located (declared_of_readHead content head)) foreign
  | stored absent located content read head own =>
    refine ⟨?_, faithful.store located content read (named_of_readHead head) own⟩
    rw [filed_of_located located, ofFile_of_read content read own]
    rfl

/-! Repositories that are alike. -/

variable {left right : Handle}

/-- Two faithful repositories with the same setup over the same files. -/
structure Alike (files : FileTree) (config : RepositoryConfig) (left right : Handle)
    (one other : Repository) : Prop where
  faithful : Faithful files one
  faithfulOther : Faithful files other
  setup : one.config = config
  setupOther : other.config = config
  handle : one.handle = left
  handleOther : other.handle = right

/-- Two outcomes agree: the same error or related results, and repositories that are
alike in either case. -/
inductive Agree {α ε : Type} (files : FileTree) (config : RepositoryConfig) (left right : Handle)
    (related : α → α → Prop) : Except ε α × Repository → Except ε α × Repository → Prop
  | error {error : ε} {one other : Repository} (alike : Alike files config left right one other) :
      Agree files config left right related (.error error, one) (.error error, other)
  | ok {result twin : α} {one other : Repository} (same : related result twin)
      (alike : Alike files config left right one other) :
      Agree files config left right related (.ok result, one) (.ok twin, other)

/-- Outcomes agree if their answers do and the repositories are alike. -/
theorem Agree.of_answers {α ε : Type} {related : α → α → Prop}
    {outcome twin : Except ε α × Repository}
    (answers : SideBySide (· = ·) related outcome.1 twin.1)
    (alike : Alike files config left right outcome.2 twin.2) :
    Agree files config left right related outcome twin := by
  obtain ⟨answer, after⟩ := outcome
  obtain ⟨answerOther, afterOther⟩ := twin
  cases answers with
  | error same =>
    cases same
    exact .error alike
  | ok same => exact .ok same alike

/-- Sequences agree if their first parts do and their second parts agree on related
results. -/
theorem Agree.andThen {α β ε δ : Type} {related : α → α → Prop} {later : β → β → Prop}
    {outcome twin : Except ε α × Repository} {fault : ε → δ}
    {next nextTwin : α → Repository → Except δ β × Repository}
    (first : Agree files config left right related outcome twin)
    (second : ∀ result twin one other, related result twin →
      Alike files config left right one other →
        Agree files config left right later (next result one) (nextTwin twin other)) :
    Agree files config left right later (andThen outcome fault next)
      (andThen twin fault nextTwin) := by
  cases first with
  | error alike => exact .error alike
  | ok same alike => exact second _ _ _ _ same alike

/-- Kept documents that are twins. -/
def KeptTwins (left right : Handle) (one other : Kept) : Prop :=
  Twins Document.mapReferences left right one.document other.document

/-- Found definitions that are twins: of one name, in twin documents. -/
structure FoundTwins (left right : Handle) (one other : Found) : Prop where
  kept : KeptTwins left right one.kept other.kept
  name : other.name = one.name
  node : Twins Node.mapReferences left right one.node other.node

/-- According to the files alone, the documents of an identifier are twins. -/
theorem filed_twins {one other : Repository} (alike : Alike files config left right one other)
    (id : Identifier) :
    SideBySide (· = ·) (Option.Rel (Twins Document.mapReferences left right)) (filed files one id)
      (filed files other id) := by
  have located : locate? files other id = locate? files one id := by
    unfold locate?
    rw [alike.setup, alike.setupOther]
  unfold filed
  rw [located, alike.handle, alike.handleOther]
  cases locate? files one id with
  | none => exact .ok .none
  | some path =>
    refine SideBySide.map ?_ fun document twin twins => Option.Rel.some twins
    unfold ofFile
    cases fileEntries files path with
    | error error => exact .error rfl
    | ok entries =>
      refine SideBySide.bind (SideBySide.ok (Eq.refl entries)) fun held twin same => ?_
      subst same
      refine SideBySide.bind (SideBySide.mapError (Document.twins_of_ofEntries left right held)
        fun error same equal => congrArg _ equal) fun document twin twins => ?_
      rw [twins.id]
      split
      · exact .ok twins
      · exact .error rfl

section
variable {one other : Repository} (placed : WellPlaced files config)
  (alike : Alike files config left right one other)
include placed alike

/-- Loading agrees in repositories that are alike. -/
theorem load_agrees (named : id.Named) :
    Agree files config left right (Option.Rel (KeptTwins left right)) (one.load files id)
      (other.load files id) := by
  obtain ⟨answer, faithful⟩ := load_of_faithful placed alike.setup alike.faithful named
  obtain ⟨answerOther, faithfulOther⟩ :=
    load_of_faithful placed alike.setupOther alike.faithfulOther named
  have extended := (load_cases files alike.faithful.sound id).extends
  have extendedOther := (load_cases files alike.faithfulOther.sound id).extends
  have alikeAfter : Alike files config left right (one.load files id).2 (other.load files id).2 :=
    ⟨faithful, faithfulOther, extended.config.trans alike.setup,
      extendedOther.config.trans alike.setupOther, extended.handle.trans alike.handle,
      extendedOther.handle.trans alike.handleOther⟩
  have twins := filed_twins alike id
  rw [← answer, ← answerOther] at twins
  refine .of_answers (twins.of_map fun found twin related => ?_) alikeAfter
  cases found with
  | none =>
    cases twin with
    | none => exact .none
    | some other => cases related
  | some kept =>
    cases twin with
    | none => cases related
    | some other =>
      cases related with
      | some twins => exact .some twins

/-- Repositories with twin contents require a document alike: both have it, as twins, or both fail
alike. -/
theorem require_agrees (named : id.Named) :
    Agree files config left right (KeptTwins left right) (one.require files id)
      (other.require files id) := by
  rw [require_eq, require_eq]
  refine (load_agrees placed alike named).andThen fun loaded twin one other related alike => ?_
  cases related with
  | none => exact .error alike
  | some twins => exact .ok twins alike

/-- They resolve an identifier alike. -/
theorem resolve_agrees (named : id.Named) :
    Agree files config left right (FoundTwins left right) (one.resolve files id)
      (other.resolve files id) := by
  rw [resolve_eq, resolve_eq]
  refine (require_agrees placed alike named).andThen fun kept twin one other twins alike => ?_
  have definitions := twins.definition? id.definition
  unfold definitionOf
  rw [twins.id]
  generalize kept.document.definition? id.definition = definition at definitions ⊢
  generalize twin.document.definition? id.definition = definitionOther at definitions ⊢
  cases definitions with
  | none => exact .error alike
  | some nodes => exact .ok ⟨twins, rfl, nodes⟩ alike

/-- They resolve the text of a reference alike. -/
theorem resolveText_agrees (target : String) (base : Option Identifier) :
    Agree files config left right (FoundTwins left right) (one.resolveText files target base)
      (other.resolveText files target base) := by
  unfold resolveText
  cases expanded : Reference.expand target base with
  | error error => exact .error alike
  | ok id => exact resolve_agrees placed alike (named_of_expand expanded)

end

/-- Collecting errors over twin references gives the same errors. -/
theorem collectErrors_agrees (placed : WellPlaced files config) (document : Identifier)
    {references twins : List Reference} {one other : Repository}
    (related : Twins (fun f => List.map f) left right references twins)
    (alike : Alike files config left right one other) :
    (collectErrors files document twins other).1 = (collectErrors files document references one).1 ∧
      Alike files config left right (collectErrors files document references one).2
        (collectErrors files document twins other).2 := by
  induction references generalizing twins one other with
  | nil =>
    obtain ⟨base, -, rfl⟩ := related
    exact ⟨rfl, alike⟩
  | cons reference rest inductionHypothesis =>
    obtain ⟨twin, others, rfl, first, later⟩ := Twins.cons related
    obtain ⟨-, -, target, base⟩ := first.reference
    unfold collectErrors
    dsimp only
    rw [target, base]
    have resolved := resolveText_agrees placed alike reference.target
      (some (reference.base.getD document))
    generalize one.resolveText files reference.target _ = outcome at resolved ⊢
    generalize other.resolveText files reference.target _ = outcomeOther at resolved ⊢
    cases resolved with
    | error alike =>
      obtain ⟨same, alikeAfter⟩ := inductionHypothesis later alike
      exact ⟨congrArg (List.cons _) same, alikeAfter⟩
    | ok found alike => exact inductionHypothesis later alike

/-- They report the same when the references of a document are checked. -/
theorem checkReferences_agrees (placed : WellPlaced files config) {one other : Repository}
    (alike : Alike files config left right one other) (named : id.Named) :
    Agree files config left right (· = ·) (one.checkReferences files id)
      (other.checkReferences files id) := by
  rw [checkReferences_eq, checkReferences_eq]
  refine (require_agrees placed alike named).andThen fun kept twin one other twins alike => ?_
  obtain ⟨same, alikeAfter⟩ := collectErrors_agrees placed kept.document.id twins.references alike
  unfold errorsOf
  rw [twins.id]
  exact .ok same.symm alikeAfter

/-- Following a chain agrees, link by link: the next identifier is the same because the
references found so far are twins. -/
theorem follow_agrees (placed : WellPlaced files config) (limit : Nat) (chain : List Identifier)
    (next : Identifier) (named : next.Named) {one other : Repository}
    (alike : Alike files config left right one other) :
    Agree files config left right (FoundTwins left right) (follow files limit chain next one)
      (follow files limit chain next other) := by
  rw [follow_eq, follow_eq]
  split
  · exact .error alike
  · split
    · exact .error alike
    · refine (resolve_agrees placed alike named).andThen fun found twin one other twins alike => ?_
      have links := twins.node.reference?
      unfold onward
      generalize found.node.content.reference? = link at links ⊢
      generalize twin.node.content.reference? = linkOther at links ⊢
      cases links with
      | none => exact .ok twins alike
      | @some inner innerTwin references =>
        dsimp only
        rw [references.identifier]
        cases expanded : inner.identifier with
        | error error => exact .error alike
        | ok id =>
          exact follow_agrees placed limit (chain ++ [next]) id (named_of_expand expanded) alike
termination_by limit - chain.length
decreasing_by simp only [List.length_append, List.length_singleton]; omega

/-- Following twin references agrees if what is done with their identifier does. -/
theorem followIn_agrees {α : Type} {related : α → α → Prop} {reference twin : Reference}
    {act : Repository → Identifier → Answer α} {one other : Repository}
    (twins : Twins (fun f reference => f reference) left right reference twin)
    (alike : Alike files config left right one other)
    (acts : ∀ id, id.Named → Agree files config left right related (act one id) (act other id)) :
    Agree files config left right related (reference.followIn one act)
      (twin.followIn other act) := by
  obtain ⟨attached, attachedOther, -, -⟩ := twins.reference
  unfold Reference.followIn
  rw [if_pos (by rw [attached, alike.handle]), if_pos (by rw [attachedOther, alike.handleOther]),
    Reference.targetIdentifier, Reference.targetIdentifier, twins.identifier]
  cases expanded : reference.identifier with
  | error error => exact .error alike
  | ok id => exact acts id (named_of_expand expanded)

/-- They follow twin lists of references alike, one reference after the other. -/
theorem followEach_agrees (placed : WellPlaced files config) {references twins : List Reference}
    {one other : Repository}
    (related : Twins (fun f => List.map f) left right references twins)
    (alike : Alike files config left right one other) :
    Agree files config left right (List.Forall₂ (FoundTwins left right))
      (followEach files references one) (followEach files twins other) := by
  induction references generalizing twins one other with
  | nil =>
    obtain ⟨base, -, rfl⟩ := related
    exact .ok .nil alike
  | cons reference rest inductionHypothesis =>
    obtain ⟨twin, others, rfl, first, later⟩ := Twins.cons related
    have followed := followIn_agrees first alike fun id named => resolve_agrees placed alike named
    refine followed.andThen fun found twin one other same alike => ?_
    refine (inductionHypothesis later alike).andThen fun founds twins one other related alike => ?_
    exact .ok (.cons same related) alike

end

end Repository

end LexiconSchema
