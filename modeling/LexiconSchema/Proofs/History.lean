import LexiconSchema.Proofs.Agreement
import LexiconSchema.Proofs.Places

/-!
# Answers that ignore history

A repository that documents enter from files alone is asked questions one after the other.
What was asked before, what is kept since and what failed makes no difference: each reply
is the one that a new repository over the same files gives. The one condition is that no
file declares another document than it is found for.

Main statement: `answers_ignore_history`.
-/

namespace LexiconSchema

/-! Replies that are the same. -/

/-- Kept documents that are equal and written the same way. -/
structure Kept.Same (one other : Kept) : Prop where
  equal : (one.document == other.document) = true
  rendered : one.document.render = other.document.render

/-- Found definitions of one name that are equal and written the same way, in documents
of which that is also so. -/
structure Found.Same (one other : Found) : Prop where
  kept : one.kept.Same other.kept
  name : one.name = other.name
  equal : (one.node == other.node) = true
  rendered : one.node.render = other.node.render

/-- Replies of one kind that both fail with the very same error or both succeed with the
same results. -/
inductive Reply.Same : Reply → Reply → Prop
  | loaded {one other : Except RepositoryError (Option Kept)}
      (same : SideBySide (· = ·) (Option.Rel Kept.Same) one other) :
      Same (.loaded one) (.loaded other)
  | found {one other : Except ResolutionError Found}
      (same : SideBySide (· = ·) Found.Same one other) : Same (.found one) (.found other)
  | checked {one other : Except ResolutionError (List ResolutionError)}
      (same : SideBySide (· = ·) (· = ·) one other) : Same (.checked one) (.checked other)
  | allFound {one other : Except ResolutionError (List Found)}
      (same : SideBySide (· = ·) (List.Forall₂ Found.Same) one other) :
      Same (.allFound one) (.allFound other)

namespace Repository

section
variable {left right : Handle}

/-- Twin documents are equal and written the same way: the handle is not compared and not
written. -/
theorem KeptTwins.same {one other : Kept} (twins : KeptTwins left right one other) :
    other.Same one := by
  obtain ⟨base, -, moved⟩ := twins
  have keepsText := Context.adopt_target { right.context with base := some base }
  constructor
  · rw [← moved]
    exact one.document.mapReferences_beq keepsText
  · rw [← moved]
    exact one.document.render_mapReferences keepsText

/-- What twins have found is the same: name, node and document, but for where its references are
attached. -/
theorem FoundTwins.same {one other : Found} (twins : FoundTwins left right one other) :
    other.Same one := by
  obtain ⟨base, -, moved⟩ := twins.node
  have keepsText := Context.adopt_target { right.context with base := some base }
  refine ⟨twins.kept.same, twins.name, ?_, ?_⟩
  · rw [← moved]
    exact one.node.mapReferences_beq keepsText
  · rw [← moved]
    exact one.node.render_mapReferences keepsText

end

end Repository

/-! Questions. -/

/-- What may be asked of a repository that documents enter from files alone. A reference
or a union is given by its place in a document, which is loaded first. -/
inductive Question
  | load (id : Identifier) (named : id.Named)
  | resolve (id : Identifier) (named : id.Named)
  | resolveText (target : String) (base : Option Identifier)
  | checkReferences (id : Identifier) (named : id.Named)
  | follow (holder : Identifier) (named : holder.Named) (index : Nat)
  | followToEnd (holder : Identifier) (named : holder.Named) (index : Nat)
  | followAll (holder : Identifier) (named : holder.Named) (index : Nat)

/-- Performs a request about something in a document, which is loaded first. If there is
no such document or no such place in it, the reply is what was loaded. -/
def performWithin {α : Type} (files : FileTree) (repository : Repository) (holder : Identifier)
    (place : Document → Option α) (request : α → Request) : Reply × Repository :=
  match repository.load files holder with
  | (.ok (some kept), repository) =>
    match place kept.document with
    | some found => (request found).perform files repository
    | none => (.loaded (.ok (some kept)), repository)
  | (answer, repository) => (.loaded answer, repository)

namespace Question

/-- Asks a question: the reply and the repository afterwards. -/
def ask (files : FileTree) (repository : Repository) : Question → Reply × Repository
  | .load id _ => (Request.load id).perform files repository
  | .resolve id _ => (Request.resolve id).perform files repository
  | .resolveText target base => (Request.resolveText target base).perform files repository
  | .checkReferences id _ => (Request.checkReferences id).perform files repository
  | .follow holder _ index =>
    performWithin files repository holder (fun document => document.references[index]?) .follow
  | .followToEnd holder _ index =>
    performWithin files repository holder (fun document => document.references[index]?) .followToEnd
  | .followAll holder _ index =>
    performWithin files repository holder (fun document => document.unions[index]?) .followAll

/-- The replies to questions that are asked one after the other. -/
def replies (files : FileTree) : List Question → Repository → List Reply
  | [], _ => []
  | question :: rest, repository =>
    let (reply, repository) := question.ask files repository
    reply :: replies files rest repository

end Question

namespace Repository

variable {files : FileTree} {config : RepositoryConfig} {left right : Handle}

/-- Two replies are the same, and the repositories that they come from are alike
afterwards. -/
structure Concur (files : FileTree) (config : RepositoryConfig) (left right : Handle)
    (outcome twin : Reply × Repository) : Prop where
  reply : Reply.Same twin.1 outcome.1
  alike : Alike files config left right outcome.2 twin.2

/-- Outcomes that agree make replies that concur. -/
theorem Agree.concur {α ε : Type} {related same : α → α → Prop} {reply : Except ε α → Reply}
    {outcome twin : Except ε α × Repository}
    (agrees : Agree files config left right related outcome twin)
    (alikeResults : ∀ one other, related one other → same other one)
    (sameReply : ∀ {one other}, SideBySide (· = ·) same one other →
      Reply.Same (reply one) (reply other)) :
    Concur files config left right (reply outcome.1, outcome.2) (reply twin.1, twin.2) := by
  cases agrees with
  | error alike => exact ⟨sameReply (.error rfl), alike⟩
  | ok results alike => exact ⟨sameReply (.ok (alikeResults _ _ results)), alike⟩

section
variable {one other : Repository} (placed : WellPlaced files config)
  (alike : Alike files config left right one other)
include placed alike

/-- A document is loaded alike, whatever happened before. -/
theorem perform_load_concurs {id : Identifier} (named : id.Named) :
    Concur files config left right ((Request.load id).perform files one)
      ((Request.load id).perform files other) := by
  refine (load_agrees placed alike named).concur (fun loaded twin twins => ?_) .loaded
  cases twins with
  | none => exact .none
  | some twins => exact .some twins.same

/-- A reference is followed alike, whatever happened before. -/
theorem perform_follow_concurs {reference twin : Reference}
    (twins : Twins (fun f reference => f reference) left right reference twin) :
    Concur files config left right ((Request.follow reference).perform files one)
      ((Request.follow twin).perform files other) := by
  dsimp only [Request.perform, Reference.resolve]
  rw [inRepository_some, inRepository_some]
  have followed := followIn_agrees twins alike fun id named => resolve_agrees placed alike named
  exact followed.concur (fun found twin twins => twins.same) .found

/-- A chain of references is followed to the same end, whatever happened before. -/
theorem perform_followToEnd_concurs {reference twin : Reference}
    (twins : Twins (fun f reference => f reference) left right reference twin) :
    Concur files config left right ((Request.followToEnd reference).perform files one)
      ((Request.followToEnd twin).perform files other) := by
  dsimp only [Request.perform, Reference.resolveTarget]
  rw [inRepository_some, inRepository_some]
  have followed : Agree files config left right (FoundTwins left right)
      (reference.followIn one fun repository id =>
        repository.follow files repository.config.maxDepth [] id)
      (twin.followIn other fun repository id =>
        repository.follow files repository.config.maxDepth [] id) := by
    refine followIn_agrees twins alike fun id named => ?_
    rw [alike.setup, alike.setupOther]
    exact follow_agrees placed config.maxDepth [] id named alike
  exact followed.concur (fun found twin twins => twins.same) .found

/-- The members of a union are followed alike, whatever happened before. -/
theorem perform_followAll_concurs {union twin : Union}
    (twins : Twins Union.mapReferences left right union twin) :
    Concur files config left right ((Request.followAll union).perform files one)
      ((Request.followAll twin).perform files other) := by
  dsimp only [Request.perform, Union.resolve]
  rw [resolveAll_some, resolveAll_some]
  have members : Twins (fun f => List.map f) left right union.members twin.members :=
    twins.image Union.members fun f union => rfl
  refine (followEach_agrees placed members alike).concur (fun founds twins related => ?_) .allFound
  exact (related.imp fun found twin twins => twins.same).flip

/-- Requests about what stands in the same place of a document concur if they do for
twins. -/
theorem performWithin_concurs {α : Type} {mapReferences : (Reference → Reference) → α → α}
    {holder : Identifier} (named : holder.Named) {place : Document → Option α}
    {request : α → Request}
    (places : ∀ document twin, Twins Document.mapReferences left right document twin →
      Option.Rel (Twins mapReferences left right) (place document) (place twin))
    (requests : ∀ item twin one other, Twins mapReferences left right item twin →
      Alike files config left right one other →
        Concur files config left right ((request item).perform files one)
          ((request twin).perform files other)) :
    Concur files config left right (performWithin files one holder place request)
      (performWithin files other holder place request) := by
  have loaded := load_agrees placed alike named
  unfold performWithin
  generalize one.load files holder = outcome at loaded ⊢
  generalize other.load files holder = outcomeOther at loaded ⊢
  cases loaded with
  | error alike => exact ⟨.loaded (.error rfl), alike⟩
  | ok results alike =>
    cases results with
    | none => exact ⟨.loaded (.ok .none), alike⟩
    | @some kept twin twins =>
      have items := places kept.document twin.document twins
      dsimp only
      generalize place kept.document = item at items ⊢
      generalize place twin.document = itemOther at items ⊢
      cases items with
      | none => exact ⟨.loaded (.ok (.some twins.same)), alike⟩
      | some items => exact requests _ _ _ _ items alike

/-- One question concurs, whatever each repository keeps by now. -/
theorem ask_concurs (question : Question) :
    Concur files config left right (question.ask files one) (question.ask files other) := by
  cases question with
  | load id named => exact perform_load_concurs placed alike named
  | resolve id named =>
    exact (resolve_agrees placed alike named).concur (fun _ _ twins => twins.same) .found
  | resolveText target base =>
    exact (resolveText_agrees placed alike target base).concur (fun _ _ twins => twins.same) .found
  | checkReferences id named =>
    exact (checkReferences_agrees placed alike named).concur (fun _ _ same => same.symm) .checked
  | follow holder named index =>
    refine performWithin_concurs placed alike named
      (fun document twin twins => twins.references.getElem? index) ?_
    exact fun reference twin one other twins alike => perform_follow_concurs placed alike twins
  | followToEnd holder named index =>
    refine performWithin_concurs placed alike named
      (fun document twin twins => twins.references.getElem? index) ?_
    exact fun reference twin one other twins alike => perform_followToEnd_concurs placed alike twins
  | followAll holder named index =>
    refine performWithin_concurs placed alike named
      (fun document twin twins => twins.unions.getElem? index) ?_
    exact fun union twin one other twins alike => perform_followAll_concurs placed alike twins

end

/-- A new repository is alike to one that was only asked questions. -/
theorem replies_same (placed : WellPlaced files config) (questions : List Question)
    {repository : Repository}
    (alike : Alike files config left right (.new left config) repository) :
    List.Forall₂ Reply.Same (Question.replies files questions repository)
      (questions.map fun question => (question.ask files (.new left config)).1) := by
  induction questions generalizing repository with
  | nil => exact .nil
  | cons question rest inductionHypothesis =>
    have concurs := ask_concurs placed alike question
    refine .cons concurs.reply (inductionHypothesis ?_)
    exact { alike with
      faithfulOther := concurs.alike.faithfulOther
      setupOther := concurs.alike.setupOther
      handleOther := concurs.alike.handleOther }

end Repository

/-- Answers ignore history. Let no file declare another document than it is found for.
However many questions a new repository is asked one after the other, and however they end,
each reply is the same as that of a new repository that is asked this question alone: both
fail with the same error, or the documents and definitions are equal and written the same
way. -/
theorem answers_ignore_history (files : FileTree) (config : RepositoryConfig)
    (placed : WellPlaced files config) (left right : Handle) (questions : List Question) :
    List.Forall₂ Reply.Same (Question.replies files questions (.new right config))
      (questions.map fun question => (question.ask files (.new left config)).1) :=
  Repository.replies_same placed questions
    ⟨Repository.faithful_new files left config, Repository.faithful_new files right config,
      rfl, rfl, rfl, rfl⟩

/-! Trees that are well placed below a single root. -/

section
variable {files : FileTree} {root : String} {id other : Identifier}

/-- Below a single root the path of what is located is known. -/
theorem Repository.path_of_locate? {repository : Repository} {path : String}
    (single : repository.config.roots = [root])
    (located : Repository.locate? files repository id = some path) :
    path = FileTree.joinPath root id.relativePath := by
  rw [Repository.locate?, single] at located
  obtain ⟨name, member, found⟩ := List.exists_of_findSome?_eq_some located
  obtain rfl := List.mem_singleton.mp member
  exact (Option.some.inj (Option.ite_none_right_eq_some.mp found).2).symm

section
variable {folder : Place} (rooted : root ≠ "") (leads : files.walk root = .ok folder)
  (named : id.Named) (declared : files.declared? (FileTree.joinPath root id.relativePath) = some other)
include rooted leads named declared

/-- A file that declares something stands at the place that its path spells from where the root
leads. -/
theorem FileTree.item?_of_declared :
    ∃ contents, files.item? (folder ++ id.relativePath) = some (.file contents) := by
  cases read : files.readText (joinPath root id.relativePath) with
  | error fault =>
    rw [declared?, Repository.fileEntries, read] at declared
    cases declared
  | ok text =>
    have present : id.relativePath ≠ [] := by simp [Identifier.relativePath]
    obtain ⟨place, contents, same, stored, -⟩ :=
      readText_joinPath rooted present named.plain text read
    obtain rfl := Except.ok.inj (leads.symm.trans same)
    exact ⟨contents, stored⟩

/-- Its place is one of those of the items. -/
theorem FileTree.mem_keys_of_declared : folder ++ id.relativePath ∈ files.items.keys := by
  obtain ⟨contents, stored⟩ := item?_of_declared rooted leads named declared
  rw [item?] at stored
  by_cases always : folder ++ id.relativePath <+: files.working
  · rw [if_pos always] at stored
    cases stored
  · rw [if_neg always] at stored
    rw [← OrderedMap.isSome_get?_iff, stored]
    rfl

/-- Its place is no folder. -/
theorem FileTree.not_isFolderAt_of_declared :
    files.isFolderAt (folder ++ id.relativePath) = false := by
  obtain ⟨contents, stored⟩ := item?_of_declared rooted leads named declared
  rw [isFolderAt, stored]

end

end

/-- A tree with one document, whose main definition is a reference to no file. It stands below a
folder in the top folder, beside the working folder. -/
def postFiles : FileTree :=
  FileTree.empty.write "/schemas/com/example/post.json"
    (.file ("\x7b\"lexicon\": 1, \"id\": \"com.example.post\", \"defs\": \x7b\"main\": " ++
      "\x7b\"type\": \"ref\", \"ref\": \"com.example.reply\"\x7d\x7d\x7d").toUTF8)

/-- The only root is that folder. -/
def postConfig : RepositoryConfig := { roots := ["/schemas"] }

/-- The document's identifier. -/
def postId : Identifier := ⟨["com", "example"], "post", "main"⟩

/-- It is read from its text. -/
theorem postId_named : postId.Named := ⟨"com.example.post", postId, rfl, rfl⟩

/-- The folders on the way to the file, and the file. -/
theorem postFiles_keys : postFiles.items.keys = [["schemas"], ["schemas", "com"],
    ["schemas", "com", "example"], ["schemas", "com", "example", "post.json"]] := by
  decide +kernel

/-- What is found for an identifier is the file at its place, and there is one. -/
theorem postFiles_wellPlaced : WellPlaced postFiles postConfig := by
  intro repository setup id named path other located declared
  have rooted : "/schemas" ≠ "" := by decide
  have leads : postFiles.walk "/schemas" = .ok ["schemas"] := by decide +kernel
  have spelled : path = FileTree.joinPath "/schemas" id.relativePath :=
    Repository.path_of_locate? (setup ▸ rfl : repository.config.roots = ["/schemas"]) located
  rw [spelled] at declared
  have own : id.relativePath = postId.relativePath := by
    have file := FileTree.not_isFolderAt_of_declared rooted leads named declared
    have key := FileTree.mem_keys_of_declared rooted leads named declared
    rw [postFiles_keys] at key
    simp only [List.mem_cons, List.not_mem_nil, or_false] at key
    rcases key with folder | folder | folder | path
    · rw [folder] at file
      exact absurd file (by decide +kernel)
    · rw [folder] at file
      exact absurd file (by decide +kernel)
    · rw [folder] at file
      exact absurd file (by decide +kernel)
    · exact List.tail_eq_of_cons_eq path
  have known : postFiles.declared? (FileTree.joinPath "/schemas" id.relativePath) = some postId := by
    rw [own]
    decide +kernel
  rw [← Option.some.inj (known.symm.trans declared)]
  exact (Identifier.document_of_relativePath own).symm

/-- A new repository and one that has loaded the document before answer three questions alike. -/
theorem answers_ignore_history_post :
    WellPlaced postFiles postConfig ∧
    ((Repository.new ⟨0⟩ postConfig).load postFiles postId).2.size = 1 ∧
    List.Forall₂ Reply.Same
      (Question.replies postFiles
        [.followToEnd postId postId_named 0, .resolve postId postId_named,
          .checkReferences postId postId_named] (.new ⟨1⟩ postConfig))
      ([.followToEnd postId postId_named 0, .resolve postId postId_named,
        .checkReferences postId postId_named].map fun question : Question =>
          (question.ask postFiles (.new ⟨0⟩ postConfig)).1) :=
  ⟨postFiles_wellPlaced, by decide +kernel,
    answers_ignore_history postFiles postConfig postFiles_wellPlaced ⟨0⟩ ⟨1⟩ _⟩

end LexiconSchema
