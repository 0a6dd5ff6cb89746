import LexiconSchema.Proofs.CutTexts
import LexiconSchema.Proofs.Refusals

/-!
# The order in which following a reference fails

Much can keep a reference from being followed: it has no repository, its text is empty or stands
for nothing, there is no file, the file is bad, the document lacks the definition. Here the ways
are listed in the order in which they are tried, each with all that must hold for it, and without
a word on how it is found out. Exactly the outcome listed for a case is what following gives.

A document is looked for where it is kept, and else in the first root that has its file. The
roots behind that one do not occur in the list, however bad the file is. Of a file whose identifier
belongs to a kept document only that identifier counts.

Main statement: `references_fail_in_order`.
-/

namespace LexiconSchema

open Json (Value)

/-! What a reference stands for. -/

namespace Reference

/-- The text that a reference is read as: a local one behind the identifier of the document around
it, if there is one, and any other as it is. -/
def spelling? (reference : Reference) : Option String :=
  if reference.isLocal then
    reference.base.map fun document => document.document.toString ++ reference.target
  else some reference.target

/-- What a reference stands for, or why it stands for nothing: its text is empty, it is local
without a document around it, or the text that it is read as is no identifier. -/
inductive StandsFor (reference : Reference) : Except ResolutionError Identifier → Prop
  | empty (blank : reference.target = "") : StandsFor reference (.error (.badReference .empty))
  | outside (present : reference.target ≠ "") (stays : reference.isLocal = true)
      (alone : reference.base = none) :
      StandsFor reference (.error (.badReference (.invalid reference.target .outsideDocument)))
  | malformed {text : String} {error : IdentifierError} (present : reference.target ≠ "")
      (spells : reference.spelling? = some text) (refused : Identifier.parse text = .error error) :
      StandsFor reference
        (.error (.badReference (.invalid reference.target (.notIdentifier error))))
  | spelled {text : String} {id : Identifier} (present : reference.target ≠ "")
      (spells : reference.spelling? = some text) (parsed : Identifier.parse text = .ok id) :
      StandsFor reference (.ok id)

/-- A reference is local exactly if a `#` is before the rest of its text. -/
theorem isLocal_iff {reference : Reference} :
    reference.isLocal = true ↔ ∃ name, reference.target = "#" ++ name := by
  rw [isLocal, beq_iff_eq]
  constructor
  · intro opening
    obtain ⟨rest, characters⟩ := List.head?_eq_some_iff.mp opening
    refine ⟨String.ofList rest, String.toList_inj.mp ?_⟩
    simp [characters]
  · rintro ⟨name, spelled⟩
    rw [spelled, String.toList_append]
    rfl

/-- No text is read for a local reference without a document around it, and for no other. -/
theorem spelling?_eq_none_iff {reference : Reference} :
    reference.spelling? = none ↔ reference.isLocal = true ∧ reference.base = none := by
  rw [spelling?]
  split <;> simp [*]

/-- A text that is not empty is read in two steps: how it is spelled out, and reading that. -/
theorem identifier_eq (reference : Reference) (present : reference.target ≠ "") :
    reference.identifier = match reference.spelling? with
      | none => .error (.invalid reference.target .outsideDocument)
      | some text => identify reference.target text := by
  have filled : reference.target.toList.isEmpty = false := by
    simpa using present
  rw [identifier, expand, filled, spelling?]
  by_cases inside : reference.isLocal = true
  · obtain ⟨name, spelled⟩ := isLocal_iff.mp inside
    rw [Text.afterOpening?_eq_some_iff.mpr spelled, if_pos inside]
    cases reference.base with
    | none => rfl
    | some document =>
      change identify _ _ = identify _ (document.document.toString ++ reference.target)
      rw [spelled, ← String.append_assoc]
  · have whole : Text.afterOpening? "#" reference.target = none := by
      cases opened : Text.afterOpening? "#" reference.target with
      | none => rfl
      | some name =>
        exact absurd (isLocal_iff.mpr ⟨name, Text.afterOpening?_eq_some_iff.mp opened⟩) inside
    rw [whole, if_neg inside]
    rfl

/-- What is listed for a reference is what it is read as. -/
theorem StandsFor.eq {reference : Reference} {outcome : Except ResolutionError Identifier}
    (stands : reference.StandsFor outcome) : reference.targetIdentifier = outcome := by
  rw [targetIdentifier]
  cases stands with
  | empty blank =>
    rw [identifier, expand, blank]
    rfl
  | outside present stays alone =>
    rw [identifier_eq reference present, spelling?_eq_none_iff.mpr ⟨stays, alone⟩]
    rfl
  | malformed present spells refused =>
    rw [identifier_eq reference present, spells]
    dsimp only
    rw [identify, refused]
    rfl
  | spelled present spells parsed =>
    rw [identifier_eq reference present, spells]
    dsimp only
    rw [identify, parsed]
    rfl

/-- And something is listed for every reference. -/
theorem exists_standsFor (reference : Reference) : ∃ outcome, reference.StandsFor outcome := by
  by_cases blank : reference.target = ""
  · exact ⟨_, .empty blank⟩
  · cases spells : reference.spelling? with
    | none =>
      obtain ⟨stays, alone⟩ := spelling?_eq_none_iff.mp spells
      exact ⟨_, .outside blank stays alone⟩
    | some text =>
      cases parsed : Identifier.parse text with
      | error error => exact ⟨_, .malformed blank spells parsed⟩
      | ok id => exact ⟨_, .spelled blank spells parsed⟩

end Reference

/-! Where a document is looked for. -/

/-- A root has the schema file of an identifier. -/
structure FileTree.HasSchema (files : FileTree) (id : Identifier) (root : String) : Prop where
  folder : files.isFolder root = true
  file : files.isFile (FileTree.joinPath root id.relativePath) = true

namespace Repository

/-- The path of the schema file in the first root that has it. What roots come behind that one is
left open. -/
inductive FirstFile (files : FileTree) (repository : Repository) (id : Identifier) : String → Prop
  | intro {earlier later : List String} {root : String}
      (roots : repository.config.roots = earlier ++ root :: later)
      (without : ∀ other ∈ earlier, ¬ files.HasSchema id other) (has : files.HasSchema id root) :
      FirstFile files repository id (FileTree.joinPath root id.relativePath)

section
variable {files : FileTree} {repository : Repository} {id : Identifier} {path : String}

/-- The test that a root is put to. -/
theorem hasSchema_iff {root : String} : files.HasSchema id root ↔
    (files.isFolder root && files.isFile (FileTree.joinPath root id.relativePath)) = true := by
  rw [Bool.and_eq_true]
  constructor
  · intro has
    exact ⟨has.folder, has.file⟩
  · rintro ⟨folder, file⟩
    exact ⟨folder, file⟩

/-- A path is located exactly if it belongs to the first configured root that has the file. -/
theorem locate?_eq_some_iff :
    locate? files repository id = some path ↔ FirstFile files repository id path := by
  rw [locate?, List.findSome?_eq_some_iff]
  constructor
  · rintro ⟨earlier, root, later, roots, given, without⟩
    obtain ⟨has, same⟩ := Option.ite_none_right_eq_some.mp given
    obtain rfl := Option.some.inj same
    refine .intro roots ?_ (hasSchema_iff.mpr has)
    intro other member hasOther
    have missed := without other member
    rw [if_pos (hasSchema_iff.mp hasOther)] at missed
    cases missed
  · rintro ⟨roots, without, has⟩
    refine ⟨_, _, _, roots, if_pos (hasSchema_iff.mp has), ?_⟩
    intro other member
    exact if_neg (mt hasSchema_iff.mpr (without other member))

/-- Nothing is located exactly if no configured root has the file. -/
theorem locate?_eq_none_iff : locate? files repository id = none ↔
    ∀ root ∈ repository.config.roots, ¬ files.HasSchema id root := by
  rw [locate?, List.findSome?_eq_none_iff]
  constructor
  · intro missed root member has
    have missedHere := missed root member
    rw [if_pos (hasSchema_iff.mp has)] at missedHere
    cases missedHere
  · intro without root member
    exact if_neg (mt hasSchema_iff.mpr (without root member))

/-! What the file gives. -/

/-- The entries of the object that a text holds, which must be a document's. -/
def textEntries (text : String) : Except ParseError (List (String × Value)) :=
  Input.decode (.text text) >>= Document.entriesOf

/-- The identifier that a text declares, whatever else it holds. -/
def declared (repository : Repository) (text : String) : Except ParseError Identifier :=
  textEntries text >>= fun entries => Document.readHead ⟨repository.context, entries⟩

/-- The document that a text holds. -/
def parsed (repository : Repository) (text : String) : Except ParseError Document :=
  textEntries text >>= Document.ofEntries repository.context

/-- What the file of an identifier gives whose document is not kept: an error if it cannot be
read, if its text is none of a document, or if that has another identifier, and the document
otherwise. If the other identifier is that of a kept document, nothing else is read. -/
inductive FileGives (files : FileTree) (repository : Repository) (id : Identifier) (path : String) :
    Except RepositoryError Kept × Repository → Prop
  | unreadable {fault : FileFault} (read : files.readText path = .error fault) :
      FileGives files repository id path (.error (.unreadable path fault), repository)
  | otherKept {text : String} {other : Identifier} {kept : Kept}
      (read : files.readText path = .ok text) (declares : repository.declared text = .ok other)
      (foreign : other.document ≠ id.document) (found : repository.get? other = some kept) :
      FileGives files repository id path
        (.error (.otherId path id.document kept.document.id), repository)
  | unparsable {text : String} {error : ParseError} (read : files.readText path = .ok text)
      (unknown : ∀ other, repository.declared text = .ok other → repository.get? other = none)
      (refused : repository.parsed text = .error error) :
      FileGives files repository id path (.error (.unparsable path error), repository)
  | otherNew {text : String} {document : Document} (read : files.readText path = .ok text)
      (made : repository.parsed text = .ok document)
      (foreign : document.id.document ≠ id.document)
      (unknown : repository.get? document.id = none) :
      FileGives files repository id path
        (.error (.otherId path id.document document.id), (repository.store document).2)
  | own {text : String} {document : Document} (read : files.readText path = .ok text)
      (made : repository.parsed text = .ok document)
      (own : document.id.document = id.document) :
      FileGives files repository id path
        (.ok (repository.store document).1, (repository.store document).2)

/-- The entries of a file that can be read are those of its text. -/
theorem fileEntries_of_text {text : String} (read : files.readText path = .ok text) :
    fileEntries files path = (textEntries text).mapError (.unparsable path) := by
  rw [fileEntries, read]
  rfl

/-- A file that cannot be read is reported so, and nothing is kept. -/
theorem loadFile_of_unreadable {fault : FileFault} (read : files.readText path = .error fault) :
    loadFile files repository id path = (.error (.unreadable path fault), repository) := by
  rw [loadFile_eq, fileEntries, read]

/-- A file whose text is none of an object is not read any further. -/
theorem loadFile_of_error {text : String} {error : ParseError}
    (read : files.readText path = .ok text) (content : textEntries text = .error error) :
    loadFile files repository id path = (.error (.unparsable path error), repository) := by
  rw [loadFile_eq, fileEntries_of_text read, content]
  rfl

/-- Any other file is loaded by reading the entries. -/
theorem loadFile_of_entries {text : String} {entries : List (String × Value)}
    {answer : Except ParseError Kept} {after : Repository}
    (read : files.readText path = .ok text) (content : textEntries text = .ok entries)
    (reads : repository.readEntries entries = (answer, after)) :
    loadFile files repository id path =
      (answer.mapError (.unparsable path) >>= expected id path, after) := by
  rw [loadFile_eq, fileEntries_of_text read, content]
  change ((repository.readEntries entries).1.mapError _ >>= _,
    (repository.readEntries entries).2) = _
  rw [reads]

/-- Entries that cannot be read give the error, unless their head names a kept document. -/
theorem readEntries_of_error {entries : List (String × Value)} {error : ParseError}
    (unknown : ∀ other, Document.readHead ⟨repository.context, entries⟩ = .ok other →
      repository.get? other = none)
    (refused : Document.ofEntries repository.context entries = .error error) :
    repository.readEntries entries = (.error error, repository) := by
  have reads := readEntries_cases repository entries
  generalize repository.readEntries entries = outcome at reads ⊢
  cases reads with
  | refused read => rw [Except.error.inj (read.symm.trans refused)]
  | kept head found => cases (unknown _ head).symm.trans found
  | stored read head absent => cases read.symm.trans refused

/-- A document that is kept under another identifier is not the one looked for. -/
theorem foreign_of_kept (sound : repository.Sound) {other : Identifier} {kept : Kept}
    (foreign : other.document ≠ id.document) (found : repository.get? other = some kept) :
    kept.document.id.document ≠ id.document := by
  rw [(sound.placed other.document kept found).keyed]
  exact foreign

/-- A document that is not kept has an identifier under which none is kept. -/
theorem foreign_of_absent {other : Identifier} {kept : Kept} (absent : repository.get? id = none)
    (found : repository.get? other = some kept) : other.document ≠ id.document := by
  intro same
  rw [get?, same] at found
  cases absent.symm.trans found

/-- What is listed for a file is what loading it gives. -/
theorem FileGives.eq (sound : repository.Sound) (absent : repository.get? id = none)
    {outcome : Except RepositoryError Kept × Repository}
    (gives : FileGives files repository id path outcome) :
    loadFile files repository id path = outcome := by
  cases gives with
  | unreadable read => exact loadFile_of_unreadable read
  | otherKept read declares foreign found =>
    obtain ⟨entries, content, head⟩ := bind_eq_ok_iff.mp declares
    rw [loadFile_of_entries read content (readEntries_of_kept head found)]
    change (expected id path _, repository) = _
    rw [expected, if_neg (foreign_of_kept sound foreign found)]
  | @unparsable text error read unknown refused =>
    cases content : textEntries text with
    | error other =>
      rw [parsed, content] at refused
      obtain rfl := Except.error.inj refused
      exact loadFile_of_error read content
    | ok entries =>
      rw [parsed, content] at refused
      have unknownHead (other : Identifier)
          (head : Document.readHead ⟨repository.context, entries⟩ = .ok other) :
          repository.get? other = none :=
        unknown other (bind_eq_ok_iff.mpr ⟨entries, content, head⟩)
      exact loadFile_of_entries read content (readEntries_of_error unknownHead refused)
  | @otherNew text document read made foreign unknown =>
    obtain ⟨entries, content, holds⟩ := bind_eq_ok_iff.mp made
    have refused : expected id path (repository.store document).1 =
        .error (.otherId path id.document document.id) := if_neg foreign
    rw [loadFile_of_entries read content (readEntries_of_missing holds unknown)]
    change (expected id path (repository.store document).1, _) = _
    rw [refused]
  | @own text document read made own =>
    obtain ⟨entries, content, holds⟩ := bind_eq_ok_iff.mp made
    have unknown : repository.get? document.id = none := by
      rw [get?, own]
      exact absent
    have accepted : expected id path (repository.store document).1 =
        .ok (repository.store document).1 := if_pos own
    rw [loadFile_of_entries read content (readEntries_of_missing holds unknown)]
    change (expected id path (repository.store document).1, _) = _
    rw [accepted]

/-- And something is listed for every file. -/
theorem exists_fileGives (files : FileTree) (path : String)
    (absent : repository.get? id = none) :
    ∃ outcome, FileGives files repository id path outcome := by
  cases read : files.readText path with
  | error fault => exact ⟨_, .unreadable read⟩
  | ok text =>
    by_cases known : ∃ other kept, repository.declared text = .ok other ∧
        repository.get? other = some kept
    · obtain ⟨other, kept, declares, found⟩ := known
      exact ⟨_, .otherKept read declares (foreign_of_absent absent found) found⟩
    · have unknown (other : Identifier) (declares : repository.declared text = .ok other) :
          repository.get? other = none := by
        cases found : repository.get? other with
        | none => rfl
        | some kept => exact absurd ⟨other, kept, declares, found⟩ known
      cases made : repository.parsed text with
      | error error => exact ⟨_, .unparsable read unknown made⟩
      | ok document =>
        by_cases own : document.id.document = id.document
        · exact ⟨_, .own read made own⟩
        · obtain ⟨entries, content, holds⟩ := bind_eq_ok_iff.mp made
          have declares : repository.declared text = .ok document.id :=
            bind_eq_ok_iff.mpr ⟨entries, content, readHead_of_ofEntries holds⟩
          exact ⟨_, .otherNew read made own (unknown document.id declares)⟩

/-! How a document is obtained. -/

/-- The document of an identifier is the one kept, else that of the first file, if there is one. -/
inductive Obtains (files : FileTree) (repository : Repository) (id : Identifier) :
    Except RepositoryError (Option Kept) × Repository → Prop
  | kept {kept : Kept} (found : repository.get? id = some kept) :
      Obtains files repository id (.ok (some kept), repository)
  | nowhere (absent : repository.get? id = none)
      (without : ∀ root ∈ repository.config.roots, ¬ files.HasSchema id root) :
      Obtains files repository id (.ok none, repository)
  | filed {path : String} {answer : Except RepositoryError Kept} {after : Repository}
      (absent : repository.get? id = none) (first : FirstFile files repository id path)
      (gives : FileGives files repository id path (answer, after)) :
      Obtains files repository id (answer.map some, after)

/-- What is listed for an identifier is what loading it gives. -/
theorem Obtains.eq (sound : repository.Sound)
    {outcome : Except RepositoryError (Option Kept) × Repository}
    (obtains : Obtains files repository id outcome) : repository.load files id = outcome := by
  rw [load]
  cases obtains with
  | kept found => rw [found]
  | nowhere absent without => rw [absent, locate?_eq_none_iff.mpr without]
  | filed absent first gives =>
    rw [absent]
    dsimp only
    rw [locate?_eq_some_iff.mpr first]
    dsimp only
    rw [gives.eq sound absent]

/-- And something is listed for every identifier. -/
theorem exists_obtains (files : FileTree) (repository : Repository) (id : Identifier) :
    ∃ outcome, Obtains files repository id outcome := by
  cases found : repository.get? id with
  | some kept => exact ⟨_, .kept found⟩
  | none =>
    cases located : locate? files repository id with
    | none => exact ⟨_, .nowhere found (locate?_eq_none_iff.mp located)⟩
    | some path =>
      obtain ⟨⟨answer, after⟩, gives⟩ := exists_fileGives files path found
      exact ⟨_, .filed found (locate?_eq_some_iff.mp located) gives⟩

/-- Loading an identifier obtains its document, and nothing else does. -/
theorem load_eq_iff (sound : repository.Sound)
    {outcome : Except RepositoryError (Option Kept) × Repository} :
    repository.load files id = outcome ↔ Obtains files repository id outcome := by
  constructor
  · rintro rfl
    obtain ⟨outcome, obtains⟩ := exists_obtains files repository id
    rw [obtains.eq sound]
    exact obtains
  · exact Obtains.eq sound

end

end Repository

/-! Following a reference. -/

namespace Reference

/-- The reference is attached to the live repository. -/
structure AttachedTo (reference : Reference) (live : Option Repository)
    (repository : Repository) : Prop where
  alive : live = some repository
  own : reference.repository = some repository.handle

/-- The outcomes of following a reference in the order in which they are tried, each with all
that must hold for it: it has no repository, stands for nothing, its document is nowhere or
cannot be loaded, has no such definition, or has it. -/
inductive Answers (files : FileTree) (reference : Reference) (live : Option Repository) :
    Except ResolutionError Found × Option Repository → Prop
  | detached (away : ∀ repository, ¬ reference.AttachedTo live repository) :
      Answers files reference live (.error (.noRepository reference.target), live)
  | unread {repository : Repository} {error : ResolutionError}
      (attached : reference.AttachedTo live repository)
      (stands : reference.StandsFor (.error error)) :
      Answers files reference live (.error error, live)
  | missing {repository after : Repository} {id : Identifier}
      (attached : reference.AttachedTo live repository) (stands : reference.StandsFor (.ok id))
      (obtains : repository.Obtains files id (.ok none, after)) :
      Answers files reference live (.error (.noSchemaFile id.document), some after)
  | unloaded {repository after : Repository} {id : Identifier} {error : RepositoryError}
      (attached : reference.AttachedTo live repository) (stands : reference.StandsFor (.ok id))
      (obtains : repository.Obtains files id (.error error, after)) :
      Answers files reference live (.error (.loadFailed id.document error), some after)
  | undefined {repository after : Repository} {id : Identifier} {kept : Kept}
      (attached : reference.AttachedTo live repository) (stands : reference.StandsFor (.ok id))
      (obtains : repository.Obtains files id (.ok (some kept), after))
      (absent : kept.document.definition? id.definition = none) :
      Answers files reference live
        (.error (.noDefinition kept.document.id id.definition), some after)
  | found {repository after : Repository} {id : Identifier} {kept : Kept} {node : Node}
      (attached : reference.AttachedTo live repository) (stands : reference.StandsFor (.ok id))
      (obtains : repository.Obtains files id (.ok (some kept), after))
      (held : kept.document.definition? id.definition = some node) :
      Answers files reference live (.ok ⟨kept, id.definition, node⟩, some after)

section
variable {files : FileTree} {reference : Reference} {live : Option Repository}
  {repository : Repository}

/-- The repository of a reference is found exactly if the reference is attached to it and it is
alive. -/
theorem repositoryOf?_eq_some_iff :
    reference.repositoryOf? live = some repository ↔ reference.AttachedTo live repository := by
  rw [repositoryOf?, Option.filter_eq_some_iff, beq_iff_eq]
  constructor
  · rintro ⟨alive, own⟩
    exact ⟨alive, own⟩
  · intro attached
    exact ⟨attached.alive, attached.own⟩

/-- Without its repository nothing of a reference matters. -/
theorem resolve_of_detached (away : ∀ repository, ¬ reference.AttachedTo live repository) :
    reference.resolve files live = (.error (.noRepository reference.target), live) := by
  have absent : reference.repositoryOf? live = none := by
    cases attached : reference.repositoryOf? live with
    | none => rfl
    | some repository => exact absurd (repositoryOf?_eq_some_iff.mp attached) (away repository)
  rw [resolve, inRepository, absent]

/-- In its repository a reference is followed by resolving what it stands for. -/
theorem resolve_of_attached (attached : reference.AttachedTo live repository)
    {target : Except ResolutionError Identifier} (stands : reference.StandsFor target) :
    reference.resolve files live = match target with
      | .error error => (.error error, live)
      | .ok id => (repository.resolve files id).map (fun answer => answer) some := by
  rw [resolve, inRepository, repositoryOf?_eq_some_iff.mpr attached, stands.eq, attached.alive]
  cases target <;> rfl

/-- An attached reference resolves as the identifier does for which it stands. -/
theorem resolve_of_resolves (attached : reference.AttachedTo live repository) {id : Identifier}
    (stands : reference.StandsFor (.ok id)) {answer : Except ResolutionError Found}
    {after : Repository} (resolves : repository.Resolves files id (answer, after)) :
    reference.resolve files live = (answer, some after) := by
  rw [resolve_of_attached attached stands]
  dsimp only
  rw [resolves.eq]
  rfl

/-- What is listed for following a reference is what it gives. -/
theorem Answers.eq (sound : ∀ repository, live = some repository → repository.Sound)
    {outcome : Except ResolutionError Found × Option Repository}
    (answers : reference.Answers files live outcome) : reference.resolve files live = outcome := by
  have loaded {repository : Repository} (attached : reference.AttachedTo live repository)
      {id : Identifier} {outcome : Except RepositoryError (Option Kept) × Repository}
      (obtains : repository.Obtains files id outcome) : repository.load files id = outcome :=
    obtains.eq (sound repository attached.alive)
  cases answers with
  | detached away => exact resolve_of_detached away
  | unread attached stands => exact resolve_of_attached attached stands
  | missing attached stands obtains =>
    exact resolve_of_resolves attached stands (.missing (loaded attached obtains))
  | unloaded attached stands obtains =>
    exact resolve_of_resolves attached stands (.unloaded (loaded attached obtains))
  | undefined attached stands obtains absent =>
    exact resolve_of_resolves attached stands (.undefined (loaded attached obtains) absent)
  | found attached stands obtains held =>
    exact resolve_of_resolves attached stands (.found (loaded attached obtains) held)

/-- What following a reference gives is listed. -/
theorem answers_resolve (sound : ∀ repository, live = some repository → repository.Sound) :
    reference.Answers files live (reference.resolve files live) := by
  by_cases attached : ∃ repository, reference.AttachedTo live repository
  · obtain ⟨repository, attached⟩ := attached
    obtain ⟨target, stands⟩ := reference.exists_standsFor
    rw [resolve_of_attached attached stands]
    cases target with
    | error error => exact .unread attached stands
    | ok id =>
      have listed {outcome : Except RepositoryError (Option Kept) × Repository}
          (loaded : repository.load files id = outcome) : repository.Obtains files id outcome :=
        (Repository.load_eq_iff (sound repository attached.alive)).mp loaded
      have resolves := Repository.resolve_cases files repository id
      dsimp only
      generalize repository.resolve files id = outcome at resolves ⊢
      cases resolves with
      | unloaded loaded => exact .unloaded attached stands (listed loaded)
      | missing loaded => exact .missing attached stands (listed loaded)
      | undefined loaded absent => exact .undefined attached stands (listed loaded) absent
      | found loaded held => exact .found attached stands (listed loaded) held
  · have away : ∀ repository, ¬ reference.AttachedTo live repository :=
      not_exists.mp attached
    rw [resolve_of_detached away]
    exact .detached away

end

end Reference

/-- References fail in order. Whatever was asked of a repository before, whether it is still
alive, and whatever the files are: following a reference has exactly the outcome that is listed
for it, and one is. Without its repository that is all there is to it. Then its text counts,
then the document that it stands for, kept or in the first root that has its file, and the
definition in that document at last.

Proof: each outcome listed is what following gives, and what it gives is listed, part by part:
reading the text, looking the document up, loading the file and looking the definition up. -/
theorem references_fail_in_order (files : FileTree) (reference : Reference) (handle : Handle)
    (config : RepositoryConfig) (history : List Step) (dropped : Bool)
    (outcome : Except ResolutionError Found × Option Repository) :
    let live := if dropped then none else some (run history (.new handle config))
    reference.resolve files live = outcome ↔ reference.Answers files live outcome := by
  intro live
  have sound (repository : Repository) (alive : live = some repository) : repository.Sound := by
    cases dropped with
    | true =>
      have gone : (none : Option Repository) = some repository := alive
      cases gone
    | false =>
      obtain rfl := Option.some.inj alive
      exact sound_run handle config history
  constructor
  · rintro rfl
    exact Reference.answers_resolve sound
  · exact Reference.Answers.eq sound

end LexiconSchema
