import LexiconSchema.Proofs.Runs

/-!
# What a load leaves behind

A successful load adds the document asked for and nothing else. A load that gives no
document leaves the repository as it was, with one exception. A file is read through the
repository, which keeps what was read, before its identifier is compared with the one
asked for. So a file that declares another document, and one that is not kept yet, is
refused and its document kept nevertheless.

Main statement: `load_changes_exactly`, with the exception as the exact condition.
-/

namespace LexiconSchema

namespace Repository

/-- The file found for an identifier that is not kept holds another document, which is
not kept either. -/
structure Misdeclares (files : FileTree) (repository : Repository) (id : Identifier)
    (document : Document) : Prop where
  absent : repository.get? id = none
  content : ∃ path entries, locate? files repository id = some path ∧
    fileEntries files path = .ok entries ∧
    Document.ofEntries repository.context entries = .ok document
  foreign : document.id.document ≠ id.document
  missing : repository.get? document.id = none

/-- What a document read from some entries is called stands in their head. -/
theorem readHead_of_ofEntries {context : Context} {entries : List (String × Json.Value)}
    {document : Document} (read : Document.ofEntries context entries = .ok document) :
    Document.readHead ⟨context, entries⟩ = .ok document.id := by
  have yields : Yields (fun made : Document => Document.readHead ⟨context, entries⟩ = .ok made.id)
      (Document.ofEntries context entries) := by
    refine .bind fun id head => fun made body => ?_
    rw [id_of_readBody body]
    exact head
  exact yields document read

section
variable {files : FileTree} {repository : Repository} {id : Identifier}

/-- Reading entries of a new identifier stores what they hold. -/
theorem readEntries_of_missing {entries : List (String × Json.Value)} {document : Document}
    (read : Document.ofEntries repository.context entries = .ok document)
    (missing : repository.get? document.id = none) :
    repository.readEntries entries =
      (.ok (repository.store document).1, (repository.store document).2) := by
  have head := readHead_of_ofEntries read
  have body : Document.readBody ⟨repository.context, entries⟩ document.id = .ok document := by
    rw [Document.ofEntries, head] at read
    exact read
  rw [readEntries]
  dsimp only
  rw [head]
  dsimp only
  rw [missing]
  dsimp only
  rw [body]

/-- A document that was stored is found under an identifier that had none. -/
theorem kept_store_ne {document : Document} (missing : repository.get? document.id = none) :
    (repository.store document).2.kept ≠ repository.kept := by
  intro same
  have keeps := keeps_store repository document
  rw [Keeps, same] at keeps
  have impossible : none = some (repository.store document).1 := missing.symm.trans keeps
  cases impossible

/-- A file that declares another document is refused with that document's identifier, and
its document is kept. -/
theorem load_of_misdeclares {document : Document}
    (misdeclares : Misdeclares files repository id document) :
    ∃ path, repository.load files id =
      (.error (.otherId path id.document document.id), (repository.store document).2) := by
  obtain ⟨absent, ⟨path, entries, located, content, read⟩, foreign, missing⟩ := misdeclares
  have refused : expected id path (repository.store document).1 =
      .error (.otherId path id.document document.id) := if_neg foreign
  refine ⟨path, ?_⟩
  rw [load]
  rw [absent]
  dsimp only
  rw [located]
  dsimp only
  rw [loadFile_eq, content]
  dsimp only
  rw [readEntries_of_missing read missing]
  change ((expected id path (repository.store document).1).map some, _) = _
  rw [refused]
  rfl

/-- A load that gives a document has found it kept or adds it under the identifier asked
for, and nothing else. -/
theorem load_of_some (sound : repository.Sound) {kept : Kept}
    (given : (repository.load files id).1 = .ok (some kept)) :
    (repository.get? id = some kept ∧ (repository.load files id).2 = repository) ∨
    (repository.get? id = none ∧
      (repository.load files id).2.kept = repository.kept.insert id.document kept) := by
  have loads := load_cases files sound id
  generalize repository.load files id = outcome at given loads ⊢
  cases loads with
  | kept found =>
    obtain rfl := Option.some.inj (Except.ok.inj given)
    exact .inl ⟨found, rfl⟩
  | stored absent _ _ _ _ own =>
    obtain rfl := Option.some.inj (Except.ok.inj given)
    refine .inr ⟨absent, ?_⟩
    rw [← own]
    rfl
  | _ => cases given

/-- A load that gives none leaves the documents as they are or has stored a document that
its file misdeclares. -/
theorem load_of_not_some (sound : repository.Sound)
    (refused : ∀ kept, (repository.load files id).1 ≠ .ok (some kept)) :
    (repository.load files id).2 = repository ∨
      ∃ document, Misdeclares files repository id document := by
  have loads := load_cases files sound id
  generalize repository.load files id = outcome at refused loads ⊢
  cases loads with
  | @foreignStored path entries document absent located content read head foreign missing =>
    exact .inr ⟨document, absent, ⟨path, entries, located, content, read⟩, foreign, missing⟩
  | stored => exact absurd rfl (refused _)
  | _ => exact .inl rfl

end

end Repository

/-- What a load changes, in every repository that was ever new and whatever the files are.
If it gives a document, the documents kept are the old ones with at most that document
added under the identifier asked for. If it gives none, they are the old ones exactly if
the file found does not declare another document that was not kept yet; if it does, that
document is now kept under its own identifier. -/
theorem load_changes_exactly (handle : Handle) (config : RepositoryConfig) (history : List Step)
    (files : FileTree) (id : Identifier) :
    let before := run history (.new handle config)
    let answer := (before.load files id).1
    let after := (before.load files id).2
    (∀ kept, answer = .ok (some kept) → (before.get? id = some kept ∧ after = before) ∨
      (before.get? id = none ∧ after.kept = before.kept.insert id.document kept)) ∧
    ((∀ kept, answer ≠ .ok (some kept)) →
      (after.kept = before.kept ↔ ¬ ∃ document, Repository.Misdeclares files before id document)) ∧
    (∀ document, Repository.Misdeclares files before id document →
      (∃ path, answer = .error (.otherId path id.document document.id)) ∧
        after.kept = before.kept.insert document.id.document ⟨document, before.nextSerial⟩) := by
  have sound := sound_run handle config history
  refine ⟨fun kept given => Repository.load_of_some sound given, fun refused => ⟨?_, ?_⟩, ?_⟩
  · rintro unchanged ⟨document, misdeclares⟩
    obtain ⟨path, loaded⟩ := Repository.load_of_misdeclares misdeclares
    rw [loaded] at unchanged
    exact Repository.kept_store_ne misdeclares.missing unchanged
  · intro proper
    rcases Repository.load_of_not_some sound refused with unchanged | misdeclared
    · rw [unchanged]
    · exact absurd misdeclared proper
  · intro document misdeclares
    obtain ⟨path, loaded⟩ := Repository.load_of_misdeclares misdeclares
    rw [loaded]
    exact ⟨⟨path, rfl⟩, rfl⟩

/-- A file for one identifier that declares another. -/
def movedFiles : FileTree :=
  FileTree.empty.write "root/com/example/moved.json"
    (.file "\x7b\"lexicon\": 1, \"id\": \"com.example.other\"\x7d".toUTF8)

/-- The identifier that the file is found for. -/
def movedId : Identifier := ⟨["com", "example"], "moved", "main"⟩

/-- A load that gives no document may change what is kept: the file's document is kept
though the load is refused. -/
theorem refused_load_leaves_document :
    ¬ ∀ (handle : Handle) (config : RepositoryConfig) (history : List Step) (files : FileTree)
      (id : Identifier), let before := run history (.new handle config)
      (∀ kept, (before.load files id).1 ≠ .ok (some kept)) →
        (before.load files id).2.kept = before.kept := by
  intro always
  let before := Repository.new ⟨0⟩ { roots := ["root"] }
  have refused : (before.load movedFiles movedId).1.toBool = false := by decide +kernel
  have unchanged := always ⟨0⟩ { roots := ["root"] } [] movedFiles movedId fun kept given => by
    have contradiction : (before.load movedFiles movedId).1.toBool = true := by
      rw [show (before.load movedFiles movedId).1 = .ok (some kept) from given]
      rfl
    rw [refused] at contradiction
    cases contradiction
  have grown : (before.load movedFiles movedId).2.size = 1 := by decide +kernel
  have empty : (before.load movedFiles movedId).2.size = 0 := congrArg OrderedMap.size unchanged
  rw [grown] at empty
  cases empty

end LexiconSchema
