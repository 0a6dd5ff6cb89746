import LexiconSchema.Repository
import LexiconSchema.Proofs.WrittenForms
import LexiconSchema.Proofs.WrittenObjects

/-!
# What loading can do

Everything that changes a repository goes through the reading of one document or
through storing one. Both, and the loading of a file, are described here once: every
way in which they can end, with what was true before. What later developments say of
a repository follows from these cases and never from the code again.

A repository is sound when every document is kept under its own identifier. One
repository extends another when it still keeps what the other kept, except for the
documents of certain identifiers, which may have been replaced but not removed.
-/

namespace LexiconSchema

open Json (Value)

namespace Repository

/-- A document is kept where it belongs: under its own identifier, which was read from
some text, and with a serial number that was given out already. -/
structure Placed (key : Identifier) (nextSerial : Nat) (kept : Kept) : Prop where
  keyed : kept.document.id.document = key
  named : kept.document.id.Named
  numbered : kept.serial < nextSerial

/-- What holds of a repository that was only ever changed by its operations: every
document is in its place, and no two have one serial number. -/
structure Sound (repository : Repository) : Prop where
  placed : ∀ key kept, repository.kept.get? key = some kept →
    Placed key repository.nextSerial kept
  apart : ∀ key other kept twin, repository.kept.get? key = some kept →
    repository.kept.get? other = some twin → kept.serial = twin.serial → key = other

/-- The later repository keeps what the earlier one kept, except that documents of
exempt identifiers may be others. -/
structure Extends (exempt : Identifier → Prop) (before after : Repository) : Prop where
  handle : after.handle = before.handle
  config : after.config = before.config
  remains : ∀ key, (before.kept.get? key).isSome → (after.kept.get? key).isSome
  same : ∀ key kept, before.kept.get? key = some kept → ¬ exempt key →
    after.kept.get? key = some kept
  sound : before.Sound → after.Sound

/-- No identifier at all. -/
def noneExempt (_ : Identifier) : Prop := False

section
variable {exempt : Identifier → Prop} {before between after repository : Repository}

/-- A repository keeps what it keeps. -/
theorem Extends.refl : repository.Extends exempt repository :=
  ⟨rfl, rfl, fun _ present => present, fun _ _ kept _ => kept, id⟩

/-- What is kept by one repository after the other is kept by the last. -/
theorem Extends.trans (first : before.Extends exempt between)
    (second : between.Extends exempt after) : before.Extends exempt after where
  handle := second.handle.trans first.handle
  config := second.config.trans first.config
  remains key present := second.remains key (first.remains key present)
  same key kept present kept' := second.same key kept (first.same key kept present kept') kept'
  sound held := second.sound (first.sound held)

/-- What nothing is exempt from holds whatever is exempt. -/
theorem Extends.weaken (step : before.Extends noneExempt after) : before.Extends exempt after :=
  { step with same := fun key kept present _ => step.same key kept present id }

/-- A repository without documents is sound. -/
theorem sound_new (handle : Handle) (config : RepositoryConfig) : (new handle config).Sound where
  placed key kept impossible := by cases impossible
  apart key other kept twin impossible := by cases impossible

/-- A kept document is found under its own identifier. -/
def Keeps (repository : Repository) (kept : Kept) : Prop :=
  repository.kept.get? kept.document.id.document = some kept

/-- What is found under an identifier is kept, and is the document of that identifier. -/
theorem keeps_of_get? (sound : repository.Sound) {id : Identifier} {kept : Kept}
    (found : repository.get? id = some kept) :
    repository.Keeps kept ∧ kept.document.id.document = id.document := by
  have own : kept.document.id.document = id.document := (sound.placed id.document kept found).keyed
  refine ⟨?_, own⟩
  rw [Keeps, own]
  exact found

/-! Storing. -/

/-- What a look-up finds after a document was stored. -/
theorem get?_store (repository : Repository) (document : Document) (key : Identifier) :
    (repository.store document).2.kept.get? key =
      if document.id.document = key then some (repository.store document).1
      else repository.kept.get? key :=
  repository.kept.get?_insert document.id.document key _

/-- A document that was stored is kept. -/
theorem keeps_store (repository : Repository) (document : Document) :
    (repository.store document).2.Keeps (repository.store document).1 := by
  rw [Keeps, get?_store]
  exact if_pos rfl

/-- What a look-up finds after a document was stored is that document, with the next
serial number, or was there before. -/
theorem kept_of_store {document : Document} {key : Identifier} {kept : Kept}
    (found : (repository.store document).2.kept.get? key = some kept) :
    (document.id.document = key ∧ kept = ⟨document, repository.nextSerial⟩) ∨
      repository.kept.get? key = some kept := by
  rw [get?_store] at found
  by_cases own : document.id.document = key
  · rw [if_pos own] at found
    exact .inl ⟨own, (Option.some.inj found).symm⟩
  · rw [if_neg own] at found
    exact .inr found

/-- Storing leaves the repository sound: the next serial number is above all others. -/
theorem sound_store {document : Document} (named : document.id.Named) (sound : repository.Sound) :
    (repository.store document).2.Sound where
  placed key kept found := by
    rcases kept_of_store found with ⟨own, rfl⟩ | earlier
    · exact ⟨own, named, Nat.lt_succ_self _⟩
    · obtain ⟨keyed, named, numbered⟩ := sound.placed key kept earlier
      exact ⟨keyed, named, Nat.lt_succ_of_lt numbered⟩
  apart key other kept twin found foundOther same := by
    rcases kept_of_store found with ⟨own, rfl⟩ | earlier
    · rcases kept_of_store foundOther with ⟨ownOther, -⟩ | earlierOther
      · exact own.symm.trans ownOther
      · have numbered := (sound.placed other twin earlierOther).numbered
        exact absurd same (Nat.ne_of_gt numbered)
    · rcases kept_of_store foundOther with ⟨-, rfl⟩ | earlierOther
      · have numbered := (sound.placed key kept earlier).numbered
        exact absurd same (Nat.ne_of_lt numbered)
      · exact sound.apart key other kept twin earlier earlierOther same

/-- Storing a document keeps the repository sound and all other documents. -/
theorem store_extends {document : Document} (named : document.id.Named) :
    repository.Extends (· = document.id.document) (repository.store document).2 where
  handle := rfl
  config := rfl
  remains key present := by
    rw [get?_store]
    split
    · rfl
    · exact present
  same key kept present other := by
    rw [get?_store, if_neg (Ne.symm other)]
    exact present
  sound := sound_store named

/-- A document of a new identifier replaces nothing. -/
theorem store_extends_of_absent {document : Document} (named : document.id.Named)
    (absent : repository.get? document.id = none) :
    repository.Extends noneExempt (repository.store document).2 := by
  have extended : repository.Extends (· = document.id.document) (repository.store document).2 :=
    store_extends named
  refine { extended with same := fun key kept present _ => extended.same key kept present ?_ }
  rintro rfl
  have impossible : none = some kept := absent.symm.trans present
  cases impossible

/-! Reading a document. -/

/-- The ways in which reading a document through a repository ends. -/
inductive ReadsDocument (repository : Repository) (entries : List (String × Value)) :
    Except ParseError Kept × Repository → Prop
  | refused {error : ParseError}
      (read : Document.ofEntries repository.context entries = .error error) :
      ReadsDocument repository entries (.error error, repository)
  | kept {id : Identifier} {kept : Kept}
      (head : Document.readHead ⟨repository.context, entries⟩ = .ok id)
      (found : repository.get? id = some kept) :
      ReadsDocument repository entries (.ok kept, repository)
  | stored {document : Document}
      (read : Document.ofEntries repository.context entries = .ok document)
      (head : Document.readHead ⟨repository.context, entries⟩ = .ok document.id)
      (absent : repository.get? document.id = none) :
      ReadsDocument repository entries
        (.ok (repository.store document).1, (repository.store document).2)

/-- A document has the identifier that its body was read for. -/
theorem id_of_readBody {source : Source} {id : Identifier} {document : Document}
    (read : Document.readBody source id = .ok document) : document.id = id := by
  have yields : Yields (fun made : Document => made.id = id) (Document.readBody source id) :=
    .bind fun _ _ => .bind fun _ _ => .bind fun _ _ => .ok rfl
  exact yields document read

/-- Reading a document does one of three things: it fails, it gives what is kept already, or it
stores what was read. -/
theorem readEntries_cases (repository : Repository) (entries : List (String × Value)) :
    ReadsDocument repository entries (repository.readEntries entries) := by
  have whole : Document.ofEntries repository.context entries = (do
      let id ← Document.readHead ⟨repository.context, entries⟩
      Document.readBody ⟨repository.context, entries⟩ id) := rfl
  rw [readEntries]
  dsimp only
  cases head : Document.readHead ⟨repository.context, entries⟩ with
  | error error => exact .refused (by rw [whole, head]; rfl)
  | ok id =>
    dsimp only
    cases found : repository.get? id with
    | some kept => exact .kept head found
    | none =>
      dsimp only
      cases body : Document.readBody ⟨repository.context, entries⟩ id with
      | error error => exact .refused (by rw [whole, head]; exact body)
      | ok document =>
        obtain rfl := id_of_readBody body
        exact .stored (by rw [whole, head]; exact body) head found

/-- Entries whose head names a kept document give it, whatever else they hold. -/
theorem readEntries_of_kept {entries : List (String × Value)} {id : Identifier} {kept : Kept}
    (head : Document.readHead ⟨repository.context, entries⟩ = .ok id)
    (found : repository.get? id = some kept) :
    repository.readEntries entries = (.ok kept, repository) := by
  rw [readEntries]
  dsimp only
  rw [head]
  dsimp only
  rw [found]

/-- An identifier from a head is named. -/
theorem named_of_readHead {source : Source} {id : Identifier}
    (head : Document.readHead source = .ok id) : id.Named := by
  obtain ⟨text, -, -, parsed⟩ := Document.readHead_text source id head
  exact Identifier.named_of_parse parsed

/-- Reading a document replaces nothing, and the document read is kept. -/
theorem ReadsDocument.extends {entries : List (String × Value)}
    {outcome : Except ParseError Kept × Repository}
    (reads : repository.ReadsDocument entries outcome) :
    repository.Extends noneExempt outcome.2 := by
  cases reads with
  | refused read => exact .refl
  | kept head found => exact .refl
  | stored read head absent => exact store_extends_of_absent (named_of_readHead head) absent

/-- However the reading of a document went, its result is kept afterwards. -/
theorem ReadsDocument.keeps {entries : List (String × Value)}
    {outcome : Except ParseError Kept × Repository} (sound : repository.Sound)
    (reads : repository.ReadsDocument entries outcome) :
    Yields outcome.2.Keeps outcome.1 := by
  cases reads with
  | refused read => exact .error
  | kept head found => exact .ok (keeps_of_get? sound found).1
  | stored read head absent => exact .ok (keeps_store repository _)

/-! Loading a file. -/

/-- The entries of the object in a file, before anything is made of them. -/
def fileEntries (files : FileTree) (path : String) :
    Except RepositoryError (List (String × Value)) :=
  match files.readText path with
  | .error fault => .error (.unreadable path fault)
  | .ok text =>
    (Input.decode (.text text) >>= Document.entriesOf).mapError (.unparsable path)

/-- The document of what is kept under the expected identifier, else the error. -/
def expected (id : Identifier) (path : String) (kept : Kept) : Except RepositoryError Kept :=
  if kept.document.id.document = id.document then .ok kept
  else .error (.otherId path id.document kept.document.id)

/-- A file is loaded in two steps: what it holds, and reading that. -/
theorem loadFile_eq (files : FileTree) (repository : Repository) (id : Identifier) (path : String) :
    loadFile files repository id path = match fileEntries files path with
      | .error error => (.error error, repository)
      | .ok entries =>
        ((repository.readEntries entries).1.mapError (.unparsable path) >>= expected id path,
          (repository.readEntries entries).2) := by
  unfold loadFile fileEntries readDocument
  cases files.readText path with
  | error fault => rfl
  | ok text =>
    dsimp only
    cases Input.decode (.text text) with
    | error error => rfl
    | ok value =>
      have held : (Except.ok value >>= Document.entriesOf) = Document.entriesOf value := rfl
      rw [held]
      dsimp only
      cases Document.entriesOf value with
      | error error => rfl
      | ok entries =>
        change _ = ((repository.readEntries entries).1.mapError _ >>= expected id path,
          (repository.readEntries entries).2)
        dsimp only
        obtain ⟨answer, after⟩ := repository.readEntries entries
        cases answer with
        | error error => rfl
        | ok kept =>
          change (if _ then _ else _) = (expected id path kept, after)
          rw [expected]
          split <;> rfl

/-- The ways in which loading the document of an identifier ends. -/
inductive Loads (files : FileTree) (repository : Repository) (id : Identifier) :
    Except RepositoryError (Option Kept) × Repository → Prop
  | kept {kept : Kept} (found : repository.get? id = some kept) :
      Loads files repository id (.ok (some kept), repository)
  | nowhere (absent : repository.get? id = none) (unlocated : locate? files repository id = none) :
      Loads files repository id (.ok none, repository)
  | unusable {path : String} {error : RepositoryError} (absent : repository.get? id = none)
      (located : locate? files repository id = some path)
      (content : fileEntries files path = .error error) :
      Loads files repository id (.error error, repository)
  | refused {path : String} {entries : List (String × Value)} {error : ParseError}
      (absent : repository.get? id = none) (located : locate? files repository id = some path)
      (content : fileEntries files path = .ok entries)
      (read : Document.ofEntries repository.context entries = .error error) :
      Loads files repository id (.error (.unparsable path error), repository)
  | foreignKept {path : String} {entries : List (String × Value)} {other : Identifier} {kept : Kept}
      (absent : repository.get? id = none) (located : locate? files repository id = some path)
      (content : fileEntries files path = .ok entries)
      (head : Document.readHead ⟨repository.context, entries⟩ = .ok other)
      (found : repository.get? other = some kept) :
      Loads files repository id (.error (.otherId path id.document kept.document.id), repository)
  | foreignStored {path : String} {entries : List (String × Value)} {document : Document}
      (absent : repository.get? id = none) (located : locate? files repository id = some path)
      (content : fileEntries files path = .ok entries)
      (read : Document.ofEntries repository.context entries = .ok document)
      (head : Document.readHead ⟨repository.context, entries⟩ = .ok document.id)
      (foreign : document.id.document ≠ id.document)
      (missing : repository.get? document.id = none) :
      Loads files repository id (.error (.otherId path id.document document.id),
        (repository.store document).2)
  | stored {path : String} {entries : List (String × Value)} {document : Document}
      (absent : repository.get? id = none) (located : locate? files repository id = some path)
      (content : fileEntries files path = .ok entries)
      (read : Document.ofEntries repository.context entries = .ok document)
      (head : Document.readHead ⟨repository.context, entries⟩ = .ok document.id)
      (own : document.id.document = id.document) :
      Loads files repository id (.ok (some (repository.store document).1),
        (repository.store document).2)

/-- In a sound repository loading ends in one of these ways. A document that is kept under
another identifier than the one asked for is never the one asked for, since that one
would have been found before. -/
theorem load_cases (files : FileTree) (sound : repository.Sound) (id : Identifier) :
    Loads files repository id (repository.load files id) := by
  rw [load]
  cases found : repository.get? id with
  | some kept => exact .kept found
  | none =>
    dsimp only
    cases located : locate? files repository id with
    | none => exact .nowhere found located
    | some path =>
      dsimp only
      rw [loadFile_eq]
      cases content : fileEntries files path with
      | error error => exact .unusable found located content
      | ok entries =>
        dsimp only
        have reads := readEntries_cases repository entries
        generalize repository.readEntries entries = outcome at reads ⊢
        cases reads with
        | refused read => exact .refused found located content read
        | @kept other kept head there =>
          have foreign : kept.document.id.document ≠ id.document := by
            intro own
            obtain ⟨keeps, -⟩ := keeps_of_get? sound there
            rw [Keeps, own] at keeps
            have impossible : none = some kept := found.symm.trans keeps
            cases impossible
          have refused : expected id path kept =
              .error (.otherId path id.document kept.document.id) :=
            if_neg foreign
          change Loads files repository id ((expected id path kept).map some, repository)
          rw [refused]
          exact .foreignKept found located content head there
        | @stored document read head missing =>
          by_cases own : document.id.document = id.document
          · have accepted : expected id path (repository.store document).1 =
                .ok (repository.store document).1 := if_pos own
            change Loads files repository id ((expected id path _).map some, _)
            rw [accepted]
            exact .stored found located content read head own
          · have refused : expected id path (repository.store document).1 =
                .error (.otherId path id.document document.id) := if_neg own
            change Loads files repository id ((expected id path _).map some, _)
            rw [refused]
            exact .foreignStored found located content read head own missing

/-- Loading replaces nothing. -/
theorem Loads.extends {files : FileTree} {id : Identifier}
    {outcome : Except RepositoryError (Option Kept) × Repository}
    (loads : Loads files repository id outcome) : repository.Extends noneExempt outcome.2 := by
  cases loads with
  | foreignStored absent located content read head foreign missing =>
    exact store_extends_of_absent (named_of_readHead head) missing
  | stored absent located content read head own =>
    refine store_extends_of_absent (named_of_readHead head) ?_
    rw [get?, own]
    exact absent
  | _ => exact .refl

/-- A document that was loaded is kept. -/
theorem Loads.keeps {files : FileTree} {id : Identifier}
    {outcome : Except RepositoryError (Option Kept) × Repository} (sound : repository.Sound)
    (loads : Loads files repository id outcome) :
    Yields (fun loaded => ∀ kept ∈ loaded, outcome.2.Keeps kept) outcome.1 := by
  cases loads with
  | kept found =>
    refine .ok fun kept same => ?_
    obtain rfl := Option.some.inj same
    exact (keeps_of_get? sound found).1
  | nowhere absent unlocated => exact .ok fun kept impossible => by cases impossible
  | stored absent located content read head own =>
    refine .ok fun kept same => ?_
    obtain rfl := Option.some.inj same
    exact keeps_store repository _
  | _ => exact .error

/-- What was kept is still kept where nothing was replaced. -/
theorem Keeps.extends {kept : Kept} (keeps : before.Keeps kept)
    (step : before.Extends noneExempt after) : after.Keeps kept :=
  step.same _ kept keeps id

end

end Repository

end LexiconSchema
