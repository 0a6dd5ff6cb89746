import LexiconSchema.Document.Reader

/-!
# Repositories of documents

A repository keeps documents by identifier and finds those that it does not have
as files below its roots. A document is read at most once: whoever asks for it
again gets the one that is kept, and a document that is read through the
repository is kept under the identifier that it declares.

A repository is a value. What an operation changes is handed back beside its
answer, also when the answer is an error. A kept document has a serial number, by
which it can be told from an equal document that was read at another time.
-/

namespace LexiconSchema

open Json (Value)

/-- How a repository is set up: the roots in the order in which they are searched,
the greatest number of references to follow in a row, and whether every root must
exist at the start. -/
structure RepositoryConfig where
  roots : List String := []
  maxDepth : Nat := 32
  requireRoots : Bool := true
deriving Repr

namespace RepositoryConfig

/-- The setup for a list of paths with colons between, if there is one. Empty
pieces count as paths. -/
def ofPathList : Option String → RepositoryConfig
  | none => {}
  | some paths => { roots := Text.split ':' paths }

/-- The setup with one more root at the end. -/
def withRoot (config : RepositoryConfig) (root : String) : RepositoryConfig :=
  { config with roots := config.roots ++ [root] }

end RepositoryConfig

/-- Why a repository cannot be opened or a document not be loaded. -/
inductive RepositoryError
  | rootNotFound (root : String)
  | unreadable (path : String) (fault : FileFault)
  | unparsable (path : String) (error : ParseError)
  | otherId (path : String) (expected found : Identifier)
deriving Repr

/-- The whole message of a repository error. -/
def RepositoryError.message : RepositoryError → String
  | .rootNotFound root => s!"Schema root not found: {root}"
  | .unreadable path fault => s!"Failed to read schema file {path}: " ++ fault.message
  | .unparsable path error => s!"Failed to parse schema file {path}: " ++ error.message
  | .otherId path expected found =>
    s!"Schema file {path} declares id '" ++ found.toString ++ "', expected '" ++
      expected.toString ++ "'"

/-- A document that a repository keeps or kept, with its serial number. -/
structure Kept where
  document : Document
  serial : Nat

/-- A repository: its identity, its setup, the documents that it keeps by their
identifiers, and the next serial number. -/
structure Repository where
  handle : Handle
  config : RepositoryConfig
  kept : OrderedMap Identifier Kept
  nextSerial : Nat

namespace Repository

/-- A repository that keeps nothing yet. -/
def new (handle : Handle) (config : RepositoryConfig) : Repository := ⟨handle, config, .empty, 0⟩

/-- A repository without roots. Documents enter it only by being read through it. -/
def inMemory (handle : Handle) : Repository := new handle {}

/-- Opens a repository. Unless missing roots are allowed, all must be folders. -/
def openWith (files : FileTree) (handle : Handle) (config : RepositoryConfig) :
    Except RepositoryError Repository :=
  match config.roots.find? fun root => !files.isFolder root with
  | some root =>
    if config.requireRoots then .error (.rootNotFound root) else .ok (new handle config)
  | none => .ok (new handle config)

/-- The kept document of an identifier, whatever definition it names. -/
def get? (repository : Repository) (id : Identifier) : Option Kept :=
  repository.kept.get? id.document

/-- Whether a document of an identifier is kept. -/
def contains (repository : Repository) (id : Identifier) : Bool := (repository.get? id).isSome

/-- Keeps a document under its own identifier, in place of any other, and gives it
the next serial number. -/
def store (repository : Repository) (document : Document) : Kept × Repository :=
  let kept : Kept := ⟨document, repository.nextSerial⟩
  (kept, { repository with
    kept := repository.kept.insert document.id.document kept
    nextSerial := repository.nextSerial + 1 })

/-- The number of documents kept. -/
def size (repository : Repository) : Nat := repository.kept.size

/-- The identifiers of the documents kept, in ascending order. -/
def ids (repository : Repository) : List Identifier := Identifier.sort repository.kept.keys

/-- The context of what is read through the repository. -/
def context (repository : Repository) : Context := { repository := some repository.handle }

/-- Reads a document through the repository from the entries of its object. Once the
head is read, a kept document of that identifier is the answer. -/
def readEntries (repository : Repository) (entries : List (String × Value)) :
    Except ParseError Kept × Repository :=
  let source : Source := ⟨repository.context, entries⟩
  match Document.readHead source with
  | .error error => (.error error, repository)
  | .ok id =>
    match repository.get? id with
    | some kept => (.ok kept, repository)
    | none =>
      match Document.readBody source id with
      | .error error => (.error error, repository)
      | .ok document =>
        let (kept, repository) := repository.store document
        (.ok kept, repository)

/-- Reads a value that must be a document through the repository. -/
def readDocument (repository : Repository) (value : Value) :
    Except ParseError Kept × Repository :=
  match Document.entriesOf value with
  | .error error => (.error error, repository)
  | .ok entries => repository.readEntries entries

/-- Reads a value that must be a node by itself on behalf of the repository, to which
its references are attached. -/
def readNode (repository : Repository) (value : Value) : Except ParseError Node :=
  Node.ofValue repository.context value

/-- What reading through a repository yields. -/
inductive Reading
  | document (kept : Kept)
  | node (node : Node)

/-- Reads a value through the repository as what it is. -/
def read (repository : Repository) : Value → Except ParseError Reading × Repository
  | .object entries =>
    if isDocument entries then
      let (answer, repository) := repository.readEntries entries
      (answer.map .document, repository)
    else ((Node.ofEntries repository.context entries).map .node, repository)
  | found => (.error (.notObject [] found), repository)

/-- The path of the file for an identifier: below the first root that is a folder
and has it. -/
def locate? (files : FileTree) (repository : Repository) (id : Identifier) : Option String :=
  repository.config.roots.findSome? fun root =>
    let path := FileTree.joinPath root id.relativePath
    if files.isFolder root && files.isFile path then some path else none

/-- Reads the file found for an identifier. The document is read through the
repository first and only then compared with the identifier. -/
def loadFile (files : FileTree) (repository : Repository) (id : Identifier) (path : String) :
    Except RepositoryError Kept × Repository :=
  match files.readText path with
  | .error fault => (.error (.unreadable path fault), repository)
  | .ok text =>
    match Input.decode (.text text) with
    | .error error => (.error (.unparsable path error), repository)
    | .ok value =>
      match repository.readDocument value with
      | (.error error, repository) => (.error (.unparsable path error), repository)
      | (.ok kept, repository) =>
        if kept.document.id.document = id.document then (.ok kept, repository)
        else (.error (.otherId path id.document kept.document.id), repository)

/-- The document of an identifier: the one kept, else the one in its file, else
none. -/
def load (files : FileTree) (repository : Repository) (id : Identifier) :
    Except RepositoryError (Option Kept) × Repository :=
  match repository.get? id with
  | some kept => (.ok (some kept), repository)
  | none =>
    match locate? files repository id with
    | none => (.ok none, repository)
    | some path =>
      let (answer, repository) := loadFile files repository id path
      (answer.map some, repository)

/-- The repository as a debugging view. -/
def debugView (repository : Repository) : String :=
  "SchemaRepository \x7b roots: [" ++
    ", ".intercalate (repository.config.roots.map Text.quotedPath) ++ "], documents: " ++
    toString repository.size ++ " \x7d"

end Repository

/-- Reads the document in a file by itself. -/
def Document.ofFile (files : FileTree) (path : String) : Except ParseError Document := do
  let text ← (files.readText path).mapError .unreadable
  let value ← Input.decode (.text text)
  Document.ofValue value

end LexiconSchema
