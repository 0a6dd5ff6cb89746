import LexiconSchema.Repository

/-!
# Following references

A reference is followed by expanding it to an identifier, loading the document of
that identifier and looking the definition up. Nothing is loaded before a
reference is followed. A reference can only be followed while the repository that
it is attached to is alive.

A chain of references ends at the first definition that is none. It is cut short
when an identifier comes up again and when it gets longer than the repository
allows.
-/

namespace LexiconSchema

/-- Why a reference cannot be followed. -/
inductive ResolutionError
  | noRepository (target : String)
  | badReference (error : ReferenceError)
  | noSchemaFile (id : Identifier)
  | loadFailed (id : Identifier) (error : RepositoryError)
  | noDefinition (document : Identifier) (name : String)
  | circular (chain : List Identifier)
  | tooDeep (limit : Nat) (chain : List Identifier)
deriving Repr

/-- The written form of a chain. -/
def chainText (chain : List Identifier) : String :=
  " -> ".intercalate (chain.map Identifier.toString)

/-- The whole message of a resolution error. -/
def ResolutionError.message : ResolutionError → String
  | .noRepository target => s!"No repository available to resolve '{target}'"
  | .badReference error => error.message
  | .noSchemaFile id => "Schema file not found for '" ++ id.toString ++ "'"
  | .loadFailed id error => "Failed to load schema '" ++ id.toString ++ "': " ++ error.message
  | .noDefinition document name =>
    s!"Definition '{name}' not found in schema '" ++ document.toString ++ "'"
  | .circular chain => "Circular reference detected: " ++ chainText chain
  | .tooDeep limit chain =>
    s!"Reference resolution depth exceeded (max: {limit}, path: " ++ chainText chain ++ ")"

/-- A definition that was found: the document around it, its name and its node. Two
finds are one node exactly when document and name are the same. -/
structure Found where
  kept : Kept
  name : String
  node : Node

/-- An answer of a repository together with the repository afterwards. -/
abbrev Answer (α : Type) : Type := Except ResolutionError α × Repository

namespace Repository

/-- The document of an identifier, which must be there. -/
def require (files : FileTree) (repository : Repository) (id : Identifier) : Answer Kept :=
  match repository.load files id with
  | (.error error, repository) => (.error (.loadFailed id.document error), repository)
  | (.ok none, repository) => (.error (.noSchemaFile id.document), repository)
  | (.ok (some kept), repository) => (.ok kept, repository)

/-- The definition that an identifier names. -/
def resolve (files : FileTree) (repository : Repository) (id : Identifier) : Answer Found :=
  match repository.require files id with
  | (.error error, repository) => (.error error, repository)
  | (.ok kept, repository) =>
    match kept.document.definition? id.definition with
    | none => (.error (.noDefinition kept.document.id id.definition), repository)
    | some node => (.ok ⟨kept, id.definition, node⟩, repository)

/-- The definition that a reference's text names, for a reference declared in a given
document. -/
def resolveText (files : FileTree) (repository : Repository) (target : String)
    (base : Option Identifier) : Answer Found :=
  match Reference.expand target base with
  | .error error => (.error (.badReference error), repository)
  | .ok id => repository.resolve files id

/-- Follows references one after the other and collects the errors. -/
def collectErrors (files : FileTree) (document : Identifier) :
    List Reference → Repository → List ResolutionError × Repository
  | [], repository => ([], repository)
  | reference :: rest, repository =>
    let base := reference.base.getD document
    match repository.resolveText files reference.target (some base) with
    | (.ok _, repository) => collectErrors files document rest repository
    | (.error error, repository) =>
      let (errors, repository) := collectErrors files document rest repository
      (error :: errors, repository)

/-- Follows every reference of a document and answers with the errors. Only the
document itself must load. -/
def checkReferences (files : FileTree) (repository : Repository) (id : Identifier) :
    Answer (List ResolutionError) :=
  match repository.require files id with
  | (.error error, repository) => (.error error, repository)
  | (.ok kept, repository) =>
    let (errors, repository) :=
      collectErrors files kept.document.id kept.document.references repository
    (.ok errors, repository)

/-- Follows a chain of references from an identifier on, given those before it. -/
def follow (files : FileTree) (limit : Nat) (chain : List Identifier) (next : Identifier)
    (repository : Repository) : Answer Found :=
  if (chain.map Identifier.toString).contains next.toString then
    (.error (.circular (chain ++ [next])), repository)
  else if limit ≤ chain.length then (.error (.tooDeep limit chain), repository)
  else
    match repository.resolve files next with
    | (.error error, repository) => (.error error, repository)
    | (.ok found, repository) =>
      match found.node.content.reference? with
      | none => (.ok found, repository)
      | some inner =>
        match inner.identifier with
        | .error error => (.error (.badReference error), repository)
        | .ok id => follow files limit (chain ++ [next]) id repository
termination_by limit - chain.length
decreasing_by simp only [List.length_append, List.length_singleton]; omega

end Repository

namespace Reference

/-- The repository to follow a reference in, if the live one is that which the
reference is attached to. -/
def repositoryOf? (reference : Reference) (live : Option Repository) : Option Repository :=
  live.filter fun repository => reference.repository == some repository.handle

/-- The identifier that a reference stands for, errors being those of following. -/
def targetIdentifier (reference : Reference) : Except ResolutionError Identifier :=
  reference.identifier.mapError .badReference

/-- Does something with a reference's identifier in its repository. Without a live
repository nothing else is looked at. -/
def inRepository {α : Type} (reference : Reference) (live : Option Repository)
    (act : Repository → Identifier → Answer α) : Except ResolutionError α × Option Repository :=
  match reference.repositoryOf? live with
  | none => (.error (.noRepository reference.target), live)
  | some repository =>
    match reference.targetIdentifier with
    | .error error => (.error error, some repository)
    | .ok id =>
      let (answer, repository) := act repository id
      (answer, some repository)

/-- The definition that a reference names. -/
def resolve (files : FileTree) (reference : Reference) (live : Option Repository) :
    Except ResolutionError Found × Option Repository :=
  reference.inRepository live fun repository id => repository.resolve files id

/-- The definition at the end of the chain that starts with a reference. -/
def resolveTarget (files : FileTree) (reference : Reference) (live : Option Repository) :
    Except ResolutionError Found × Option Repository :=
  reference.inRepository live fun repository id =>
    repository.follow files repository.config.maxDepth [] id

end Reference

/-- The definitions that references name, in their order. The first that cannot be
followed ends the matter. -/
def resolveAll (files : FileTree) :
    List Reference → Option Repository → Except ResolutionError (List Found) × Option Repository
  | [], live => (.ok [], live)
  | reference :: rest, live =>
    match reference.resolve files live with
    | (.error error, live) => (.error error, live)
    | (.ok found, live) =>
      match resolveAll files rest live with
      | (.error error, live) => (.error error, live)
      | (.ok others, live) => (.ok (found :: others), live)

/-- The definitions that the members of a union name. -/
def Union.resolve (files : FileTree) (union : Union) (live : Option Repository) :
    Except ResolutionError (List Found) × Option Repository :=
  resolveAll files union.members live

end LexiconSchema
