import LexiconSchema.Identifier

/-!
# References between definitions

A reference names a definition by text: `#reply` for one in the same document,
`com.example.feed#reply` or `com.example.feed` for one in any document. It also
remembers the document that it was declared in and the repository whose parser
read it, since following it needs both. Two references are equal when their
texts are.
-/

namespace LexiconSchema

/-- The identity of a repository. -/
structure Handle where
  number : Nat
deriving DecidableEq, Repr

/-- A reference: the text as declared, the document around it if it has one, and
the repository it is attached to if it has one. -/
structure Reference where
  target : String
  base : Option Identifier
  repository : Option Handle
deriving Repr

/-- Why a reference's text names no definition. -/
inductive ReferenceFault
  | outsideDocument
  | notIdentifier (error : IdentifierError)
deriving DecidableEq, Repr

/-- Why a reference cannot be expanded. -/
inductive ReferenceError
  | empty
  | invalid (target : String) (fault : ReferenceFault)
deriving DecidableEq, Repr

/-- The wording of a reference's fault. -/
def ReferenceFault.message : ReferenceFault → String
  | .outsideDocument => "local reference outside of a document"
  | .notIdentifier error => error.message

/-- The whole message of a reference error. -/
def ReferenceError.message : ReferenceError → String
  | .empty => "No ref: target is empty"
  | .invalid target fault => s!"Invalid reference '{target}': " ++ fault.message

namespace Reference

instance : BEq Reference := ⟨fun left right => left.target == right.target⟩

/-- Whether the reference stays in its own document. -/
def isLocal (reference : Reference) : Bool := reference.target.toList.head? == some '#'

/-- Whether the reference is attached to a repository. -/
def isAttached (reference : Reference) : Bool := reference.repository.isSome

/-- Reads a text as an identifier on behalf of a reference. -/
def identify (target text : String) : Except ReferenceError Identifier :=
  (Identifier.parse text).mapError fun error => .invalid target (.notIdentifier error)

/-- The identifier that a reference's text stands for. A local text is put behind
the identifier of the document around it; any other must be one by itself. -/
def expand (target : String) (base : Option Identifier) : Except ReferenceError Identifier :=
  if target.toList.isEmpty then .error .empty
  else match Text.afterOpening? "#" target with
    | none => identify target target
    | some definition =>
      match base with
      | none => .error (.invalid target .outsideDocument)
      | some document => identify target (document.document.toString ++ "#" ++ definition)

/-- The identifier that the reference stands for. -/
def identifier (reference : Reference) : Except ReferenceError Identifier :=
  expand reference.target reference.base

end Reference

end LexiconSchema
