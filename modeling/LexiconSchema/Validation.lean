import LexiconSchema.Node
import LexiconSchema.StringFormat.Syntax
import LexiconSchema.Text.Cluster

/-!
# Validation of strings

A string node decides about JSON values. A value must be a text, of the declared
format if there is one, and keep every declared constraint. The checks come in a
fixed order and the first that fails is reported with the value's path, what was
measured and the bound. The default and the known values constrain nothing.

Formats are checked by whatever checker is supplied, at most once per value. The
checker may have effects; `validate` supplies the built-in one, which has none.
-/

namespace LexiconSchema

open Json (Value)

/-- Which check a value fails, with what was found and what was wanted. -/
inductive Violation
  | notText (found : Value)
  | badFormat (format : StringFormat) (text reason : String)
  | tooLong (actual : Nat) (limit : Size)
  | tooShort (actual : Nat) (limit : Size)
  | tooManyClusters (actual : Nat) (limit : Size)
  | tooFewClusters (actual : Nat) (limit : Size)
  | notAllowed (text : String)
  | notConstant (text wanted : String)
deriving Repr

/-- A violation at a path. -/
structure ValidationError where
  path : String
  violation : Violation
deriving Repr

/-- The wording of a violation. -/
def Violation.message : Violation → String
  | .notText found => "expected a string, got " ++ found.write
  | .badFormat format text reason => "invalid " ++ format.name ++ s!" '{text}': {reason}"
  | .tooLong actual limit =>
    s!"string exceeds maximum length: {actual} > " ++ toString limit.value
  | .tooShort actual limit =>
    s!"string is shorter than minimum length: {actual} < " ++ toString limit.value
  | .tooManyClusters actual limit =>
    s!"string exceeds maximum graphemes: {actual} > " ++ toString limit.value
  | .tooFewClusters actual limit =>
    s!"string has fewer than minimum graphemes: {actual} < " ++ toString limit.value
  | .notAllowed text => s!"value '{text}' not in allowed enum values"
  | .notConstant text wanted => s!"value '{text}' does not match required constant '{wanted}'"

/-- The whole message of a validation error. -/
def ValidationError.message (error : ValidationError) : String :=
  error.path ++ ": " ++ error.violation.message

namespace StringConstraints

/-- The violation of an upper bound. -/
def above? (actual : Nat) (limit : Option Size) (violation : Nat → Size → Violation) :
    Option Violation :=
  limit.bind fun limit => if limit.toNat < actual then some (violation actual limit) else none

/-- The violation of a lower bound. -/
def below? (actual : Nat) (limit : Option Size) (violation : Nat → Size → Violation) :
    Option Violation :=
  limit.bind fun limit => if actual < limit.toNat then some (violation actual limit) else none

/-- The first constraint that a text violates: lengths in bytes, then counts of
grapheme clusters, then the allowed texts, then the constant. -/
def violation? (constraints : StringConstraints) (text : String) : Option Violation :=
  above? text.utf8ByteSize constraints.maxLength .tooLong
    <|> below? text.utf8ByteSize constraints.minLength .tooShort
    <|> above? (Text.clusterCount text) constraints.maxGraphemes .tooManyClusters
    <|> below? (Text.clusterCount text) constraints.minGraphemes .tooFewClusters
    <|> (constraints.allowed.bind fun texts =>
      if texts.contains text then none else some (.notAllowed text))
    <|> (constraints.constant.bind fun wanted =>
      if text = wanted then none else some (.notConstant text wanted))

end StringConstraints

/-- The answer of a format checker: nothing, or why a text is refused. -/
abbrev Verdict := Option String

namespace StringSchema

/-- The answer once the format has been judged. -/
def settle (schema : StringSchema) (path text : String) (verdict : Verdict) :
    Except ValidationError Value :=
  let violation := match schema.format, verdict with
    | some format, some reason => some (.badFormat format text reason)
    | _, _ => schema.constraints.violation? text
  match violation with
  | some violation => .error ⟨path, violation⟩
  | none => .ok (.string text)

/-- Validates a value with a given format checker, which is asked once if the value
is a text and a format is declared, and not otherwise. -/
def validateWith {m : Type → Type} [Monad m] (schema : StringSchema)
    (check : StringFormat → String → m Verdict) (value : Value) (path : String) :
    m (Except ValidationError Value) :=
  match value with
  | .string text =>
    match schema.format with
    | some format => do
      let verdict ← check format text
      pure (schema.settle path text verdict)
    | none => pure (schema.settle path text none)
  | found => pure (.error ⟨path, .notText found⟩)

/-- The built-in format checker. -/
def builtinVerdict (format : StringFormat) (text : String) : Verdict :=
  (format.fault? text).map FormatFault.message

/-- Validates a value with the built-in format checker. -/
def validate (schema : StringSchema) (value : Value) (path : String) :
    Except ValidationError Value :=
  schema.validateWith (m := Id) builtinVerdict value path

end StringSchema

end LexiconSchema
