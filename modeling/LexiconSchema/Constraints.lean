import LexiconSchema.Json.FieldCodec

/-!
# Constraints

The constraints that scalar and media nodes may declare beside their kind. Every
constraint may be absent. Each type has its block of fields, in the order in which
they are written. Bounds of `number` nodes keep the number's class, so that 2 is
written as `2` and 2.0 as `2.0`.
-/

namespace LexiconSchema

open Json (Block Codec FieldCodec Number)

/-- Constraints of strings. Lengths are in bytes, grapheme counts in clusters. -/
structure StringConstraints where
  maxLength : Option Size := none
  minLength : Option Size := none
  maxGraphemes : Option Size := none
  minGraphemes : Option Size := none
  allowed : Option (List String) := none
  constant : Option String := none
  default : Option String := none
  knownValues : Option (List String) := none
deriving DecidableEq, Repr

/-- Constraints of integers. -/
structure IntegerConstraints where
  maximum : Option Whole := none
  minimum : Option Whole := none
  allowed : Option (List Whole) := none
  constant : Option Whole := none
  default : Option Whole := none
deriving DecidableEq, Repr

/-- Constraints of numbers. -/
structure NumberConstraints where
  maximum : Option Number := none
  minimum : Option Number := none
  allowed : Option (List Number) := none
  constant : Option Number := none
  default : Option Number := none
deriving BEq, Repr

/-- Constraints of truth values. -/
structure BooleanConstraints where
  constant : Option Bool := none
  default : Option Bool := none
deriving DecidableEq, Repr

/-- Bounds of a length: of an array in items, of bytes in bytes. -/
structure LengthBounds where
  maxLength : Option Size := none
  minLength : Option Size := none
deriving DecidableEq, Repr

/-- Constraints of blobs: media types, which may hold wild cards, and a size. -/
structure BlobConstraints where
  accept : Option (List String) := none
  maxSize : Option Size := none
deriving DecidableEq, Repr

/-- Constraints of images: also a width and a height in pixels. -/
structure ImageConstraints where
  accept : Option (List String) := none
  maxSize : Option Size := none
  maxWidth : Option Count := none
  maxHeight : Option Count := none
deriving DecidableEq, Repr

/-- Constraints of videos: also a duration in seconds. -/
structure VideoConstraints where
  accept : Option (List String) := none
  maxSize : Option Size := none
  maxWidth : Option Count := none
  maxHeight : Option Count := none
  maxLength : Option Size := none
deriving DecidableEq, Repr

/-- Constraints of audio: media types, a size and a duration in seconds. -/
structure AudioConstraints where
  accept : Option (List String) := none
  maxSize : Option Size := none
  maxLength : Option Size := none
deriving DecidableEq, Repr

/-- The block of string constraints. -/
def StringConstraints.block : Block StringConstraints where
  title := "StringConstraints"
  empty := {}
  fields := [
    .optional "maxLength" .size (·.maxLength) (fun v c => { c with maxLength := v }),
    .optional "minLength" .size (·.minLength) (fun v c => { c with minLength := v }),
    .optional "maxGraphemes" .size (·.maxGraphemes) (fun v c => { c with maxGraphemes := v }),
    .optional "minGraphemes" .size (·.minGraphemes) (fun v c => { c with minGraphemes := v }),
    .optional "enum" (.list .text) (·.allowed) (fun v c => { c with allowed := v }),
    .optional "const" .text (·.constant) (fun v c => { c with constant := v }),
    .optional "default" .text (·.default) (fun v c => { c with default := v }),
    .optional "knownValues" (.list .text) (·.knownValues) (fun v c => { c with knownValues := v })]

/-- The block of integer constraints. -/
def IntegerConstraints.block : Block IntegerConstraints where
  title := "IntegerConstraints"
  empty := {}
  fields := [
    .optional "maximum" .whole (·.maximum) (fun v c => { c with maximum := v }),
    .optional "minimum" .whole (·.minimum) (fun v c => { c with minimum := v }),
    .optional "enum" (.list .whole) (·.allowed) (fun v c => { c with allowed := v }),
    .optional "const" .whole (·.constant) (fun v c => { c with constant := v }),
    .optional "default" .whole (·.default) (fun v c => { c with default := v })]

/-- The block of number constraints. -/
def NumberConstraints.block : Block NumberConstraints where
  title := "NumberConstraints"
  empty := {}
  fields := [
    .optional "maximum" .number (·.maximum) (fun v c => { c with maximum := v }),
    .optional "minimum" .number (·.minimum) (fun v c => { c with minimum := v }),
    .optional "enum" (.list .number) (·.allowed) (fun v c => { c with allowed := v }),
    .optional "const" .number (·.constant) (fun v c => { c with constant := v }),
    .optional "default" .number (·.default) (fun v c => { c with default := v })]

/-- The block of constraints of truth values. -/
def BooleanConstraints.block : Block BooleanConstraints where
  title := "BooleanConstraints"
  empty := {}
  fields := [
    .optional "const" .flag (·.constant) (fun v c => { c with constant := v }),
    .optional "default" .flag (·.default) (fun v c => { c with default := v })]

/-- A block of length bounds under a given title. -/
def LengthBounds.blockTitled (title : String) : Block LengthBounds where
  title := title
  empty := {}
  fields := [
    .optional "maxLength" .size (·.maxLength) (fun v c => { c with maxLength := v }),
    .optional "minLength" .size (·.minLength) (fun v c => { c with minLength := v })]

/-- The block of an array's bounds. -/
def LengthBounds.arrayBlock : Block LengthBounds := blockTitled "ArrayConstraints"

/-- The block of the bounds of bytes. -/
def LengthBounds.bytesBlock : Block LengthBounds := blockTitled "BytesConstraints"

/-- The block of blob constraints. -/
def BlobConstraints.block : Block BlobConstraints where
  title := "BlobConstraints"
  empty := {}
  fields := [
    .optional "accept" (.list .text) (·.accept) (fun v c => { c with accept := v }),
    .optional "maxSize" .size (·.maxSize) (fun v c => { c with maxSize := v })]

/-- The block of image constraints. -/
def ImageConstraints.block : Block ImageConstraints where
  title := "ImageConstraints"
  empty := {}
  fields := [
    .optional "accept" (.list .text) (·.accept) (fun v c => { c with accept := v }),
    .optional "maxSize" .size (·.maxSize) (fun v c => { c with maxSize := v }),
    .optional "maxWidth" .count (·.maxWidth) (fun v c => { c with maxWidth := v }),
    .optional "maxHeight" .count (·.maxHeight) (fun v c => { c with maxHeight := v })]

/-- The block of video constraints. -/
def VideoConstraints.block : Block VideoConstraints where
  title := "VideoConstraints"
  empty := {}
  fields := [
    .optional "accept" (.list .text) (·.accept) (fun v c => { c with accept := v }),
    .optional "maxSize" .size (·.maxSize) (fun v c => { c with maxSize := v }),
    .optional "maxWidth" .count (·.maxWidth) (fun v c => { c with maxWidth := v }),
    .optional "maxHeight" .count (·.maxHeight) (fun v c => { c with maxHeight := v }),
    .optional "maxLength" .duration (·.maxLength) (fun v c => { c with maxLength := v })]

/-- The block of audio constraints. -/
def AudioConstraints.block : Block AudioConstraints where
  title := "AudioConstraints"
  empty := {}
  fields := [
    .optional "accept" (.list .text) (·.accept) (fun v c => { c with accept := v }),
    .optional "maxSize" .size (·.maxSize) (fun v c => { c with maxSize := v }),
    .optional "maxLength" .duration (·.maxLength) (fun v c => { c with maxLength := v })]

end LexiconSchema
