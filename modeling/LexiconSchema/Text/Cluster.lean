import LexiconSchema.Text.Cluster.Breaking

/-!
# Grapheme clusters

What a reader takes for one character may be several: a letter with its accents,
a family joined from four pictographs, a flag made of two letters. The extended
grapheme clusters of Unicode are found from left to right. Whether there is a
boundary before a character depends on its break class, on that of the character
before, and in three cases on a little of what came earlier: the parity of a run
of regional indicators, a pictograph that a joiner is to continue, and a
consonant that a linker is to continue.
-/

namespace LexiconSchema.Text

/-- What is remembered of the text before a boundary: the class of its last
character, whether it ends in an odd number of regional indicators, in a
pictograph with marks, in such a pictograph and a joiner, in a consonant with
marks, and whether among these marks is a linker. -/
structure Clustering where
  last : Breaking
  oddRegionals : Bool
  afterPictograph : Bool
  afterJoined : Bool
  afterConsonant : Bool
  linked : Bool

namespace Clustering

/-- What is remembered once a character has been read, given what was remembered
before it, if the text had begun. -/
def next (before : Option Clustering) (c : Char) : Clustering :=
  let breaking := Breaking.of c
  let earlier (memory : Clustering → Bool) : Bool := before.any memory
  let marks := breaking == .extending || breaking == .joiner
  let conjunctMark := marks && c.toNat != 0x200C
  let conjunct := breaking == .consonant || (conjunctMark && earlier (·.afterConsonant))
  { last := breaking
    oddRegionals := breaking == .regional && !earlier (·.oddRegionals)
    afterPictograph :=
      breaking == .pictograph || (breaking == .extending && earlier (·.afterPictograph))
    afterJoined := breaking == .joiner && earlier (·.afterPictograph)
    afterConsonant := conjunct
    linked := conjunct && breaking != .consonant && (Breaking.isLinker c || earlier (·.linked)) }

/-- Whether there is a boundary between the text read so far and a character of a
given class. The rules are tried in this order. -/
def hasBoundary (before : Clustering) (breaking : Breaking) : Bool :=
  match before.last, breaking with
  | .carriageReturn, .lineFeed => false
  | .control, _ | .carriageReturn, _ | .lineFeed, _ => true
  | _, .control | _, .carriageReturn | _, .lineFeed => true
  | .hangulL, .hangulL | .hangulL, .hangulV | .hangulL, .hangulLV | .hangulL, .hangulLVT => false
  | .hangulLV, .hangulV | .hangulV, .hangulV | .hangulLV, .hangulT | .hangulV, .hangulT => false
  | .hangulLVT, .hangulT | .hangulT, .hangulT => false
  | _, .extending | _, .joiner | _, .spacing => false
  | .leading, _ => false
  | _, .consonant => !(before.afterConsonant && before.linked)
  | .joiner, .pictograph => !before.afterJoined
  | .regional, .regional => !before.oddRegionals
  | _, _ => true

/-- The number of boundaries before the characters still to be read. -/
def boundaries (before : Option Clustering) : List Char → Nat
  | [] => 0
  | c :: rest =>
    let starts := before.all fun memory => memory.hasBoundary (Breaking.of c)
    (if starts then 1 else 0) + boundaries (some (next before c)) rest

end Clustering

/-- The number of grapheme clusters of a text. -/
def clusterCount (text : String) : Nat := Clustering.boundaries none text.toList

end LexiconSchema.Text
