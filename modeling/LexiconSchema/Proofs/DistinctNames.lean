import LexiconSchema.Json.Reader
import LexiconSchema.Proofs.OrderedMaps
import LexiconSchema.Proofs.Outcomes

/-!
# Objects that give every name once

A decoded value gives every name of an object once, in all objects at whatever depth. What
is read from such an object does not depend on the order of its entries, and looking a name
up says all about it. Reading a text makes such values only: a name that comes again
replaces the entry that it had.

The proof follows the reader's machine. No step brings a name into an open object twice,
and nothing is finished that was not open before.

Main statement: `read_distinct`.
-/

namespace LexiconSchema.Json

/-- In the value and in everything inside it, every object gives each name once. -/
inductive Value.Distinct : Value → Prop
  | null : Distinct .null
  | bool (value : Bool) : Distinct (.bool value)
  | number (value : Number) : Distinct (.number value)
  | string (value : String) : Distinct (.string value)
  | array {items : List Value} (each : ∀ item ∈ items, Distinct item) : Distinct (.array items)
  | object {entries : List (String × Value)} (names : (entries.map Prod.fst).Nodup)
      (each : ∀ entry ∈ entries, Distinct entry.2) : Distinct (.object entries)

namespace Value.Distinct

/-- The names of an object are distinct. -/
theorem names {entries : List (String × Value)} (distinct : (Value.object entries).Distinct) :
    (entries.map Prod.fst).Nodup := by
  cases distinct with
  | object names each => exact names

/-- The members of an object are again distinct. -/
theorem member {entries : List (String × Value)} (distinct : (Value.object entries).Distinct)
    {entry : String × Value} (inside : entry ∈ entries) : entry.2.Distinct := by
  cases distinct with
  | object names each => exact each entry inside

/-- What is present under a name is distinct. -/
theorem present {entries : List (String × Value)} (distinct : (Value.object entries).Distinct)
    {name : String} {value : Value} (found : Value.present? name entries = some value) :
    value.Distinct :=
  distinct.member (mem_of_findEntry (Option.eq_some_of_filter_eq_some found))

end Value.Distinct

attribute [simp] Value.Distinct.null Value.Distinct.bool Value.Distinct.number Value.Distinct.string

/-- A list gives every name once if its items do. -/
@[simp] theorem Value.distinct_array_iff {items : List Value} :
    (Value.array items).Distinct ↔ ∀ item ∈ items, item.Distinct := by
  constructor
  · rintro ⟨⟩
    assumption
  · exact .array

/-- An object gives every name once if its own names differ and what stands under them does so,
too. -/
@[simp] theorem Value.distinct_object_iff {entries : List (String × Value)} :
    (Value.object entries).Distinct ↔
      (entries.map Prod.fst).Nodup ∧ ∀ entry ∈ entries, entry.2.Distinct :=
  ⟨fun distinct => ⟨distinct.names, fun _ => distinct.member⟩, fun ⟨names, each⟩ =>
    .object names each⟩

/-! The literals of a text. -/

/-- What a lexeme holds, if it is a literal, is distinct. -/
def Lexeme.Distinct : Lexeme → Prop
  | .literal result => Yields Value.Distinct result
  | _ => True

/-- A literal is no object and no list, so no name comes twice in it. -/
theorem Lexeme.scanLiteral_distinct (offset : Nat) (first : Char) (rest : List Char) :
    Yields (fun found => found.1.Distinct) (scanLiteral offset first rest) := by
  unfold scanLiteral
  dsimp only
  split
  · exact .bind fun _ _ => .ok .null
  split
  · exact .bind fun _ _ => .ok (.bool true)
  split
  · exact .bind fun _ _ => .ok (.bool false)
  split
  · exact .bind fun number _ => .ok (.number number.1)
  · exact .error

/-- A mark has no names. -/
theorem Lexeme.mark?_distinct {c : Char} {lexeme : Lexeme} (found : mark? c = some lexeme) :
    lexeme.Distinct := by
  unfold mark? at found
  repeat' split at found
  all_goals first
    | obtain rfl := Option.some.inj found; trivial
    | cases found

/-- All lexemes of a text are distinct. The induction is on the characters, of which some
were taken by the lexeme before. -/
theorem Lexeme.scan_distinct (taken offset : Nat) (text : List Char) :
    ∀ lexeme ∈ scan taken offset text, lexeme.2.Distinct := by
  induction text generalizing taken offset with
  | nil => cases taken <;> exact List.forall_mem_nil _
  | cons c rest inductionHypothesis =>
    cases taken with
    | succ taken => exact inductionHypothesis taken _
    | zero =>
      unfold scan
      by_cases space : isSpace c
      · rw [if_pos space]
        exact inductionHypothesis 0 _
      rw [if_neg space]
      cases found : mark? c with
      | some mark => exact List.forall_mem_cons.mpr ⟨mark?_distinct found, inductionHypothesis 0 _⟩
      | none =>
        by_cases quote : c = '"'
        · dsimp only
          rw [if_pos quote]
          cases scanText 0 (offset + 1) rest with
          | ok taken => exact List.forall_mem_cons.mpr ⟨trivial, inductionHypothesis _ _⟩
          | error failure => exact List.forall_mem_singleton.mpr trivial
        · dsimp only
          rw [if_neg quote]
          cases scanned : scanLiteral offset c rest with
          | ok found =>
            have literal : found.1.Distinct := scanLiteral_distinct _ _ _ _ scanned
            exact List.forall_mem_cons.mpr ⟨.ok literal, inductionHypothesis _ _⟩
          | error failure => exact List.forall_mem_singleton.mpr .error

/-! The machine. -/

/-- What an open array or object has so far is distinct. -/
inductive Frame.Distinct : Frame → Prop
  | array {items : List Value} (each : ∀ item ∈ items, item.Distinct) : Distinct (.array items)
  | object {entries : List (String × Value)} {name : String}
      (sofar : (Value.object entries).Distinct) : Distinct (.object entries name)

/-- Everything that is open is distinct, and so is the result, if there is one. -/
structure Progress.Distinct (progress : Progress) : Prop where
  stack : ∀ frame ∈ progress.stack, frame.Distinct
  result : ∀ value, progress.expected = .nothing value → value.Distinct

namespace Progress

variable {stack : List Frame} {start : Nat} {lexeme : Lexeme}

/-- A value put into an open object takes the place of an earlier one of its name. -/
theorem complete_distinct {value : Value} (distinct : value.Distinct)
    (opened : ∀ frame ∈ stack, frame.Distinct) : (complete value stack).Distinct := by
  cases stack with
  | nil =>
    refine ⟨List.forall_mem_nil _, fun result same => ?_⟩
    cases same
    exact distinct
  | cons frame outer =>
    obtain ⟨inner, rest⟩ := List.forall_mem_cons.mp opened
    cases inner with
    | array each =>
      refine ⟨List.forall_mem_cons.mpr ⟨.array ?_, rest⟩, fun _ impossible => by cases impossible⟩
      exact List.forall_mem_cons.mpr ⟨distinct, each⟩
    | object sofar =>
      refine ⟨List.forall_mem_cons.mpr ⟨.object ?_, rest⟩, fun _ impossible => by cases impossible⟩
      refine .object (nodup_putEntry sofar.names) fun entry inside => ?_
      rcases mem_putEntry inside with rfl | earlier
      · exact distinct
      · exact sofar.member earlier

/-- Closing the innermost frame keeps what is known of the frames, as its entries were put in one by
one. -/
theorem close_distinct (opened : ∀ frame ∈ stack, frame.Distinct) : (close stack).Distinct := by
  cases stack with
  | nil => exact ⟨List.forall_mem_nil _, fun _ impossible => by cases impossible⟩
  | cons frame outer =>
    obtain ⟨inner, rest⟩ := List.forall_mem_cons.mp opened
    cases inner with
    | array each =>
      refine complete_distinct (.array fun item inside => each item ?_) rest
      exact List.mem_reverse.mp inside
    | object sofar => exact complete_distinct sofar rest

/-- Putting a value into the innermost frame keeps what is known of the frames. -/
theorem value_distinct (plain : lexeme.Distinct) (opened : ∀ frame ∈ stack, frame.Distinct) :
    Yields Distinct (value start lexeme stack) := by
  have entered (frame : Frame) (expected : Expected) (inner : frame.Distinct)
      (unfinished : ∀ value, expected ≠ .nothing value) :
      Yields Distinct (enter start frame expected stack) := by
    unfold enter
    split
    · exact .error
    · exact .ok ⟨List.forall_mem_cons.mpr ⟨inner, opened⟩,
        fun value same => absurd same (unfinished value)⟩
  cases lexeme with
  | literal result =>
    exact .map fun found given => complete_distinct (plain found given) opened
  | text result => exact .map fun found _ => complete_distinct (.string found) opened
  | openArray => exact entered _ _ (.array (List.forall_mem_nil _)) fun _ => nofun
  | openObject =>
    have nothing : (Value.object []).Distinct := .object List.nodup_nil (List.forall_mem_nil _)
    exact entered _ _ (.object nothing) fun _ => nofun
  | _ => exact .error

/-- A key that is waiting for its value changes no entries. -/
theorem key_distinct (opened : ∀ frame ∈ stack, frame.Distinct) :
    Yields Distinct (key start lexeme stack) := by
  cases lexeme with
  | text result =>
    refine .map fun found _ => ?_
    cases stack with
    | nil => exact ⟨List.forall_mem_nil _, fun _ impossible => by cases impossible⟩
    | cons frame outer =>
      obtain ⟨inner, rest⟩ := List.forall_mem_cons.mp opened
      cases inner with
      | array each => exact ⟨opened, fun _ impossible => by cases impossible⟩
      | object sofar =>
        exact ⟨List.forall_mem_cons.mpr ⟨.object sofar, rest⟩,
          fun _ impossible => by cases impossible⟩
  | _ => exact .error

/-- A step keeps everything distinct. -/
theorem step_distinct {progress : Progress} (plain : lexeme.Distinct)
    (distinct : progress.Distinct) : Yields Distinct (progress.step start lexeme) := by
  obtain ⟨stack, expected⟩ := progress
  have value := @value_distinct stack start lexeme plain distinct.stack
  have key := @key_distinct stack start lexeme distinct.stack
  have closed : Yields Distinct (.ok (close stack) : Except Failure Progress) :=
    .ok (close_distinct distinct.stack)
  have waiting (next : Expected) (unfinished : ∀ value, next ≠ .nothing value) :
      Yields Distinct (.ok ⟨stack, next⟩ : Except Failure Progress) :=
    .ok ⟨distinct.stack, fun value same => absurd same (unfinished value)⟩
  cases expected <;> cases lexeme <;>
    first
    | exact value
    | exact key
    | exact closed
    | exact waiting _ fun _ => nofun
    | exact .error

/-- A run of the machine keeps everything distinct. -/
theorem run_distinct {lexemes : List (Nat × Lexeme)}
    (plain : ∀ lexeme ∈ lexemes, lexeme.2.Distinct) {progress : Progress}
    (distinct : progress.Distinct) :
    Yields Distinct (lexemes.foldlM (fun progress (start, lexeme) => progress.step start lexeme)
      progress) := by
  induction lexemes generalizing progress with
  | nil => exact .ok distinct
  | cons lexeme rest inductionHypothesis =>
    obtain ⟨first, later⟩ := List.forall_mem_cons.mp plain
    rw [List.foldlM_cons]
    exact .bind fun next stepped => inductionHypothesis later (step_distinct first distinct _ stepped)

end Progress

/-- A value that was read from a text gives every name once. -/
theorem read_distinct {text : String} {value : Value} (done : read text = .ok value) :
    value.Distinct := by
  have finished (progress : Progress) (distinct : progress.Distinct) (offset : Nat) :
      Yields Value.Distinct (progress.finish offset) := by
    unfold Progress.finish
    split
    · exact .ok (distinct.result _ ‹_›)
    all_goals exact .error
  have initial : Progress.Distinct ⟨[], .value⟩ :=
    ⟨List.forall_mem_nil _, fun _ impossible => by cases impossible⟩
  have ran := Progress.run_distinct (Lexeme.scan_distinct 0 0 text.toList) initial
  refine Yields.mapError (.bind fun progress reached => ?_) value done
  exact finished progress (ran progress reached) _

end LexiconSchema.Json
