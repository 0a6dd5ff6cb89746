import LexiconSchema.Validation

/-!
# Which check a value fails

A string node puts a value through eight checks, of which most are made only if the node declares
something. What violates each check is said here for the check alone, without regard to the
others. Validation then is two statements: a value is given back, unchanged, exactly if it
conforms to all that is declared, and otherwise the error is that of the first check violated.

The checker of formats may be any, and may have effects. It is asked once about a text whose
format is declared, and never besides; all that follows depends on its answer and on nothing else
that it did.

Main statement: `values_fail_their_first_check`.
-/

namespace LexiconSchema

open Json (Value)

/-- The checks of a value. -/
inductive Check
  | isText | format | maxLength | minLength | maxGraphemes | minGraphemes | allowed | constant
deriving DecidableEq, Repr

/-- The checks in the order in which they are made. -/
def Check.all : List Check :=
  [.isText, .format, .maxLength, .minLength, .maxGraphemes, .minGraphemes, .allowed, .constant]

/-- All checks are listed. -/
theorem Check.mem_all (check : Check) : check ∈ all := by
  cases check <;> decide

namespace StringSchema

/-- What the node declares is kept by a text about which the checker of formats gave an answer. -/
structure Conforms (schema : StringSchema) (verdict : Verdict) (text : String) : Prop where
  format : ∀ format, schema.format = some format → verdict = none
  maxLength : ∀ limit, schema.constraints.maxLength = some limit →
    text.utf8ByteSize ≤ limit.toNat
  minLength : ∀ limit, schema.constraints.minLength = some limit →
    limit.toNat ≤ text.utf8ByteSize
  maxGraphemes : ∀ limit, schema.constraints.maxGraphemes = some limit →
    Text.clusterCount text ≤ limit.toNat
  minGraphemes : ∀ limit, schema.constraints.minGraphemes = some limit →
    limit.toNat ≤ Text.clusterCount text
  allowed : ∀ texts, schema.constraints.allowed = some texts → text ∈ texts
  constant : ∀ wanted, schema.constraints.constant = some wanted → text = wanted

/-- A value violates a check. The violation has what was found and what is declared. -/
inductive Violates (schema : StringSchema) (verdict : Verdict) : Value → Check → Violation → Prop
  | isText {value : Value} (other : ∀ text, value ≠ .string text) :
      Violates schema verdict value .isText (.notText value)
  | format {text reason : String} {format : StringFormat} (declared : schema.format = some format)
      (refused : verdict = some reason) :
      Violates schema verdict (.string text) .format (.badFormat format text reason)
  | maxLength {text : String} {limit : Size}
      (declared : schema.constraints.maxLength = some limit)
      (above : limit.toNat < text.utf8ByteSize) :
      Violates schema verdict (.string text) .maxLength (.tooLong text.utf8ByteSize limit)
  | minLength {text : String} {limit : Size}
      (declared : schema.constraints.minLength = some limit)
      (below : text.utf8ByteSize < limit.toNat) :
      Violates schema verdict (.string text) .minLength (.tooShort text.utf8ByteSize limit)
  | maxGraphemes {text : String} {limit : Size}
      (declared : schema.constraints.maxGraphemes = some limit)
      (above : limit.toNat < Text.clusterCount text) :
      Violates schema verdict (.string text) .maxGraphemes
        (.tooManyClusters (Text.clusterCount text) limit)
  | minGraphemes {text : String} {limit : Size}
      (declared : schema.constraints.minGraphemes = some limit)
      (below : Text.clusterCount text < limit.toNat) :
      Violates schema verdict (.string text) .minGraphemes
        (.tooFewClusters (Text.clusterCount text) limit)
  | allowed {text : String} {texts : List String}
      (declared : schema.constraints.allowed = some texts) (other : text ∉ texts) :
      Violates schema verdict (.string text) .allowed (.notAllowed text)
  | constant {text wanted : String} (declared : schema.constraints.constant = some wanted)
      (other : text ≠ wanted) :
      Violates schema verdict (.string text) .constant (.notConstant text wanted)

/-- A violation of a check such that no check before it is violated. -/
def FirstViolated (schema : StringSchema) (verdict : Verdict) (value : Value)
    (violation : Violation) : Prop :=
  ∃ earlier check later, Check.all = earlier ++ check :: later ∧
    schema.Violates verdict value check violation ∧
    ∀ other ∈ earlier, ∀ passed, ¬ schema.Violates verdict value other passed

end StringSchema

/-! The checks as they are made. -/

namespace StringConstraints

variable {actual : Nat} {limit : Option Size} {violation : Nat → Size → Violation}
  {found : Violation}

/-- An upper bound is violated exactly if there is one and the measure is above it. -/
theorem above?_eq_some_iff : above? actual limit violation = some found ↔
    ∃ bound, limit = some bound ∧ bound.toNat < actual ∧ violation actual bound = found := by
  simp only [above?, Option.bind_eq_some_iff, Option.ite_none_right_eq_some, Option.some.injEq]

/-- A lower bound is violated exactly if there is one and the measure is below it. -/
theorem below?_eq_some_iff : below? actual limit violation = some found ↔
    ∃ bound, limit = some bound ∧ actual < bound.toNat ∧ violation actual bound = found := by
  simp only [below?, Option.bind_eq_some_iff, Option.ite_none_right_eq_some, Option.some.injEq]

end StringConstraints

namespace StringSchema

variable {schema : StringSchema} {verdict : Verdict} {text : String}

/-- What a text violates of one check, if anything. -/
def violationOf? (schema : StringSchema) (verdict : Verdict) (text : String) :
    Check → Option Violation
  | .isText => none
  | .format => schema.format.bind fun format => verdict.map (.badFormat format text)
  | .maxLength =>
    StringConstraints.above? text.utf8ByteSize schema.constraints.maxLength .tooLong
  | .minLength =>
    StringConstraints.below? text.utf8ByteSize schema.constraints.minLength .tooShort
  | .maxGraphemes =>
    StringConstraints.above? (Text.clusterCount text) schema.constraints.maxGraphemes
      .tooManyClusters
  | .minGraphemes =>
    StringConstraints.below? (Text.clusterCount text) schema.constraints.minGraphemes
      .tooFewClusters
  | .allowed => schema.constraints.allowed.bind fun texts =>
    if texts.contains text then none else some (.notAllowed text)
  | .constant => schema.constraints.constant.bind fun wanted =>
    if text = wanted then none else some (.notConstant text wanted)

/-- Each check finds what violates it. -/
theorem violationOf?_eq_some_iff {check : Check} {violation : Violation} :
    schema.violationOf? verdict text check = some violation ↔
      schema.Violates verdict (.string text) check violation := by
  constructor
  · intro found
    cases check with
    | isText => cases found
    | format =>
      obtain ⟨format, declared, answered⟩ := Option.bind_eq_some_iff.mp found
      obtain ⟨reason, refused, rfl⟩ := Option.map_eq_some_iff.mp answered
      exact .format declared refused
    | maxLength =>
      obtain ⟨limit, declared, above, rfl⟩ := StringConstraints.above?_eq_some_iff.mp found
      exact .maxLength declared above
    | minLength =>
      obtain ⟨limit, declared, below, rfl⟩ := StringConstraints.below?_eq_some_iff.mp found
      exact .minLength declared below
    | maxGraphemes =>
      obtain ⟨limit, declared, above, rfl⟩ := StringConstraints.above?_eq_some_iff.mp found
      exact .maxGraphemes declared above
    | minGraphemes =>
      obtain ⟨limit, declared, below, rfl⟩ := StringConstraints.below?_eq_some_iff.mp found
      exact .minGraphemes declared below
    | allowed =>
      obtain ⟨texts, declared, answered⟩ := Option.bind_eq_some_iff.mp found
      obtain ⟨absent, same⟩ := Option.ite_none_left_eq_some.mp answered
      obtain rfl := Option.some.inj same
      exact .allowed declared fun member => absent (List.contains_iff_mem.mpr member)
    | constant =>
      obtain ⟨wanted, declared, answered⟩ := Option.bind_eq_some_iff.mp found
      obtain ⟨other, same⟩ := Option.ite_none_left_eq_some.mp answered
      obtain rfl := Option.some.inj same
      exact .constant declared other
  · intro violates
    cases violates with
    | isText other => exact absurd rfl (other text)
    | format declared refused => simp [violationOf?, declared, refused]
    | maxLength declared above =>
      exact StringConstraints.above?_eq_some_iff.mpr ⟨_, declared, above, rfl⟩
    | minLength declared below =>
      exact StringConstraints.below?_eq_some_iff.mpr ⟨_, declared, below, rfl⟩
    | maxGraphemes declared above =>
      exact StringConstraints.above?_eq_some_iff.mpr ⟨_, declared, above, rfl⟩
    | minGraphemes declared below =>
      exact StringConstraints.below?_eq_some_iff.mpr ⟨_, declared, below, rfl⟩
    | allowed declared other => simp [violationOf?, declared, other]
    | constant declared other => simp [violationOf?, declared, other]

/-- A check that finds nothing is violated by nothing. -/
theorem violationOf?_eq_none_iff {check : Check} :
    schema.violationOf? verdict text check = none ↔
      ∀ violation, ¬ schema.Violates verdict (.string text) check violation := by
  simp only [← violationOf?_eq_some_iff]
  exact Option.eq_none_iff_forall_ne_some

/-- The constraints are the checks behind the first two. -/
theorem violation?_eq (verdict : Verdict) : schema.constraints.violation? text =
    (Check.all.drop 2).findSome? (schema.violationOf? verdict text) := by
  have onward (check : Check) (others : List Check) :
      (check :: others).findSome? (schema.violationOf? verdict text) =
        (schema.violationOf? verdict text check).or
          (others.findSome? (schema.violationOf? verdict text)) := by
    rw [List.findSome?_cons]
    cases schema.violationOf? verdict text check <;> rfl
  simp only [Check.all, List.drop_succ_cons, List.drop_zero, onward, List.findSome?_nil,
    Option.or_none, StringConstraints.violation?, Option.orElse_eq_orElse, Option.orElse_eq_or]
  rfl

/-- The checks are made one after the other, and the first that finds something is reported. -/
theorem settle_eq (path : String) :
    schema.settle path text verdict =
      ((Check.all.findSome? (schema.violationOf? verdict text)).elim (.ok (.string text))
        fun violation => .error ⟨path, violation⟩) := by
  have later : Check.all.findSome? (schema.violationOf? verdict text) =
      (schema.violationOf? verdict text .format).or (schema.constraints.violation? text) := by
    rw [violation?_eq verdict]
    change (Check.isText :: .format :: Check.all.drop 2).findSome? _ = _
    rw [List.findSome?_cons, List.findSome?_cons]
    cases schema.violationOf? verdict text .format <;> rfl
  rw [later]
  unfold settle violationOf?
  dsimp only
  cases schema.format with
  | none => cases schema.constraints.violation? text <;> rfl
  | some format =>
    cases verdict with
    | none => cases schema.constraints.violation? text <;> rfl
    | some reason => rfl

/-- A text conforms exactly if it violates no check. -/
theorem conforms_iff : schema.Conforms verdict text ↔
    ∀ check violation, ¬ schema.Violates verdict (.string text) check violation := by
  constructor
  · intro conforms check violation violates
    cases violates with
    | isText other => exact other text rfl
    | format declared refused => exact absurd (conforms.format _ declared) (by simp [refused])
    | maxLength declared above => exact Nat.not_lt.mpr (conforms.maxLength _ declared) above
    | minLength declared below => exact Nat.not_lt.mpr (conforms.minLength _ declared) below
    | maxGraphemes declared above => exact Nat.not_lt.mpr (conforms.maxGraphemes _ declared) above
    | minGraphemes declared below => exact Nat.not_lt.mpr (conforms.minGraphemes _ declared) below
    | allowed declared other => exact other (conforms.allowed _ declared)
    | constant declared other => exact other (conforms.constant _ declared)
  · intro passes
    refine ⟨fun format declared => ?_, fun limit declared => ?_, fun limit declared => ?_,
      fun limit declared => ?_, fun limit declared => ?_, fun texts declared => ?_,
      fun wanted declared => ?_⟩
    · refine Option.eq_none_iff_forall_ne_some.mpr fun reason refused => ?_
      exact passes _ _ (.format declared refused)
    · exact Nat.le_of_not_lt fun above => passes _ _ (.maxLength declared above)
    · exact Nat.le_of_not_lt fun below => passes _ _ (.minLength declared below)
    · exact Nat.le_of_not_lt fun above => passes _ _ (.maxGraphemes declared above)
    · exact Nat.le_of_not_lt fun below => passes _ _ (.minGraphemes declared below)
    · exact Decidable.not_not.mp fun other => passes _ _ (.allowed declared other)
    · exact Decidable.not_not.mp fun other => passes _ _ (.constant declared other)

/-- What validation ends with, given what the checker of formats answered. -/
def outcome (schema : StringSchema) (path : String) (verdict : Verdict) :
    Value → Except ValidationError Value
  | .string text => schema.settle path text verdict
  | found => .error ⟨path, .notText found⟩

variable {path : String} {value result : Value} {error : ValidationError}

/-- A value that is no text violates the first check and no other. -/
theorem violates_iff_of_not_text (other : ∀ text, value ≠ .string text) {check : Check}
    {violation : Violation} :
    schema.Violates verdict value check violation ↔
      check = .isText ∧ violation = .notText value := by
  constructor
  · intro violates
    cases violates with
    | isText => exact ⟨rfl, rfl⟩
    | _ => exact absurd rfl (other _)
  · rintro ⟨rfl, rfl⟩
    exact .isText other

/-- A value that is no text fails for that alone. -/
theorem outcome_of_not_text (other : ∀ text, value ≠ .string text) :
    schema.outcome path verdict value = .error ⟨path, .notText value⟩ := by
  cases value with
  | string text => exact absurd rfl (other text)
  | _ => rfl

/-- A value is given back exactly if it is a text that conforms. -/
theorem outcome_eq_ok_iff : schema.outcome path verdict value = .ok result ↔
    result = value ∧ ∃ text, value = .string text ∧ schema.Conforms verdict text := by
  by_cases isText : ∃ text, value = .string text
  · obtain ⟨text, rfl⟩ := isText
    have passes : Check.all.findSome? (schema.violationOf? verdict text) = none ↔
        schema.Conforms verdict text := by
      rw [List.findSome?_eq_none_iff, conforms_iff]
      simp only [violationOf?_eq_none_iff]
      exact ⟨fun each check => each check check.mem_all, fun each check _ => each check⟩
    rw [outcome, settle_eq]
    cases found : Check.all.findSome? (schema.violationOf? verdict text) with
    | none =>
      constructor
      · intro given
        exact ⟨(Except.ok.inj given).symm, text, rfl, passes.mp found⟩
      · rintro ⟨rfl, -⟩
        rfl
    | some violation =>
      constructor
      · intro given
        cases given
      · rintro ⟨-, other, same, conforms⟩
        obtain rfl := Value.string.inj same
        rw [passes.mpr conforms] at found
        cases found
  · rw [outcome_of_not_text fun text same => isText ⟨text, same⟩]
    constructor
    · intro given
      cases given
    · rintro ⟨-, text, same, -⟩
      exact absurd ⟨text, same⟩ isText

/-- An error is that of the first check violated, at the path. -/
theorem outcome_eq_error_iff : schema.outcome path verdict value = .error error ↔
    error.path = path ∧ schema.FirstViolated verdict value error.violation := by
  by_cases isText : ∃ text, value = .string text
  · obtain ⟨text, rfl⟩ := isText
    have first (violation : Violation) :
        Check.all.findSome? (schema.violationOf? verdict text) = some violation ↔
          schema.FirstViolated verdict (.string text) violation := by
      rw [List.findSome?_eq_some_iff]
      simp only [violationOf?_eq_some_iff, violationOf?_eq_none_iff]
      rfl
    rw [outcome, settle_eq, ← first]
    cases Check.all.findSome? (schema.violationOf? verdict text) with
    | none =>
      constructor
      · intro given
        cases given
      · rintro ⟨-, found⟩
        cases found
    | some violation =>
      constructor
      · intro given
        obtain rfl := Except.error.inj given
        exact ⟨rfl, rfl⟩
      · rintro ⟨rfl, found⟩
        obtain rfl := Option.some.inj found
        rfl
  · have other : ∀ text, value ≠ .string text := fun text same => isText ⟨text, same⟩
    rw [outcome_of_not_text other, FirstViolated]
    simp only [violates_iff_of_not_text other]
    constructor
    · intro given
      obtain rfl := Except.error.inj given
      exact ⟨rfl, [], .isText, _, rfl, ⟨rfl, rfl⟩, List.forall_mem_nil _⟩
    · rintro ⟨rfl, -, -, -, -, ⟨-, found⟩, -⟩
      rw [← found]

end StringSchema

/-- How a string node decides about a value, whatever checker of formats it is given. The checker is
asked once about a text if the node declares a format, and never besides; with its answer all is
decided. The value is given back as it is exactly if it is a text of the declared format that keeps
every declared constraint. Otherwise the error is that of the first check violated, in the fixed
order of the checks, with the path, what was found and what is declared. Description, default and
known values are never looked at. -/
theorem values_fail_their_first_check {m : Type → Type} [Monad m] (node : Described StringSchema)
    (check : StringFormat → String → m Verdict) (value : Value) (path : String) :
    (∃ outcome : Verdict → Except ValidationError Value,
      (∀ format text, node.content.format = some format → value = .string text →
        node.content.validateWith check value path =
          check format text >>= fun verdict => pure (outcome verdict)) ∧
      ((∀ format text, node.content.format = some format → value ≠ .string text) →
        node.content.validateWith check value path = pure (outcome none)) ∧
      (∀ verdict result, outcome verdict = .ok result ↔
        result = value ∧ ∃ text, value = .string text ∧ node.content.Conforms verdict text) ∧
      ∀ verdict error, outcome verdict = .error error ↔
        error.path = path ∧ node.content.FirstViolated verdict value error.violation) ∧
    ∀ description standard known,
      let other : Described StringSchema := ⟨description, { node.content with
        constraints := { node.content.constraints with
          default := standard
          knownValues := known } }⟩
      other.content.validateWith check value path = node.content.validateWith check value path := by
  obtain ⟨described, schema⟩ := node
  refine ⟨⟨fun verdict => schema.outcome path verdict value, ?_, fun unasked => ?_,
    fun _ _ => StringSchema.outcome_eq_ok_iff, fun _ _ => StringSchema.outcome_eq_error_iff⟩,
    fun description standard known => ?_⟩
  · rintro format text declared rfl
    have asked : schema.format = some format := declared
    simp only [StringSchema.validateWith, asked]
    rfl
  · cases value with
    | string text =>
      have undeclared : schema.format = none :=
        Option.eq_none_iff_forall_ne_some.mpr fun format declared => unasked format text declared rfl
      simp only [StringSchema.validateWith, undeclared]
      rfl
    | _ => rfl
  · rfl

/-- A text of three bytes at most and five at least: one of four bytes is too long, which is found
before it is found to be too short. The checker counts how often it is asked. -/
theorem values_fail_their_first_check_contradictory :
    let short : Size := ⟨3, by decide, by decide⟩
    let long : Size := ⟨5, by decide, by decide⟩
    let bounds : StringConstraints := { maxLength := some short, minLength := some long }
    let node : Described StringSchema :=
      ⟨none, { format := some .handle, constraints := bounds }⟩
    let counting : StringFormat → String → StateM Nat Verdict := fun _ _ asked => (none, asked + 1)
    node.content.validateWith counting (.string "abcd") "$" 0 =
      (.error ⟨"$", .tooLong 4 short⟩, 1) := by
  intro short long bounds node counting
  obtain ⟨⟨outcome, asked, -, -, failed⟩, -⟩ :=
    values_fail_their_first_check node counting (.string "abcd") "$"
  have found : outcome none = .error ⟨"$", .tooLong 4 short⟩ := by
    refine (failed none _).mpr ⟨rfl, [.isText, .format], .maxLength, _, rfl,
      .maxLength rfl (by decide), ?_⟩
    intro other earlier passed violates
    cases violates with
    | isText other => exact other _ rfl
    | format declared refused => cases refused
    | _ => exact absurd earlier (by decide)
  rw [asked .handle "abcd" rfl rfl]
  exact congrArg (fun result => (result, 1)) found

end LexiconSchema
