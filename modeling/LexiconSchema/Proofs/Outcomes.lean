/-!
# Outcomes of readings

Two computations that may fail run side by side when both fail, with errors that
belong together, or both succeed, with results that belong together. What is
composed in the same way from such computations runs side by side again, so a
reader is compared with another one step by step and not outcome by outcome.

A computation yields a property when its result has it, should there be one, and it blames
what has a property when its error does. It succeeds exactly under a condition when it does so
if the condition holds and fails if not, and then its result has a property as well. All this
is shown step by step, too: of two computations in sequence the conditions are taken together.
-/

namespace LexiconSchema

/-- Both fail or both succeed, and what they end with is related. -/
inductive SideBySide {ε δ α β : Type} (faults : ε → δ → Prop) (results : α → β → Prop) :
    Except ε α → Except δ β → Prop
  | error {left : ε} {right : δ} (related : faults left right) :
      SideBySide faults results (.error left) (.error right)
  | ok {left : α} {right : β} (related : results left right) :
      SideBySide faults results (.ok left) (.ok right)

namespace SideBySide

variable {ε δ α β γ κ : Type} {faults : ε → δ → Prop} {results : α → β → Prop}
  {later : γ → κ → Prop} {left : Except ε α} {right : Except δ β}

/-- Two computations in sequence: the second is compared only for related results
of the first. -/
theorem bind {next : α → Except ε γ} {other : β → Except δ κ}
    (first : SideBySide faults results left right)
    (second : ∀ a b, results a b → SideBySide faults later (next a) (other b)) :
    SideBySide faults later (left >>= next) (right >>= other) := by
  cases first with
  | error related => exact .error related
  | ok related => exact second _ _ related

/-- Results may be changed on both sides. -/
theorem map {f : α → γ} {g : β → κ} (first : SideBySide faults results left right)
    (second : ∀ a b, results a b → later (f a) (g b)) :
    SideBySide faults later (left.map f) (right.map g) := by
  cases first with
  | error related => exact .error related
  | ok related => exact .ok (second _ _ related)

/-- What is related after a change of results is related before it. -/
theorem of_map {f : α → γ} {g : β → κ} {earlier : α → β → Prop}
    (mapped : SideBySide faults later (left.map f) (right.map g))
    (unmapped : ∀ a b, later (f a) (g b) → earlier a b) :
    SideBySide faults earlier left right := by
  cases left with
  | error fault =>
    cases right with
    | error other =>
      cases mapped with
      | error related => exact .error related
    | ok result => cases mapped
  | ok result =>
    cases right with
    | error other => cases mapped
    | ok other =>
      cases mapped with
      | ok related => exact .ok (unmapped _ _ related)

/-- What is related is also related more loosely. -/
theorem mono {looser : α → β → Prop} (first : SideBySide faults results left right)
    (weaker : ∀ a b, results a b → looser a b) : SideBySide faults looser left right := by
  cases first with
  | error related => exact .error related
  | ok related => exact .ok (weaker _ _ related)

/-- Errors may be changed on both sides. -/
theorem mapError {others : γ → κ → Prop} {f : ε → γ} {g : δ → κ}
    (first : SideBySide faults results left right)
    (second : ∀ e d, faults e d → others (f e) (g d)) :
    SideBySide others results (left.mapError f) (right.mapError g) := by
  cases first with
  | error related => exact .error (second _ _ related)
  | ok related => exact .ok related

end SideBySide

/-- Two computations in sequence succeed if the first does and the second does with its
result. -/
theorem bind_eq_ok_iff {ε α β : Type} {first : Except ε α} {next : α → Except ε β} {result : β} :
    first >>= next = .ok result ↔ ∃ between, first = .ok between ∧ next between = .ok result := by
  constructor
  · intro given
    cases first with
    | error fault => cases given
    | ok between => exact ⟨between, rfl, given⟩
  · rintro ⟨between, rfl, given⟩
    exact given

/-- A computation succeeds as before when its errors are changed. -/
theorem mapError_eq_ok_iff {ε δ α : Type} {first : Except ε α} {f : ε → δ} {result : α} :
    first.mapError f = .ok result ↔ first = .ok result := by
  cases first with
  | error fault => exact iff_of_false (by rintro ⟨⟩) (by rintro ⟨⟩)
  | ok between =>
    exact ⟨fun same => congrArg _ (Except.ok.inj same), fun same => congrArg _ (Except.ok.inj same)⟩

/-- What the computation ends with, if it succeeds, has the property. -/
def Yields {ε α : Type} (property : α → Prop) (computation : Except ε α) : Prop :=
  ∀ result, computation = .ok result → property result

namespace Yields

variable {ε α β : Type} {property : α → Prop} {later : β → Prop}

/-- A result with the property is what is promised. -/
theorem ok {result : α} (held : property result) :
    Yields property (.ok result : Except ε α) := by
  rintro other same
  cases same
  exact held

/-- A failed computation has no result that could lack the property. -/
theorem error {fault : ε} : Yields property (.error fault : Except ε α) := by
  rintro other same
  cases same

/-- Of two computations in sequence the second decides, knowing what the first one
ended with. -/
theorem bind {first : Except ε α} {next : α → Except ε β}
    (second : ∀ result, first = .ok result → Yields later (next result)) :
    Yields later (first >>= next) := by
  cases first with
  | error fault => exact error
  | ok result => exact second result rfl

/-- A changed result has a property if the change gives it. -/
theorem map {first : Except ε α} {f : α → β}
    (held : Yields (fun result => later (f result)) first) : Yields later (first.map f) := by
  cases first with
  | error fault => exact error
  | ok result => exact ok (held result rfl)

/-- What errors are changed to does not matter. -/
theorem mapError {δ : Type} {first : Except ε α} {f : ε → δ} (held : Yields property first) :
    Yields property (first.mapError f) := by
  cases first with
  | error fault => exact error
  | ok result => exact ok (held result rfl)

end Yields

/-- What the computation fails with, if it fails, has the property. -/
def Blames {ε α : Type} (property : ε → Prop) (computation : Except ε α) : Prop :=
  ∀ fault, computation = .error fault → property fault

namespace Blames

variable {ε α β : Type} {property : ε → Prop}

/-- A result blames nothing. -/
theorem ok {result : α} : Blames property (.ok result : Except ε α) := by
  rintro fault same
  cases same

/-- An error with the property is what is promised. -/
theorem error {fault : ε} (held : property fault) :
    Blames property (.error fault : Except ε α) := by
  rintro other same
  cases same
  exact held

/-- Of two computations in sequence either may fail. -/
theorem bind {first : Except ε α} {next : α → Except ε β} (held : Blames property first)
    (second : ∀ result, first = .ok result → Blames property (next result)) :
    Blames property (first >>= next) := by
  cases first with
  | error fault => exact error (held fault rfl)
  | ok result => exact second result rfl

/-- What results are changed to does not matter. -/
theorem map {first : Except ε α} {f : α → β} (held : Blames property first) :
    Blames property (first.map f) := by
  cases first with
  | error fault => exact error (held fault rfl)
  | ok result => exact ok

/-- A changed error has a property if the change gives it. -/
theorem mapError {δ : Type} {first : Except δ α} {f : δ → ε}
    (held : ∀ fault, first = .error fault → property (f fault)) :
    Blames property (first.mapError f) := by
  cases first with
  | error fault => exact error (held fault rfl)
  | ok result => exact ok

end Blames

/-- The computation succeeds if the condition holds, with a result that has the property, and
fails if it does not hold. -/
inductive Exactly {ε α : Type} (condition : Prop) (property : α → Prop) : Except ε α → Prop
  | error {fault : ε} (fails : ¬ condition) : Exactly condition property (.error fault)
  | ok {result : α} (holds : condition) (has : property result) :
      Exactly condition property (.ok result)

namespace Exactly

variable {ε α β : Type} {condition other : Prop} {property : α → Prop} {later : β → Prop}
  {first : Except ε α}

/-- The computation has a result exactly if the condition holds. -/
theorem exists_ok_iff (decided : Exactly condition property first) :
    (∃ result, first = .ok result) ↔ condition := by
  cases decided with
  | error fails =>
    constructor
    · rintro ⟨result, impossible⟩
      cases impossible
    · exact fun holds => absurd holds fails
  | ok holds has => exact ⟨fun _ => holds, fun _ => ⟨_, rfl⟩⟩

/-- A result shows that the condition holds, and it has the property. -/
theorem of_ok (decided : Exactly condition property first) {result : α}
    (done : first = .ok result) : condition ∧ property result := by
  subst done
  cases decided with
  | ok holds has => exact ⟨holds, has⟩

/-- What always succeeds has no condition. -/
theorem pure {result : α} (has : property result) :
    Exactly True property (.ok result : Except ε α) := .ok trivial has

/-- What is not there is refused. -/
theorem of_none {found : Option α} {fault : ε} (absent : found = none) :
    Exactly (∃ result, found = some result) (fun result => found = some result)
      (.error fault) := by
  refine .error ?_
  rintro ⟨result, present⟩
  rw [absent] at present
  cases present

/-- The same condition may be put differently, and a weaker property be kept. -/
theorem imp {weaker : α → Prop} (decided : Exactly condition property first)
    (same : condition ↔ other) (weaken : ∀ result, property result → weaker result) :
    Exactly other weaker first := by
  cases decided with
  | error fails => exact .error fun holds => fails (same.mpr holds)
  | ok holds has => exact .ok (same.mp holds) (weaken _ has)

/-- A result is known to be there because the condition holds. -/
theorem known (decided : Exactly condition property first) :
    Exactly condition (fun result => condition ∧ property result) first := by
  cases decided with
  | error fails => exact .error fails
  | ok holds has => exact .ok holds ⟨holds, has⟩

/-- Of two computations in sequence both conditions must hold. That of the second may not
depend on the first one's result, its property may. -/
theorem bind {next : α → Except ε β} (decided : Exactly condition property first)
    (second : ∀ result, property result → Exactly other later (next result)) :
    Exactly (condition ∧ other) later (first >>= next) := by
  cases decided with
  | error fails => exact .error fun both => fails both.1
  | @ok result holds has =>
    change Exactly _ _ (next result)
    exact (second result has).imp ⟨fun held => ⟨holds, held⟩, And.right⟩ fun _ has => has

/-- Both conditions together are what the sequence as a whole asks for. -/
theorem bind_iff {whole : Prop} {next : α → Except ε β}
    (decided : Exactly condition property first)
    (second : ∀ result, property result → Exactly other later (next result))
    (together : condition ∧ other ↔ whole) : Exactly whole later (first >>= next) :=
  (decided.bind second).imp together fun _ has => has

/-- A result may be changed under the same condition. -/
theorem map {f : α → β} (decided : Exactly condition property first)
    (second : ∀ result, property result → later (f result)) :
    Exactly condition later (first.map f) := by
  cases decided with
  | error fails => exact .error fails
  | ok holds has => exact .ok holds (second _ has)

/-- A result that is there is not replaced. -/
theorem map_getD (decided : Exactly condition property first) {standard : α} :
    Exactly condition property (first.map some >>= fun found => .ok (found.getD standard)) := by
  cases decided with
  | error fails => exact .error fails
  | ok holds has => exact .ok holds has

/-- The error may be told otherwise: when it occurs stays the same. -/
theorem mapError {δ : Type} {f : ε → δ} (decided : Exactly condition property first) :
    Exactly condition property (first.mapError f) := by
  cases decided with
  | error fails => exact .error fails
  | ok holds has => exact .ok holds has

end Exactly

end LexiconSchema
