import LexiconSchema.Node.Render
import LexiconSchema.Proofs.WrittenObjects
import Mathlib.Data.List.Forall2
import Mathlib.Data.List.Zip

/-!
# Values up to the order of their entries

Two values are alike when they differ in nothing but the order in which their objects, at
whatever depth, give their entries. An object is then what its look-ups say: the same names
are found in both, and alike values under each of them. Numbers are compared by a relation
that is left open. With identity the values are one value written in another order; with
equality, which compares doubles as numbers, they are equal values.

Being alike is an equivalence if the relation of the numbers is, and for objects that are put
together from parts it comes down to the parts.

Main statements: `alike_object_iff`, `Value.Alike.equivalence` and, for parts,
`alike_entryOf_append_iff`.
-/

namespace LexiconSchema.Json

/-- Two values differ in the order of entries only, their numbers being related. -/
inductive Value.Alike (numbers : Number → Number → Prop) : Value → Value → Prop
  | null : Alike numbers .null .null
  | bool (held : Bool) : Alike numbers (.bool held) (.bool held)
  | number {left right : Number} (related : numbers left right) :
      Alike numbers (.number left) (.number right)
  | string (held : String) : Alike numbers (.string held) (.string held)
  | array {left right : List Value} (lengths : left.length = right.length)
      (each : ∀ value other, (value, other) ∈ left.zip right → Alike numbers value other) :
      Alike numbers (.array left) (.array right)
  | object {left right : List (String × Value)}
      (names : ∀ name, name ∈ left.map Prod.fst ↔ name ∈ right.map Prod.fst)
      (each : ∀ name value other, findEntry name left = some value →
        findEntry name right = some other → Alike numbers value other) :
      Alike numbers (.object left) (.object right)

/-- Under every name alike values are found, or nothing. -/
def AlikeEntries (numbers : Number → Number → Prop) (left right : List (String × Value)) : Prop :=
  ∀ name, Option.Rel (Value.Alike numbers) (findEntry name left) (findEntry name right)

/-- Numbers are equal as numbers: of one class and, as doubles, without regard to the sign of
zero. -/
def Number.Equal (left right : Number) : Prop := (left == right) = true

variable {numbers : Number → Number → Prop}

/-! What may be absent. -/

/-- What is there on both sides has to be related. -/
theorem rel_some_iff {α β : Type} {related : α → β → Prop} {left : α} {right : β} :
    Option.Rel related (some left) (some right) ↔ related left right := by
  constructor
  · rintro ⟨held⟩
    exact held
  · exact .some

/-- Changing what is there changes what is to be related. -/
theorem rel_map_iff {α β γ δ : Type} {related : γ → δ → Prop} {f : α → γ} {g : β → δ}
    {left : Option α} {right : Option β} :
    Option.Rel related (left.map f) (right.map g) ↔
      Option.Rel (fun value other => related (f value) (g other)) left right := by
  cases left with
  | none =>
    cases right with
    | none => exact iff_of_true .none .none
    | some other => constructor <;> rintro ⟨⟩
  | some value =>
    cases right with
    | none => constructor <;> rintro ⟨⟩
    | some other => rw [Option.map_some, Option.map_some, rel_some_iff, rel_some_iff]

/-- What is related to nothing is nothing. -/
theorem rel_none_iff {α β : Type} {related : α → β → Prop} {left : Option α} :
    Option.Rel related left (none : Option β) ↔ left = none := by
  constructor
  · rintro ⟨⟩
    rfl
  · rintro rfl
    exact .none

/-- Related things are both there or both absent. -/
theorem isSome_of_rel {α β : Type} {related : α → β → Prop} {left : Option α} {right : Option β}
    (alike : Option.Rel related left right) : left.isSome = right.isSome := by
  cases alike <;> rfl

/-- What is there on one side has what it is related to on the other. -/
theorem some_of_rel {α β : Type} {related : α → β → Prop} {left : Option α} {right : Option β}
    (alike : Option.Rel related left right) {value : α} (found : left = some value) :
    ∃ other, right = some other ∧ related value other := by
  subst found
  cases alike with
  | some held => exact ⟨_, rfl, held⟩

/-- What is there on the right is there on the left, too. -/
theorem some_of_rel_right {α β : Type} {related : α → β → Prop} {left : Option α}
    {right : Option β} (alike : Option.Rel related left right) {other : β}
    (found : right = some other) : ∃ value, left = some value ∧ related value other := by
  subst found
  cases alike with
  | some held => exact ⟨_, rfl, held⟩

/-- What is there on both sides may be related otherwise. -/
theorem rel_imp {α β : Type} {related others : α → β → Prop} {left : Option α} {right : Option β}
    (alike : Option.Rel related left right)
    (also : ∀ value other, left = some value → right = some other → others value other) :
    Option.Rel others left right := by
  cases alike with
  | none => exact .none
  | some held => exact .some (also _ _ rfl rfl)

/-- What gives the same for related things gives the same where both may be absent. -/
theorem bind_eq_of_rel {α β γ : Type} {related : α → β → Prop} {f : α → Option γ}
    {g : β → Option γ} {left : Option α} {right : Option β} (alike : Option.Rel related left right)
    (same : ∀ value other, related value other → f value = g other) :
    left.bind f = right.bind g := by
  cases alike with
  | none => rfl
  | some held => exact same _ _ held

/-! Values by their sort. -/

/-- Truth values are alike only if they are the same. -/
@[simp] theorem alike_bool_iff {left right : Bool} :
    (Value.bool left).Alike numbers (.bool right) ↔ left = right := by
  constructor
  · rintro ⟨⟩
    rfl
  · rintro rfl
    exact .bool left

/-- Texts are alike only if they are the same. -/
@[simp] theorem alike_string_iff {left right : String} :
    (Value.string left).Alike numbers (.string right) ↔ left = right := by
  constructor
  · rintro ⟨⟩
    rfl
  · rintro rfl
    exact .string left

/-- Numbers are alike only as they are compared. -/
@[simp] theorem alike_number_iff {left right : Number} :
    (Value.number left).Alike numbers (.number right) ↔ numbers left right := by
  constructor
  · rintro ⟨⟩
    assumption
  · exact .number

/-- Lists are alike item by item. -/
theorem alike_array_iff {left right : List Value} :
    (Value.array left).Alike numbers (.array right) ↔
      List.Forall₂ (Value.Alike numbers) left right := by
  rw [List.forall₂_iff_zip]
  constructor
  · intro alike
    cases alike with
    | array lengths each => exact ⟨lengths, each _ _⟩
  · exact fun ⟨lengths, each⟩ => .array lengths fun _ _ => each

/-- Objects are alike name by name. -/
theorem alike_object_iff {left right : List (String × Value)} :
    (Value.object left).Alike numbers (.object right) ↔ AlikeEntries numbers left right := by
  constructor
  · intro alike name
    cases alike with
    | object names each =>
      cases found : findEntry name left with
      | none =>
        have absent : findEntry name right = none := by
          rw [findEntry_eq_none_iff] at found ⊢
          exact fun present => found ((names name).mpr present)
        rw [absent]
        exact .none
      | some value =>
        cases other : findEntry name right with
        | none =>
          rw [findEntry_eq_none_iff] at other
          exact absurd ((names name).mp (List.mem_map_of_mem (mem_of_findEntry found))) other
        | some held => exact .some (each name value held found other)
  · intro alike
    refine .object (fun name => not_iff_not.mp ?_) fun name value other found held => ?_
    · rw [← findEntry_eq_none_iff, ← findEntry_eq_none_iff]
      have under := alike name
      constructor
      · intro absent
        rw [absent] at under
        cases held : findEntry name right with
        | none => rfl
        | some value =>
          rw [held] at under
          cases under
      · intro absent
        rw [absent] at under
        exact rel_none_iff.mp under
    · have under := alike name
      rwa [found, held, rel_some_iff] at under

namespace Value.Alike

/-- What is alike to an object is an object with alike entries. -/
theorem of_object {left : List (String × Value)} {other : Value}
    (alike : (Value.object left).Alike numbers other) :
    ∃ right, other = .object right ∧ AlikeEntries numbers left right := by
  cases alike with
  | object names each => exact ⟨_, rfl, alike_object_iff.mp (.object names each)⟩

/-- What is alike to a list is a list of alike items. -/
theorem of_array {left : List Value} {other : Value}
    (alike : (Value.array left).Alike numbers other) :
    ∃ right, other = .array right ∧ List.Forall₂ (Value.Alike numbers) left right := by
  cases alike with
  | array lengths each => exact ⟨_, rfl, alike_array_iff.mp (.array lengths each)⟩

/-- Values that are alike stay so when the numbers are compared more loosely. -/
theorem mono {looser : Number → Number → Prop} {value other : Value}
    (wider : ∀ left right, numbers left right → looser left right)
    (alike : value.Alike numbers other) : value.Alike looser other := by
  induction alike with
  | null => exact .null
  | bool held => exact .bool held
  | number related => exact .number (wider _ _ related)
  | string held => exact .string held
  | array lengths _ inductionHypothesis => exact .array lengths inductionHypothesis
  | object names _ inductionHypothesis => exact .object names inductionHypothesis

/-- Every value is alike to itself. The induction is on its size. -/
theorem refl (same : ∀ number, numbers number number) (value : Value) :
    value.Alike numbers value := by
  cases value with
  | null => exact .null
  | bool held => exact .bool held
  | number held => exact .number (same held)
  | string held => exact .string held
  | array items =>
    refine alike_array_iff.mpr (List.forall₂_same.mpr fun item member => ?_)
    have smaller := List.sizeOf_lt_of_mem member
    exact refl same item
  | object entries =>
    refine alike_object_iff.mpr fun name => ?_
    cases found : findEntry name entries with
    | none => exact .none
    | some held =>
      have smaller := sizeOf_member (mem_of_findEntry found)
      exact .some (refl same held)
termination_by sizeOf value
decreasing_by
  · simp only [Value.array.sizeOf_spec]
    omega
  · assumption

/-- Values are alike in either direction if numbers are. -/
theorem symm (swap : ∀ left right, numbers left right → numbers right left) {value other : Value}
    (alike : value.Alike numbers other) : other.Alike numbers value := by
  induction alike with
  | null => exact .null
  | bool held => exact .bool held
  | number related => exact .number (swap _ _ related)
  | string held => exact .string held
  | array lengths _ inductionHypothesis =>
    refine .array lengths.symm fun value other member => inductionHypothesis other value ?_
    rw [← List.zip_swap]
    exact List.mem_map_of_mem (f := Prod.swap) member
  | object names _ inductionHypothesis =>
    exact .object (fun name => (names name).symm) fun name value other found held =>
      inductionHypothesis name other value held found

/-- Values that are alike to the same value are alike if it is so for numbers. -/
theorem trans (through : ∀ {left between right}, numbers left between → numbers between right →
    numbers left right) {value between other : Value} (first : value.Alike numbers between)
    (second : between.Alike numbers other) : value.Alike numbers other := by
  induction first generalizing other with
  | null => exact second
  | bool held => exact second
  | string held => exact second
  | number related =>
    cases second with
    | number later => exact .number (through related later)
  | @array left middle lengths _ inductionHypothesis =>
    cases second with
    | @array _ right others each =>
      refine .array (lengths.trans others) fun value other member => ?_
      obtain ⟨place, inside, found⟩ := List.getElem_of_mem member
      rw [List.getElem_zip, Prod.mk.injEq] at found
      obtain ⟨rfl, rfl⟩ := found
      rw [List.length_zip] at inside
      have before : place < (left.zip middle).length := by rw [List.length_zip]; omega
      have behind : place < (middle.zip right).length := by rw [List.length_zip]; omega
      have inner := each _ _ (List.mem_of_getElem (h := behind) List.getElem_zip)
      exact inductionHypothesis _ _ (List.mem_of_getElem (h := before) List.getElem_zip) inner
  | @object left middle names _ inductionHypothesis =>
    cases second with
    | @object _ right others each =>
      refine .object (fun name => (names name).trans (others name))
        fun name value other found held => ?_
      have inside := (names name).mp (List.mem_map_of_mem (mem_of_findEntry found))
      cases between : findEntry name middle with
      | none => exact absurd inside (findEntry_eq_none_iff.mp between)
      | some shared =>
        exact inductionHypothesis name value shared found between
          (each name shared other between held)

/-- Being alike is an equivalence if the relation of the numbers is. -/
theorem equivalence (numbersAlike : Equivalence numbers) : Equivalence (Value.Alike numbers) where
  refl := refl numbersAlike.refl
  symm alike := alike.symm fun _ _ => numbersAlike.symm
  trans first second := by
    refine trans ?_ first second
    exact numbersAlike.trans

end Value.Alike

/-! What is found in objects that are alike. -/

namespace AlikeEntries

variable {left right : List (String × Value)}

/-- What counts as present is alike, too: `null` is alike to nothing but itself. -/
theorem present? (alike : AlikeEntries numbers left right) (name : String) :
    Option.Rel (Value.Alike numbers) (Value.present? name left) (Value.present? name right) := by
  have under := alike name
  unfold Value.present?
  cases found : findEntry name left with
  | none =>
    rw [found] at under
    cases held : findEntry name right with
    | none => exact .none
    | some other =>
      rw [held] at under
      cases under
  | some value =>
    cases held : findEntry name right with
    | none =>
      rw [found, held] at under
      cases under
    | some other =>
      rw [found, held, rel_some_iff] at under
      have nulls : value.isNull = other.isNull := by cases under <;> rfl
      rw [Option.filter_some, Option.filter_some, nulls]
      split
      · exact .some under
      · exact .none

/-- Entries are alike to themselves if numbers are. -/
theorem refl (same : ∀ number, numbers number number) (entries : List (String × Value)) :
    AlikeEntries numbers entries entries :=
  alike_object_iff.mp (.refl same _)

/-- Entries in another order are alike, as long as every name is given once. -/
theorem of_perm (same : ∀ number, numbers number number) (moved : left.Perm right)
    (distinct : (left.map Prod.fst).Nodup) : AlikeEntries numbers left right := by
  intro name
  have others : (right.map Prod.fst).Nodup := (moved.map Prod.fst).nodup_iff.mp distinct
  have looked : findEntry name left = findEntry name right := by
    refine Option.ext fun value => ?_
    constructor
    · exact fun found => findEntry_of_mem others (moved.mem_iff.mp (mem_of_findEntry found))
    · exact fun found => findEntry_of_mem distinct (moved.mem_iff.mpr (mem_of_findEntry found))
  rw [looked]
  cases findEntry name right with
  | none => exact .none
  | some value => exact .some (.refl same value)

end AlikeEntries

/-! Entries in parts. -/

section
variable {name : String} {left right : List (String × Value)}
  (fresh : findEntry name left = none) (other : findEntry name right = none)
include fresh other

/-- An entry of a name of its own may be compared by itself, whether it is there or not. -/
theorem alike_optional_append_iff {value held : Option Value} :
    AlikeEntries numbers (entryOf name id value ++ left) (entryOf name id held ++ right) ↔
      Option.Rel (Value.Alike numbers) value held ∧ AlikeEntries numbers left right := by
  have under (asked : String) {rest : List (String × Value)} (written : Option Value)
      (apart : findEntry name rest = none) : findEntry asked (entryOf name id written ++ rest) =
        if name = asked then written else findEntry asked rest := by
    rw [findEntry_append, findEntry_entryOf, Option.map_id]
    by_cases same : name = asked
    · rw [if_pos same, if_pos same, ← same, apart, Option.or_none]
      rfl
    · rw [if_neg same, if_neg same, Option.none_or]
  constructor
  · intro alike
    constructor
    · have here := alike name
      rwa [under _ _ fresh, under _ _ other, if_pos rfl, if_pos rfl] at here
    · intro asked
      by_cases same : name = asked
      · rw [← same, fresh, other]
        exact .none
      · have there := alike asked
        rwa [under _ _ fresh, under _ _ other, if_neg same, if_neg same] at there
  · rintro ⟨here, rest⟩ asked
    rw [under _ _ fresh, under _ _ other]
    split
    · exact here
    · exact rest asked

/-- A field of a name of its own may be compared by itself. -/
theorem alike_entryOf_append_iff {α : Type} {write : α → Value} {value held : Option α} :
    AlikeEntries numbers (entryOf name write value ++ left) (entryOf name write held ++ right) ↔
      Option.Rel (Value.Alike numbers) (value.map write) (held.map write) ∧
        AlikeEntries numbers left right := by
  have single (part : Option α) : entryOf name write part = entryOf name id (part.map write) := by
    cases part <;> rfl
  rw [single, single, alike_optional_append_iff fresh other]

/-- The first entry may be compared by itself if its name does not come again. -/
theorem alike_cons_iff {value held : Value} :
    AlikeEntries numbers ((name, value) :: left) ((name, held) :: right) ↔
      value.Alike numbers held ∧ AlikeEntries numbers left right :=
  (alike_optional_append_iff fresh other).trans (and_congr_left' rel_some_iff)

end

/-- No entries are alike to no entries. -/
theorem alikeEntries_nil : AlikeEntries numbers [] [] := fun _ => .none

/-- Last entries that may be absent are alike exactly if their values are, or both are absent. -/
theorem alike_entryOf_iff {α : Type} {name : String} {write : α → Value} {value held : Option α} :
    AlikeEntries numbers (entryOf name write value) (entryOf name write held) ↔
      Option.Rel (Value.Alike numbers) (value.map write) (held.map write) := by
  have absent : findEntry name ([] : List (String × Value)) = none := rfl
  rw [← List.append_nil (entryOf name write value), ← List.append_nil (entryOf name write held),
    alike_entryOf_append_iff absent absent]
  exact and_iff_left alikeEntries_nil

end LexiconSchema.Json
