import LexiconSchema.OrderedMap

/-!
# Entries and values of ordered maps

How look-ups go through entries that are put together from parts, where a new key
ends up, and what happens when every value of a map is changed and no key is. A
map whose values each equal their new value is, as a map, equal to the new one.
-/

namespace LexiconSchema

section
variable {κ α : Type} [DecidableEq κ]

/-- A look-up goes through the first part and then through the second. -/
theorem findEntry_append {key : κ} (front back : List (κ × α)) :
    findEntry key (front ++ back) = (findEntry key front).or (findEntry key back) := by
  induction front with
  | nil => rfl
  | cons entry rest inductionHypothesis =>
    by_cases same : entry.1 = key
    · simp [findEntry, same]
    · simp [findEntry, same, inductionHypothesis]

/-- Nothing is found exactly for the names that no entry has. -/
theorem findEntry_eq_none_iff {key : κ} {entries : List (κ × α)} :
    findEntry key entries = none ↔ key ∉ entries.map Prod.fst := by
  induction entries with
  | nil => simp [findEntry]
  | cons entry rest inductionHypothesis =>
    by_cases same : entry.1 = key
    · simp [findEntry, same]
    · simp only [findEntry, same, if_false, inductionHypothesis, List.map_cons, List.mem_cons,
        not_or]
      exact ⟨fun absent => ⟨fun equal => same equal.symm, absent⟩, And.right⟩

/-- Among distinct keys every entry is found under its own. -/
theorem findEntry_of_mem {key : κ} {value : α} {entries : List (κ × α)}
    (distinct : (entries.map Prod.fst).Nodup) (member : (key, value) ∈ entries) :
    findEntry key entries = some value := by
  induction entries with
  | nil => simp at member
  | cons entry rest inductionHypothesis =>
    obtain ⟨fresh, later⟩ := List.nodup_cons.mp distinct
    rcases List.mem_cons.mp member with rfl | member
    · simp [findEntry]
    · have different : entry.1 ≠ key := by
        intro same
        exact fresh (same ▸ List.mem_map.mpr ⟨(key, value), member, rfl⟩)
      simp [findEntry, different, inductionHypothesis later member]

/-- Changing the values changes what is found in the same way. -/
theorem findEntry_map {β : Type} {key : κ} (f : α → β) (entries : List (κ × α)) :
    findEntry key (entries.map fun entry => (entry.1, f entry.2)) =
      (findEntry key entries).map f := by
  induction entries with
  | nil => rfl
  | cons entry rest inductionHypothesis =>
    by_cases same : entry.1 = key
    · simp [findEntry, same]
    · simp [findEntry, same, inductionHypothesis]

/-- A new key goes to the end. -/
theorem putEntry_of_fresh {key : κ} {value : α} {entries : List (κ × α)}
    (fresh : key ∉ entries.map Prod.fst) :
    putEntry key value entries = entries ++ [(key, value)] := by
  induction entries with
  | nil => rfl
  | cons entry rest inductionHypothesis =>
    simp only [List.map_cons, List.mem_cons, not_or] at fresh
    simp [putEntry, Ne.symm fresh.1, inductionHypothesis fresh.2]

/-- After a key was set, every entry is the one set or an earlier one. -/
theorem mem_putEntry {key : κ} {value : α} {entry : κ × α} {entries : List (κ × α)}
    (member : entry ∈ putEntry key value entries) : entry = (key, value) ∨ entry ∈ entries := by
  induction entries with
  | nil => exact .inl (by simpa [putEntry] using member)
  | cons first rest inductionHypothesis =>
    by_cases same : first.1 = key
    · simp only [putEntry, same, if_true, List.mem_cons] at member ⊢
      rcases member with set | later
      · exact .inl set
      · exact .inr (.inr later)
    · simp only [putEntry, same, if_false, List.mem_cons] at member ⊢
      rcases member with here | later
      · exact .inr (.inl here)
      · rcases inductionHypothesis later with set | earlier
        · exact .inl set
        · exact .inr (.inr earlier)

/-- Setting a key and changing all values may be done in either order. -/
theorem putEntry_map {β : Type} {key : κ} {value : α} (f : α → β) (entries : List (κ × α)) :
    putEntry key (f value) (entries.map fun entry => (entry.1, f entry.2)) =
      (putEntry key value entries).map fun entry => (entry.1, f entry.2) := by
  induction entries with
  | nil => rfl
  | cons entry rest inductionHypothesis =>
    by_cases same : entry.1 = key
    · simp [putEntry, same]
    · simp [putEntry, same, inductionHypothesis]

end

namespace OrderedMap

variable {κ α β : Type}

/-- Maps with the same entries in the same order are one map. -/
theorem ext {left right : OrderedMap κ α} (same : left.entries = right.entries) : left = right := by
  cases left
  cases right
  cases same
  rfl

/-- The map with every value changed and all keys in their places. -/
def mapValues (f : α → β) (map : OrderedMap κ α) : OrderedMap κ β where
  entries := map.entries.map fun entry => (entry.1, f entry.2)
  distinct := by simpa [List.map_map, Function.comp_def] using map.distinct

/-- The values of a changed map are the changed values, in the same order. -/
@[simp] theorem values_mapValues (f : α → β) (map : OrderedMap κ α) :
    (map.mapValues f).values = map.values.map f := by
  simp [values, mapValues, List.map_map, Function.comp_def]

/-- Changing nothing changes nothing. -/
theorem mapValues_id (map : OrderedMap κ α) : map.mapValues id = map :=
  ext (by simp [mapValues])

variable [DecidableEq κ]

/-- Under every key a changed map has the changed value. -/
@[simp] theorem get?_mapValues (f : α → β) (map : OrderedMap κ α) (key : κ) :
    (map.mapValues f).get? key = (map.get? key).map f :=
  findEntry_map f map.entries

/-- Setting a key and changing all values may be done in either order. -/
theorem mapValues_insert (f : α → β) (map : OrderedMap κ α) (key : κ) (value : α) :
    (map.insert key value).mapValues f = (map.mapValues f).insert key (f value) :=
  ext (putEntry_map f map.entries).symm

/-- A map that is complete with the entries still to come is complete with one less
once the next of them was set. -/
theorem insert_next {finish sofar : OrderedMap κ α} {key : κ} {value : α} {rest : List (κ × α)}
    (complete : finish.entries = sofar.entries ++ (key, value) :: rest) :
    finish.entries = (sofar.insert key value).entries ++ rest := by
  have fresh : key ∉ sofar.entries.map Prod.fst := by
    have distinct := finish.distinct
    rw [complete, List.map_append, List.map_cons] at distinct
    intro present
    exact (List.nodup_append.mp distinct).2.2 _ present _ List.mem_cons_self rfl
  change finish.entries = putEntry key value sofar.entries ++ rest
  rw [putEntry_of_fresh fresh, complete, List.append_assoc]
  rfl

/-- A new key goes behind those before it. -/
theorem entries_insert {map : OrderedMap κ α} {key : κ} {value : α} (fresh : key ∉ map.keys) :
    (map.insert key value).entries = map.entries ++ [(key, value)] :=
  putEntry_of_fresh fresh

/-- An entry is what a look-up of its key finds. -/
theorem get?_of_mem {map : OrderedMap κ α} {key : κ} {value : α}
    (member : (key, value) ∈ map.entries) : map.get? key = some value :=
  findEntry_of_mem map.distinct member

/-- A key is present exactly when a look-up finds something. -/
theorem isSome_get?_iff {map : OrderedMap κ α} {key : κ} :
    (map.get? key).isSome ↔ key ∈ map.keys := by
  rw [Option.isSome_iff_ne_none, ne_eq, get?, findEntry_eq_none_iff, Decidable.not_not]
  rfl

/-- A map equals the one with changed values if every value equals its new one. -/
theorem mapValues_beq [BEq α] {f : α → α} (map : OrderedMap κ α)
    (same : ∀ value, (f value == value) = true) : (map.mapValues f == map) = true := by
  have entries : ∀ entry ∈ (map.mapValues f).entries,
      ((map.get? entry.1).any fun other => entry.2 == other) = true := by
    intro entry member
    obtain ⟨⟨key, value⟩, inside, rfl⟩ := List.mem_map.mp member
    simp [get?_of_mem inside, same]
  have sizes : (map.mapValues f).size = map.size := by simp [size, mapValues]
  change OrderedMap.same (map.mapValues f) map = true
  simp only [OrderedMap.same, sizes, BEq.rfl, Bool.true_and]
  exact List.all_eq_true.mpr entries

instance [BEq α] [ReflBEq α] : ReflBEq (OrderedMap κ α) where
  rfl {map} := by simpa [mapValues_id] using mapValues_beq (f := id) map fun _ => BEq.rfl

end OrderedMap

end LexiconSchema
