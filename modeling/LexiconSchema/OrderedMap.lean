/-!
# Maps that keep the order of insertion

A map is a list of entries with distinct keys. Setting a key that is present
changes its value and keeps its place; a new key goes to the end. Two maps are
equal as maps when they have the same entries in whatever order.

Main statements: what a look-up finds after a key was set, and that setting a
key leaves all other entries as they were.
-/

namespace LexiconSchema

/-- Sets a key in a list of entries. -/
def putEntry {κ α : Type} [DecidableEq κ] (key : κ) (value : α) : List (κ × α) → List (κ × α)
  | [] => [(key, value)]
  | entry :: rest =>
    if entry.1 = key then (key, value) :: rest else entry :: putEntry key value rest

/-- The value of a key in a list of entries. -/
def findEntry {κ α : Type} [DecidableEq κ] (key : κ) : List (κ × α) → Option α
  | [] => none
  | entry :: rest => if entry.1 = key then some entry.2 else findEntry key rest

section
variable {κ α : Type} [DecidableEq κ]

/-- The keys after a key was set: the same, or the same and the new one. -/
theorem mem_keys_putEntry {key other : κ} {value : α} {entries : List (κ × α)} :
    other ∈ (putEntry key value entries).map Prod.fst ↔
      other = key ∨ other ∈ entries.map Prod.fst := by
  induction entries with
  | nil => simp [putEntry]
  | cons entry rest inductionHypothesis =>
    by_cases same : entry.1 = key
    · simp [putEntry, same]
    · simp only [putEntry, same, if_false, List.map_cons, List.mem_cons, inductionHypothesis]
      constructor
      · rintro (first | set | later)
        · exact .inr (.inl first)
        · exact .inl set
        · exact .inr (.inr later)
      · rintro (set | first | later)
        · exact .inr (.inl set)
        · exact .inl first
        · exact .inr (.inr later)

/-- Setting a key keeps the keys distinct. -/
theorem nodup_putEntry {key : κ} {value : α} {entries : List (κ × α)}
    (distinct : (entries.map Prod.fst).Nodup) :
    ((putEntry key value entries).map Prod.fst).Nodup := by
  induction entries with
  | nil => simp [putEntry]
  | cons entry rest inductionHypothesis =>
    obtain ⟨fresh, later⟩ := List.nodup_cons.mp distinct
    by_cases same : entry.1 = key
    · simp only [putEntry, same, if_true, List.map_cons]
      exact List.nodup_cons.mpr ⟨same ▸ fresh, later⟩
    · simp only [putEntry, same, if_false, List.map_cons]
      refine List.nodup_cons.mpr ⟨fun present => ?_, inductionHypothesis later⟩
      rcases mem_keys_putEntry.mp present with equal | present
      · exact same equal
      · exact fresh present

/-- A key that was set is found with its value, any other as before. -/
theorem findEntry_putEntry {key other : κ} {value : α} {entries : List (κ × α)} :
    findEntry other (putEntry key value entries) =
      if key = other then some value else findEntry other entries := by
  induction entries with
  | nil => simp [putEntry, findEntry]
  | cons entry rest inductionHypothesis =>
    by_cases same : entry.1 = key
    · by_cases asked : key = other
      · simp [putEntry, findEntry, same, asked]
      · simp [putEntry, findEntry, same, asked]
    · by_cases here : entry.1 = other
      · subst here
        simp [putEntry, findEntry, same, Ne.symm same]
      · simp [putEntry, findEntry, same, here, inductionHypothesis]

/-- What is found stands among the entries. -/
theorem mem_of_findEntry {key : κ} {value : α} {entries : List (κ × α)}
    (found : findEntry key entries = some value) : (key, value) ∈ entries := by
  induction entries with
  | nil => simp [findEntry] at found
  | cons entry rest inductionHypothesis =>
    by_cases same : entry.1 = key
    · simp only [findEntry, same, if_true, Option.some.injEq] at found
      subst same found
      simp
    · simp only [findEntry, same, if_false] at found
      exact List.mem_cons_of_mem _ (inductionHypothesis found)

end

/-- A map with distinct keys in the order in which they were first set. -/
structure OrderedMap (κ α : Type) where
  entries : List (κ × α)
  distinct : (entries.map Prod.fst).Nodup

namespace OrderedMap

variable {κ α : Type}

/-- The map without entries. -/
def empty : OrderedMap κ α := ⟨[], List.nodup_nil⟩

instance : Inhabited (OrderedMap κ α) := ⟨empty⟩

/-- The keys in order. -/
def keys (map : OrderedMap κ α) : List κ := map.entries.map Prod.fst

/-- The values in the order of their keys. -/
def values (map : OrderedMap κ α) : List α := map.entries.map Prod.snd

/-- The number of entries. -/
def size (map : OrderedMap κ α) : Nat := map.entries.length

variable [DecidableEq κ]

/-- The value of a key. -/
def get? (map : OrderedMap κ α) (key : κ) : Option α := findEntry key map.entries

/-- Sets a key. -/
def insert (map : OrderedMap κ α) (key : κ) (value : α) : OrderedMap κ α :=
  ⟨putEntry key value map.entries, nodup_putEntry map.distinct⟩

/-- Whether a key is present. -/
def contains (map : OrderedMap κ α) (key : κ) : Bool := (map.get? key).isSome

/-- Equality as maps: as many entries, and each value equal to the other map's
value of that key. -/
def same [BEq α] (left right : OrderedMap κ α) : Bool :=
  left.size == right.size &&
    left.entries.all fun (key, value) => (right.get? key).any fun other => value == other

instance [BEq α] : BEq (OrderedMap κ α) := ⟨same⟩

/-- A key that was set is found with its value, any other as before. -/
theorem get?_insert (map : OrderedMap κ α) (key other : κ) (value : α) :
    (map.insert key value).get? other = if key = other then some value else map.get? other :=
  findEntry_putEntry

end OrderedMap

end LexiconSchema
