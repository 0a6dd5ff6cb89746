import LexiconSchema.Constraints
import LexiconSchema.Node.Leaf
import LexiconSchema.Proofs.OrderedMaps

/-!
# Fields are read back as they were written

A codec is lawful when it decodes what it encoded and never encodes anything as
`null`, which a reader would take for absence. A list of optional fields rebuilds a
record when each field, put on top of those before it, changes nothing but itself.
Then the entries written for a record are read back as that record, whatever other
entries stand before them.

Main statement: `Block.ofEntries_behind`, which all blocks of constraints satisfy.
-/

namespace LexiconSchema.Json

variable {α σ : Type}

/-- What was encoded is decoded again, and it is never `null`. -/
structure Codec.Lawful (codec : Codec α) : Prop where
  decode_encode : ∀ value, codec.decode (codec.encode value) = .ok value
  encode_present : ∀ value, (codec.encode value).isNull = false

namespace Codec

/-- Integers of a range: sizes, counts, durations and integers of either sign. -/
theorem ranged_lawful {least bound : Int} {wanted : Wanted} {below : -0x8000000000000000 ≤ least}
    {above : bound ≤ 0x10000000000000000} : (ranged least bound wanted below above).Lawful where
  decode_encode value := by simp [ranged, Ranged.widen, Ranged.ofInt?_value]
  encode_present _ := rfl

/-- Numbers keep their class. -/
theorem number_lawful : number.Lawful := ⟨fun _ => rfl, fun _ => rfl⟩

/-- Texts are decoded again as they were encoded. -/
theorem text_lawful : text.Lawful := ⟨fun _ => rfl, fun _ => rfl⟩

/-- Truth values are decoded again as they were encoded. -/
theorem flag_lawful : flag.Lawful := ⟨fun _ => rfl, fun _ => rfl⟩

/-- Formats are encoded by their names, which are read again. -/
theorem format_lawful : format.Lawful where
  decode_encode value := by
    simp [format, namedFormat, StringFormat.ofName?_name, Value.isNull]
  encode_present _ := rfl

/-- Items that are decoded one by one from what was encoded one by one. -/
theorem mapM_decode {ε β : Type} {decode : β → Except ε α} {encode : α → β}
    (each : ∀ item, decode (encode item) = .ok item) (items : List α) :
    (items.map encode).mapM decode = .ok items := by
  induction items with
  | nil => rfl
  | cons item rest inductionHypothesis =>
    simp only [List.map_cons, List.mapM_cons, each, inductionHypothesis]
    rfl

/-- A list is as lawful as its items; an empty one is not `null`. -/
theorem list_lawful {item : Codec α} (lawful : item.Lawful) : item.list.Lawful where
  decode_encode items := mapM_decode lawful.decode_encode items
  encode_present _ := rfl

end Codec

namespace FieldCodec

/-- Reading goes through the first entries and then through the others. -/
theorem readEntries_append (fields : List (FieldCodec σ)) (start : σ)
    (front back : List (String × Value)) :
    readEntries fields start (front ++ back) =
      (readEntries fields start front >>= fun record => readEntries fields record back) :=
  List.foldlM_append

/-- Entries whose names are no field's are passed over. -/
theorem readEntries_foreign {fields : List (FieldCodec σ)} (start : σ)
    {entries : List (String × Value)}
    (foreign : ∀ entry ∈ entries, entry.1 ∉ fields.map (·.name)) :
    readEntries fields start entries = .ok start := by
  induction entries with
  | nil => rfl
  | cons entry rest inductionHypothesis =>
    have unknown : fields.find? (·.name == entry.1) = none := by
      rw [List.find?_eq_none]
      intro field member same
      apply foreign entry List.mem_cons_self
      exact List.mem_map.mpr ⟨field, member, eq_of_beq same⟩
    have later := inductionHypothesis fun other member =>
      foreign other (List.mem_cons_of_mem _ member)
    change (putNamed fields start entry >>= fun record =>
      readEntries fields record rest) = .ok start
    rw [putNamed, unknown]
    exact later

/-- Every entry written for a record has a field's name. -/
theorem name_of_mem_entries {fields : List (FieldCodec σ)} {record : σ}
    {entry : String × Value} (member : entry ∈ entries fields record) :
    entry.1 ∈ fields.map (·.name) := by
  obtain ⟨field, inside, written⟩ := List.mem_filterMap.mp member
  obtain ⟨value, -, rfl⟩ := Option.map_eq_some_iff.mp written
  exact List.mem_map.mpr ⟨field, inside, rfl⟩

/-- No other name is found among the entries written for a record. -/
theorem findEntry_entries {fields : List (FieldCodec σ)} (record : σ) {name : String}
    (absent : name ∉ fields.map (·.name)) : findEntry name (entries fields record) = none := by
  rw [findEntry_eq_none_iff]
  intro present
  obtain ⟨entry, member, rfl⟩ := List.mem_map.mp present
  exact absent (name_of_mem_entries member)

/-- Among distinct names a field is found by its own. -/
theorem find?_of_mem {fields : List (FieldCodec σ)} {field : FieldCodec σ}
    (distinct : (fields.map (·.name)).Nodup) (member : field ∈ fields) :
    fields.find? (·.name == field.name) = some field := by
  induction fields with
  | nil => simp at member
  | cons first rest inductionHypothesis =>
    obtain ⟨fresh, later⟩ := List.nodup_cons.mp distinct
    rcases List.mem_cons.mp member with rfl | member
    · simp
    · have different : first.name ≠ field.name := by
        intro same
        exact fresh (List.mem_map.mpr ⟨field, member, same.symm⟩)
      simp [different, inductionHypothesis later member]

/-- Optional fields rebuild a record: put one after the other, they lead from one
record to another, and as long as a field has not been put it is absent. -/
inductive Rebuilds {σ : Type} (record : σ) : List (FieldCodec σ) → σ → σ → Prop
  | done (sofar : σ) : Rebuilds record [] sofar sofar
  | field {α : Type} {sofar finish : σ} {fields : List (FieldCodec σ)} {name : String}
      {codec : Codec α}
      {get : σ → Option α} {set : Option α → σ → σ} (lawful : codec.Lawful)
      (absent : set none sofar = sofar)
      (rest : Rebuilds record fields (set (get record) sofar) finish) :
      Rebuilds record (.optional name codec get set :: fields) sofar finish

/-- The entry of an optional field puts the field; without an entry it stays absent. -/
theorem readEntries_optional {all : List (FieldCodec σ)} {name : String} {codec : Codec α}
    {get : σ → Option α} {set : Option α → σ → σ} {record sofar : σ}
    (known : all.find? (·.name == name) = some (.optional name codec get set))
    (lawful : codec.Lawful) (absent : set none sofar = sofar) :
    readEntries all sofar (entries [.optional name codec get set] record) =
      .ok (set (get record) sofar) := by
  cases held : get record with
  | none =>
    simp [entries, optional, held, absent, readEntries, pure, Except.pure]
  | some value =>
    have present := lawful.encode_present value
    have decoded := lawful.decode_encode value
    simp [entries, optional, held, readEntries, putNamed, known, present, decoded, Except.map]

/-- The entries written for a record are read back as what the fields rebuild. The
induction is on the fields still to be put; the reader knows all of them throughout. -/
theorem readEntries_of_rebuilds {all fields : List (FieldCodec σ)} {record start finish : σ}
    (distinct : (all.map (·.name)).Nodup) (inside : ∀ field ∈ fields, field ∈ all)
    (rebuilds : Rebuilds record fields start finish) :
    readEntries all start (entries fields record) = .ok finish := by
  induction rebuilds with
  | done sofar => rfl
  | @field _ sofar finish fields name codec get set lawful absent rest inductionHypothesis =>
    have known : all.find? (·.name == name) = some (.optional name codec get set) :=
      find?_of_mem distinct (inside _ List.mem_cons_self)
    have split : entries (.optional name codec get set :: fields) record =
        entries [.optional name codec get set] record ++ entries fields record := by
      simp only [entries, ← List.filterMap_append, List.singleton_append]
    rw [split, readEntries_append, readEntries_optional known lawful absent]
    exact inductionHypothesis fun field later => inside field (List.mem_cons_of_mem _ later)

/-- Between entries whose names are no field's, a record is read back as it was
written. -/
theorem readEntries_between {fields : List (FieldCodec σ)} {record start : σ}
    {front back : List (String × Value)} (distinct : (fields.map (·.name)).Nodup)
    (rebuilds : Rebuilds record fields start record)
    (before : ∀ entry ∈ front, entry.1 ∉ fields.map (·.name))
    (after : ∀ entry ∈ back, entry.1 ∉ fields.map (·.name)) :
    readEntries fields start (front ++ (entries fields record ++ back)) = .ok record := by
  rw [readEntries_append, readEntries_foreign start before]
  change readEntries fields start (entries fields record ++ back) = .ok record
  rw [readEntries_append, readEntries_of_rebuilds distinct (fun _ member => member) rebuilds]
  exact readEntries_foreign record after

end FieldCodec

namespace Block

/-- The names of a block's fields are distinct, and from the empty record its fields
rebuild any other. -/
structure Lawful (block : Block σ) : Prop where
  distinct : (block.fields.map (·.name)).Nodup
  rebuilds : ∀ record, FieldCodec.Rebuilds record block.fields block.empty record

/-- Behind entries with other names a record is read back as it was written. -/
theorem ofEntries_behind {block : Block σ} (lawful : block.Lawful) (record : σ)
    {front : List (String × Value)}
    (foreign : ∀ entry ∈ front, entry.1 ∉ block.fields.map (·.name)) :
    block.ofEntries (front ++ block.entries record) = .ok record := by
  have read := FieldCodec.readEntries_between lawful.distinct (lawful.rebuilds record) foreign
    (List.forall_mem_nil _)
  rwa [List.append_nil] at read

end Block

end LexiconSchema.Json

namespace LexiconSchema

open Json Codec FieldCodec.Rebuilds

/-! The blocks of constraints. -/

/-- The fields of the constraints of strings are distinct and rebuild them. -/
theorem StringConstraints.block_lawful : StringConstraints.block.Lawful where
  distinct := by decide
  rebuilds record := field ranged_lawful rfl <| field ranged_lawful rfl <| field ranged_lawful rfl <|
    field ranged_lawful rfl <| field (list_lawful text_lawful) rfl <| field text_lawful rfl <|
    field text_lawful rfl <| field (list_lawful text_lawful) rfl <| done record

/-- The fields of the constraints of integers are distinct and rebuild them. -/
theorem IntegerConstraints.block_lawful : IntegerConstraints.block.Lawful where
  distinct := by decide
  rebuilds record := field ranged_lawful rfl <| field ranged_lawful rfl <|
    field (list_lawful ranged_lawful) rfl <| field ranged_lawful rfl <| field ranged_lawful rfl <|
    done record

/-- The fields of the constraints of numbers are distinct and rebuild them. -/
theorem NumberConstraints.block_lawful : NumberConstraints.block.Lawful where
  distinct := by decide
  rebuilds record := field number_lawful rfl <| field number_lawful rfl <|
    field (list_lawful number_lawful) rfl <| field number_lawful rfl <| field number_lawful rfl <|
    done record

/-- The fields of the constraints of truth values are distinct and rebuild them. -/
theorem BooleanConstraints.block_lawful : BooleanConstraints.block.Lawful where
  distinct := by decide
  rebuilds record := field flag_lawful rfl <| field flag_lawful rfl <| done record

/-- The bounds of lengths, whatever the block is called. -/
theorem LengthBounds.blockTitled_lawful (title : String) :
    (LengthBounds.blockTitled title).Lawful where
  distinct := by
    change ["maxLength", "minLength"].Nodup
    decide
  rebuilds record := field ranged_lawful rfl <| field ranged_lawful rfl <| done record

/-- The fields of the constraints of blobs are distinct and rebuild them. -/
theorem BlobConstraints.block_lawful : BlobConstraints.block.Lawful where
  distinct := by decide
  rebuilds record := field (list_lawful text_lawful) rfl <| field ranged_lawful rfl <| done record

/-- The fields of the constraints of images are distinct and rebuild them. -/
theorem ImageConstraints.block_lawful : ImageConstraints.block.Lawful where
  distinct := by decide
  rebuilds record := field (list_lawful text_lawful) rfl <| field ranged_lawful rfl <|
    field ranged_lawful rfl <| field ranged_lawful rfl <| done record

/-- The fields of the constraints of videos are distinct and rebuild them. -/
theorem VideoConstraints.block_lawful : VideoConstraints.block.Lawful where
  distinct := by decide
  rebuilds record := field (list_lawful text_lawful) rfl <| field ranged_lawful rfl <|
    field ranged_lawful rfl <| field ranged_lawful rfl <| field ranged_lawful rfl <| done record

/-- The fields of the constraints of audio are distinct and rebuild them. -/
theorem AudioConstraints.block_lawful : AudioConstraints.block.Lawful where
  distinct := by decide
  rebuilds record := field (list_lawful text_lawful) rfl <| field ranged_lawful rfl <|
    field ranged_lawful rfl <| done record

end LexiconSchema
