import LexiconSchema.Proofs.DistinctNames
import LexiconSchema.Proofs.Grammar
import LexiconSchema.Proofs.WrittenObjects
import Mathlib.Data.List.Nodup

/-!
# Fields are read as the grammar has them

A reading of values follows a form when it succeeds exactly for the values that the form
accepts, and what it gives is written as the value's normal form. Codecs follow plain forms.

The fields of a record follow the fields of a table when each codec follows the form of the
field of its name and putting one field leaves all others as they are. Then reading an
object's entries, in whatever order they come, succeeds exactly if every field's value is
accepted, and the record is written as the table says. All blocks of constraints are shown to
be of this sort.

Main statement: `readEntries_exactly`.
-/

namespace LexiconSchema

open Json (Block Codec FieldCodec Mismatch Value)

/-- A reading succeeds exactly for what the form accepts, and its result is written as the
normal form. -/
def Form.Follows {ε α : Type} (form : Form) (write : α → Value) (read : Value → Except ε α) :
    Prop :=
  ∀ value, value.Distinct →
    Exactly (form.Accepts value) (fun held => write held = form.normal value) (read value)

/-- Items are read one after the other, and each of them must be readable. -/
theorem Exactly.mapM {ε α β γ : Type} {condition : β → Prop} {write : α → γ} {change : β → γ}
    {read : β → Except ε α} {items : List β}
    (each : ∀ item ∈ items, Exactly (condition item) (fun held => write held = change item)
      (read item)) :
    Exactly (∀ item ∈ items, condition item) (fun held => held.map write = items.map change)
      (items.mapM read) := by
  induction items with
  | nil => exact .ok (List.forall_mem_nil _) rfl
  | cons item rest inductionHypothesis =>
    obtain ⟨first, later⟩ := List.forall_mem_cons.mp each
    rw [List.mapM_cons]
    refine first.bind_iff (fun held written => (inductionHypothesis later).bind_iff
      (fun others same => .pure ?_) (and_iff_left trivial)) (List.forall_mem_cons (a := item)).symm
    rw [List.map_cons, List.map_cons, written, same]

namespace Form

/-! Codecs follow plain forms. -/

/-- Only texts are accepted as texts. -/
theorem accepts_text_iff {value : Value} : Form.text.Accepts value ↔ ∃ text, value = .string text := by
  constructor
  · rintro ⟨⟩
    exact ⟨_, rfl⟩
  · rintro ⟨text, rfl⟩
    exact .text

/-- A text is decoded exactly if it is one. -/
theorem text_exactly (value : Value) : Exactly (Form.text.Accepts value)
    (fun held => Codec.text.encode held = Form.text.normal value) (Codec.text.decode value) := by
  cases value with
  | string held => exact .ok .text (by simp [Codec.text])
  | _ => exact .error fun accepted => by cases accepted

/-- The codec of texts accepts exactly texts and writes them as they are. -/
theorem text_follows : Form.text.Follows Codec.text.encode Codec.text.decode :=
  fun value _ => text_exactly value

/-- A truth value is decoded exactly if it is one. -/
theorem flag_exactly (value : Value) : Exactly (Form.flag.Accepts value)
    (fun held => Codec.flag.encode held = Form.flag.normal value) (Codec.flag.decode value) := by
  cases value with
  | bool held => exact .ok .flag (by simp [Codec.flag, normal])
  | _ => exact .error fun accepted => by cases accepted

/-- The codec of truth values accepts exactly truth values and writes them as they are. -/
theorem flag_follows : Form.flag.Follows Codec.flag.encode Codec.flag.decode :=
  fun value _ => flag_exactly value

/-- Numbers of any class are accepted. -/
theorem number_follows : Form.number.Follows Codec.number.encode Codec.number.decode := by
  intro value _
  cases value with
  | number held => exact .ok .number (by simp [Codec.number, normal])
  | _ => exact .error fun accepted => by cases accepted

/-- An integer is accepted exactly in its range; a double never is, even a whole one. -/
theorem integer_follows {least bound : Int} {wanted : Json.Wanted}
    {below : -0x8000000000000000 ≤ least} {above : bound ≤ 0x10000000000000000} :
    (Form.integer least bound).Follows (Codec.ranged least bound wanted below above).encode
      (Codec.ranged least bound wanted below above).decode := by
  intro value _
  cases value with
  | number held =>
    cases held with
    | integer held =>
      by_cases inside : least ≤ held.value ∧ held.value < bound
      · have decoded : (Codec.ranged least bound wanted below above).decode
            (.number (.integer held)) = .ok ⟨held.value, inside.1, inside.2⟩ := by
          simp [Codec.ranged, Ranged.ofInt?, inside]
        rw [decoded]
        exact .ok (.integer inside.1 inside.2) (by simp [Codec.ranged, Ranged.widen, normal])
      · have refused : (Codec.ranged least bound wanted below above).decode
            (.number (.integer held)) = .error (.outOfRange held.value wanted) := by
          simp [Codec.ranged, Ranged.ofInt?, inside]
        rw [refused]
        refine .error fun accepted => inside ?_
        cases accepted with
        | integer above below => exact ⟨above, below⟩
    | float x => exact .error fun accepted => by cases accepted
  | _ => exact .error fun accepted => by cases accepted

/-- A list is read by reading its items. -/
theorem items_follow {ε α : Type} {item : Form} {write : α → Value} {read : Value → Except ε α}
    (follows : item.Follows write read) {items : List Value}
    (distinct : (Value.array items).Distinct) :
    Exactly ((Form.list item).Accepts (.array items))
      (fun held => .array (held.map write) = (Form.list item).normal (.array items))
      (items.mapM read) := by
  have each := Value.distinct_array_iff.mp distinct
  refine (Exactly.mapM fun value member => follows value (each value member)).imp ?_ ?_
  · constructor
    · exact .list
    · rintro ⟨⟩
      assumption
  · intro held same
    rw [normal_list, ← same]

/-- A list is accepted if its items are. -/
theorem list_follows {α : Type} {form : Form} {codec : Codec α}
    (item : form.Follows codec.encode codec.decode) :
    (Form.list form).Follows codec.list.encode codec.list.decode := by
  intro value distinct
  cases value with
  | array items => exact items_follow item distinct
  | _ => exact .error fun accepted => by cases accepted

/-- A format is accepted if it is the name of one, alone or with `null` beside it. -/
theorem accepts_format_iff {value : Value} : Form.format.Accepts value ↔
    ∃ format : StringFormat, formatName? value = some format.name := by
  constructor
  · rintro ⟨⟩
    exact ⟨_, by assumption⟩
  · rintro ⟨format, named⟩
    exact .format named

/-- The only format of a name is the one that has it. -/
theorem name_of_ofName? {name : String} {format : StringFormat}
    (found : StringFormat.ofName? name = some format) : format.name = name :=
  eq_of_beq (List.find?_some (p := fun format : StringFormat => format.name == name) found)

/-- A name beside `null` is read as the format that has it. -/
theorem namedFormat_exactly {value : Value} {name : String}
    (named : formatName? value = some name) :
    Exactly (Form.format.Accepts value)
      (fun held => Codec.format.encode held = Form.format.normal value)
      (Codec.namedFormat name .null) := by
  rw [Codec.namedFormat]
  cases found : StringFormat.ofName? name with
  | none =>
    refine .error fun accepted => ?_
    obtain ⟨format, other⟩ := accepts_format_iff.mp accepted
    obtain rfl := Option.some.inj (named.symm.trans other)
    rw [StringFormat.ofName?_name] at found
    cases found
  | some format =>
    obtain rfl := name_of_ofName? found
    refine .ok (.format named) ?_
    rw [normal, named]
    rfl

/-- A format is accepted by its name, or as an object whose only entry has the name and holds
`null`. -/
theorem format_follows : Form.format.Follows Codec.format.encode Codec.format.decode := by
  intro value _
  have refused {found : Value} {mismatch : Mismatch} (unnamed : formatName? found = none) :
      Exactly (Form.format.Accepts found)
        (fun held => Codec.format.encode held = Form.format.normal found)
        (.error mismatch : Except Mismatch StringFormat) := by
    refine .error fun accepted => ?_
    obtain ⟨format, named⟩ := accepts_format_iff.mp accepted
    exact nomatch unnamed.symm.trans named
  cases value with
  | string name => exact namedFormat_exactly rfl
  | object entries =>
    match entries with
    | [] => exact refused rfl
    | [(name, beside)] =>
      cases beside with
      | null => exact namedFormat_exactly rfl
      | _ =>
        change Exactly _ _ (Codec.namedFormat name _)
        rw [Codec.namedFormat]
        split <;> exact refused rfl
    | first :: second :: rest =>
      obtain ⟨name, value⟩ := first
      cases value <;> exact refused rfl
  | _ => exact refused rfl

end Form

/-! Records of fields. -/

/-- A field that may be absent takes `null` for absence. -/
def Field.Fits (field : Field) (value : Value) : Prop :=
  (value.isNull = true ∧ field.isRequired = false) ∨ field.form.Accepts value

/-- What a field holds after an entry of its name, if the entry fits. -/
def Field.held (field : Field) (value : Value) : Option Value :=
  if value.isNull then none else some (field.form.normal value)

namespace Json.FieldCodec

variable {σ α : Type}

/-- What a record holds, field by field. -/
def row (codecs : List (FieldCodec σ)) (record : σ) : List (Option Value) :=
  codecs.map fun codec => codec.take record

/-- A codec belongs to a field and to its place in the row: it puts exactly what fits, and
nothing in any other place. -/
structure Column (all : List (FieldCodec σ)) (place : Nat) (codec : FieldCodec σ)
    (field : Field) : Prop where
  name : codec.name = field.name
  single : field.form.isMap = false
  puts : ∀ value, value.Distinct → ∀ record, Exactly (field.Fits value)
    (fun after => row all after = (row all record).set place (field.held value))
    (codec.put value record)

/-- Codecs belong to the fields of a table, one by one from some place on. -/
inductive Columns (all : List (FieldCodec σ)) : Nat → List (FieldCodec σ) → List Field → Prop
  | done (place : Nat) : Columns all place [] []
  | column {place : Nat} {codec : FieldCodec σ} {field : Field} {codecs : List (FieldCodec σ)}
      {fields : List Field} (first : Column all place codec field)
      (rest : Columns all (place + 1) codecs fields) :
      Columns all place (codec :: codecs) (field :: fields)

/-- The columns of a table have distinct names. -/
structure Tabled (codecs : List (FieldCodec σ)) (fields : List Field) : Prop where
  distinct : (codecs.map (·.name)).Nodup
  columns : Columns codecs 0 codecs fields

/-- An optional field is a column when its codec follows the form and setting it changes
the row in its place only. -/
theorem column_optional {all : List (FieldCodec σ)} {place : Nat} {name : String} {form : Form}
    {codec : Codec α} {get : σ → Option α} {set : Option α → σ → σ}
    (follows : form.Follows codec.encode codec.decode) (single : form.isMap = false)
    (sets : ∀ value record,
      row all (set value record) = (row all record).set place (value.map codec.encode)) :
    Column all place (.optional name codec get set) (.optional name form) where
  name := rfl
  single := single
  puts value distinct record := by
    cases null : value.isNull with
    | true =>
      have put : (FieldCodec.optional name codec get set).put value record =
          .ok (set none record) := by
        simp [optional, null]
      rw [put]
      refine .ok (.inl ⟨null, rfl⟩) ?_
      rw [sets, Field.held, null]
      rfl
    | false =>
      have put : (FieldCodec.optional name codec get set).put value record =
          (codec.decode value).map fun held => set (some held) record := by
        simp [optional, null]
      have fits : (Field.optional name form).Fits value ↔ form.Accepts value := by
        simp [Field.Fits, null]
      rw [put]
      refine ((follows value distinct).map fun held written => ?_).imp fits.symm fun _ has => has
      rw [sets, Field.held, null, Option.map_some, written]
      rfl

/-- Codecs and fields have the same names, in the same order. -/
theorem Columns.names {all codecs : List (FieldCodec σ)} {fields : List Field} {place : Nat}
    (columns : Columns all place codecs fields) :
    codecs.map (·.name) = fields.map (·.name) := by
  induction columns with
  | done place => rfl
  | column first rest inductionHypothesis =>
    rw [List.map_cons, List.map_cons, first.name, inductionHypothesis]

/-- Every codec is the column of the field that stands where it stands. -/
theorem Columns.get {all codecs : List (FieldCodec σ)} {fields : List Field} {place : Nat}
    (columns : Columns all place codecs fields) (i : Nat) (inside : i < codecs.length)
    (within : i < fields.length) : Column all (place + i) codecs[i] fields[i] := by
  induction columns generalizing i with
  | done place => cases inside
  | @column place _ _ _ _ first rest inductionHypothesis =>
    cases i with
    | zero => exact first
    | succ i =>
      have later := inductionHypothesis i (Nat.lt_of_succ_lt_succ inside)
        (Nat.lt_of_succ_lt_succ within)
      rw [Nat.add_right_comm] at later
      exact later

end Json.FieldCodec

namespace Field

/-- What the field finds under its name fits. -/
def Suits (field : Field) (entries : List (String × Value)) : Prop :=
  ∀ value, findEntry field.name entries = some value → field.Fits value

/-- What a field holds after some entries, given what it held before. -/
def after (field : Field) (entries : List (String × Value)) (before : Option Value) :
    Option Value :=
  match findEntry field.name entries with
  | some value => field.held value
  | none => before

variable {field : Field} {entry : String × Value} {rest : List (String × Value)}

/-- An entry of another name changes nothing. -/
theorem after_foreign (foreign : entry.1 ≠ field.name) (before : Option Value) :
    field.after [entry] before = before := by
  simp [after, findEntry, foreign]

/-- An entry of the field's name is what the field holds afterwards. -/
theorem after_named (named : entry.1 = field.name) (before : Option Value) :
    field.after [entry] before = field.held entry.2 := by
  simp [after, findEntry, named]

/-- A single entry suits a field if it fits or has another name. -/
theorem suits_singleton : field.Suits [entry] ↔ (entry.1 = field.name → field.Fits entry.2) := by
  by_cases same : entry.1 = field.name <;> simp [Suits, findEntry, same]

/-- Of entries with distinct names at most one matters to a field. -/
theorem suits_cons (fresh : entry.1 ∉ rest.map Prod.fst) :
    field.Suits (entry :: rest) ↔ field.Suits [entry] ∧ field.Suits rest := by
  by_cases same : entry.1 = field.name
  · have absent : findEntry field.name rest = none := by
      rw [findEntry_eq_none_iff, ← same]
      exact fresh
    simp [Suits, findEntry, same, absent]
  · simp [Suits, findEntry, same]

/-- What is read from the first entry is kept while the others are read. -/
theorem after_cons (fresh : entry.1 ∉ rest.map Prod.fst) (before : Option Value) :
    field.after (entry :: rest) before = field.after rest (field.after [entry] before) := by
  by_cases same : entry.1 = field.name
  · have absent : findEntry field.name rest = none := by
      rw [findEntry_eq_none_iff, ← same]
      exact fresh
    simp [after, findEntry, same, absent]
  · simp [after, findEntry, same]

/-- What all fields hold after some entries, given what they held before. -/
def rowAfter (fields : List Field) (entries : List (String × Value)) (row : List (Option Value)) :
    List (Option Value) :=
  List.zipWith (fun field before => field.after entries before) fields row

variable {fields : List Field} {row : List (Option Value)}

/-- Without entries a row stays as it is. -/
theorem rowAfter_nil (across : row.length = fields.length) : rowAfter fields [] row = row := by
  refine List.ext_getElem (by simp [rowAfter, across]) fun place inside within => ?_
  simp [rowAfter, after, findEntry]

/-- Two passes over the places of a row are one. -/
theorem rowAfter_cons (fresh : entry.1 ∉ rest.map Prod.fst) :
    rowAfter fields (entry :: rest) row = rowAfter fields rest (rowAfter fields [entry] row) := by
  refine List.ext_getElem (by simp [rowAfter]) fun place inside within => ?_
  simp only [rowAfter, List.getElem_zipWith]
  rw [after_cons fresh]

/-- An entry of a name that no field has changes nothing. -/
theorem rowAfter_foreign (across : row.length = fields.length)
    (foreign : ∀ field ∈ fields, entry.1 ≠ field.name) : rowAfter fields [entry] row = row := by
  refine List.ext_getElem (by simp [rowAfter, across]) fun place inside within => ?_
  simp only [rowAfter, List.getElem_zipWith]
  rw [after_foreign (foreign _ (List.getElem_mem _))]

section
variable (distinct : (fields.map (·.name)).Nodup) {place : Nat} (inside : place < fields.length)
  (named : entry.1 = fields[place].name)
include distinct named

/-- No other field has the name of the one at a place. -/
theorem eq_place {other : Nat} (within : other < fields.length)
    (same : entry.1 = fields[other].name) : other = place := by
  have here : place < (fields.map (·.name)).length := by rwa [List.length_map]
  have there : other < (fields.map (·.name)).length := by rwa [List.length_map]
  have alike : (fields.map (·.name))[other] = (fields.map (·.name))[place] := by
    rw [List.getElem_map, List.getElem_map, ← same, ← named]
  exact distinct.getElem_inj_iff.mp alike

/-- An entry of a field's name changes what stands in the field's place. -/
theorem rowAfter_named (across : row.length = fields.length) :
    rowAfter fields [entry] row = row.set place (fields[place].held entry.2) := by
  refine List.ext_getElem (by simp [rowAfter, across]) fun other within bound => ?_
  have among : other < fields.length := by simpa [across] using bound
  simp only [rowAfter, List.getElem_zipWith]
  rw [List.getElem_set]
  by_cases same : place = other
  · subst same
    rw [if_pos rfl]
    exact after_named named _
  · rw [if_neg same]
    exact after_foreign (fun alike => same (eq_place distinct inside named among alike).symm) _

/-- An entry of a field's name suits all fields if it fits that one. -/
theorem suits_named :
    (∀ field ∈ fields, field.Suits [entry]) ↔ fields[place].Fits entry.2 := by
  constructor
  · exact fun suits => suits_singleton.mp (suits _ (List.getElem_mem inside)) named
  · intro fits field member
    obtain ⟨other, within, rfl⟩ := List.getElem_of_mem member
    refine suits_singleton.mpr fun same => ?_
    obtain rfl := eq_place distinct inside named within same
    exact fits

end

end Field

namespace Json.FieldCodec

variable {σ : Type} {codecs : List (FieldCodec σ)} {fields : List Field}

/-- A row has a place for every field. -/
theorem Columns.length_row {all : List (FieldCodec σ)} {place : Nat}
    (columns : Columns all place codecs fields) (record : σ) :
    (row codecs record).length = fields.length := by
  have lengths := congrArg List.length columns.names
  rwa [List.length_map, List.length_map, ← List.length_map (f := fun codec => codec.take record)]
    at lengths

/-- A name that no codec has is no field's. -/
theorem Tabled.foreign (tabled : Tabled codecs fields) {name : String}
    (unknown : codecs.find? (·.name == name) = none) : ∀ field ∈ fields, name ≠ field.name := by
  intro field member same
  have named : name ∈ codecs.map (·.name) := by
    rw [tabled.columns.names, same]
    exact List.mem_map_of_mem member
  obtain ⟨codec, inside, shared⟩ := List.mem_map.mp named
  exact List.find?_eq_none.mp unknown codec inside (beq_iff_eq.mpr shared)

/-- The codec of a name is the column of the field that has it. -/
theorem Tabled.column (tabled : Tabled codecs fields) {name : String} {codec : FieldCodec σ}
    (found : codecs.find? (·.name == name) = some codec) :
    ∃ (place : Nat) (inside : place < fields.length),
      name = fields[place].name ∧ Column codecs place codec fields[place] := by
  have shared : codec.name = name :=
    eq_of_beq (List.find?_some (p := fun codec : FieldCodec σ => codec.name == name) found)
  obtain ⟨place, within, rfl⟩ := List.getElem_of_mem (List.mem_of_find?_eq_some found)
  have lengths : codecs.length = fields.length := by
    simpa using congrArg List.length tabled.columns.names
  have column := tabled.columns.get place within (lengths ▸ within)
  rw [Nat.zero_add] at column
  exact ⟨place, lengths ▸ within, shared.symm.trans column.name, column⟩

/-- A single entry is put into the column of its name, if there is one. -/
theorem putNamed_exactly (tabled : Tabled codecs fields) (record : σ) {entry : String × Value}
    (distinct : entry.2.Distinct) :
    Exactly (∀ field ∈ fields, field.Suits [entry])
      (fun after => row codecs after = Field.rowAfter fields [entry] (row codecs record))
      (putNamed codecs record entry) := by
  have across := tabled.columns.length_row record
  rw [putNamed]
  cases found : codecs.find? (·.name == entry.1) with
  | none =>
    have foreign := tabled.foreign found
    refine .ok (fun field member => ?_) (Field.rowAfter_foreign across foreign).symm
    exact Field.suits_singleton.mpr fun same => absurd same (foreign field member)
  | some codec =>
    obtain ⟨place, inside, named, column⟩ := tabled.column found
    have names : (fields.map (·.name)).Nodup := tabled.columns.names ▸ tabled.distinct
    refine (column.puts entry.2 distinct record).imp
      (Field.suits_named names inside named).symm fun after put => ?_
    rw [put, Field.rowAfter_named names inside named across]

/-- The entries of an object are read exactly if they fit, and every field then holds what
stands under its name. The induction is on the entries. -/
theorem readEntries_row (tabled : Tabled codecs fields) (record : σ)
    {entries : List (String × Value)} (distinct : (Value.object entries).Distinct) :
    Exactly (∀ field ∈ fields, field.Suits entries)
      (fun after => row codecs after = Field.rowAfter fields entries (row codecs record))
      (readEntries codecs record entries) := by
  induction entries generalizing record with
  | nil =>
    refine .ok (fun field _ value found => nomatch found) ?_
    exact (Field.rowAfter_nil (tabled.columns.length_row record)).symm
  | cons entry rest inductionHypothesis =>
    obtain ⟨fresh, later⟩ := List.nodup_cons.mp distinct.names
    have smaller : (Value.object rest).Distinct :=
      .object later fun other member => distinct.member (List.mem_cons_of_mem _ member)
    have first := putNamed_exactly tabled record (distinct.member List.mem_cons_self)
    have together : (∀ field ∈ fields, field.Suits [entry]) ∧
        (∀ field ∈ fields, field.Suits rest) ↔ ∀ field ∈ fields, field.Suits (entry :: rest) := by
      rw [← forall₂_and]
      exact forall₂_congr fun field _ => (Field.suits_cons fresh).symm
    refine first.bind_iff (fun between put =>
      (inductionHypothesis between smaller).imp Iff.rfl fun after read => ?_) together
    rw [read, put, Field.rowAfter_cons fresh]

end Json.FieldCodec

namespace Field

variable {field : Field} {entries : List (String × Value)}

/-- In a record that held nothing, a field holds the normal form of what is present. -/
theorem after_none : field.after entries none =
    (Value.present? field.name entries).map field.form.normal := by
  unfold after held Value.present?
  cases findEntry field.name entries with
  | none => rfl
  | some value => cases null : value.isNull <;> simp [null, Option.filter]

/-- The entry of a field that is no map stands for what is present. -/
theorem entry_eq (single : field.form.isMap = false) : field.entry entries =
    ((Value.present? field.name entries).map fun value =>
      (field.name, field.form.normal value)).toList := by
  cases present : Value.present? field.name entries with
  | none =>
    rw [entry_of_absent present, single]
    rfl
  | some value =>
    rw [entry_of_present present]
    rfl

/-- A field holds exactly if its entry suits it and is there if it must be. -/
theorem holds_iff : field.Holds entries ↔ field.Suits entries ∧
    (field.isRequired = true → (Value.present? field.name entries).isSome = true) := by
  constructor
  · refine fun holds => ⟨fun value found => ?_, holds.complete⟩
    cases null : value.isNull with
    | false => exact .inr (holds.each value (present?_of_findEntry found null))
    | true =>
      have absent : Value.present? field.name entries = none := by
        simp [Value.present?, found, null]
      exact .inl ⟨null, (holds_of_absent absent).mp holds⟩
  · rintro ⟨suits, complete⟩
    refine ⟨complete, fun value present => ?_⟩
    have found := Option.eq_some_of_filter_eq_some present
    have notNull : value.isNull = false := by
      simpa [found, Value.present?] using congrArg Option.isSome present
    rcases suits value found with ⟨null, -⟩ | accepted
    · rw [notNull] at null
      cases null
    · exact accepted

/-- What may be absent holds exactly if its entry suits it. -/
theorem suits_iff_holds (free : field.isRequired = false) :
    field.Suits entries ↔ field.Holds entries := by
  simp [holds_iff, free]

end Field

namespace Json.FieldCodec

variable {σ : Type}

/-- A row that holds the normal forms is written as the entries of the table. -/
theorem Columns.entries_eq {all codecs : List (FieldCodec σ)} {fields : List Field} {place : Nat}
    (columns : Columns all place codecs fields) {record : σ} {entries : List (String × Value)}
    (held : row codecs record = fields.map fun field => field.after entries none) :
    FieldCodec.entries codecs record = fields.flatMap fun field => field.entry entries := by
  induction columns with
  | done place => rfl
  | @column place codec field codecs fields first rest inductionHypothesis =>
    obtain ⟨here, later⟩ := List.cons.inj held
    have here : codec.take record =
        (Value.present? field.name entries).map field.form.normal :=
      here.trans Field.after_none
    have written := inductionHypothesis later
    rw [FieldCodec.entries] at written ⊢
    rw [List.filterMap_cons, here, List.flatMap_cons, Field.entry_eq first.single, first.name]
    cases Value.present? field.name entries with
    | none => exact written
    | some value => exact congrArg (_ :: ·) written

/-- In a record that held nothing, every field holds the normal form of what is present. -/
theorem readEntries_blank {codecs : List (FieldCodec σ)} {fields : List Field}
    (tabled : Tabled codecs fields) {start : σ} (blank : row codecs start = fields.map fun _ => none)
    {entries : List (String × Value)} (distinct : (Value.object entries).Distinct) :
    Exactly (∀ field ∈ fields, field.Suits entries)
      (fun record => row codecs record = fields.map fun field => field.after entries none)
      (readEntries codecs start entries) := by
  refine (readEntries_row tabled start distinct).imp Iff.rfl fun record read => read.trans ?_
  rw [blank, Field.rowAfter, List.zipWith_map_right, List.zipWith_self]

/-- A record of fields that may be absent is read exactly if all of them hold, and it is
written as the table says. -/
theorem readEntries_exactly {codecs : List (FieldCodec σ)} {fields : List Field}
    (tabled : Tabled codecs fields) {start : σ} (blank : row codecs start = fields.map fun _ => none)
    (free : ∀ field ∈ fields, field.isRequired = false) {entries : List (String × Value)}
    (distinct : (Value.object entries).Distinct) :
    Exactly (∀ field ∈ fields, field.Holds entries)
      (fun record => FieldCodec.entries codecs record =
        fields.flatMap fun field => field.entry entries)
      (readEntries codecs start entries) :=
  (readEntries_blank tabled blank distinct).imp
    (forall₂_congr fun field member => Field.suits_iff_holds (free field member))
    fun _ held => tabled.columns.entries_eq held

end Json.FieldCodec

/-! The blocks of constraints and what stands beside them. -/

open Json.FieldCodec Form

/-- A block belongs to a table of fields that may be absent. -/
structure Json.Block.Tabled {σ : Type} (block : Block σ) (fields : List Field) : Prop where
  codecs : Json.FieldCodec.Tabled block.fields fields
  blank : row block.fields block.empty = fields.map fun _ => none
  free : ∀ field ∈ fields, field.isRequired = false

/-- The constraints of truth values are read as the table of their kind says. -/
theorem BooleanConstraints.block_tabled :
    BooleanConstraints.block.Tabled Kind.boolean.ownFields where
  codecs := ⟨by decide,
    .column (column_optional flag_follows rfl fun _ _ => rfl) <|
    .column (column_optional flag_follows rfl fun _ _ => rfl) <|
    .done _⟩
  blank := rfl
  free := by decide

/-- The constraints of integers are read as the table of their kind says. -/
theorem IntegerConstraints.block_tabled :
    IntegerConstraints.block.Tabled Kind.integer.ownFields where
  codecs := ⟨by decide,
    .column (column_optional integer_follows rfl fun _ _ => rfl) <|
    .column (column_optional integer_follows rfl fun _ _ => rfl) <|
    .column (column_optional (list_follows integer_follows) rfl fun _ _ => rfl) <|
    .column (column_optional integer_follows rfl fun _ _ => rfl) <|
    .column (column_optional integer_follows rfl fun _ _ => rfl) <|
    .done _⟩
  blank := rfl
  free := by decide

/-- The constraints of numbers are read as the table of their kind says. -/
theorem NumberConstraints.block_tabled :
    NumberConstraints.block.Tabled Kind.number.ownFields where
  codecs := ⟨by decide,
    .column (column_optional number_follows rfl fun _ _ => rfl) <|
    .column (column_optional number_follows rfl fun _ _ => rfl) <|
    .column (column_optional (list_follows number_follows) rfl fun _ _ => rfl) <|
    .column (column_optional number_follows rfl fun _ _ => rfl) <|
    .column (column_optional number_follows rfl fun _ _ => rfl) <|
    .done _⟩
  blank := rfl
  free := by decide

/-- The constraints of strings are read as the table of their kind says behind the format. -/
theorem StringConstraints.block_tabled :
    StringConstraints.block.Tabled Kind.string.ownFields.tail where
  codecs := ⟨by decide,
    .column (column_optional integer_follows rfl fun _ _ => rfl) <|
    .column (column_optional integer_follows rfl fun _ _ => rfl) <|
    .column (column_optional integer_follows rfl fun _ _ => rfl) <|
    .column (column_optional integer_follows rfl fun _ _ => rfl) <|
    .column (column_optional (list_follows text_follows) rfl fun _ _ => rfl) <|
    .column (column_optional text_follows rfl fun _ _ => rfl) <|
    .column (column_optional text_follows rfl fun _ _ => rfl) <|
    .column (column_optional (list_follows text_follows) rfl fun _ _ => rfl) <|
    .done _⟩
  blank := rfl
  free := by decide

/-- The bounds of lengths are read as the table of bytes says, whatever the block is called. -/
theorem LengthBounds.blockTitled_tabled (title : String) :
    (LengthBounds.blockTitled title).Tabled Kind.bytes.ownFields where
  codecs := ⟨by change ["maxLength", "minLength"].Nodup; decide,
    .column (column_optional integer_follows rfl fun _ _ => rfl) <|
    .column (column_optional integer_follows rfl fun _ _ => rfl) <|
    .done _⟩
  blank := rfl
  free := by decide

/-- The constraints of blobs are read as the table of their kind says. -/
theorem BlobConstraints.block_tabled : BlobConstraints.block.Tabled Kind.blob.ownFields where
  codecs := ⟨by decide,
    .column (column_optional (list_follows text_follows) rfl fun _ _ => rfl) <|
    .column (column_optional integer_follows rfl fun _ _ => rfl) <|
    .done _⟩
  blank := rfl
  free := by decide

/-- The constraints of images are read as the table of their kind says. -/
theorem ImageConstraints.block_tabled : ImageConstraints.block.Tabled Kind.image.ownFields where
  codecs := ⟨by decide,
    .column (column_optional (list_follows text_follows) rfl fun _ _ => rfl) <|
    .column (column_optional integer_follows rfl fun _ _ => rfl) <|
    .column (column_optional integer_follows rfl fun _ _ => rfl) <|
    .column (column_optional integer_follows rfl fun _ _ => rfl) <|
    .done _⟩
  blank := rfl
  free := by decide

/-- The constraints of videos are read as the table of their kind says. -/
theorem VideoConstraints.block_tabled : VideoConstraints.block.Tabled Kind.video.ownFields where
  codecs := ⟨by decide,
    .column (column_optional (list_follows text_follows) rfl fun _ _ => rfl) <|
    .column (column_optional integer_follows rfl fun _ _ => rfl) <|
    .column (column_optional integer_follows rfl fun _ _ => rfl) <|
    .column (column_optional integer_follows rfl fun _ _ => rfl) <|
    .column (column_optional integer_follows rfl fun _ _ => rfl) <|
    .done _⟩
  blank := rfl
  free := by decide

/-- The constraints of audio are read as the table of their kind says. -/
theorem AudioConstraints.block_tabled : AudioConstraints.block.Tabled Kind.audio.ownFields where
  codecs := ⟨by decide,
    .column (column_optional (list_follows text_follows) rfl fun _ _ => rfl) <|
    .column (column_optional integer_follows rfl fun _ _ => rfl) <|
    .column (column_optional integer_follows rfl fun _ _ => rfl) <|
    .done _⟩
  blank := rfl
  free := by decide

/-- What has nothing but a description is read as a table of that one field says. -/
theorem tokenBlock_tabled : tokenBlock.Tabled [.description] where
  codecs := ⟨by decide,
    .column (column_optional text_follows rfl fun _ _ => rfl) <|
    .done _⟩
  blank := rfl
  free := by decide

/-- The block of a string node's description and format follows the table of their fields. -/
theorem stringHead_tabled : Tabled [descriptionField, formatField]
    [.description, .optional "format" .format] where
  distinct := by decide
  columns :=
    .column (column_optional text_follows rfl fun _ _ => rfl) <|
    .column (column_optional format_follows rfl fun _ _ => rfl) <|
    .done _

/-- The block of a description alone follows the table of that field. -/
theorem descriptionField_tabled {α : Type} :
    Tabled [descriptionField (α := α)] [.description] where
  distinct := List.nodup_singleton _
  columns := .column (column_optional text_follows rfl fun _ _ => rfl) <| .done _

/-- The fields of an error case. -/
def ErrorCase.fields : List Field := [.required "name" .text, .description]

/-- The fields of an error are read as their table says. -/
theorem ErrorCase.block_tabled : Tabled ErrorCase.block.fields ErrorCase.fields where
  distinct := by decide
  columns :=
    .column
      { name := rfl
        single := rfl
        puts := fun value _ draft => by
          cases value with
          | string name =>
            refine .ok (.inr .text) ?_
            rw [Field.held, Form.normal_text]
            rfl
          | _ => exact .error (by rintro (⟨-, free⟩ | accepted) <;> contradiction) } <|
    .column (column_optional text_follows rfl fun _ _ => rfl) <| .done _

namespace ErrorCase

/-- An error case is accepted if it has a name and its description, if any, is a text. -/
theorem accepts_iff {value : Value} {entries : List (String × Value)}
    (given : errorEntries? value = some entries) :
    Form.errorCase.Accepts value ↔ ∀ field ∈ ErrorCase.fields, field.Holds entries := by
  constructor
  · intro accepted
    cases accepted with
    | errorCase other named described =>
      obtain rfl := Option.some.inj (given.symm.trans other)
      refine List.forall_mem_cons.mpr ⟨(Field.holds_of_present named).mpr .text, ?_⟩
      exact List.forall_mem_singleton.mpr ⟨nofun, described⟩
  · intro holds
    obtain ⟨name, rest⟩ := List.forall_mem_cons.mp holds
    obtain ⟨value, present⟩ := Option.isSome_iff_exists.mp (name.complete rfl)
    obtain ⟨text, rfl⟩ := accepts_text_iff.mp (name.each value present)
    exact .errorCase given present (List.forall_mem_singleton.mp rest).each

/-- What is no object and no list of two is no error case. -/
theorem not_accepts {value : Value} (other : errorEntries? value = none) :
    ¬ Form.errorCase.Accepts value := by
  intro accepted
  cases accepted with
  | errorCase given named described =>
    rw [other] at given
    cases given

/-- The normal form of an error has its fields in order, also if it was given as a list of two. -/
theorem normal_eq {value : Value} {entries : List (String × Value)}
    (given : errorEntries? value = some entries) :
    Form.errorCase.normal value =
      .object (ErrorCase.fields.flatMap fun field => field.entry entries) := by
  have kept (name : String) (isRequired : Bool) :
      keep name entries = Field.entry ⟨name, .text, isRequired⟩ entries := by
    rw [Field.entry_eq rfl, keep]
    simp only [Form.normal_text]
  rw [Form.normal, given]
  simp only [ErrorCase.fields, List.flatMap_cons, List.flatMap_nil, List.append_nil]
  rw [kept "name" true, kept "description" false]

/-- Of the entries of an error case, the name must be there. -/
theorem ofEntries_exactly {entries : List (String × Value)}
    (distinct : (Value.object entries).Distinct) :
    Exactly (∀ field ∈ ErrorCase.fields, field.Holds entries)
      (fun held => ErrorCase.render held =
        .object (ErrorCase.fields.flatMap fun field => field.entry entries))
      (ErrorCase.block.ofEntries entries >>= ofDraft) := by
  have blank : row ErrorCase.block.fields ErrorCase.block.empty =
      ErrorCase.fields.map fun _ => none := rfl
  have named_iff : (∀ field ∈ ErrorCase.fields, field.Suits entries) ∧
      (Value.present? "name" entries).isSome = true ↔
        ∀ field ∈ ErrorCase.fields, field.Holds entries := by
    simp only [ErrorCase.fields, List.forall_mem_cons, List.not_mem_nil, false_imp_iff,
      implies_true, and_true, Field.holds_iff]
    constructor
    · rintro ⟨⟨name, description⟩, present⟩
      exact ⟨⟨name, fun _ => present⟩, description, nofun⟩
    · rintro ⟨⟨name, present⟩, description, -⟩
      exact ⟨⟨name, description⟩, present trivial⟩
  refine (Json.FieldCodec.readEntries_blank ErrorCase.block_tabled blank distinct).bind_iff
    (fun draft held => ?_) named_iff
  have written := ErrorCase.block_tabled.columns.entries_eq held
  have named : draft.name.map .string =
      (Value.present? "name" entries).map Form.text.normal :=
    (List.cons.inj held).1.trans Field.after_none
  obtain ⟨name, description⟩ := draft
  cases name with
  | none =>
    refine .error fun present => ?_
    rw [← Option.isSome_map (f := Form.text.normal), ← named] at present
    cases present
  | some name =>
    refine .ok ?_ ?_
    · rw [← Option.isSome_map (f := Form.text.normal), ← named]
      rfl
    · rw [← written]
      cases description <;> rfl

/-- An error case is read from an object, or from a list as from an object with its names. -/
theorem decode_follows : Form.errorCase.Follows ErrorCase.render ErrorCase.decode := by
  intro value distinct
  have settled {entries : List (String × Value)} (given : errorEntries? value = some entries)
      (distinctEntries : (Value.object entries).Distinct)
      (decoded : ErrorCase.decode value = ErrorCase.block.ofEntries entries >>= ofDraft) :
      Exactly (Form.errorCase.Accepts value)
        (fun held => ErrorCase.render held = Form.errorCase.normal value)
        (ErrorCase.decode value) := by
    rw [decoded, normal_eq given]
    exact (ofEntries_exactly distinctEntries).imp (accepts_iff given).symm fun _ has => has
  cases value with
  | object entries => exact settled rfl distinct rfl
  | array items =>
    have each := Value.distinct_array_iff.mp distinct
    match items with
    | [] => exact .error (not_accepts rfl)
    | [name] => cases name <;> exact .error (not_accepts rfl)
    | [name, description] =>
      obtain ⟨first, later⟩ := List.forall_mem_cons.mp each
      have second := List.forall_mem_singleton.mp later
      have distinctEntries : (Value.object [("name", name), ("description", description)]).Distinct :=
        .object (by simp) (List.forall_mem_cons.mpr ⟨first, List.forall_mem_singleton.mpr second⟩)
      exact settled rfl distinctEntries rfl
    | name :: description :: _ :: _ =>
      -- Both fields are read before the list turns out to be too long.
      cases name <;> cases description <;> exact .error (not_accepts rfl)
  | _ => exact .error (not_accepts rfl)

/-- A list of error cases is read case by case. -/
theorem decodeAll_follows : (Form.list .errorCase).Follows
    (fun errors => .array (errors.map ErrorCase.render)) ErrorCase.decodeAll := by
  intro value distinct
  cases value with
  | array items => exact Form.items_follow decode_follows distinct
  | _ => exact .error fun accepted => by cases accepted

end ErrorCase

end LexiconSchema
