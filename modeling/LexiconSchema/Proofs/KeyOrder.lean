import LexiconSchema.Proofs.Faithfulness
import LexiconSchema.Proofs.NormalForms
import LexiconSchema.Proofs.Origins
import LexiconSchema.Proofs.Refusals

/-!
# The order of entries does not matter

Readers go through entries in their order and stop at the first fault, so that two orders of
the same entries take different ways through them. What decides is the grammar, which looks
entries up by name: it accepts all values that are alike or none of them, and it gives them
normal forms that are alike. Since a node is written as its value's normal form, and equality is
seen in what is written, the results are equal as well.

Where a thing can be written in two ways, alike values use the same way. A format is the one
place where it matters that no name is given twice, because its object must have one entry.

Main statement: `key_order_is_immaterial`.
-/

namespace LexiconSchema

open Json

/-! What is the same in alike values. -/

namespace Json.AlikeEntries

variable {left right : List (String × Value)} (alike : AlikeEntries Eq left right)
include alike

/-- The names of both are the same. -/
theorem names (name : String) : name ∈ left.map Prod.fst ↔ name ∈ right.map Prod.fst := by
  have present := isSome_of_rel (alike name)
  rw [← not_iff_not, ← findEntry_eq_none_iff, ← findEntry_eq_none_iff,
    ← Option.not_isSome_iff_eq_none, ← Option.not_isSome_iff_eq_none, present]

/-- Every entry of the one has its counterpart in the other, where no name is given twice. -/
theorem counterpart (distinct : (right.map Prod.fst).Nodup) {entry : String × Value}
    (member : entry ∈ right) : ∃ value, (entry.1, value) ∈ left ∧ value.Alike Eq entry.2 := by
  obtain ⟨value, found, same⟩ :=
    some_of_rel_right (alike entry.1) (findEntry_of_mem distinct member)
  exact ⟨value, mem_of_findEntry found, same⟩

omit alike in
/-- A single entry is alike to a single entry of the same name. -/
theorem singleton {name : String} {value : Value} (alike : AlikeEntries Eq [(name, value)] right)
    (distinct : (right.map Prod.fst).Nodup) :
    ∃ other, right = [(name, other)] ∧ value.Alike Eq other := by
  have moved : [name].Perm (right.map Prod.fst) :=
    (List.perm_ext_iff_of_nodup (List.nodup_singleton name) distinct).mpr alike.names
  obtain ⟨⟨first, other⟩, rfl, rfl⟩ :=
    List.map_eq_singleton_iff.mp (List.perm_singleton.mp moved.symm)
  have under := alike first
  simp only [findEntry, if_true, rel_some_iff] at under
  exact ⟨other, rfl, under⟩

omit alike in
/-- No entries are alike to no entries. -/
theorem nil (alike : AlikeEntries Eq [] right) : right = [] := by
  cases right with
  | nil => rfl
  | cons entry rest => exact absurd ((alike.names entry.1).mpr (by simp)) (by simp)

end Json.AlikeEntries

/-- Every item of a list has its counterpart in a list that is alike. -/
theorem counterpart_of_forall₂ {left right : List Value}
    (alike : List.Forall₂ (Value.Alike Eq) left right) {other : Value} (member : other ∈ right) :
    ∃ value ∈ left, value.Alike Eq other := by
  induction alike with
  | nil => cases member
  | cons first _ inductionHypothesis =>
    rcases List.mem_cons.mp member with rfl | later
    · exact ⟨_, List.mem_cons_self, first⟩
    · obtain ⟨value, inside, same⟩ := inductionHypothesis later
      exact ⟨value, List.mem_cons_of_mem _ inside, same⟩

namespace Json.Value.Alike

variable {value other : Value} (alike : value.Alike Eq other)
include alike

/-- Alike values have alike entries, if they are objects. -/
theorem entries?_rel : Option.Rel (AlikeEntries Eq) value.entries? other.entries? := by
  cases alike with
  | object names each => exact .some (alike_object_iff.mp (.object names each))
  | _ => exact .none

/-- Values that are alike are the same text, or both none. -/
theorem text?_eq : value.text? = other.text? := by
  cases alike <;> rfl

/-- Alike values declare the same kind. -/
theorem kind?_eq : value.kind? = other.kind? := by
  cases alike with
  | object names each =>
    have entries := alike_object_iff.mp (.object names each)
    refine bind_eq_of_rel (entries "type") fun declared said same => ?_
    rw [same.text?_eq]
  | _ => rfl

/-- Their items are of the same kind. -/
theorem itemsKind?_eq : value.itemsKind? = other.itemsKind? :=
  bind_eq_of_rel alike.entries?_rel fun _ _ entries =>
    bind_eq_of_rel (entries.present? "items") fun _ _ items => items.kind?_eq

/-! Things that can be written in two ways. -/

/-- The members of a union are listed alike, whichever way none are given. -/
theorem members?_rel :
    Option.Rel (List.Forall₂ (Value.Alike Eq)) (members? value) (members? other) := by
  cases alike with
  | array lengths each => exact .some (alike_array_iff.mp (.array lengths each))
  | @object left right names each =>
    cases left with
    | nil =>
      obtain rfl := AlikeEntries.nil (alike_object_iff.mp (.object names each))
      exact .some .nil
    | cons entry rest =>
      cases right with
      | nil => exact absurd ((names entry.1).mp (by simp)) (by simp)
      | cons first others => exact .none
  | _ => exact .none

/-- An error case is given alike; as a list it stands for an object of two entries. -/
theorem errorEntries?_rel :
    Option.Rel (AlikeEntries Eq) (errorEntries? value) (errorEntries? other) := by
  cases alike with
  | object names each => exact .some (alike_object_iff.mp (.object names each))
  | @array left right lengths each =>
    have items : List.Forall₂ (Value.Alike Eq) left right :=
      alike_array_iff.mp (.array lengths each)
    rcases items with _ | ⟨name, _ | ⟨description, _ | _⟩⟩
    · exact .none
    · exact .none
    · have last : findEntry "description" ([] : List (String × Value)) = none := rfl
      have first (said : Value) : findEntry "name" [("description", said)] = none := rfl
      refine .some ((alike_cons_iff (first _) (first _)).mpr ⟨name, ?_⟩)
      exact (alike_cons_iff last last).mpr ⟨description, alikeEntries_nil⟩
    · exact .none
  | _ => exact .none

/-- The nodes of a map are given alike. -/
theorem children?_rel :
    Option.Rel (AlikeEntries Eq) (children? value) (children? other) := by
  cases alike with
  | object names each => exact .some (alike_object_iff.mp (.object names each))
  | @array left right lengths each =>
    cases left with
    | nil =>
      obtain rfl := List.length_eq_zero_iff.mp lengths.symm
      exact .some alikeEntries_nil
    | cons item rest =>
      cases right with
      | nil => cases lengths
      | cons first others => exact .none
  | _ => exact .none

omit alike in
/-- A format has its name either alone or in an object. -/
theorem formatName?_eq_some_iff {name : String} : formatName? value = some name ↔
    value = .string name ∨ value = .object [(name, .null)] := by
  constructor
  · intro named
    unfold formatName? at named
    split at named
    · exact .inl (congrArg Value.string (Option.some.inj named))
    · obtain rfl := Option.some.inj named
      exact .inr rfl
    · cases named
  · rintro (rfl | rfl) <;> rfl

/-- A format is given by its name in alike values, whichever way it is given. -/
theorem formatName?_of_named (distinct : other.Distinct) {name : String}
    (named : formatName? value = some name) : formatName? other = some name := by
  rw [formatName?_eq_some_iff] at named ⊢
  rcases named with rfl | rfl
  · cases alike
    exact .inl rfl
  · obtain ⟨right, rfl, entries⟩ := alike.of_object
    obtain ⟨held, rfl, beside⟩ := AlikeEntries.singleton entries distinct.names
    cases beside
    exact .inr rfl

end Json.Value.Alike

/-- The nodes of a map give no name twice if the map does not. -/
theorem distinct_children {value : Value} (distinct : value.Distinct)
    {members : List (String × Value)} (given : children? value = some members) :
    (Value.object members).Distinct := by
  unfold children? at given
  split at given
  · exact Option.some.inj given ▸ distinct
  · obtain rfl := Option.some.inj given
    exact .object List.nodup_nil (List.forall_mem_nil _)
  · cases given

/-- Alike entries are both those of a document or neither. -/
theorem isDocument_eq {left right : List (String × Value)} (alike : AlikeEntries Eq left right) :
    isDocument left = isDocument right := by
  rw [isDocument, isDocument, isSome_of_rel (alike "lexicon"), isSome_of_rel (alike "id")]

/-- What is alike to a text is that text. -/
theorem Form.Accepts.text_of_alike {value other : Value} (accepted : Form.text.Accepts value)
    (alike : value.Alike Eq other) : Form.text.Accepts other := by
  cases accepted
  cases alike
  exact .text

/-- Arrays among parameters hold the same in alike values. -/
theorem Position.Admits.of_alike {position : Position} {value other : Value}
    (admitted : position.Admits value) (alike : value.Alike Eq other) : position.Admits other := by
  rw [Position.Admits, ← alike.kind?_eq, ← alike.itemsKind?_eq]
  exact admitted

/-- A form accepts, with a value, whatever is alike to it. The induction is on how the value is
built; of the other value it has to be known that it gives no name twice. -/
theorem Form.Accepts.of_alike {form : Form} {value : Value} (accepted : form.Accepts value)
    {other : Value} (alike : value.Alike Eq other) (distinct : other.Distinct) :
    form.Accepts other := by
  induction accepted generalizing other with
  | text => exact Form.Accepts.text.text_of_alike alike
  | flag =>
    cases alike
    exact .flag
  | number =>
    cases alike
    exact .number
  | integer above below =>
    cases alike with
    | number related => exact related ▸ .integer above below
  | list _ inductionHypothesis =>
    obtain ⟨others, rfl, items⟩ := alike.of_array
    refine .list fun item member => ?_
    obtain ⟨held, inside, same⟩ := counterpart_of_forall₂ items member
    exact inductionHypothesis held inside same
      (Value.distinct_array_iff.mp distinct item member)
  | format named => exact .format (alike.formatName?_of_named distinct named)
  | recordKey proper =>
    cases alike
    exact .recordKey proper
  | members listed each _ =>
    obtain ⟨others, found, items⟩ := some_of_rel alike.members?_rel listed
    refine .members found fun item member => ?_
    obtain ⟨held, inside, same⟩ := counterpart_of_forall₂ items member
    exact (each held inside).text_of_alike same
  | errorCase given named described _ =>
    obtain ⟨others, found, entries⟩ := some_of_rel alike.errorEntries?_rel given
    obtain ⟨name, present, same⟩ := some_of_rel (entries.present? "name") named
    cases same
    refine .errorCase found present fun said there => ?_
    obtain ⟨held, here, also⟩ := some_of_rel_right (entries.present? "description") there
    exact (described held here).text_of_alike also
  | node declared apart complete _ inductionHypothesis =>
    have kind := alike.kind?_eq
    obtain ⟨others, rfl, entries⟩ := alike.of_object
    refine .node (kind ▸ declared) (isDocument_eq entries ▸ apart)
      (fun field member required => ?_) fun field member value found => ?_
    · rw [← isSome_of_rel (entries.present? field.name)]
      exact complete field member required
    · obtain ⟨held, here, same⟩ := some_of_rel_right (entries.present? field.name) found
      exact inductionHypothesis field member held here same (distinct.present found)
  | child _ declared allowed inductionHypothesis =>
    exact .child (inductionHypothesis alike distinct) (alike.kind?_eq ▸ declared) allowed
  | children given _ admitted inductionHypothesis =>
    obtain ⟨others, found, entries⟩ := some_of_rel alike.children?_rel given
    have inner := distinct_children distinct found
    refine .children found (fun member inside => ?_) fun member inside => ?_
    · obtain ⟨held, there, same⟩ := entries.counterpart inner.names inside
      exact inductionHypothesis _ there same (inner.member inside)
    · obtain ⟨held, there, same⟩ := entries.counterpart inner.names inside
      exact (admitted _ there).of_alike same
  | part complete _ inductionHypothesis =>
    obtain ⟨others, rfl, entries⟩ := alike.of_object
    refine .part (fun field member required => ?_) fun field member value found => ?_
    · rw [← isSome_of_rel (entries.present? field.name)]
      exact complete field member required
    · obtain ⟨held, here, same⟩ := some_of_rel_right (entries.present? field.name) found
      exact inductionHypothesis field member held here same (distinct.present found)

/-! Normal forms of alike values. -/

/-- What the fields of a table find in alike entries is written alike, if the values of each
field are. -/
theorem Field.entries_alike {fields : List Field} (names : (fields.map (·.name)).Nodup)
    {left right : List (String × Value)} (alike : AlikeEntries Eq left right)
    (each : ∀ field ∈ fields, ∀ value other, Value.present? field.name left = some value →
      Value.present? field.name right = some other →
        (field.form.normal value).Alike Eq (field.form.normal other)) :
    AlikeEntries Eq (fields.flatMap fun field => field.entry left)
      (fields.flatMap fun field => field.entry right) := by
  intro name
  by_cases known : ∃ field ∈ fields, field.name = name
  · obtain ⟨field, member, rfl⟩ := known
    rw [findEntry_flatMap names member, findEntry_flatMap names member]
    cases found : Value.present? field.name left with
    | some value =>
      obtain ⟨other, held, -⟩ := some_of_rel (alike.present? field.name) found
      rw [entry_of_present found, entry_of_present held]
      simp only [findEntry, if_true, rel_some_iff]
      exact each field member value other found held
    | none =>
      have absent : Value.present? field.name right = none := by
        rw [← Option.not_isSome_iff_eq_none, ← isSome_of_rel (alike.present? field.name), found]
        simp
      rw [entry_of_absent found, entry_of_absent absent]
      exact AlikeEntries.refl (fun _ => rfl) _ field.name
  · have foreign (entries : List (String × Value)) :
        findEntry name (fields.flatMap fun field => field.entry entries) = none := by
      rw [findEntry_eq_none_iff]
      intro present
      obtain ⟨entry, inside, rfl⟩ := List.mem_map.mp present
      obtain ⟨field, member, written⟩ := List.mem_flatMap.mp inside
      exact known ⟨field, member, (name_of_mem_entry written).symm⟩
    rw [foreign, foreign]
    exact .none

/-- The fields of a kind have names of their own. -/
theorem nodeFields_distinct (entries : List (String × Value)) :
    ((nodeFields entries).map (·.name)).Nodup := by
  unfold nodeFields
  split
  · exact Kind.fields_distinct _
  · exact List.nodup_nil

/-- Entries that are alike declare the same kind, so they have the same fields. -/
theorem nodeFields_eq {left right : List (String × Value)} (alike : AlikeEntries Eq left right) :
    nodeFields left = nodeFields right := by
  unfold nodeFields
  rw [(alike_object_iff.mpr alike).kind?_eq]

namespace Form

variable {value other : Value} (alike : value.Alike Eq other)
include alike

/-- The normal forms of formats that are alike are alike. -/
theorem normal_format_alike (distinct : value.Distinct) (unique : other.Distinct) :
    (Form.format.normal value).Alike Eq (Form.format.normal other) := by
  have back : other.Alike Eq value := alike.symm fun _ _ => Eq.symm
  have names : formatName? value = formatName? other := Option.ext fun name =>
    ⟨alike.formatName?_of_named unique, back.formatName?_of_named distinct⟩
  rw [normal, normal, names]
  split
  · exact .string _
  · exact alike

/-- The normal forms of members that are alike are alike. -/
theorem normal_members_alike :
    (Form.members.normal value).Alike Eq (Form.members.normal other) := by
  have listed := alike.members?_rel
  rw [normal, normal]
  generalize members? value = items at listed
  generalize members? other = others at listed
  cases listed with
  | none => exact alike
  | some items =>
    cases items with
    | nil => exact .refl (fun _ => rfl) _
    | cons first rest => exact alike

/-- The normal forms of errors that are alike are alike, be they objects or lists. -/
theorem normal_errorCase_alike :
    (Form.errorCase.normal value).Alike Eq (Form.errorCase.normal other) := by
  cases given : errorEntries? value with
  | some left =>
    obtain ⟨right, found, entries⟩ := some_of_rel alike.errorEntries?_rel given
    rw [ErrorCase.normal_eq given, ErrorCase.normal_eq found, alike_object_iff]
    refine Field.entries_alike (by decide) entries fun field member first second here there => ?_
    have text : field.form = .text := by
      simp only [ErrorCase.fields, List.mem_cons, List.not_mem_nil, or_false] at member
      rcases member with rfl | rfl <;> rfl
    have same := entries.present? field.name
    rw [here, there, rel_some_iff] at same
    rwa [text, normal_text, normal_text]
  | none =>
    have missing : errorEntries? other = none := by
      rw [← Option.not_isSome_iff_eq_none, ← isSome_of_rel alike.errorEntries?_rel, given]
      simp
    rwa [normal, normal, given, missing]

end Form

/-- The normal forms of alike values are alike. The induction is on how the values are alike;
the form changes on the way down and is arbitrary. -/
theorem Form.normal_alike {form : Form} {value other : Value} (alike : value.Alike Eq other)
    (distinct : value.Distinct) (unique : other.Distinct) :
    (form.normal value).Alike Eq (form.normal other) := by
  induction alike generalizing form with
  | null => exact .refl (fun _ => rfl) _
  | bool held => exact .refl (fun _ => rfl) _
  | string held => exact .refl (fun _ => rfl) _
  | number related => exact related ▸ .refl (fun _ => rfl) _
  | @array left right lengths each inductionHypothesis =>
    have whole : (Value.array left).Alike Eq (.array right) := .array lengths each
    cases form with
    | list item =>
      rw [normal_list, normal_list, alike_array_iff, List.forall₂_map_left_iff,
        List.forall₂_map_right_iff, List.forall₂_iff_zip]
      refine ⟨lengths, fun member => ?_⟩
      obtain ⟨before, behind⟩ := List.of_mem_zip member
      exact inductionHypothesis _ _ member (Value.distinct_array_iff.mp distinct _ before)
        (Value.distinct_array_iff.mp unique _ behind)
    | format => exact normal_format_alike whole distinct unique
    | members => exact normal_members_alike whole
    | errorCase => exact normal_errorCase_alike whole
    | children position =>
      have blank (items : List Value) :
          (Form.children position).normal (.array items) = .object [] := by
        simp [normal]
      rw [blank, blank]
      exact .refl (fun _ => rfl) _
    | _ => simpa [normal] using whole
  | @object left right names each inductionHypothesis =>
    have whole : (Value.object left).Alike Eq (.object right) := .object names each
    have entries := alike_object_iff.mp whole
    -- A field is looked up by its name on both sides, so the order of the entries is gone here.
    have fields (table : List Field) (apart : (table.map (·.name)).Nodup) :
        AlikeEntries Eq (table.flatMap fun field => field.entry left)
          (table.flatMap fun field => field.entry right) :=
      Field.entries_alike apart entries fun field _ value other found held =>
        inductionHypothesis field.name value other (Option.eq_some_of_filter_eq_some found)
          (Option.eq_some_of_filter_eq_some held) (distinct.present found) (unique.present held)
    cases form with
    | format => exact normal_format_alike whole distinct unique
    | members => exact normal_members_alike whole
    | errorCase => exact normal_errorCase_alike whole
    | node =>
      rw [normal, normal, alike_object_iff, ← nodeFields_eq entries]
      exact fields _ (nodeFields_distinct left)
    | child position =>
      rw [normal, normal, alike_object_iff, ← nodeFields_eq entries]
      exact fields _ (nodeFields_distinct left)
    | part which =>
      rw [normal_part, normal_part, alike_object_iff]
      exact fields _ (by cases which <;> decide)
    | children position =>
      rw [normal_children, normal_children, alike_object_iff]
      intro name
      rw [findEntry_map, findEntry_map, rel_map_iff]
      exact rel_imp (entries name) fun value other found held =>
        inductionHypothesis name value other found held
          (distinct.member (mem_of_findEntry found)) (unique.member (mem_of_findEntry held))
    | _ => simpa [normal] using whole

/-! Nodes and documents. -/

/-- A field that holds in entries holds in alike ones. -/
theorem Field.Holds.of_alike {field : Field} {left right : List (String × Value)}
    (holds : field.Holds left) (alike : AlikeEntries Eq left right)
    (distinct : (Value.object right).Distinct) : field.Holds right := by
  refine ⟨fun required => ?_, fun value found => ?_⟩
  · rw [← isSome_of_rel (alike.present? field.name)]
    exact holds.complete required
  · obtain ⟨held, here, same⟩ := some_of_rel_right (alike.present? field.name) found
    exact (holds.each held here).of_alike same (distinct.present found)

namespace Document

/-- The head of a document is read from alike entries as well. -/
theorem readHead_of_alike {context : Context} {left right : List (String × Value)}
    {id : Identifier} (alike : AlikeEntries Eq left right)
    (read : readHead ⟨context, left⟩ = .ok id) : readHead ⟨context, right⟩ = .ok id := by
  rw [readHead_eq_ok_iff] at read ⊢
  obtain ⟨version, text, named, whole, parsed⟩ := read
  obtain ⟨number, found, same⟩ := some_of_rel (alike "lexicon") version
  obtain ⟨name, held, also⟩ := some_of_rel (alike "id") named
  cases same with
  | number related =>
    cases also
    exact ⟨related ▸ found, text, held, whole, parsed⟩

/-- What is alike to a document is a document. -/
theorem read_of_alike {value other : Value} (alike : value.Alike Eq other)
    (distinct : value.Distinct) (unique : other.Distinct) {document : Document}
    (read : Document.ofValue value = .ok document) :
    ∃ again, Document.ofValue other = .ok again := by
  obtain ⟨left, rfl, isWhole, made⟩ := ofEntries_of_ofValue read
  obtain ⟨right, rfl, entries⟩ := alike.of_object
  have there : isDocument right = true := isDocument_eq entries ▸ isWhole
  rw [Document.ofValue, Document.entriesOf, if_pos there]
  change ∃ again, Document.ofEntries {} right = .ok again
  have head := Repository.readHead_of_ofEntries made
  rw [Document.ofEntries, readHead_of_alike entries head]
  rw [Document.ofEntries, head] at made
  have holds := ((readBody_exactly distinct).of_ok made).1
  exact (readBody_exactly unique).exists_ok_iff.mpr fun field member =>
    (holds field member).of_alike entries unique

/-- A document that was read is written as the normal form of its value. -/
theorem render_of_ofValue {value : Value} (distinct : value.Distinct) {document : Document}
    (read : Document.ofValue value = .ok document) : document.render = Document.normal value := by
  obtain ⟨entries, rfl, -, made⟩ := ofEntries_of_ofValue read
  exact Document.render_of_ofEntries distinct made

/-- The normal forms of alike values are alike. -/
theorem normal_alike {value other : Value} (alike : value.Alike Eq other)
    (distinct : value.Distinct) (unique : other.Distinct) :
    (Document.normal value).Alike Eq (Document.normal other) := by
  have whole := alike
  cases alike with
  | @object left right names each =>
    have entries := alike_object_iff.mp whole
    have apart : (Document.fields.map (·.name)).Nodup := by decide
    refine alike_object_iff.mpr (Field.entries_alike apart entries
      fun field _ value other found held => ?_)
    have same := entries.present? field.name
    rw [found, held, rel_some_iff] at same
    exact Form.normal_alike same (distinct.present found) (unique.present held)
  | _ => exact whole

end Document

/-! The references of what is equal. -/

/-- What the values of equal maps list is the same up to order, if it is for equal values. -/
theorem OrderedMap.flatMap_values_perm {α β : Type} [BEq α] {left right : OrderedMap String α}
    (equal : (left == right) = true) {list : α → List β}
    (each : ∀ value other, (value == other) = true → (list value).Perm (list other)) :
    (left.values.flatMap list).Perm (right.values.flatMap list) := by
  have byKeys (map : OrderedMap String α) : map.values.flatMap list =
      map.keys.flatMap fun key => ((map.get? key).map list).getD [] := by
    rw [values, keys, List.flatMap_map, List.flatMap_map]
    refine List.flatMap_congr fun entry member => ?_
    rw [get?_of_mem member]
    rfl
  rw [byKeys, byKeys]
  refine (keys_perm_of_beq equal).flatMap fun key _ => ?_
  have same := OrderedMap.beq_iff.mp equal key
  generalize left.get? key = value at same
  generalize right.get? key = other at same
  cases same with
  | none => exact .nil
  | some held => exact each _ _ held

/-- Equal lists of references have the same texts in the same order. -/
theorem targets_of_beq {left right : List Reference} (equal : (left == right) = true) :
    targets left = targets right := by
  induction left generalizing right with
  | nil =>
    cases right with
    | nil => rfl
    | cons other others => cases equal
  | cons reference rest inductionHypothesis =>
    cases right with
    | nil => cases equal
    | cons other others =>
      rw [List.cons_beq_cons, Bool.and_eq_true, Reference.beq_iff] at equal
      rw [targets, List.map_cons, equal.1]
      exact congrArg (other.target :: ·) (inductionHypothesis equal.2)

/-- Equal unions have the same texts in the same order. -/
theorem Union.targets_eq {left right : Union} (equal : (left == right) = true) :
    targets left.members = targets right.members := by
  have both : (left.members == right.members && left.closed == right.closed) = true := equal
  rw [Bool.and_eq_true] at both
  exact targets_of_beq both.1

/-- Within an element the order of references is fixed. -/
theorem Element.targets_eq {left right : Element} (equal : (left == right) = true) :
    targets left.references = targets right.references := by
  cases left with
  | ref held =>
    cases right with
    | ref other => exact congrArg (fun text => [text]) (Reference.beq_iff.mp equal)
    | _ => cases equal
  | union held =>
    cases right with
    | union other => exact Union.targets_eq equal
    | _ => cases equal
  | _ => cases right <;> first | rfl | cases equal

/-- Equal arrays have items with the same texts in the same order. -/
theorem ArrayOf.targets_eq {left right : ArrayOf Element} (equal : (left == right) = true) :
    targets left.items.content.references = targets right.items.content.references := by
  have both : (left.items == right.items && left.bounds == right.bounds) = true := equal
  rw [Bool.and_eq_true, Described.beq_iff] at both
  exact Element.targets_eq both.1.2

/-- Equal properties have the same texts in the same order. -/
theorem Property.targets_eq {left right : Property} (equal : (left == right) = true) :
    targets (Property.references left) = targets (Property.references right) := by
  cases left with
  | single held =>
    cases right with
    | single other => exact Element.targets_eq equal
    | array other => cases equal
  | array held =>
    cases right with
    | single other => cases equal
    | array other => exact ArrayOf.targets_eq equal

/-- Only the order of properties, and with it that of their references, may differ. -/
theorem ObjectShape.targets_perm {left right : ObjectShape} (equal : (left == right) = true) :
    (targets left.references).Perm (targets right.references) := by
  have all : (left.properties == right.properties &&
    (left.required == right.required && left.nullable == right.nullable)) = true := equal
  rw [Bool.and_eq_true] at all
  rw [targets, targets, references, references, List.map_flatMap, List.map_flatMap]
  refine OrderedMap.flatMap_values_perm all.1 fun property other same => ?_
  exact .of_eq (Property.targets_eq (Described.beq_iff.mp same).2)

/-- Equal schemas of bodies have the same texts, an object's in any order of its properties. -/
theorem BodySchema.targets_perm {left right : BodySchema} (equal : (left == right) = true) :
    (targets left.references).Perm (targets right.references) := by
  cases left with
  | object held =>
    cases right with
    | object other => exact ObjectShape.targets_perm equal
    | _ => cases equal
  | ref held =>
    cases right with
    | ref other => exact .of_eq (congrArg (fun text => [text]) (Reference.beq_iff.mp equal))
    | _ => cases equal
  | union held =>
    cases right with
    | union other => exact .of_eq (Union.targets_eq equal)
    | _ => cases equal

/-- Equal inputs or outputs have the same texts in some order. -/
theorem Body.targets_perm {left right : Option (Described Body)}
    (equal : (left == right) = true) :
    (targets (Body.references left)).Perm (targets (Body.references right)) := by
  rw [option_beq_iff] at equal
  cases equal with
  | none => exact .nil
  | @some body other same =>
    have both : (body.content.encoding == other.content.encoding &&
      body.content.schema == other.content.schema) = true := (Described.beq_iff.mp same).2
    rw [Bool.and_eq_true, option_beq_iff] at both
    rw [references, references, Option.bind_some, Option.bind_some]
    generalize body.content.schema = schema at both
    generalize other.content.schema = said at both
    cases both.2 with
    | none => exact .nil
    | some schemas => exact BodySchema.targets_perm (Described.beq_iff.mp schemas).2

/-- Equal messages have the same texts in the same order. -/
theorem Message.targets_eq {left right : Option (Described Message)}
    (equal : (left == right) = true) :
    targets (Message.references left) = targets (Message.references right) := by
  rw [option_beq_iff] at equal
  cases equal with
  | none => rfl
  | @some message other same =>
    have schemas : (message.content.schema == other.content.schema) = true :=
      (Described.beq_iff.mp same).2
    rw [option_beq_iff] at schemas
    rw [references, references, Option.bind_some, Option.bind_some]
    generalize message.content.schema = schema at schemas
    generalize other.content.schema = said at schemas
    cases schemas with
    | none => rfl
    | some unions => exact Union.targets_eq (Described.beq_iff.mp unions).2

/-- Equal contents have references of the same texts. -/
theorem Content.targets_perm {left right : Content} (equal : (left == right) = true) :
    (targets left.references).Perm (targets right.references) := by
  cases left with
  | element held =>
    cases right with
    | element other => exact .of_eq (Element.targets_eq equal)
    | _ => cases equal
  | array held =>
    cases right with
    | array other => exact .of_eq (ArrayOf.targets_eq equal)
    | _ => cases equal
  | token =>
    cases right with
    | token => exact .nil
    | _ => cases equal
  | object held =>
    cases right with
    | object other => exact ObjectShape.targets_perm equal
    | _ => cases equal
  | params held =>
    cases right with
    | params other => exact .nil
    | _ => cases equal
  | record held =>
    cases right with
    | record other =>
      have both : (held.key == other.key && held.object == other.object) = true := equal
      rw [Bool.and_eq_true, Described.beq_iff] at both
      exact ObjectShape.targets_perm both.2.2
    | _ => cases equal
  | query held =>
    cases right with
    | query other =>
      have all : (held.parameters == other.parameters &&
        (held.output == other.output && held.errors == other.errors)) = true := equal
      rw [Bool.and_eq_true, Bool.and_eq_true] at all
      exact Body.targets_perm all.2.1
    | _ => cases equal
  | procedure held =>
    cases right with
    | procedure other =>
      have all : (held.parameters == other.parameters && (held.input == other.input &&
        (held.output == other.output && held.errors == other.errors))) = true := equal
      rw [Bool.and_eq_true, Bool.and_eq_true, Bool.and_eq_true] at all
      rw [targets, targets, references, references, List.map_append, List.map_append]
      exact (Body.targets_perm all.2.1).append (Body.targets_perm all.2.2.1)
    | _ => cases equal
  | subscription held =>
    cases right with
    | subscription other =>
      have all : (held.parameters == other.parameters &&
        (held.message == other.message && held.errors == other.errors)) = true := equal
      rw [Bool.and_eq_true, Bool.and_eq_true] at all
      exact .of_eq (Message.targets_eq all.2.1)
    | _ => cases equal

/-- References in the same surroundings are told apart by their texts. -/
theorem references_perm_of_targets {left right : List Reference} {base : Option Identifier}
    {repository : Option Handle}
    (first : ∀ reference ∈ left, reference.base = base ∧ reference.repository = repository)
    (second : ∀ reference ∈ right, reference.base = base ∧ reference.repository = repository)
    (same : (targets left).Perm (targets right)) : left.Perm right := by
  have restored {references : List Reference}
      (placed : ∀ reference ∈ references,
        reference.base = base ∧ reference.repository = repository) :
      (targets references).map (fun text => (⟨text, base, repository⟩ : Reference)) =
        references := by
    rw [targets, List.map_map]
    refine (List.map_congr_left fun reference member => ?_).trans (List.map_id references)
    obtain ⟨rfl, rfl⟩ := placed reference member
    rfl
  have mapped := same.map fun text => (⟨text, base, repository⟩ : Reference)
  rwa [restored first, restored second] at mapped

/-- Nodes read in one context that are equal have the same references, up to order. -/
theorem Node.references_perm {context : Context} {value other : Value} {left right : Node}
    (read : Node.ofValue context value = .ok left) (again : Node.ofValue context other = .ok right)
    (equal : (left == right) = true) :
    (Node.references left).Perm (Node.references right) := by
  have placed {value : Value} {node : Node} (read : Node.ofValue context value = .ok node) :
      ∀ reference ∈ Node.references node,
        reference.base = context.base ∧ reference.repository = context.repository := by
    cases value with
    | object entries =>
      rw [Node.ofValue] at read
      split at read
      · cases read
      · exact Node.references_of_ofEntries read
    | _ => cases read
  exact references_perm_of_targets (placed read) (placed again)
    (Content.targets_perm (Described.beq_iff.mp equal).2)

/-- So have documents that are equal, since they have the same identifier. -/
theorem Document.references_perm {value other : Value} {left right : Document}
    (read : Document.ofValue value = .ok left) (again : Document.ofValue other = .ok right)
    (equal : (left == right) = true) : left.references.Perm right.references := by
  have placed {value : Value} {document : Document} (read : Document.ofValue value = .ok document) :
      ∀ reference ∈ document.references,
        reference.base = some document.id ∧ reference.repository = none := by
    obtain ⟨entries, rfl, -, made⟩ := ofEntries_of_ofValue read
    exact Document.references_of_ofEntries made
  have all : (left.id == right.id && (left.revision == right.revision &&
    (left.description == right.description && left.definitions == right.definitions))) = true :=
    equal
  rw [Bool.and_eq_true, Bool.and_eq_true, Bool.and_eq_true, beq_iff_eq] at all
  refine references_perm_of_targets (placed read) (all.1 ▸ placed again) ?_
  rw [targets, targets, references, references, List.map_flatMap, List.map_flatMap]
  exact OrderedMap.flatMap_values_perm all.2.2.2 fun node held same =>
    Content.targets_perm (Described.beq_iff.mp same).2

/-- The order of entries does not matter. Of two values that differ, at whatever depth, only in
the order of the entries of their objects, both are read as nodes or neither is, both are read
as documents or neither is, and what is read is equal. It is even written the same but for the
order of entries, and has the same references but for their order. -/
theorem key_order_is_immaterial (first second : Value) (distinct : first.Distinct)
    (unique : second.Distinct) (alike : first.Alike Eq second) :
    (∀ context, (∃ node, Node.ofValue context first = .ok node) ↔
      ∃ node, Node.ofValue context second = .ok node) ∧
    ((∃ document, Document.ofValue first = .ok document) ↔
      ∃ document, Document.ofValue second = .ok document) ∧
    (∀ context left right, Node.ofValue context first = .ok left →
      Node.ofValue context second = .ok right → (left == right) = true ∧
        (Node.render left).Alike Eq (Node.render right) ∧
        (Node.references left).Perm (Node.references right)) ∧
    (∀ left right, Document.ofValue first = .ok left → Document.ofValue second = .ok right →
      (left == right) = true ∧ left.render.Alike Eq right.render ∧
        left.references.Perm right.references) := by
  have back : second.Alike Eq first := alike.symm fun _ _ => Eq.symm
  have equal {left right : Value} (same : left.Alike Eq right) : left.Alike Number.Equal right := by
    refine same.mono ?_
    rintro number _ rfl
    exact Number.equal_equivalence.refl number
  refine ⟨fun context => ?_, ?_, fun context left right read again => ?_,
    fun left right read again => ?_⟩
  · rw [(Node.ofValue_exactly context first distinct).exists_ok_iff,
      (Node.ofValue_exactly context second unique).exists_ok_iff]
    exact ⟨fun valid => valid.of_alike alike unique, fun valid => valid.of_alike back distinct⟩
  · constructor
    · rintro ⟨document, read⟩
      exact Document.read_of_alike alike distinct unique read
    · rintro ⟨document, read⟩
      exact Document.read_of_alike back unique distinct read
  · have written : (Node.render left).Alike Eq (Node.render right) := by
      rw [((Node.ofValue_exactly context first distinct).of_ok read).2,
        ((Node.ofValue_exactly context second unique).of_ok again).2]
      exact Form.normal_alike alike distinct unique
    have same : (left == right) = true := (Node.render_faithful left right).mpr (equal written)
    exact ⟨same, written, Node.references_perm read again same⟩
  · have written : left.render.Alike Eq right.render := by
      rw [Document.render_of_ofValue distinct read, Document.render_of_ofValue unique again]
      exact Document.normal_alike alike distinct unique
    have same : (left == right) = true :=
      (Document.render_alike_iff (Document.writable_of_ofValue read)
        (Document.writable_of_ofValue again)).mpr (equal written)
    exact ⟨same, written, Document.references_perm read again same⟩

/-- A text with a default, in two orders. -/
def greetingEntries : List (String × Value) :=
  [("type", .string "string"), ("default", .string "hello"), ("maxLength", .number ten)]

/-- The entries of an object in reverse order are read as an equal node. -/
theorem key_order_is_immaterial_greeting : ∃ left right,
    Node.ofValue {} (.object greetingEntries) = .ok left ∧
      Node.ofValue {} (.object greetingEntries.reverse) = .ok right ∧ (left == right) = true := by
  have distinct : (Value.object greetingEntries).Distinct := by simp [greetingEntries]
  have unique : (Value.object greetingEntries.reverse).Distinct := by simp [greetingEntries]
  have alike : (Value.object greetingEntries).Alike Eq (.object greetingEntries.reverse) :=
    alike_object_iff.mpr (.of_perm (fun _ => rfl) (List.reverse_perm _).symm distinct.names)
  have read : ∃ node, Node.ofValue {} (.object greetingEntries) = .ok node := by
    refine ⟨⟨none, .element (.scalar (.string ⟨none,
      { default := some "hello", maxLength := some ⟨10, by decide, by decide⟩ }⟩))⟩, ?_⟩
    change Node.ofEntries {} greetingEntries = _
    rw [Node.ofEntries]
    rfl
  obtain ⟨accepted, -, same, -⟩ := key_order_is_immaterial _ _ distinct unique alike
  obtain ⟨left, first⟩ := read
  obtain ⟨right, second⟩ := (accepted {}).mp ⟨left, first⟩
  exact ⟨left, right, first, second, (same {} left right first second).1⟩

end LexiconSchema
