import LexiconSchema.Proofs.DistinctRenderings
import LexiconSchema.Proofs.RoundTrip
import LexiconSchema.Proofs.UnorderedValues
import Mathlib.Data.List.Perm.Subperm

/-!
# Equality is equality of what is written

Nodes are equal when they declare the same, properties without regard to their order and
references by their texts. Values are equal, too, without regard to the order of entries. The
two notions are one: nothing that tells nodes apart is left out when they are written, and
nothing is written that does not tell them apart.

This is seen part by part, from the codecs of single fields up to nodes and documents. A part
that is written as an object comes down to its entries, and these to what is found under each
name. A node of one kind is never written like that of another, since its kind is among its
entries. Of documents it is used that their identifiers are read back from their texts.

Main statement: `equality_is_equality_of_renderings`.
-/

namespace LexiconSchema

open Json

/-- Equal things are exactly those that are written as equal values. -/
def Faithful {α : Type} [BEq α] (write : α → Value) : Prop :=
  ∀ left right, (left == right) = true ↔ (write left).Alike Number.Equal (write right)

/-- Equal things are exactly those that are written with equal entries. -/
def FaithfulEntries {α : Type} [BEq α] (entries : α → List (String × Value)) : Prop :=
  ∀ left right, (left == right) = true ↔ AlikeEntries Number.Equal (entries left) (entries right)

/-- What may be absent is equal when equal things are there on both sides, or nothing. -/
theorem option_beq_iff {α : Type} [BEq α] {left right : Option α} :
    (left == right) = true ↔
      Option.Rel (fun value other => (value == other) = true) left right := by
  cases left with
  | none =>
    cases right with
    | none => exact iff_of_true rfl .none
    | some other => constructor <;> rintro ⟨⟩
  | some value =>
    cases right with
    | none => constructor <;> rintro ⟨⟩
    | some other =>
      rw [rel_some_iff]
      exact Iff.rfl

namespace Faithful

variable {α : Type} [BEq α] {write : α → Value}

/-- Equal things are written as equal where both may be absent. -/
theorem rel_iff (faithful : Faithful write) {left right : Option α} :
    Option.Rel (Value.Alike Number.Equal) (left.map write) (right.map write) ↔
      Option.Rel (fun value other => (value == other) = true) left right := by
  have both : (fun value other : α => (value == other) = true) =
      fun value other => (write value).Alike Number.Equal (write other) := by
    funext value other
    exact propext (faithful value other)
  rw [rel_map_iff, both]

/-- What may be absent is equal when it is written, or left out, as equal. -/
theorem option (faithful : Faithful write) (left right : Option α) :
    (left == right) = true ↔
      Option.Rel (Value.Alike Number.Equal) (left.map write) (right.map write) :=
  option_beq_iff.trans faithful.rel_iff.symm

/-- Lists are equal when they are written as equal lists. -/
theorem list (faithful : Faithful write) :
    Faithful fun items : List α => .array (items.map write) := by
  intro left right
  dsimp only
  rw [alike_array_iff, List.forall₂_map_left_iff, List.forall₂_map_right_iff]
  induction left generalizing right with
  | nil => cases right <;> simp
  | cons item rest inductionHypothesis =>
    cases right with
    | nil => simp
    | cons other others =>
      rw [List.forall₂_cons, ← faithful item other, ← inductionHypothesis others]
      simp

end Faithful

namespace OrderedMap

variable {α : Type} [BEq α] {left right : OrderedMap String α}

/-- Equal maps have the same keys. There are as many in both, so it suffices that those of the
first are among those of the second. -/
theorem keys_perm_of_beq (equal : (left == right) = true) : left.keys.Perm right.keys := by
  have both : OrderedMap.same left right = true := equal
  rw [OrderedMap.same, Bool.and_eq_true, beq_iff_eq, List.all_eq_true] at both
  obtain ⟨sizes, each⟩ := both
  have inside : left.keys ⊆ right.keys := by
    intro key member
    obtain ⟨entry, present, rfl⟩ := List.mem_map.mp member
    have found := each entry present
    rw [← isSome_get?_iff]
    cases held : right.get? entry.1 with
    | none => simp [held] at found
    | some other => rfl
  refine (List.subperm_of_subset left.distinct inside).perm_of_length_le ?_
  simpa [keys, size] using Nat.le_of_eq sizes.symm

/-- Maps are equal when the same keys have equal values, in whatever order. -/
theorem beq_iff : (left == right) = true ↔
    ∀ name, Option.Rel (fun value other => (value == other) = true)
      (left.get? name) (right.get? name) := by
  constructor
  · intro equal name
    have moved := keys_perm_of_beq equal
    have both : OrderedMap.same left right = true := equal
    rw [OrderedMap.same, Bool.and_eq_true, List.all_eq_true] at both
    cases found : left.get? name with
    | some value =>
      have same := both.2 (name, value) (mem_of_findEntry found)
      cases held : right.get? name with
      | none => simp [held] at same
      | some other => exact .some (by simpa [held] using same)
    | none =>
      have absent : right.get? name = none := by
        rw [get?, findEntry_eq_none_iff] at found ⊢
        exact fun present => found (moved.mem_iff.mpr present)
      rw [absent]
      exact .none
  · intro each
    change OrderedMap.same left right = true
    rw [OrderedMap.same, Bool.and_eq_true, beq_iff_eq, List.all_eq_true]
    constructor
    · have moved : left.keys.Perm right.keys := by
        refine (List.perm_ext_iff_of_nodup left.distinct right.distinct).mpr fun name => ?_
        change name ∈ left.keys ↔ name ∈ right.keys
        rw [← isSome_get?_iff, ← isSome_get?_iff, isSome_of_rel (each name)]
      simpa [keys, size] using moved.length_eq
    · intro entry member
      obtain ⟨other, held, same⟩ := some_of_rel (each entry.1) (get?_of_mem member)
      simpa [held] using same

end OrderedMap

/-- A map is written faithfully if what it holds is: the order of its keys does not count. -/
theorem Faithful.mapObject {α : Type} [BEq α] {write : α → Value} (faithful : Faithful write) :
    Faithful (mapObject write) := by
  intro left right
  rw [LexiconSchema.mapObject, LexiconSchema.mapObject, alike_object_iff, OrderedMap.beq_iff]
  refine forall_congr' fun name => ?_
  rw [findEntry_map, findEntry_map, faithful.rel_iff]
  rfl

/-! Codecs. -/

namespace Json.Codec

/-- Integers of a range are written as they are: sizes, counts, durations and integers of either
sign. -/
theorem ranged_faithful {least bound : Int} {wanted : Json.Wanted}
    {below : -0x8000000000000000 ≤ least} {above : bound ≤ 0x10000000000000000} :
    Faithful (Codec.ranged least bound wanted below above).encode := by
  intro left right
  change _ ↔ (Value.number (.integer (left.widen below above))).Alike Number.Equal
    (.number (.integer (right.widen below above)))
  rw [alike_number_iff, beq_iff_eq]
  change _ ↔ (left.widen below above == right.widen below above) = true
  rw [beq_iff_eq]
  cases left
  cases right
  simp [Ranged.widen]

/-- Texts are written as they are. -/
theorem text_faithful : Faithful text.encode := fun left right => by
  rw [text, alike_string_iff, beq_iff_eq]

/-- Truth values are written as they are. -/
theorem flag_faithful : Faithful flag.encode := fun left right => by
  rw [flag, alike_bool_iff, beq_iff_eq]

/-- Numbers are written as they are, and compared within their class. -/
theorem number_faithful : Faithful number.encode := fun left right => by
  rw [number, alike_number_iff]
  rfl

/-- Formats are written by their names, which differ. -/
theorem format_faithful : Faithful Codec.format.encode := by
  intro left right
  change _ ↔ (Value.string left.name).Alike Number.Equal (.string right.name)
  rw [alike_string_iff, beq_iff_eq]
  refine ⟨congrArg StringFormat.name, fun same => ?_⟩
  have found := StringFormat.ofName?_name right
  rw [← same, StringFormat.ofName?_name] at found
  exact Option.some.inj found

/-- A list is written as faithfully as its items. -/
theorem list_faithful {α : Type} [BEq α] {item : Codec α} (faithful : Faithful item.encode) :
    Faithful item.list.encode := faithful.list

end Json.Codec

namespace Json.FieldCodec

variable {σ : Type}

/-- The entries of two records are equal when every field of one is written like that of the
other. -/
theorem equal_entries_iff {fields : List (FieldCodec σ)} {left right : σ}
    (distinct : (fields.map (·.name)).Nodup) :
    AlikeEntries Number.Equal (entries fields left) (entries fields right) ↔
      ∀ field ∈ fields,
        Option.Rel (Value.Alike Number.Equal) (field.take left) (field.take right) := by
  induction fields with
  | nil => exact iff_of_true alikeEntries_nil (List.forall_mem_nil _)
  | cons field rest inductionHypothesis =>
    obtain ⟨fresh, later⟩ := List.nodup_cons.mp distinct
    have first (record : σ) : entries (field :: rest) record =
        entryOf field.name id (field.take record) ++ entries rest record := by
      cases taken : field.take record <;> simp [entries, entryOf, taken]
    rw [first, first, alike_optional_append_iff (findEntry_entries left fresh)
      (findEntry_entries right fresh), inductionHypothesis later, List.forall_mem_cons]

/-- An optional field is written like that of another record if the fields are equal. -/
theorem optional_rel_iff {α : Type} [BEq α] {codec : Codec α} (faithful : Faithful codec.encode)
    {name : String} {get : σ → Option α} {set : Option α → σ → σ} {left right : σ} :
    Option.Rel (Value.Alike Number.Equal) ((optional name codec get set).take left)
      ((optional name codec get set).take right) ↔ (get left == get right) = true :=
  (faithful.option _ _).symm

end Json.FieldCodec

/-- The entries of two records of a block are equal when every field of one is written like that of
the other. -/
theorem Json.Block.equal_entries_iff {σ : Type} {block : Block σ} (lawful : block.Lawful)
    {left right : σ} : AlikeEntries Number.Equal (block.entries left) (block.entries right) ↔
      ∀ field ∈ block.fields,
        Option.Rel (Value.Alike Number.Equal) (field.take left) (field.take right) :=
  FieldCodec.equal_entries_iff lawful.distinct

/-! The blocks of constraints. -/

section
open Codec FieldCodec

/-- Constraints of truth values are equal exactly if they are written with equal entries. -/
theorem BooleanConstraints.block_faithful : FaithfulEntries BooleanConstraints.block.entries := by
  rintro ⟨⟩ ⟨⟩
  rw [Block.equal_entries_iff block_lawful]
  simp [block, optional_rel_iff flag_faithful]

/-- Constraints of integers are equal exactly if they are written with equal entries. -/
theorem IntegerConstraints.block_faithful : FaithfulEntries IntegerConstraints.block.entries := by
  rintro ⟨⟩ ⟨⟩
  rw [Block.equal_entries_iff block_lawful]
  simp [block, whole, optional_rel_iff ranged_faithful, optional_rel_iff (list_faithful ranged_faithful)]

/-- Constraints of numbers are equal exactly if they are written with equal entries. -/
theorem NumberConstraints.block_faithful : FaithfulEntries NumberConstraints.block.entries := by
  rintro ⟨⟩ ⟨⟩
  rw [Block.equal_entries_iff block_lawful]
  change (_ && (_ && (_ && (_ && _)))) = true ↔ _
  simp [block, optional_rel_iff number_faithful, optional_rel_iff (list_faithful number_faithful)]

/-- Constraints of strings are equal exactly if they are written with equal entries. -/
theorem StringConstraints.block_faithful : FaithfulEntries StringConstraints.block.entries := by
  rintro ⟨⟩ ⟨⟩
  rw [Block.equal_entries_iff block_lawful]
  simp [block, size, optional_rel_iff ranged_faithful, optional_rel_iff text_faithful,
    optional_rel_iff (list_faithful text_faithful)]

/-- The bounds of lengths, whatever the block is called. -/
theorem LengthBounds.blockTitled_faithful (title : String) :
    FaithfulEntries (LengthBounds.blockTitled title).entries := by
  rintro ⟨⟩ ⟨⟩
  rw [Block.equal_entries_iff (blockTitled_lawful title)]
  simp [blockTitled, size, optional_rel_iff ranged_faithful]

/-- Constraints of blobs are equal exactly if they are written with equal entries. -/
theorem BlobConstraints.block_faithful : FaithfulEntries BlobConstraints.block.entries := by
  rintro ⟨⟩ ⟨⟩
  rw [Block.equal_entries_iff block_lawful]
  simp [block, size, optional_rel_iff ranged_faithful, optional_rel_iff (list_faithful text_faithful)]

/-- Constraints of images are equal exactly if they are written with equal entries. -/
theorem ImageConstraints.block_faithful : FaithfulEntries ImageConstraints.block.entries := by
  rintro ⟨⟩ ⟨⟩
  rw [Block.equal_entries_iff block_lawful]
  simp [block, size, count, optional_rel_iff ranged_faithful,
    optional_rel_iff (list_faithful text_faithful)]

/-- Constraints of videos are equal exactly if they are written with equal entries. -/
theorem VideoConstraints.block_faithful : FaithfulEntries VideoConstraints.block.entries := by
  rintro ⟨⟩ ⟨⟩
  rw [Block.equal_entries_iff block_lawful]
  simp [block, size, count, duration, optional_rel_iff ranged_faithful,
    optional_rel_iff (list_faithful text_faithful)]

/-- Constraints of audio are equal exactly if they are written with equal entries. -/
theorem AudioConstraints.block_faithful : FaithfulEntries AudioConstraints.block.entries := by
  rintro ⟨⟩ ⟨⟩
  rw [Block.equal_entries_iff block_lawful]
  simp [block, size, duration, optional_rel_iff ranged_faithful,
    optional_rel_iff (list_faithful text_faithful)]

end

/-! Nodes by their kind. -/

/-- A kind of things is written under its kind's name, with a description before what it
declares: things are equal exactly if they are of one kind and declare equal entries, and these
never have the names of kind and description. -/
structure FaithfulContent {α : Type} [BEq α] (kind : α → Kind)
    (entries : α → List (String × Value)) : Prop where
  equal_iff : ∀ left right, (left == right) = true ↔
    kind left = kind right ∧ AlikeEntries Number.Equal (entries left) (entries right)
  kindless : ∀ content, findEntry "type" (entries content) = none
  undescribed : ∀ content, findEntry "description" (entries content) = none

/-- Kinds have names of their own. -/
theorem Kind.name_inj {left right : Kind} : left.name = right.name ↔ left = right := by
  refine ⟨fun same => ?_, congrArg Kind.name⟩
  have found := Kind.ofName?_name right
  rw [← same, Kind.ofName?_name] at found
  exact Option.some.inj found

/-- Described things are equal when descriptions and contents are. -/
theorem Described.beq_iff {α : Type} [BEq α] {left right : Described α} :
    (left == right) = true ↔
      left.description = right.description ∧ (left.content == right.content) = true := by
  change (left.description == right.description && left.content == right.content) = true ↔ _
  rw [Bool.and_eq_true, beq_iff_eq]

/-- A description, before entries of other names. -/
theorem equal_description_append_iff {description other : Option String}
    {left right : List (String × Value)} (fresh : findEntry "description" left = none)
    (absent : findEntry "description" right = none) :
    AlikeEntries Number.Equal (descriptionEntry description ++ left)
        (descriptionEntry other ++ right) ↔
      description = other ∧ AlikeEntries Number.Equal left right := by
  rw [descriptionEntry, descriptionEntry, alike_entryOf_append_iff fresh absent]
  exact and_congr_left' ((Codec.text_faithful.option _ _).symm.trans beq_iff_eq)

namespace FaithfulContent

variable {α : Type} [BEq α] {kind : α → Kind} {entries : α → List (String × Value)}

/-- Behind kind and description the objects of nodes are equal as the nodes are. -/
theorem tagged (faithful : FaithfulContent kind entries) :
    Faithful fun held : Described α =>
      taggedObject (kind held.content) held.description (entries held.content) := by
  intro left right
  have kindless (held : Described α) :
      findEntry "type" (descriptionEntry held.description ++ entries held.content) = none := by
    rw [findEntry_append, findEntry_descriptionEntry, faithful.kindless]
    rfl
  dsimp only
  rw [taggedObject, taggedObject, alike_object_iff, List.cons_append, List.cons_append,
    alike_cons_iff (kindless left) (kindless right), alike_string_iff, Kind.name_inj,
    equal_description_append_iff (faithful.undescribed _) (faithful.undescribed _),
    Described.beq_iff, faithful.equal_iff]
  tauto

/-- A single kind. -/
theorem single (only : Kind) (faithful : FaithfulEntries entries)
    (kindless : ∀ content, findEntry "type" (entries content) = none)
    (undescribed : ∀ content, findEntry "description" (entries content) = none) :
    FaithfulContent (fun _ => only) entries where
  equal_iff left right := (faithful left right).trans (and_iff_right rfl).symm
  kindless := kindless
  undescribed := undescribed

end FaithfulContent

/-- A string is written by its format and its constraints. -/
theorem StringSchema.entries_faithful : FaithfulEntries StringSchema.entries := by
  intro left right
  have fresh (schema : StringSchema) :
      findEntry "format" (StringConstraints.block.entries schema.constraints) = none :=
    findEntry_blockEntries _ (by decide)
  change (left.format == right.format && left.constraints == right.constraints) = true ↔ _
  rw [entries, entries, alike_entryOf_append_iff (fresh left) (fresh right), Bool.and_eq_true,
    StringConstraints.block_faithful left.constraints, Codec.format_faithful.option]

section
variable {α : Type} [BEq α] {kind : α → Kind} {entries : α → List (String × Value)}
  {left right : α}

/-- Things of one kind are compared by their entries. -/
theorem equal_iff_of_same {written : Prop} (same : kind left = kind right)
    (compared : (left == right) = true ↔ written) :
    (left == right) = true ↔ kind left = kind right ∧ written :=
  compared.trans (and_iff_right same).symm

/-- Things of different kinds are neither equal nor written as equal. -/
theorem equal_iff_of_differ {written : Prop} (unequal : (left == right) = false)
    (differ : kind left ≠ kind right) :
    (left == right) = true ↔ kind left = kind right ∧ written := by
  rw [unequal]
  exact iff_of_false Bool.false_ne_true fun both => differ both.1

end

/-- Scalars are written by their kind and their constraints. -/
theorem Scalar.faithful : FaithfulContent Scalar.kind Scalar.entries where
  equal_iff left right := by
    cases left with
    | boolean held =>
      cases right with
      | boolean other => exact equal_iff_of_same rfl (BooleanConstraints.block_faithful held other)
      | _ => exact equal_iff_of_differ rfl (by rintro ⟨⟩)
    | integer held =>
      cases right with
      | integer other => exact equal_iff_of_same rfl (IntegerConstraints.block_faithful held other)
      | _ => exact equal_iff_of_differ rfl (by rintro ⟨⟩)
    | number held =>
      cases right with
      | number other => exact equal_iff_of_same rfl (NumberConstraints.block_faithful held other)
      | _ => exact equal_iff_of_differ rfl (by rintro ⟨⟩)
    | string held =>
      cases right with
      | string other => exact equal_iff_of_same rfl (held.entries_faithful other)
      | _ => exact equal_iff_of_differ rfl (by rintro ⟨⟩)
  kindless scalar := by
    cases scalar with
    | string held =>
      rw [Scalar.entries, StringSchema.entries, findEntry_append, findEntry_entryOf]
      exact findEntry_blockEntries held.constraints (by decide)
    | _ => exact findEntry_blockEntries _ (by decide)
  undescribed scalar := scalar.findEntry_reserved (.inl rfl)

/-- Media are written by their kind and their constraints. -/
theorem Media.faithful : FaithfulContent Media.kind Media.entries where
  equal_iff left right := by
    cases left with
    | blob held =>
      cases right with
      | blob other => exact equal_iff_of_same rfl (BlobConstraints.block_faithful held other)
      | _ => exact equal_iff_of_differ rfl (by rintro ⟨⟩)
    | image held =>
      cases right with
      | image other => exact equal_iff_of_same rfl (ImageConstraints.block_faithful held other)
      | _ => exact equal_iff_of_differ rfl (by rintro ⟨⟩)
    | video held =>
      cases right with
      | video other => exact equal_iff_of_same rfl (VideoConstraints.block_faithful held other)
      | _ => exact equal_iff_of_differ rfl (by rintro ⟨⟩)
    | audio held =>
      cases right with
      | audio other => exact equal_iff_of_same rfl (AudioConstraints.block_faithful held other)
      | _ => exact equal_iff_of_differ rfl (by rintro ⟨⟩)
  kindless media := by cases media <;> exact findEntry_blockEntries _ (by decide)
  undescribed media := media.findEntry_reserved (.inl rfl)

/-- References are equal when their texts are. -/
theorem Reference.beq_iff {left right : Reference} :
    (left == right) = true ↔ left.target = right.target := by
  change (left.target == right.target) = true ↔ _
  exact beq_iff_eq

/-- A reference is written by its text, which is all that counts of it. -/
theorem Reference.entries_faithful : FaithfulEntries Reference.entries := by
  intro left right
  have nothing : findEntry "ref" ([] : List (String × Value)) = none := rfl
  rw [entries, entries, alike_cons_iff nothing nothing, alike_string_iff, Reference.beq_iff]
  exact (and_iff_left alikeEntries_nil).symm

/-- The members of a union are written by their texts, and no members as an object. -/
theorem Union.members_alike_iff {left right : Union} :
    left.membersValue.Alike Number.Equal right.membersValue ↔
      (left.members == right.members) = true := by
  have listed : Faithful fun members : List Reference =>
      .array (members.map fun member => .string member.target) :=
    Faithful.list fun member other => by rw [Reference.beq_iff, alike_string_iff]
  have texts (union : Union) : textList (union.members.map (·.target)) =
      .array (union.members.map fun member => .string member.target) := by
    rw [textList, List.map_map]
    rfl
  rw [membersValue, membersValue, texts, texts]
  cases left.members with
  | nil =>
    cases right.members with
    | nil => exact iff_of_true (.refl (fun _ => BEq.rfl) _) rfl
    | cons other others => constructor <;> rintro ⟨⟩
  | cons member rest =>
    cases right.members with
    | nil => constructor <;> rintro ⟨⟩
    | cons other others => exact (listed _ _).symm

/-- A union is written by the texts of its members in their order, and by whether it is closed. -/
theorem Union.entries_faithful : FaithfulEntries Union.entries := by
  intro left right
  have fresh (union : Union) : findEntry "refs" (entryOf "closed" .bool union.closed) = none := by
    rw [findEntry_entryOf]
    rfl
  change (left.members == right.members && left.closed == right.closed) = true ↔ _
  rw [entries, entries, alike_cons_iff (fresh left) (fresh right), alike_entryOf_iff,
    Union.members_alike_iff, Bool.and_eq_true, Codec.flag_faithful.option]
  rfl

/-- A scalar is of a scalar kind. -/
theorem Scalar.isScalar_kind (scalar : Scalar) : scalar.kind.isScalar = true := by
  cases scalar <;> rfl

/-- A medium is of a kind of media. -/
theorem Media.isMedia_kind (media : Media) : media.kind.isMedia = true := by
  cases media <;> rfl

/-- A kind that is not scalar is no scalar's. -/
theorem Scalar.kind_ne {kind : Kind} (scalar : Scalar) (other : kind.isScalar = false) :
    scalar.kind ≠ kind := by
  rintro rfl
  rw [scalar.isScalar_kind] at other
  cases other

/-- A kind that is not one of media is no medium's. -/
theorem Media.kind_ne {kind : Kind} (media : Media) (other : kind.isMedia = false) :
    media.kind ≠ kind := by
  rintro rfl
  rw [media.isMedia_kind] at other
  cases other

/-- A medium is of no scalar kind. -/
theorem Media.isScalar_kind (media : Media) : media.kind.isScalar = false := by
  cases media <;> rfl

/-- Elements are written by their kind and what that declares; no two of them share a kind without
being of one form. -/
theorem Element.faithful : FaithfulContent Element.kind Element.entries where
  equal_iff left right := by
    cases left with
    | scalar held =>
      cases right with
      | scalar other => exact Scalar.faithful.equal_iff held other
      | media other => exact equal_iff_of_differ rfl (held.kind_ne other.isScalar_kind)
      | _ => exact equal_iff_of_differ rfl (held.kind_ne rfl)
    | media held =>
      cases right with
      | scalar other => exact equal_iff_of_differ rfl (other.kind_ne held.isScalar_kind).symm
      | media other => exact Media.faithful.equal_iff held other
      | _ => exact equal_iff_of_differ rfl (held.kind_ne rfl)
    | bytes held =>
      cases right with
      | scalar other => exact equal_iff_of_differ rfl (other.kind_ne rfl).symm
      | media other => exact equal_iff_of_differ rfl (other.kind_ne rfl).symm
      | bytes other => exact equal_iff_of_same rfl (LengthBounds.blockTitled_faithful _ held other)
      | _ => exact equal_iff_of_differ rfl (by rintro ⟨⟩)
    | cidLink =>
      cases right with
      | scalar other => exact equal_iff_of_differ rfl (other.kind_ne rfl).symm
      | media other => exact equal_iff_of_differ rfl (other.kind_ne rfl).symm
      | cidLink => exact equal_iff_of_same rfl (iff_of_true rfl alikeEntries_nil)
      | _ => exact equal_iff_of_differ rfl (by rintro ⟨⟩)
    | unknown =>
      cases right with
      | scalar other => exact equal_iff_of_differ rfl (other.kind_ne rfl).symm
      | media other => exact equal_iff_of_differ rfl (other.kind_ne rfl).symm
      | unknown => exact equal_iff_of_same rfl (iff_of_true rfl alikeEntries_nil)
      | _ => exact equal_iff_of_differ rfl (by rintro ⟨⟩)
    | ref held =>
      cases right with
      | scalar other => exact equal_iff_of_differ rfl (other.kind_ne rfl).symm
      | media other => exact equal_iff_of_differ rfl (other.kind_ne rfl).symm
      | ref other => exact equal_iff_of_same rfl (Reference.entries_faithful held other)
      | _ => exact equal_iff_of_differ rfl (by rintro ⟨⟩)
    | union held =>
      cases right with
      | scalar other => exact equal_iff_of_differ rfl (other.kind_ne rfl).symm
      | media other => exact equal_iff_of_differ rfl (other.kind_ne rfl).symm
      | union other => exact equal_iff_of_same rfl (held.entries_faithful other)
      | _ => exact equal_iff_of_differ rfl (by rintro ⟨⟩)
  kindless element := by
    cases element with
    | scalar held => exact Scalar.faithful.kindless held
    | media held => exact Media.faithful.kindless held
    | bytes bounds => exact findEntry_blockEntries bounds (by decide)
    | union held => simp [Element.entries, Union.entries, findEntry_cons, findEntry_entryOf]
    | _ => rfl
  undescribed element := element.findEntry_reserved (.inl rfl)

/-! What nodes are put together from. -/

/-- A list of texts is written as it is. -/
theorem textList_faithful : Faithful textList := Codec.list_faithful Codec.text_faithful

/-- An array is written by its items and its bounds. -/
theorem ArrayOf.entries_faithful {ε : Type} [BEq ε] {write : Described ε → Value}
    (items : Faithful write) : FaithfulEntries (ArrayOf.entries write) := by
  intro left right
  have fresh (array : ArrayOf ε) :
      findEntry "items" (LengthBounds.arrayBlock.entries array.bounds) = none :=
    findEntry_blockEntries _ (by decide)
  change (left.items == right.items && left.bounds == right.bounds) = true ↔ _
  rw [entries, entries, alike_cons_iff (fresh left) (fresh right), ← items,
    Bool.and_eq_true, LengthBounds.blockTitled_faithful _ left.bounds]
  rfl

/-- An element with its description is written faithfully. -/
theorem Element.render_faithful : Faithful Element.render := Element.faithful.tagged

/-- An element is of no kind that is not allowed in an array. -/
theorem Element.kind_ne {kind : Kind} (element : Element)
    (other : Position.isElementKind kind = false) : element.kind ≠ kind := by
  rintro rfl
  cases element with
  | scalar held => simp [Element.kind, Position.isElementKind, held.isScalar_kind] at other
  | media held => simp [Element.kind, Position.isElementKind, held.isMedia_kind] at other
  | _ => cases other

/-- What an array declares is never called a kind. -/
theorem ArrayOf.kindless (array : ArrayOf Element) :
    findEntry "type" (array.entries Element.render) = none := by
  change findEntry "type" (LengthBounds.arrayBlock.entries array.bounds) = none
  exact findEntry_blockEntries array.bounds (by decide)

/-- The kind of a property. -/
def Property.kind (property : Property) : Kind := (Property.toContent property).kind

/-- What a property declares. -/
def Property.entries (property : Property) : List (String × Value) :=
  (Property.toContent property).entries

/-- Properties are written by their kind, arrays among them. -/
theorem Property.faithful : FaithfulContent Property.kind Property.entries where
  equal_iff left right := by
    have apart : Position.isElementKind .array = false := rfl
    cases left with
    | single held =>
      cases right with
      | single other => exact Element.faithful.equal_iff held other
      | array other => exact equal_iff_of_differ rfl (held.kind_ne apart)
    | array held =>
      cases right with
      | single other => exact equal_iff_of_differ rfl (other.kind_ne apart).symm
      | array other =>
        exact equal_iff_of_same rfl (ArrayOf.entries_faithful Element.render_faithful held other)
  kindless property := by
    cases property with
    | single held => exact Element.faithful.kindless held
    | array held => exact held.kindless
  undescribed property := Content.findEntry_reserved (.inl rfl) _

/-- A property with its description is written faithfully. -/
theorem Property.render_faithful : Faithful Property.render := by
  have written (property : Described Property) : Property.render property =
      taggedObject (Property.kind property.content) property.description
        (Property.entries property.content) := by
    obtain ⟨description, content⟩ := property
    cases content <;> rfl
  intro left right
  rw [written, written]
  exact Property.faithful.tagged left right

/-- An object is written by its properties and its two lists of names. -/
theorem ObjectShape.entries_faithful : FaithfulEntries ObjectShape.entries := by
  intro left right
  have properties (object : ObjectShape) : findEntry "properties"
      (entryOf "required" textList object.required ++
        entryOf "nullable" textList object.nullable) = none := by
    simp [findEntry_append, findEntry_entryOf]
  have required (object : ObjectShape) :
      findEntry "required" (entryOf "nullable" textList object.nullable) = none := by
    simp [findEntry_entryOf]
  change (left.properties == right.properties &&
    (left.required == right.required && left.nullable == right.nullable)) = true ↔ _
  rw [entries, entries, alike_cons_iff (properties left) (properties right),
    alike_entryOf_append_iff (required left) (required right), alike_entryOf_iff,
    ← Property.render_faithful.mapObject, ← textList_faithful.option, ← textList_faithful.option,
    Bool.and_eq_true, Bool.and_eq_true]

/-- Objects are written under their kind. -/
theorem ObjectShape.faithful : FaithfulContent (fun _ => Kind.object) ObjectShape.entries :=
  .single .object entries_faithful
    (fun object => by simp [entries, findEntry_cons, findEntry_append, findEntry_entryOf])
    fun object => by simp [entries, findEntry_cons, findEntry_append, findEntry_entryOf]

/-- Parameters are equal when they are as properties. -/
theorem Parameter.toProperty_beq (left right : Parameter) :
    (left.toProperty == right.toProperty) = (left == right) := by
  have elements (element other : ParameterElement) :
      (element.toElement == other.toElement) = (element == other) := by
    cases element <;> cases other <;> rfl
  cases left with
  | single held =>
    cases right with
    | single other => exact elements held other
    | array other => rfl
  | array held =>
    cases right with
    | single other => rfl
    | array other =>
      change ((_ && held.items.content.toElement == other.items.content.toElement) && _) =
        ((_ && held.items.content == other.items.content) && _)
      rw [elements]

/-- Parameters are written by their properties and by which of them are required. -/
theorem Parameters.entries_faithful : FaithfulEntries Parameters.entries := by
  intro left right
  have written : Faithful fun parameter : Described Parameter =>
      Property.render (parameter.map Parameter.toProperty) := by
    intro parameter other
    rw [← Property.render_faithful, Described.beq_iff, Described.beq_iff]
    change _ ↔ _ ∧ (Parameter.toProperty _ == Parameter.toProperty _) = true
    rw [Parameter.toProperty_beq]
    rfl
  have properties (parameters : Parameters) :
      findEntry "properties" (entryOf "required" textList parameters.required) = none := by
    simp [findEntry_entryOf]
  change (left.properties == right.properties && left.required == right.required) = true ↔ _
  rw [entries, entries, alike_cons_iff (properties left) (properties right), alike_entryOf_iff,
    ← written.mapObject, ← textList_faithful.option, Bool.and_eq_true]

/-- Parameters are written under their kind. -/
theorem Parameters.faithful : FaithfulContent (fun _ => Kind.params) Parameters.entries :=
  .single .params entries_faithful
    (fun parameters => by simp [entries, findEntry_cons, findEntry_entryOf])
    fun parameters => by simp [entries, findEntry_cons, findEntry_entryOf]

/-- Patterns of keys differ in what they are written as. -/
theorem RecordKey.toString_inj {left right : RecordKey} :
    left.toString = right.toString ↔ left = right := by
  cases left <;> cases right <;> simp [toString, String.ext_iff]

/-- A record is written by the pattern of its key, and by its object. -/
theorem Record.entries_faithful : FaithfulEntries Record.entries := by
  intro left right
  have key : Faithful fun key : RecordKey => Value.string key.toString := fun key other => by
    rw [alike_string_iff, RecordKey.toString_inj, beq_iff_eq]
  have fresh (record : Record) :
      findEntry "key" [("record", ObjectShape.render record.object)] = none := rfl
  have nothing : findEntry "record" ([] : List (String × Value)) = none := rfl
  change (left.key == right.key && left.object == right.object) = true ↔ _
  rw [entries, entries, alike_entryOf_append_iff (fresh left) (fresh right),
    alike_cons_iff nothing nothing, ← key.option, Bool.and_eq_true,
    ObjectShape.faithful.tagged left.object, and_iff_left alikeEntries_nil]
  rfl

/-- Unions are written under their kind. -/
theorem Union.faithful : FaithfulContent (fun _ => Kind.union) Union.entries :=
  .single .union entries_faithful
    (fun union => by simp [entries, findEntry_cons, findEntry_entryOf])
    fun union => by simp [entries, findEntry_cons, findEntry_entryOf]

/-- The kind of a body's schema. -/
def BodySchema.kind (schema : BodySchema) : Kind := schema.toContent.kind

/-- What a body's schema declares. -/
def BodySchema.entries (schema : BodySchema) : List (String × Value) := schema.toContent.entries

/-- The schemas of bodies are written by their kind. -/
theorem BodySchema.faithful : FaithfulContent BodySchema.kind BodySchema.entries where
  equal_iff left right := by
    cases left with
    | object held =>
      cases right with
      | object other => exact equal_iff_of_same rfl (held.entries_faithful other)
      | _ => exact equal_iff_of_differ rfl (by rintro ⟨⟩)
    | ref held =>
      cases right with
      | ref other => exact equal_iff_of_same rfl (Reference.entries_faithful held other)
      | _ => exact equal_iff_of_differ rfl (by rintro ⟨⟩)
    | union held =>
      cases right with
      | union other => exact equal_iff_of_same rfl (held.entries_faithful other)
      | _ => exact equal_iff_of_differ rfl (by rintro ⟨⟩)
  kindless schema := by
    cases schema with
    | object held => exact ObjectShape.faithful.kindless held
    | ref held => rfl
    | union held => exact Union.faithful.kindless held
  undescribed schema := Content.findEntry_reserved (.inl rfl) _

/-- A body's schema with its description is written faithfully. -/
theorem BodySchema.render_faithful : Faithful BodySchema.render := by
  have written (schema : Described BodySchema) : BodySchema.render schema =
      taggedObject schema.content.kind schema.description schema.content.entries := by
    obtain ⟨description, content⟩ := schema
    cases content <;> rfl
  intro left right
  rw [written, written]
  exact BodySchema.faithful.tagged left right

/-- An input or output is written by its description, its encoding and its schema. -/
theorem Body.render_faithful : Faithful Body.render := by
  intro left right
  have described (body : Body) : findEntry "description" (("encoding", .string body.encoding) ::
      entryOf "schema" BodySchema.render body.schema) = none := by
    simp [findEntry_cons, findEntry_entryOf]
  have encoding (body : Body) :
      findEntry "encoding" (entryOf "schema" BodySchema.render body.schema) = none := by
    simp [findEntry_entryOf]
  have content : (left.content == right.content) = true ↔
      left.content.encoding = right.content.encoding ∧
        (left.content.schema == right.content.schema) = true := by
    change (_ == _ && _ == _) = true ↔ _
    rw [Bool.and_eq_true, beq_iff_eq]
  rw [render, render, alike_object_iff,
    equal_description_append_iff (described left.content) (described right.content),
    alike_cons_iff (encoding left.content) (encoding right.content), alike_string_iff,
    alike_entryOf_iff, ← BodySchema.render_faithful.option, Described.beq_iff, content]

/-- A subscription's messages are written by their description and their schema. -/
theorem Message.render_faithful : Faithful Message.render := by
  intro left right
  have described (message : Message) :
      findEntry "description" (entryOf "schema" Union.render message.schema) = none := by
    simp [findEntry_entryOf]
  have schema : Faithful Union.render := Union.faithful.tagged
  rw [render, render, alike_object_iff,
    equal_description_append_iff (described left.content) (described right.content),
    alike_entryOf_iff, ← schema.option, Described.beq_iff]
  rfl

/-- An error is written by its name and its description. -/
theorem ErrorCase.render_faithful : Faithful ErrorCase.render := by
  rintro ⟨name, description⟩ ⟨other, said⟩
  have fresh (description : Option String) :
      findEntry "name" (descriptionEntry description) = none := by
    simp [findEntry_descriptionEntry]
  rw [render, render, alike_object_iff, alike_cons_iff (fresh description) (fresh said),
    alike_string_iff, beq_iff_eq, ErrorCase.mk.injEq, descriptionEntry, descriptionEntry,
    alike_entryOf_iff]
  exact and_congr_right' (beq_iff_eq.symm.trans (Codec.text_faithful.option _ _))

/-! Methods. -/

/-- Errors are written in their order, and none at all is not the same as an empty list. -/
theorem errorsEntry_faithful : FaithfulEntries errorsEntry := by
  intro left right
  rw [errorsEntry, errorsEntry, alike_entryOf_iff]
  exact ErrorCase.render_faithful.list.option left right

/-- Parameters with their description are written faithfully. -/
theorem Parameters.render_faithful : Faithful Parameters.render := Parameters.faithful.tagged

/-- Before entries of other names, parameters are equal exactly if their entries are. -/
theorem equal_parameters_append_iff {parameters other : Option (Described Parameters)}
    {left right : List (String × Value)} (fresh : findEntry "parameters" left = none)
    (absent : findEntry "parameters" right = none) :
    AlikeEntries Number.Equal (parametersEntry parameters ++ left)
        (parametersEntry other ++ right) ↔
      (parameters == other) = true ∧ AlikeEntries Number.Equal left right := by
  rw [parametersEntry, parametersEntry, alike_entryOf_append_iff fresh absent,
    ← Parameters.render_faithful.option]

/-- A method that reads is written by its parameters, its output and its errors. -/
theorem Query.entries_faithful :
    FaithfulEntries fun query : Query => Content.entries (.query query) := by
  intro left right
  have parameters (query : Query) : findEntry "parameters"
      (entryOf "output" Body.render query.output ++ errorsEntry query.errors) = none := by
    simp [errorsEntry, findEntry_append, findEntry_entryOf]
  have output (query : Query) : findEntry "output" (errorsEntry query.errors) = none := by
    simp [errorsEntry, findEntry_entryOf]
  change (left.parameters == right.parameters &&
    (left.output == right.output && left.errors == right.errors)) = true ↔ _
  simp only [Content.entries, List.append_assoc]
  rw [equal_parameters_append_iff (parameters left) (parameters right),
    alike_entryOf_append_iff (output left) (output right), ← Body.render_faithful.option,
    ← errorsEntry_faithful, Bool.and_eq_true, Bool.and_eq_true]

/-- A method that writes is written by its parameters, its input, its output and its errors. -/
theorem Procedure.entries_faithful :
    FaithfulEntries fun procedure : Procedure => Content.entries (.procedure procedure) := by
  intro left right
  have parameters (procedure : Procedure) : findEntry "parameters"
      (entryOf "input" Body.render procedure.input ++
        (entryOf "output" Body.render procedure.output ++
          errorsEntry procedure.errors)) = none := by
    simp [errorsEntry, findEntry_append, findEntry_entryOf]
  have input (procedure : Procedure) : findEntry "input"
      (entryOf "output" Body.render procedure.output ++ errorsEntry procedure.errors) = none := by
    simp [errorsEntry, findEntry_append, findEntry_entryOf]
  have output (procedure : Procedure) :
      findEntry "output" (errorsEntry procedure.errors) = none := by
    simp [errorsEntry, findEntry_entryOf]
  change (left.parameters == right.parameters && (left.input == right.input &&
    (left.output == right.output && left.errors == right.errors))) = true ↔ _
  simp only [Content.entries, List.append_assoc]
  rw [equal_parameters_append_iff (parameters left) (parameters right),
    alike_entryOf_append_iff (input left) (input right),
    alike_entryOf_append_iff (output left) (output right), ← Body.render_faithful.option,
    ← Body.render_faithful.option, ← errorsEntry_faithful, Bool.and_eq_true, Bool.and_eq_true,
    Bool.and_eq_true]

/-- A method that answers with a stream is written by its parameters, its messages and its
errors. -/
theorem Subscription.entries_faithful :
    FaithfulEntries fun subscription : Subscription =>
      Content.entries (.subscription subscription) := by
  intro left right
  have parameters (subscription : Subscription) : findEntry "parameters"
      (entryOf "message" Message.render subscription.message ++
        errorsEntry subscription.errors) = none := by
    simp [errorsEntry, findEntry_append, findEntry_entryOf]
  have message (subscription : Subscription) :
      findEntry "message" (errorsEntry subscription.errors) = none := by
    simp [errorsEntry, findEntry_entryOf]
  change (left.parameters == right.parameters &&
    (left.message == right.message && left.errors == right.errors)) = true ↔ _
  simp only [Content.entries, List.append_assoc]
  rw [equal_parameters_append_iff (parameters left) (parameters right),
    alike_entryOf_append_iff (message left) (message right), ← Message.render_faithful.option,
    ← errorsEntry_faithful, Bool.and_eq_true, Bool.and_eq_true]

/-! Nodes and documents. -/

/-- Contents are written by their kind and what that declares. -/
theorem Content.faithful : FaithfulContent Content.kind Content.entries where
  equal_iff left right := by
    cases left with
    | element held =>
      cases right with
      | element other => exact Element.faithful.equal_iff held other
      | _ => exact equal_iff_of_differ rfl (held.kind_ne rfl)
    | array held =>
      cases right with
      | element other => exact equal_iff_of_differ rfl (other.kind_ne rfl).symm
      | array other =>
        exact equal_iff_of_same rfl (ArrayOf.entries_faithful Element.render_faithful held other)
      | _ => exact equal_iff_of_differ rfl (by rintro ⟨⟩)
    | token =>
      cases right with
      | element other => exact equal_iff_of_differ rfl (other.kind_ne rfl).symm
      | token => exact equal_iff_of_same rfl (iff_of_true rfl alikeEntries_nil)
      | _ => exact equal_iff_of_differ rfl (by rintro ⟨⟩)
    | object held =>
      cases right with
      | element other => exact equal_iff_of_differ rfl (other.kind_ne rfl).symm
      | object other => exact equal_iff_of_same rfl (held.entries_faithful other)
      | _ => exact equal_iff_of_differ rfl (by rintro ⟨⟩)
    | params held =>
      cases right with
      | element other => exact equal_iff_of_differ rfl (other.kind_ne rfl).symm
      | params other => exact equal_iff_of_same rfl (held.entries_faithful other)
      | _ => exact equal_iff_of_differ rfl (by rintro ⟨⟩)
    | record held =>
      cases right with
      | element other => exact equal_iff_of_differ rfl (other.kind_ne rfl).symm
      | record other => exact equal_iff_of_same rfl (held.entries_faithful other)
      | _ => exact equal_iff_of_differ rfl (by rintro ⟨⟩)
    | query held =>
      cases right with
      | element other => exact equal_iff_of_differ rfl (other.kind_ne rfl).symm
      | query other => exact equal_iff_of_same rfl (held.entries_faithful other)
      | _ => exact equal_iff_of_differ rfl (by rintro ⟨⟩)
    | procedure held =>
      cases right with
      | element other => exact equal_iff_of_differ rfl (other.kind_ne rfl).symm
      | procedure other => exact equal_iff_of_same rfl (held.entries_faithful other)
      | _ => exact equal_iff_of_differ rfl (by rintro ⟨⟩)
    | subscription held =>
      cases right with
      | element other => exact equal_iff_of_differ rfl (other.kind_ne rfl).symm
      | subscription other => exact equal_iff_of_same rfl (held.entries_faithful other)
      | _ => exact equal_iff_of_differ rfl (by rintro ⟨⟩)
  kindless content := by
    cases content with
    | element held => exact Element.faithful.kindless held
    | array held => exact held.kindless
    | token => rfl
    | object held => exact ObjectShape.faithful.kindless held
    | params held => exact Parameters.faithful.kindless held
    | _ =>
      simp [Content.entries, Record.entries, parametersEntry, errorsEntry, findEntry,
        findEntry_append, findEntry_entryOf]
  undescribed content := content.findEntry_reserved (.inl rfl)

/-- Nodes are equal exactly if they are written as equal values. -/
theorem Node.render_faithful : Faithful Node.render := Content.faithful.tagged

namespace Document

variable {left right : Document}

/-- Identifiers that are read back from their texts are equal when these are. -/
theorem Writable.toString_inj {context other : Context} (written : left.Writable context)
    (again : right.Writable other) : left.id.toString = right.id.toString ↔ left.id = right.id := by
  refine ⟨fun same => ?_, congrArg Identifier.toString⟩
  have first := written.identified ⟨{}, []⟩
  rw [same, again.identified] at first
  exact (Except.ok.inj first).symm

/-- What a document declares behind its version and its identifier. -/
def bodyEntries (document : Document) : List (String × Value) :=
  entryOf "revision" Codec.count.encode document.revision ++
    (descriptionEntry document.description ++
      [("defs", mapObject Node.render document.definitions)])

/-- A document is written as its version, its identifier and its body. -/
theorem render_eq (document : Document) : document.render =
    .object (("lexicon", .number languageVersion) :: ("id", .string document.id.toString) ::
      document.bodyEntries) := by
  rw [render, bodyEntries, List.append_assoc]

/-- The bodies of documents are written with equal entries if all that they declare is equal. -/
theorem bodyEntries_alike_iff :
    AlikeEntries Number.Equal left.bodyEntries right.bodyEntries ↔
      (left.revision == right.revision) = true ∧ left.description = right.description ∧
        (left.definitions == right.definitions) = true := by
  have revision (document : Document) : findEntry "revision"
      (descriptionEntry document.description ++
        [("defs", mapObject Node.render document.definitions)]) = none := by
    simp [findEntry, findEntry_append, findEntry_descriptionEntry]
  have described (document : Document) : findEntry "description"
      [("defs", mapObject Node.render document.definitions)] = none := rfl
  have nothing : findEntry "defs" ([] : List (String × Value)) = none := rfl
  have count : Faithful Codec.count.encode := Codec.ranged_faithful
  rw [bodyEntries, bodyEntries, alike_entryOf_append_iff (revision left) (revision right),
    ← count.option, equal_description_append_iff (described left) (described right),
    alike_cons_iff nothing nothing, ← Node.render_faithful.mapObject,
    and_iff_left alikeEntries_nil]

/-- Documents are equal exactly if they are written as equal values, as long as their
identifiers are read back. -/
theorem render_alike_iff {context other : Context} (written : left.Writable context)
    (again : right.Writable other) :
    (left == right) = true ↔ left.render.Alike Number.Equal right.render := by
  have head (document : Document) {name : String} (apart : name = "id" ∨ name = "lexicon") :
      findEntry name document.bodyEntries = none := by
    rcases apart with rfl | rfl <;>
      simp [bodyEntries, findEntry, findEntry_append, findEntry_entryOf,
        findEntry_descriptionEntry]
  have version (document : Document) : findEntry "lexicon"
      (("id", .string document.id.toString) :: document.bodyEntries) = none :=
    head document (.inr rfl)
  have same : (Value.number languageVersion).Alike Number.Equal (.number languageVersion) :=
    .refl (fun _ => BEq.rfl) _
  change (left.id == right.id && (left.revision == right.revision &&
    (left.description == right.description && left.definitions == right.definitions))) = true ↔ _
  rw [render_eq, render_eq, alike_object_iff, alike_cons_iff (version left) (version right),
    and_iff_right same, alike_cons_iff (head left (.inl rfl)) (head right (.inl rfl)),
    alike_string_iff, written.toString_inj again, bodyEntries_alike_iff, Bool.and_eq_true,
    Bool.and_eq_true, Bool.and_eq_true, beq_iff_eq]
  rw [← beq_iff_eq (a := left.description)]

end Document

/-- What was read as a document can be written. -/
theorem Document.writable_of_ofValue {value : Value} {document : Document}
    (read : Document.ofValue value = .ok document) : document.Writable {} := by
  have writable : Yields (Document.Writable {}) (Document.ofValue value) :=
    .bind fun part _ => Document.ofEntries_yields {} part
  exact writable document read

/-- Doubles are equal if they are the same or both zero. -/
theorem Double.beq_iff {x y : Double} :
    (x == y) = true ↔ x.mantissa = 0 ∧ y.mantissa = 0 ∨ x = y := by
  change Double.same x y = true ↔ _
  simp [Double.same]

/-- Equality of numbers is an equivalence. -/
theorem Json.Number.equal_equivalence : Equivalence Number.Equal where
  refl _ := BEq.rfl
  symm {left right} same := by
    cases left with
    | integer value =>
      cases right with
      | integer other => exact (BEq.symm same : (other == value) = true)
      | float y => cases same
    | float x =>
      cases right with
      | integer other => cases same
      | float y =>
        have equal : (x == y) = true := same
        change (y == x) = true
        rw [Double.beq_iff] at equal ⊢
        exact equal.imp And.symm Eq.symm
  trans {left between right} same also := by
    cases between with
    | integer value =>
      cases left with
      | integer first =>
        obtain rfl : first = value := eq_of_beq (same : (first == value) = true)
        exact also
      | float x => cases same
    | float y =>
      cases left with
      | integer first => cases same
      | float x =>
        cases right with
        | integer other => cases also
        | float z =>
          have first : (x == y) = true := same
          have second : (y == z) = true := also
          change (x == z) = true
          rw [Double.beq_iff] at first second ⊢
          rcases first with ⟨zero, middle⟩ | rfl
          · rcases second with ⟨-, last⟩ | rfl
            · exact .inl ⟨zero, last⟩
            · exact .inl ⟨zero, middle⟩
          · exact second

/-- Rendering is faithful to equality. Nodes are equal exactly if they are written as equal
values, which are compared without regard to the order of entries, and so are documents that
were read. Hence equality of nodes is an equivalence. As what is written gives every name once,
nothing in it is hidden from the comparison, which finds entries by their names. -/
theorem equality_is_equality_of_renderings :
    (∀ left right : Node,
      (left == right) = true ↔ (Node.render left).Alike Number.Equal (Node.render right)) ∧
    (∀ first second left right, Document.ofValue first = .ok left →
      Document.ofValue second = .ok right →
      ((left == right) = true ↔ left.render.Alike Number.Equal right.render)) ∧
    (Equivalence fun left right : Node => (left == right) = true) ∧
    (∀ node : Node, (Node.render node).Distinct) ∧
    ∀ document : Document, document.render.Distinct := by
  have alike := Value.Alike.equivalence Number.equal_equivalence
  refine ⟨Node.render_faithful, fun _ _ left right read again =>
    Document.render_alike_iff (Document.writable_of_ofValue read)
      (Document.writable_of_ofValue again), ⟨fun _ => BEq.rfl, fun same => ?_, fun same also => ?_⟩,
    Node.render_distinct, Document.render_distinct⟩
  · rw [Node.render_faithful] at same ⊢
    exact alike.symm same
  · rw [Node.render_faithful] at same also ⊢
    exact alike.trans same also

/-- A document that defines nothing but tokens, with the given names. -/
def tokensEntries (names : List String) : List (String × Value) :=
  [("lexicon", .number languageVersion), ("id", .string "com.example.tokens"),
    ("defs", .object (names.map fun name => (name, .object [("type", .string "token")])))]

/-- Such a document, as it is read. -/
def tokensDocument (names : List String) : Document :=
  ⟨⟨["com", "example"], "tokens", "main"⟩, none, none,
    names.foldl (fun map name => map.insert name ⟨none, .token⟩) .empty⟩

/-- Two documents that declare the same tokens in different orders are read, and are written
alike. -/
theorem equality_is_equality_of_renderings_tokens :
    Document.ofValue (.object (tokensEntries ["like", "repost"])) =
        .ok (tokensDocument ["like", "repost"]) ∧
      Document.ofValue (.object (tokensEntries ["repost", "like"])) =
        .ok (tokensDocument ["repost", "like"]) ∧
      (tokensDocument ["like", "repost"]).render.Alike Number.Equal
        (tokensDocument ["repost", "like"]).render := by
  have read (first second : String) : Document.ofValue (.object (tokensEntries [first, second])) =
      .ok (tokensDocument [first, second]) := by
    have head : Document.readHead ⟨{}, tokensEntries [first, second]⟩ =
        .ok ⟨["com", "example"], "tokens", "main"⟩ := by rfl
    change Document.ofEntries {} (tokensEntries [first, second]) = _
    rw [Document.ofEntries, head]
    change Document.readBody ⟨{}, tokensEntries [first, second]⟩ _ = _
    rw [Document.readBody, readMap, Source.entry?_of_present (by rfl)]
    simp only [List.map_cons, List.map_nil, readMembers, readChild]
    rw [Node.ofEntries, Node.ofEntries]
    rfl
  have first := read "like" "repost"
  have second := read "repost" "like"
  exact ⟨first, second,
    (equality_is_equality_of_renderings.2.1 _ _ _ _ first second).mp (by decide)⟩

end LexiconSchema
