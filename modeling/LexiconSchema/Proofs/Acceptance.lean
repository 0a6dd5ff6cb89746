import LexiconSchema.Proofs.FieldReadings

/-!
# The reader accepts its grammar

A value is read as a node exactly if the grammar accepts it. The proof follows the reader:
each field of a kind is read exactly if it holds, a node inside is read exactly if it is
accepted in its position, and in what order the fields are read does not matter. Along the
way every node that was read turns out to be written in the normal form of its value.

Main statement: `ofValue_succeeds_iff_valid`.
-/

namespace LexiconSchema

open Json (Block Value)

/-- The entries are those of a node: they declare a kind, all of whose fields hold. -/
def IsNode (entries : List (String × Value)) : Prop :=
  ∃ kind, (Value.object entries).kind? = some kind ∧ ∀ field ∈ kind.fields, field.Holds entries

/-- An object is accepted if its entries are those of a node and of no document. -/
theorem accepts_object_iff {entries : List (String × Value)} :
    Form.node.Accepts (.object entries) ↔ isDocument entries = false ∧ IsNode entries := by
  constructor
  · intro valid
    obtain ⟨kind, declared⟩ := Form.kind?_of_accepts valid
    obtain ⟨apart, holds⟩ := (Form.accepts_node_iff declared).mp valid
    exact ⟨apart, kind, declared, holds⟩
  · rintro ⟨apart, kind, declared, holds⟩
    exact (Form.accepts_node_iff declared).mpr ⟨apart, holds⟩

/-! The kind of an object. -/

section
variable {entries : List (String × Value)} {kind : Kind}

/-- A declared kind stands under its name. -/
theorem findEntry_type (declared : (Value.object entries).kind? = some kind) :
    findEntry "type" entries = some (.string kind.name) := by
  obtain ⟨value, found, rest⟩ := Option.bind_eq_some_iff.mp declared
  obtain ⟨name, text, named⟩ := Option.bind_eq_some_iff.mp rest
  have same : kind.name = name :=
    eq_of_beq (List.find?_some (p := fun kind : Kind => kind.name == name) named)
  rw [found, same]
  cases value with
  | string held => rw [Option.some.inj text]
  | _ => cases text

/-- The kind is declared by a field that holds and is written as it is. -/
theorem type_holds (declared : (Value.object entries).kind? = some kind) :
    (Field.required "type" .text).Holds entries :=
  (Field.holds_of_present (present?_of_findEntry (findEntry_type declared) rfl)).mpr .text

/-- The declared kind is written as it was given. -/
theorem type_entry (declared : (Value.object entries).kind? = some kind) :
    (Field.required "type" .text).entry entries = [("type", .string kind.name)] := by
  rw [Field.entry_of_present (present?_of_findEntry (findEntry_type declared) rfl),
    Form.normal_text]

/-- An object that starts with the name of a kind declares it. -/
theorem kind?_cons (rest : List (String × Value)) :
    (Value.object (("type", .string kind.name) :: rest)).kind? = some kind := by
  simp [Value.kind?, findEntry_cons, Value.text?, Kind.ofName?_name]

/-- What a node is written as declares the node's kind. -/
theorem Node.kind?_render (node : Node) : (Node.render node).kind? = some (Node.kind node) :=
  kind?_cons _

/-- A node in normal form declares the same kind. -/
theorem kind?_normal (declared : (Value.object entries).kind? = some kind) :
    (Form.node.normal (.object entries)).kind? = some kind := by
  rw [Form.normal_node declared, Kind.fields, List.flatMap_cons, type_entry declared]
  exact kind?_cons _

end

/-! Nodes inside. -/

/-- The node is of the kind that the entries declare and is written as their normal form. -/
structure Node.ReadsAs (node : Node) (entries : List (String × Value)) : Prop where
  declared : (Value.object entries).kind? = some (Node.kind node)
  written : Node.render node = Form.node.normal (.object entries)

/-- The descent reads the nodes inside, exactly those, and in normal form. -/
def Descent.Reads {around : List (String × Value)} (descent : Descent around) : Prop :=
  ∀ context inner smaller, (Value.object inner).Distinct →
    Exactly (IsNode inner) (fun node => Node.ReadsAs node inner) (descent context inner smaller)

/-- A descent that reads what the grammar accepts does so from smaller entries as well. -/
theorem Descent.Reads.within {around part : List (String × Value)} {descent : Descent around}
    (reads : descent.Reads) (less : sizeOf part < sizeOf around) : (descent.within less).Reads :=
  fun context inner smaller => reads context inner (Nat.lt_trans smaller less)

/-- What a position accepted is the content that it was given. -/
theorem Position.content_of_accept {position : Position} {content : Content}
    {held : position.Accepted} (accepted : position.accept content = some held) :
    position.content held = content := by
  cases position <;> cases content with
  | element element =>
    cases element with
    | scalar scalar => cases scalar <;> cases accepted <;> rfl
    | _ => cases accepted <;> rfl
  | _ => cases accepted <;> rfl

section
variable {around : List (String × Value)} {descent : Descent around} (reads : descent.Reads)
  {position : Position} {context : Context}
include reads

/-- A value is read in a position exactly if it is accepted there. -/
theorem readChild_exactly {value : Value} (distinct : value.Distinct)
    (smaller : sizeOf value < sizeOf around) :
    Exactly ((Form.child position).Accepts value)
      (fun held => Node.render (position.node held) = (Form.child position).normal value)
      (readChild descent position context value smaller) := by
  cases value with
  | object entries =>
    rw [readChild]
    cases document : isDocument entries with
    | true =>
      refine .error fun accepted => ?_
      have valid := (Form.accepts_child_iff.mp accepted).1
      rw [(accepts_object_iff.mp valid).1] at document
      cases document
    | false =>
      have condition : IsNode entries ∧
          (∃ kind, (Value.object entries).kind? = some kind ∧ position.allows kind = true) ↔
            (Form.child position).Accepts (.object entries) := by
        rw [Form.accepts_child_iff, accepts_object_iff, and_iff_right document]
      have inner := reads context entries (Nat.lt_trans (sizeOf_entries entries) smaller) distinct
      refine inner.bind_iff (fun node same => ?_) condition
      have asked := position.isSome_accept node.content
      cases accepted : position.accept node.content with
      | some content =>
        rw [accepted] at asked
        refine .ok ⟨_, same.declared, asked.symm⟩ ?_
        have whole : position.node ⟨node.description, content⟩ = node := by
          rw [Position.node, Described.map, Position.content_of_accept accepted]
        rw [whole, same.written, Form.normal_node same.declared, Form.normal_child _ same.declared]
      | none =>
        refine .error ?_
        rintro ⟨kind, declared, allowed⟩
        obtain rfl := Option.some.inj (same.declared.symm.trans declared)
        rw [accepted] at asked
        exact Bool.false_ne_true (asked.trans allowed)
  | _ =>
    refine .error fun accepted => ?_
    obtain ⟨valid, -⟩ := Form.accepts_child_iff.mp accepted
    cases valid

/-- The members of a map are read exactly if all of them are accepted in its position. Their
names being new, each goes behind those before it. -/
theorem readMembers_exactly {members : List (String × Value)}
    {sofar : OrderedMap String (Described position.Accepted)}
    (fresh : (sofar.keys ++ members.map Prod.fst).Nodup)
    (distinct : ∀ member ∈ members, member.2.Distinct)
    (smaller : ∀ member ∈ members, sizeOf member.2 < sizeOf around) :
    Exactly (∀ member ∈ members, (Form.child position).Accepts member.2)
      (fun map => map.entries.map (fun entry => (entry.1, Node.render (position.node entry.2))) =
        sofar.entries.map (fun entry => (entry.1, Node.render (position.node entry.2))) ++
          members.map fun member => (member.1, (Form.child position).normal member.2))
      (readMembers descent position context members smaller sofar) := by
  induction members generalizing sofar with
  | nil => exact .ok (List.forall_mem_nil _) (List.append_nil _).symm
  | cons member rest inductionHypothesis =>
    obtain ⟨first, later⟩ := List.forall_mem_cons.mp distinct
    have unused : member.1 ∉ sofar.keys := fun used =>
      (List.nodup_append.mp fresh).2.2 _ used _ List.mem_cons_self rfl
    have together : (Form.child position).Accepts member.2 ∧
        (∀ other ∈ rest, (Form.child position).Accepts other.2) ↔
          ∀ other ∈ member :: rest, (Form.child position).Accepts other.2 := by
      rw [List.forall_mem_cons]
    rw [readMembers]
    refine (readChild_exactly reads first _).bind_iff (fun node written => ?_) together
    have entries : (sofar.insert member.1 node).entries = sofar.entries ++ [(member.1, node)] :=
      OrderedMap.entries_insert unused
    have stillFresh : ((sofar.insert member.1 node).keys ++ rest.map Prod.fst).Nodup := by
      rw [OrderedMap.keys, entries, List.map_append, List.append_assoc]
      exact fresh
    refine (inductionHypothesis stillFresh later _).imp Iff.rfl fun map all => all.trans ?_
    rw [entries, List.map_append, List.append_assoc, List.map_singleton, List.map_cons, written]
    rfl

end

/-! Maps of nodes. -/

section
variable {name : String} {position : Position} {entries : List (String × Value)}

/-- What stands under the name is a map of nodes that are accepted in the position. -/
def Lists (name : String) (position : Position) (entries : List (String × Value)) : Prop :=
  ∀ value, Value.present? name entries = some value →
    ∃ members, children? value = some members ∧
      ∀ member ∈ members, (Form.child position).Accepts member.2

/-- The arrays among them hold what those in the position may hold. -/
def Admitted (name : String) (position : Position) (entries : List (String × Value)) : Prop :=
  ∀ value members, Value.present? name entries = some value → children? value = some members →
    ∀ member ∈ members, position.Admits member.2

/-- A map of nodes holds if it lists nodes and its arrays are admitted. -/
theorem children_holds_iff :
    (Field.optional name (.children position)).Holds entries ↔
      Lists name position entries ∧ Admitted name position entries := by
  constructor
  · intro holds
    constructor
    · intro value present
      cases holds.each value present with
      | children given each admitted => exact ⟨_, given, each⟩
    · intro value members present found
      cases holds.each value present with
      | children given each admitted =>
        obtain rfl := Option.some.inj (given.symm.trans found)
        exact admitted
  · rintro ⟨lists, admitted⟩
    refine ⟨nofun, fun value present => ?_⟩
    obtain ⟨members, given, each⟩ := lists value present
    exact .children given each (admitted value members present given)

/-- The normal form of a map that stands under a name. -/
theorem normal_children_of_given {value : Value} {members : List (String × Value)}
    (given : children? value = some members) :
    (Form.children position).normal value =
      .object (members.map fun member => (member.1, (Form.child position).normal member.2)) := by
  cases value with
  | object held =>
    obtain rfl := Option.some.inj given
    exact Form.normal_children position held
  | array items =>
    cases items with
    | nil =>
      obtain rfl := Option.some.inj given
      simp [Form.normal]
    | cons item rest => cases given
  | _ => cases given

end

section
variable {source : Source} {descent : Descent source.entries} (reads : descent.Reads)
  (distinct : (Value.object source.entries).Distinct)
include reads distinct

/-- A map of nodes is read exactly if it lists nodes that are accepted in its position. -/
theorem readMap_exactly (name : String) (position : Position) (context : Context) :
    Exactly (Lists name position source.entries)
      (fun map => [(name, mapObject (fun held => Node.render (position.node held)) map)] =
        (Field.optional name (.children position)).entry source.entries)
      (readMap source descent name position context) := by
  rw [readMap]
  cases found : Value.present? name source.entries with
  | none =>
    rw [Source.entry?_of_absent found]
    have nothing : Lists name position source.entries := by
      intro value present
      rw [found] at present
      cases present
    refine .ok nothing ?_
    rw [Field.entry_of_absent found]
    rfl
  | some value =>
    have lists_iff {members : List (String × Value)} (given : children? value = some members) :
        (∀ member ∈ members, (Form.child position).Accepts member.2) ↔
          Lists name position source.entries := by
      constructor
      · intro each other present
        obtain rfl := Option.some.inj (found.symm.trans present)
        exact ⟨members, given, each⟩
      · intro lists
        obtain ⟨others, same, each⟩ := lists value found
        obtain rfl := Option.some.inj (given.symm.trans same)
        exact each
    have refused (other : children? value = none) : ¬ Lists name position source.entries := by
      intro lists
      obtain ⟨members, given, -⟩ := lists value found
      rw [other] at given
      cases given
    have written {members : List (String × Value)} (given : children? value = some members)
        {map : OrderedMap String (Described position.Accepted)}
        (same : map.entries.map (fun entry => (entry.1, Node.render (position.node entry.2))) =
          members.map fun member => (member.1, (Form.child position).normal member.2)) :
        [(name, mapObject (fun held => Node.render (position.node held)) map)] =
          (Field.optional name (.children position)).entry source.entries := by
      rw [Field.entry_of_present found, normal_children_of_given given, mapObject, same]
    rw [Source.entry?_of_present found]
    -- Only objects list nodes, and the empty list, which stands for an object without members.
    cases value with
    | object members =>
      have inside := distinct.present found
      have decided := @readMembers_exactly _ _ reads position (context.child name) members .empty
        inside.names (fun member => inside.member)
        (fun _ member => Nat.lt_trans (sizeOf_member member) (Value.sizeOf_present? found))
      exact (decided.imp (lists_iff rfl) fun map same => written rfl same).map_getD
    | array items =>
      cases items with
      | nil => exact .ok ((lists_iff rfl).mp (List.forall_mem_nil _)) (written rfl rfl)
      | cons item rest => exact .error (refused rfl)
    | _ => exact .error (refused rfl)

end

/-! What is found in a normal form. -/

namespace Field

variable {field : Field} {entries : List (String × Value)}

/-- The entry of a field has the field's name. -/
theorem name_of_mem_entry {entry : String × Value} (member : entry ∈ field.entry entries) :
    entry.1 = field.name := by
  cases found : Value.present? field.name entries with
  | some value =>
    rw [entry_of_present found] at member
    rw [List.mem_singleton.mp member]
  | none =>
    rw [entry_of_absent found] at member
    split at member
    · rw [List.mem_singleton.mp member]
    · cases member

/-- A field is found in the normal form under its name. -/
theorem findEntry_flatMap {fields : List Field} (distinct : (fields.map (·.name)).Nodup)
    (member : field ∈ fields) :
    findEntry field.name (fields.flatMap fun field => field.entry entries) =
      findEntry field.name (field.entry entries) := by
  have foreign {other : Field} (different : field.name ≠ other.name) :
      findEntry field.name (other.entry entries) = none := by
    rw [findEntry_eq_none_iff]
    intro present
    obtain ⟨entry, inside, same⟩ := List.mem_map.mp present
    exact different (same.symm.trans (name_of_mem_entry inside))
  induction fields with
  | nil => cases member
  | cons first rest inductionHypothesis =>
    obtain ⟨fresh, later⟩ := List.nodup_cons.mp distinct
    rw [List.flatMap_cons, findEntry_append]
    rcases List.mem_cons.mp member with rfl | inside
    · have absent : findEntry field.name (rest.flatMap fun field => field.entry entries) = none := by
        rw [findEntry_eq_none_iff]
        intro present
        obtain ⟨entry, inside, same⟩ := List.mem_map.mp present
        obtain ⟨other, among, written⟩ := List.mem_flatMap.mp inside
        refine fresh (List.mem_map.mpr ⟨other, among, ?_⟩)
        exact (name_of_mem_entry written).symm.trans same
      rw [absent, Option.or_none]
    · have different : field.name ≠ first.name := by
        intro same
        exact fresh (List.mem_map.mpr ⟨field, inside, same⟩)
      rw [foreign different, Option.none_or]
      exact inductionHypothesis later inside

end Field

/-- The fields of a kind have distinct names. -/
theorem Kind.fields_distinct (kind : Kind) : (kind.fields.map (·.name)).Nodup := by
  cases kind <;> decide

/-! Parameters. -/

/-- A parameter's array, if it is one, holds what parameters may hold. -/
def Checkable (candidate : OrArray ParameterElement Element) : Prop :=
  ∀ array, candidate = .array array → array.items.content.parameterElement?.isSome = true

/-- An element can be a parameter's if it is a scalar or unknown. -/
theorem Element.isSome_parameterElement? (element : Element) :
    element.parameterElement?.isSome = (element.kind.isScalar || element.kind == .unknown) := by
  cases element with
  | scalar scalar => cases scalar <;> rfl
  | media media => cases media <;> rfl
  | _ => rfl

/-- The items of an array that was written declare their kind. -/
theorem ArrayOf.itemsKind?_render (description : Option String) (array : ArrayOf Element) :
    (Node.render ⟨description, .array array⟩).itemsKind? = some array.items.content.kind := by
  have found : findEntry "items" (Node.entries ⟨description, .array array⟩) =
      some (Node.render (Position.arrayItems.node array.items)) := by
    rw [Node.findEntry_entries _ (by decide) (by decide)]
    rfl
  have present : Value.present? "items" (Node.entries ⟨description, .array array⟩) =
      some (Node.render (Position.arrayItems.node array.items)) := present?_of_findEntry found rfl
  rw [Node.render_eq, Value.itemsKind?]
  simp only [Value.entries?, present, Option.bind_eq_bind, Option.bind_some]
  exact Node.kind?_render _

/-- The items of an array declare the same kind in normal form. -/
theorem itemsKind?_normal {entries : List (String × Value)} {value : Value}
    (declared : (Value.object entries).kind? = some .array)
    (present : Value.present? "items" entries = some value)
    (accepted : (Form.child .arrayItems).Accepts value) :
    (Form.node.normal (.object entries)).itemsKind? = (Value.object entries).itemsKind? := by
  obtain ⟨valid, kind, itemsDeclared, -⟩ := Form.accepts_child_iff.mp accepted
  cases valid with
  | @node kind inner itsKind apart complete each =>
    let field : Field := .required "items" (.child .arrayItems)
    have member : field ∈ Kind.array.fields := by decide
    have found : findEntry "items" (Kind.array.fields.flatMap fun field => field.entry entries) =
        some ((Form.child .arrayItems).normal (.object inner)) := by
      refine (Field.findEntry_flatMap (Kind.fields_distinct .array) member).trans ?_
      rw [Field.entry_of_present present]
      rfl
    have keeps : ((Form.child .arrayItems).normal (.object inner)).kind? =
        (Value.object inner).kind? := by
      rw [Form.normal_child _ itsKind, ← Form.normal_node itsKind, kind?_normal itsKind, itsKind]
    have notNull : ((Form.child .arrayItems).normal (.object inner)).isNull = false := by
      rw [Form.normal_child _ itsKind]
      rfl
    rw [Form.normal_node declared, Value.itemsKind?, Value.itemsKind?]
    simp only [Value.entries?, present?_of_findEntry found notNull, present, Option.bind_eq_bind,
      Option.bind_some, keeps]

/-- A parameter can be checked exactly if what it was read from is admitted. -/
theorem checkable_iff {candidate : Described (OrArray ParameterElement Element)} {value : Value}
    (accepted : (Form.child .paramsProperty).Accepts value)
    (written : Node.render (Position.paramsProperty.node candidate) =
      (Form.child .paramsProperty).normal value) :
    Checkable candidate.content ↔ Position.paramsProperty.Admits value := by
  obtain ⟨valid, kind, declared, -⟩ := Form.accepts_child_iff.mp accepted
  cases valid with
  | @node _ entries itsKind apart complete each =>
    rw [Form.normal_child _ itsKind, ← Form.normal_node itsKind] at written
    have sameKind : (Value.object entries).kind? =
        some (Node.kind (Position.paramsProperty.node candidate)) := by
      rw [itsKind, ← kind?_normal itsKind, ← written, Node.kind?_render]
    obtain ⟨description, content⟩ := candidate
    cases content with
    | single held =>
      refine ⟨fun _ _ array => ?_, fun _ array same => nomatch same⟩
      rw [sameKind] at array
      cases held with
      | scalar scalar => cases scalar <;> cases array
      | unknown => cases array
    | array held =>
      have items : (Value.object entries).itemsKind? = some held.items.content.kind := by
        obtain rfl := Option.some.inj (itsKind.symm.trans sameKind)
        have field : Field.required "items" (.child .arrayItems) ∈ Kind.array.fields := by decide
        obtain ⟨value, present⟩ := Option.isSome_iff_exists.mp (complete _ field rfl)
        rw [← itemsKind?_normal sameKind present (each _ field value present), ← written]
        exact ArrayOf.itemsKind?_render description held
      have asked := held.items.content.isSome_parameterElement?
      constructor
      · intro checkable _ _
        have admitted := checkable held rfl
        rw [asked, Bool.or_eq_true, beq_iff_eq] at admitted
        exact ⟨_, items, admitted⟩
      · rintro admits array same
        obtain rfl := OrArray.array.inj same
        obtain ⟨kind, found, admitted⟩ := admits rfl sameKind
        obtain rfl := Option.some.inj (items.symm.trans found)
        rw [asked, Bool.or_eq_true, beq_iff_eq]
        exact admitted

section
variable {source : Source}

/-- A candidate becomes the parameter that it is without the check, if it can be checked. -/
theorem checkedParameter_exactly (name : String)
    (candidate : Described (OrArray ParameterElement Element)) :
    Exactly (Checkable candidate.content)
      (fun parameter => parameter.map Parameter.unchecked = candidate)
      (checkedParameter source name candidate) := by
  obtain ⟨description, content⟩ := candidate
  cases content with
  | single held => exact .ok (fun _ same => nomatch same) rfl
  | array held =>
    obtain ⟨⟨itemsDescription, element⟩, bounds⟩ := held
    have checkable : Checkable (.array ⟨⟨itemsDescription, element⟩, bounds⟩) ↔
        element.parameterElement?.isSome = true := by
      constructor
      · exact fun each => each _ rfl
      · rintro found array same
        obtain rfl := OrArray.array.inj same
        exact found
    refine Exactly.imp ?_ checkable.symm fun _ has => has
    cases element with
    | scalar scalar => exact .ok rfl rfl
    | unknown => exact .ok rfl rfl
    | _ => exact .error fun accepted => by cases accepted

/-- Candidates are checked one after the other and keep their places. -/
theorem checkedParameters_exactly
    {candidates : List (String × Described (OrArray ParameterElement Element))}
    {sofar : OrderedMap String (Described Parameter)}
    (fresh : (sofar.keys ++ candidates.map Prod.fst).Nodup) :
    Exactly (∀ candidate ∈ candidates, Checkable candidate.2.content)
      (fun map => map.entries.map (fun entry => (entry.1, entry.2.map Parameter.unchecked)) =
        sofar.entries.map (fun entry => (entry.1, entry.2.map Parameter.unchecked)) ++ candidates)
      (checkedParameters source candidates sofar) := by
  induction candidates generalizing sofar with
  | nil => exact .ok (List.forall_mem_nil _) (List.append_nil _).symm
  | cons candidate rest inductionHypothesis =>
    have unused : candidate.1 ∉ sofar.keys := fun used =>
      (List.nodup_append.mp fresh).2.2 _ used _ List.mem_cons_self rfl
    have together : Checkable candidate.2.content ∧
        (∀ other ∈ rest, Checkable other.2.content) ↔
          ∀ other ∈ candidate :: rest, Checkable other.2.content := by
      rw [List.forall_mem_cons]
    rw [checkedParameters]
    refine (checkedParameter_exactly _ _).bind_iff (fun parameter same => ?_) together
    have entries : (sofar.insert candidate.1 parameter).entries =
        sofar.entries ++ [(candidate.1, parameter)] := OrderedMap.entries_insert unused
    have stillFresh : ((sofar.insert candidate.1 parameter).keys ++ rest.map Prod.fst).Nodup := by
      rw [OrderedMap.keys, entries, List.map_append, List.append_assoc]
      exact fresh
    refine (inductionHypothesis stillFresh).imp Iff.rfl fun map all => all.trans ?_
    rw [entries, List.map_append, List.append_assoc, List.map_singleton, same]
    rfl

/-- The candidates that a map was read as can be checked exactly if what stands under its
name is admitted. -/
theorem checkable_iff_admitted {entries : List (String × Value)}
    {candidates : OrderedMap String (Described (OrArray ParameterElement Element))}
    (lists : Lists "properties" .paramsProperty entries)
    (written : [("properties",
        mapObject (fun held => Node.render (Position.paramsProperty.node held)) candidates)] =
      (Field.optional "properties" (.children .paramsProperty)).entry entries) :
    (∀ candidate ∈ candidates.entries, Checkable candidate.2.content) ↔
      Admitted "properties" .paramsProperty entries := by
  cases found : Value.present? "properties" entries with
  | none =>
    rw [Field.entry_of_absent found] at written
    have none_ : candidates.entries = [] :=
      List.map_eq_nil_iff.mp (Value.object.inj (congrArg Prod.snd (List.cons.inj written).1))
    rw [none_]
    exact ⟨fun _ value _ present => (nomatch found.symm.trans present),
      fun _ => List.forall_mem_nil _⟩
  | some value =>
    obtain ⟨members, given, each⟩ := lists value found
    rw [Field.entry_of_present found, normal_children_of_given given] at written
    have same := Value.object.inj (congrArg Prod.snd (List.cons.inj written).1)
    constructor
    · intro checkable other others present listed member inside
      obtain rfl := Option.some.inj (found.symm.trans present)
      obtain rfl := Option.some.inj (given.symm.trans listed)
      have image := List.mem_map_of_mem
        (f := fun member => (member.1, (Form.child .paramsProperty).normal member.2)) inside
      rw [← same] at image
      obtain ⟨candidate, among, equal⟩ := List.mem_map.mp image
      exact (checkable_iff (each member inside) (congrArg Prod.snd equal)).mp
        (checkable candidate among)
    · intro admitted candidate among
      have image := List.mem_map_of_mem (f := fun entry =>
        (entry.1, Node.render (Position.paramsProperty.node entry.2))) among
      rw [same] at image
      obtain ⟨member, inside, equal⟩ := List.mem_map.mp image
      exact (checkable_iff (each member inside) (congrArg Prod.snd equal.symm)).mpr
        (admitted value members found given member inside)

end

/-! The kinds, one by one. -/

/-- The reading reads a node of the kind exactly if all fields behind the kind hold, and the
node is written with their entries. -/
def Kind.ReadBy (kind : Kind) (entries : List (String × Value)) (read : Except ParseError Node) :
    Prop :=
  Exactly (∀ field ∈ Field.description :: kind.ownFields, field.Holds entries)
    (fun node => Node.kind node = kind ∧
      descriptionEntry node.description ++ node.content.entries =
        (Field.description :: kind.ownFields).flatMap fun field => field.entry entries) read

section
variable {source : Source} (distinct : (Value.object source.entries).Distinct)
include distinct

/-- The reader of a leaf with constraints accepts what its block of fields describes. -/
theorem readConstrained_readBy {σ : Type} {kind : Kind} {block : Block σ} {content : σ → Element}
    (tabled : block.Tabled kind.ownFields) (sort : ∀ held, (content held).kind = kind)
    (written : ∀ held, (content held).entries = block.entries held) :
    kind.ReadBy source.entries (readConstrained source kind block content) := by
  refine (readLeaf_exactly distinct tabled).mapError.map fun leaf same => ?_
  exact ⟨sort leaf.content, (congrArg _ (written leaf.content)).trans same⟩

/-- The reader of a leaf without fields of its own looks at nothing but the description. -/
theorem readBare_readBy {kind : Kind} {content : Content} (bare : kind.ownFields = [])
    (sort : content.kind = kind) (written : content.entries = []) :
    kind.ReadBy source.entries (readBare source kind content) := by
  rw [Kind.ReadBy, bare]
  refine (tokenBlock_tabled.ofEntries_exactly distinct).mapError.map fun leaf same => ?_
  refine ⟨sort, ?_⟩
  have described : tokenBlock.entries leaf = descriptionEntry leaf.description :=
    entries_descriptionField leaf
  rw [← same, described]
  exact (congrArg _ written).trans (List.append_nil _)

end

section
variable {source : Source}

/-- The reader of references accepts exactly the objects of the kind's fields. -/
theorem readReference_readBy : Kind.ref.ReadBy source.entries (readReference source) := by
  refine (Source.text_readBy "ref").bind_iff (fun target first =>
    Source.description_readBy.map fun description second => ⟨rfl, ?_⟩) ?_
  · simp only [Kind.ownFields, List.flatMap_cons, List.flatMap_nil, ← first, ← second]
    rfl
  · simp only [Kind.ownFields, List.forall_mem_cons]
    tauto

/-- The reader of unions accepts exactly the objects of the kind's fields, members included. -/
theorem readUnion_readBy : Kind.union.ReadBy source.entries (readUnion source) := by
  refine readUnionMembers_readBy.bind_iff (fun members first =>
    Source.description_readBy.bind fun description second =>
    (Source.flag?_readBy "closed").map fun closed third => ⟨rfl, ?_⟩) ?_
  · simp only [Kind.ownFields, List.flatMap_cons, List.flatMap_nil, List.append_nil, ← first,
      ← second, ← third]
    rfl
  · simp only [Kind.ownFields, List.forall_mem_cons]
    tauto

variable {descent : Descent source.entries} (reads : descent.Reads)
  (distinct : (Value.object source.entries).Distinct)
include reads distinct

/-- A node that may stand under a name is read exactly if its position admits it. -/
theorem optionalChild_readBy (name : String) (position : Position) (context : Context) :
    (Field.optional name (.child position)).ReadBy source.entries
      (entryOf name fun held => Node.render (position.node held))
      (source.entry? name fun value smaller =>
        readChild descent position context value smaller) :=
  Source.entry?_readBy name rfl fun _ _ present =>
    readChild_exactly reads (distinct.present present) _

/-- A node that must stand under a name is read exactly if it is there and admitted there. -/
theorem child_readBy (name : String) (position : Position) (context : Context) :
    (Field.required name (.child position)).ReadBy source.entries
      (fun held => [(name, Node.render (position.node held))])
      (source.entry name fun value smaller =>
        readChild descent position context value smaller) :=
  Source.entry_readBy name rfl fun _ _ present =>
    readChild_exactly reads (distinct.present present) _

/-- Maps of nodes in a position that admits everything. -/
theorem readMap_readBy (name : String) {position : Position} (free : position ≠ .paramsProperty)
    (context : Context) :
    (Field.optional name (.children position)).ReadBy source.entries
      (fun map => [(name, mapObject (fun held => Node.render (position.node held)) map)])
      (readMap source descent name position context) := by
  refine (readMap_exactly reads distinct name position context).imp ?_ fun _ has => has
  rw [children_holds_iff]
  exact (and_iff_left fun _ _ _ _ _ _ same => absurd same free).symm

/-- The reader of arrays accepts exactly the objects of the kind's fields, items included. -/
theorem readArray_readBy : Kind.array.ReadBy source.entries (readArray source descent) := by
  have bounds := ((LengthBounds.blockTitled_tabled "ArrayConstraints").ofEntries_exactly
    distinct).mapError (f := fun mismatch => source.fault (.badLeaf .array mismatch))
  refine (child_readBy reads distinct "items" .arrayItems _).bind_iff (fun items first =>
    bounds.bind fun held second =>
    Source.description_readBy.map fun description third => ⟨rfl, ?_⟩) ?_
  · rw [Kind.ownFields, List.flatMap_cons, List.flatMap_cons, ← first, ← third]
    exact congrArg (fun rest => descriptionEntry description ++
      ("items", Element.render items) :: rest) second
  · simp only [Kind.ownFields, List.forall_mem_cons]
    tauto

/-- The reader of objects accepts exactly those of the kind's fields, properties included. -/
theorem readObject_readBy : Kind.object.ReadBy source.entries (readObject source descent) := by
  refine Source.description_readBy.bind_iff (fun description first =>
    (readMap_readBy reads distinct "properties" (by decide) _).bind fun properties second =>
    (Source.texts?_readBy "required" distinct).bind fun required third =>
    (Source.texts?_readBy "nullable" distinct).map fun nullable fourth => ⟨rfl, ?_⟩) ?_
  · rw [← Property.render_eq] at second
    simp only [Kind.ownFields, List.flatMap_cons, List.flatMap_nil, List.append_nil, ← first,
      ← second, ← third, ← fourth]
    rfl
  · simp only [Kind.ownFields, List.forall_mem_cons]
    tauto

/-- The reader of parameters accepts exactly the objects of the kind's fields, the items of arrays
among the properties included. -/
theorem readParameters_readBy : Kind.params.ReadBy source.entries (readParameters source descent) := by
  have candidates := (readMap_exactly reads distinct "properties" .paramsProperty
    source.context).known
  refine candidates.bind_iff (fun found first =>
    ((@checkedParameters_exactly source found.entries .empty found.distinct).imp
      (checkable_iff_admitted first.1 first.2) fun _ has => has).bind fun properties second =>
    Source.description_readBy.bind fun description third =>
    (Source.texts?_readBy "required" distinct).map fun required fourth => ⟨rfl, ?_⟩) ?_
  · have candidates : found.entries =
        properties.entries.map fun entry => (entry.1, entry.2.map Parameter.unchecked) := second.symm
    have written : mapObject (fun held => Node.render (Position.paramsProperty.node held)) found =
        mapObject (fun parameter => Property.render (parameter.map Parameter.toProperty))
          properties := by
      simp only [mapObject, candidates, List.map_map, Function.comp_def, Parameter.render_eq]
    simp only [Kind.ownFields, List.flatMap_cons, List.flatMap_nil, List.append_nil, ← first.2,
      ← third, ← fourth, written]
    rfl
  · simp only [Kind.ownFields, List.forall_mem_cons, children_holds_iff]
    tauto

/-- The reader of records accepts exactly the objects of the kind's fields, the record's own object
included. -/
theorem readRecord_readBy : Kind.record.ReadBy source.entries (readRecord source descent) := by
  refine readRecordKey_readBy.bind_iff (fun key first =>
    (child_readBy reads distinct "record" .recordObject _).bind fun object second =>
    Source.description_readBy.map fun description third => ⟨rfl, ?_⟩) ?_
  · simp only [Kind.ownFields, List.flatMap_cons, List.flatMap_nil, List.append_nil, ← first,
      ← second, ← third]
    rfl
  · simp only [Kind.ownFields, List.forall_mem_cons]
    tauto

/-! Methods and their parts. -/

/-- An input or output is read exactly if its fields hold, and written as their normal form. -/
theorem readBodyObject_exactly :
    Exactly (∀ field ∈ Part.body.fields, field.Holds source.entries)
      (fun body => Body.render body = (Form.part .body).normal (.object source.entries))
      (readBodyObject source descent) := by
  refine Source.description_readBy.bind_iff (fun description first =>
    (Source.text_readBy "encoding").bind fun encoding second =>
    (optionalChild_readBy reads distinct "schema" .bodySchema _).map fun schema third => ?_) ?_
  · rw [← BodySchema.render_eq] at third
    rw [Form.normal_part]
    simp only [Part.fields, List.flatMap_cons, List.flatMap_nil, List.append_nil, ← first,
      ← second, ← third]
    rfl
  · simp only [Part.fields, List.forall_mem_cons]
    tauto

/-- A subscription's messages are read exactly if their fields hold, and written as the normal form
of these. -/
theorem readMessageObject_exactly :
    Exactly (∀ field ∈ Part.message.fields, field.Holds source.entries)
      (fun message => Message.render message = (Form.part .message).normal (.object source.entries))
      (readMessageObject source descent) := by
  refine Source.description_readBy.bind_iff (fun description first =>
    (optionalChild_readBy reads distinct "schema" .messageSchema _).map fun schema second => ?_) ?_
  · rw [Form.normal_part]
    simp only [Part.fields, List.flatMap_cons, List.flatMap_nil, List.append_nil, ← first, ← second]
    rfl
  · simp only [Part.fields, List.forall_mem_cons]
    tauto

/-- A part stands under its name and is an object. -/
theorem readPart_readBy {α : Type} (name : String) (part : Part) (write : α → Value)
    {read : (part : Source) → Descent part.entries → Except ParseError α}
    (each : ∀ (inner : Source) (within : Descent inner.entries), within.Reads →
      (Value.object inner.entries).Distinct →
      Exactly (∀ field ∈ part.fields, field.Holds inner.entries)
        (fun held => write held = (Form.part part).normal (.object inner.entries))
        (read inner within)) :
    (Field.optional name (.part part)).ReadBy source.entries (entryOf name write)
      (readPart source descent name read) := by
  refine Source.entry?_readBy name rfl fun value smaller present => ?_
  cases value with
  | object entries =>
    exact (each ⟨_, entries⟩ _ (reads.within _) (distinct.present present)).imp
      Form.accepts_part_iff.symm fun _ has => has
  | _ => exact .error fun accepted => by cases accepted

/-- The reader of methods that read accepts exactly the objects of the kind's fields. -/
theorem readQuery_readBy : Kind.query.ReadBy source.entries (readQuery source descent) := by
  refine Source.description_readBy.bind_iff (fun description first =>
    (optionalChild_readBy reads distinct "parameters" .parameters _).bind fun parameters second =>
    (readPart_readBy reads distinct "output" .body Body.render
      fun _ _ => readBodyObject_exactly).bind fun output third =>
    (readErrors_readBy distinct).map fun errors fourth => ⟨rfl, ?_⟩) ?_
  · simp only [Kind.ownFields, List.flatMap_cons, List.flatMap_nil, List.append_nil, ← first,
      ← second, ← third, ← fourth, Content.entries, List.append_assoc]
    rfl
  · simp only [Kind.ownFields, List.forall_mem_cons]
    tauto

/-- The reader of methods that write accepts exactly the objects of the kind's fields. -/
theorem readProcedure_readBy :
    Kind.procedure.ReadBy source.entries (readProcedure source descent) := by
  refine Source.description_readBy.bind_iff (fun description first =>
    (optionalChild_readBy reads distinct "parameters" .parameters _).bind fun parameters second =>
    (readPart_readBy reads distinct "input" .body Body.render
      fun _ _ => readBodyObject_exactly).bind fun input third =>
    (readPart_readBy reads distinct "output" .body Body.render
      fun _ _ => readBodyObject_exactly).bind fun output fourth =>
    (readErrors_readBy distinct).map fun errors fifth => ⟨rfl, ?_⟩) ?_
  · simp only [Kind.ownFields, List.flatMap_cons, List.flatMap_nil, List.append_nil, ← first,
      ← second, ← third, ← fourth, ← fifth, Content.entries, List.append_assoc]
    rfl
  · simp only [Kind.ownFields, List.forall_mem_cons]
    tauto

/-- The reader of methods that answer with messages accepts exactly the objects of the kind's
fields. -/
theorem readSubscription_readBy :
    Kind.subscription.ReadBy source.entries (readSubscription source descent) := by
  refine Source.description_readBy.bind_iff (fun description first =>
    (optionalChild_readBy reads distinct "parameters" .parameters _).bind fun parameters second =>
    (readPart_readBy reads distinct "message" .message Message.render
      fun _ _ => readMessageObject_exactly).bind fun message third =>
    (readErrors_readBy distinct).map fun errors fourth => ⟨rfl, ?_⟩) ?_
  · simp only [Kind.ownFields, List.flatMap_cons, List.flatMap_nil, List.append_nil, ← first,
      ← second, ← third, ← fourth, Content.entries, List.append_assoc]
    rfl
  · simp only [Kind.ownFields, List.forall_mem_cons]
    tauto

/-- A node of any kind is read exactly if the fields of its kind hold. -/
theorem readKind_readBy (kind : Kind) : kind.ReadBy source.entries (readKind source descent kind) := by
  cases kind with
  | boolean =>
    exact readConstrained_readBy distinct BooleanConstraints.block_tabled (fun _ => rfl) fun _ => rfl
  | integer =>
    exact readConstrained_readBy distinct IntegerConstraints.block_tabled (fun _ => rfl) fun _ => rfl
  | number =>
    exact readConstrained_readBy distinct NumberConstraints.block_tabled (fun _ => rfl) fun _ => rfl
  | string =>
    exact (StringSchema.ofEntries_exactly distinct).mapError.map fun leaf same => ⟨rfl, same⟩
  | bytes =>
    exact readConstrained_readBy distinct (LengthBounds.blockTitled_tabled "BytesConstraints")
      (fun _ => rfl) fun _ => rfl
  | cidLink => exact readBare_readBy distinct rfl rfl rfl
  | unknown => exact readBare_readBy distinct rfl rfl rfl
  | token => exact readBare_readBy distinct rfl rfl rfl
  | blob =>
    exact readConstrained_readBy distinct BlobConstraints.block_tabled (fun _ => rfl) fun _ => rfl
  | image =>
    exact readConstrained_readBy distinct ImageConstraints.block_tabled (fun _ => rfl) fun _ => rfl
  | video =>
    exact readConstrained_readBy distinct VideoConstraints.block_tabled (fun _ => rfl) fun _ => rfl
  | audio =>
    exact readConstrained_readBy distinct AudioConstraints.block_tabled (fun _ => rfl) fun _ => rfl
  | array => exact readArray_readBy reads distinct
  | object => exact readObject_readBy reads distinct
  | params => exact readParameters_readBy reads distinct
  | ref => exact readReference_readBy
  | union => exact readUnion_readBy
  | record => exact readRecord_readBy reads distinct
  | query => exact readQuery_readBy reads distinct
  | procedure => exact readProcedure_readBy reads distinct
  | subscription => exact readSubscription_readBy reads distinct

end

/-! Whole nodes. -/

/-- The object declares the kind that is read. -/
theorem Source.kind_exactly {source : Source} :
    Exactly (∃ kind, (Value.object source.entries).kind? = some kind)
      (fun kind => (Value.object source.entries).kind? = some kind) source.kind := by
  rw [Source.kind, Value.kind?]
  cases findEntry "type" source.entries with
  | none => exact .of_none rfl
  | some value =>
    cases value with
    | string name =>
      dsimp only [Option.bind_eq_bind, Option.bind_some, Value.text?]
      cases Kind.ofName? name with
      | some kind => exact .ok ⟨kind, rfl⟩ rfl
      | none => exact .of_none rfl
    | _ => exact .of_none rfl

/-- Entries are read as a node exactly if they are those of one. The induction is on their
size: the nodes inside are smaller. -/
theorem Node.ofEntries_exactly (context : Context) (entries : List (String × Value))
    (distinct : (Value.object entries).Distinct) :
    Exactly (IsNode entries) (fun node => Node.ReadsAs node entries)
      (Node.ofEntries context entries) := by
  have reads : (Descent.whole entries).Reads :=
    fun inner smallerEntries _ => Node.ofEntries_exactly inner smallerEntries
  have fields_iff {kind : Kind} (declared : (Value.object entries).kind? = some kind) :
      (∀ field ∈ Field.description :: kind.ownFields, field.Holds entries) ↔
        ∀ other, (Value.object entries).kind? = some other →
          ∀ field ∈ Field.description :: other.ownFields, field.Holds entries := by
    refine ⟨fun holds other same => ?_, fun each => each kind declared⟩
    obtain rfl := Option.some.inj (declared.symm.trans same)
    exact holds
  have written {kind : Kind} (declared : (Value.object entries).kind? = some kind) {node : Node}
      (sort : Node.kind node = kind)
      (same : descriptionEntry node.description ++ node.content.entries =
        (Field.description :: kind.ownFields).flatMap fun field => field.entry entries) :
      Node.ReadsAs node entries := by
    subst sort
    refine ⟨declared, ?_⟩
    rw [Form.normal_node declared, Kind.fields, List.flatMap_cons, type_entry declared, ← same]
    rfl
  have node_iff : (∃ kind, (Value.object entries).kind? = some kind) ∧
      (∀ other, (Value.object entries).kind? = some other →
        ∀ field ∈ Field.description :: other.ownFields, field.Holds entries) ↔ IsNode entries := by
    constructor
    · rintro ⟨⟨kind, declared⟩, each⟩
      exact ⟨kind, declared, List.forall_mem_cons.mpr ⟨type_holds declared, each kind declared⟩⟩
    · rintro ⟨kind, declared, holds⟩
      exact ⟨⟨kind, declared⟩, (fields_iff declared).mp (List.forall_mem_cons.mp holds).2⟩
  rw [Node.ofEntries]
  refine Source.kind_exactly.bind_iff (fun kind declared => ?_) node_iff
  exact (readKind_readBy reads distinct kind).imp (fields_iff declared)
    fun node same => written declared same.1 same.2
termination_by sizeOf entries

/-- A value is read as a node exactly if the grammar accepts it, and then the node is written
in the value's normal form. -/
theorem Node.ofValue_exactly (context : Context) (value : Value) (distinct : value.Distinct) :
    Exactly (Valid value) (fun node => Node.render node = Form.node.normal value)
      (Node.ofValue context value) := by
  cases value with
  | object entries =>
    rw [Node.ofValue]
    cases document : isDocument entries with
    | true =>
      refine .error fun valid => ?_
      rw [(accepts_object_iff.mp valid).1] at document
      cases document
    | false =>
      exact (Node.ofEntries_exactly context entries distinct).imp
        ((and_iff_right document).symm.trans accepts_object_iff.symm) fun _ same => same.written
  | _ => exact .error fun accepted => by cases accepted

/-- A value is read as a node exactly if the grammar accepts it: it is an object and no
document, it declares a kind, and of the fields of that kind those are present that must be
and each is built as its form says, the nodes inside being of the kinds that are allowed
there. Nothing else is asked of a value, and the surroundings do not matter. -/
theorem ofValue_succeeds_iff_valid (context : Context) (value : Value) (distinct : value.Distinct) :
    (∃ node, Node.ofValue context value = .ok node) ↔ Valid value :=
  (Node.ofValue_exactly context value distinct).exists_ok_iff

/-- An array of items of a kind. -/
def arrayEntries (kind : Kind) : List (String × Value) :=
  [("items", .object [("type", .string kind.name)]), ("type", .string "array")]

/-- Parameters of which one is such an array. -/
def tagsEntries (kind : Kind) : List (String × Value) :=
  [("properties", .object [("tags", .object (arrayEntries kind))]), ("required", .null),
    ("type", .string "params")]

/-- The entries of the example give every name once, whatever kind they declare. -/
theorem tagsEntries_distinct (kind : Kind) : (Value.object (tagsEntries kind)).Distinct := by
  simp [tagsEntries, arrayEntries]

/-- Fields that may be left out hold where none is present. -/
theorem Field.hold_of_absent {fields : List Field} {entries : List (String × Value)}
    (missing : ∀ field ∈ fields, field.isRequired = false ∧
      (Value.present? field.name entries).isNone = true) :
    ∀ field ∈ fields, field.Holds entries := fun field member =>
  (Field.holds_of_absent (Option.isNone_iff_eq_none.mp (missing field member).2)).mpr
    (missing field member).1

/-- An array of texts is valid: its items are, and of its other fields none is present. -/
theorem valid_arrayEntries : Valid (.object (arrayEntries .string)) := by
  have items : Valid (.object [("type", .string Kind.string.name)]) := by
    refine accepts_object_iff.mpr ⟨rfl, .string, rfl, ?_⟩
    exact List.forall_mem_cons.mpr ⟨type_holds rfl, Field.hold_of_absent (by decide)⟩
  have held : (Field.required "items" (.child .arrayItems)).Holds (arrayEntries .string) :=
    (Field.holds_of_present rfl).mpr (.child items rfl rfl)
  refine accepts_object_iff.mpr ⟨rfl, .array, rfl, ?_⟩
  refine List.forall_mem_cons.mpr ⟨type_holds rfl, List.forall_mem_cons.mpr ⟨?_, ?_⟩⟩
  · exact Field.hold_of_absent (by decide) _ (List.mem_singleton.mpr rfl)
  · exact List.forall_mem_cons.mpr ⟨held, Field.hold_of_absent (by decide)⟩

/-- A parameter may be an array of texts. -/
theorem valid_tagsEntries : Valid (.object (tagsEntries .string)) := by
  have held : (Field.optional "properties" (.children .paramsProperty)).Holds
      (tagsEntries .string) := by
    refine (Field.holds_of_present rfl).mpr (.children rfl ?_ ?_)
    · exact List.forall_mem_singleton.mpr (.child valid_arrayEntries rfl rfl)
    · exact List.forall_mem_singleton.mpr fun _ _ => ⟨.string, rfl, .inl rfl⟩
  refine accepts_object_iff.mpr ⟨rfl, .params, rfl, ?_⟩
  refine List.forall_mem_cons.mpr ⟨type_holds rfl, List.forall_mem_cons.mpr ⟨?_, ?_⟩⟩
  · exact Field.hold_of_absent (by decide) _ (List.mem_singleton.mpr rfl)
  · exact List.forall_mem_cons.mpr ⟨held, Field.hold_of_absent (by decide)⟩

/-- A parameter may not be an array of blobs. -/
theorem not_valid_tagsEntries : ¬ Valid (.object (tagsEntries .blob)) := by
  intro valid
  obtain ⟨-, kind, declared, holds⟩ := accepts_object_iff.mp valid
  obtain rfl := Option.some.inj (show some Kind.params = some kind from declared)
  have properties : (Field.optional "properties" (.children .paramsProperty)).Holds
      (tagsEntries .blob) := holds _ (by decide)
  cases properties.each _ rfl with
  | children given each admitted =>
    obtain rfl := Option.some.inj given
    obtain ⟨kind, found, scalar⟩ := List.forall_mem_singleton.mp admitted rfl rfl
    obtain rfl := Option.some.inj (show some Kind.blob = some kind from found)
    rcases scalar with scalar | unknown
    · cases scalar
    · cases unknown

/-- The same fields make a node of one kind, and none of another that does not allow them. -/
theorem ofValue_succeeds_iff_valid_tags :
    (∃ node, Node.ofValue {} (.object (tagsEntries .string)) = .ok node) ∧
      ¬ ∃ node, Node.ofValue {} (.object (tagsEntries .blob)) = .ok node :=
  ⟨(ofValue_succeeds_iff_valid {} _ (tagsEntries_distinct .string)).mpr valid_tagsEntries,
    fun read => not_valid_tagsEntries
      ((ofValue_succeeds_iff_valid {} _ (tagsEntries_distinct .blob)).mp read)⟩

end LexiconSchema
