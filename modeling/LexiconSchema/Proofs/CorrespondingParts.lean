import LexiconSchema.Proofs.Composition
import LexiconSchema.Proofs.WrittenReferences

/-!
# Nodes and values part by part

A node, what is written for it, and the value that it was read from are the same tree as far as their
parts go. What is written for a node has the renderings of the node's parts as its parts, and the
normal form of a value has the normal forms of the value's parts, always in the same positions. What
was read is written as the normal form of its value. So a path of parts leads through the node and
through the value at once, and at its end the two mention the same references.

The references of a node are those that are found at the ends of all paths.

Main statements: `Node.mem_references_iff` and `Node.mirrors_partAt?`.
-/

namespace LexiconSchema

open Json (Value)

/-! Parts at the end of a path. -/

/-- What is reached from a thing by going into one of its parts, and on from there. Parts are
counted from zero. -/
def View.partAt? {α : Type} (view : View α) (whole : α) : List Nat → Option α
  | [] => some whole
  | index :: rest => (view.parts whole)[index]?.bind fun part => view.partAt? part.2 rest

/-! References of nodes and of their parts. -/

/-- The references that a node has by itself: it may be one, or a union of some. -/
def Node.ownReferences (node : Node) : List Reference :=
  match node.content with
  | .element held => held.references
  | _ => []

/-- The references of all parts, one part after the other. -/
def referencesOf (parts : List (Position × Node)) : List Reference :=
  parts.flatMap fun part => Node.references part.2

/-- The references of parts are collected part by part. -/
theorem referencesOf_append (first later : List (Position × Node)) :
    referencesOf (first ++ later) = referencesOf first ++ referencesOf later :=
  List.flatMap_append

/-- The references of what stands in one position are those of its contents, one after the other. -/
theorem Position.referencesOf_parts {position : Position}
    (held : List (Described position.Accepted)) : referencesOf (position.parts held) =
      held.flatMap fun one => (position.content one.content).references := by
  rw [referencesOf, parts, List.flatMap_map]
  rfl

/-- As a content, a property has the same references. -/
theorem Property.references_content (property : Property) :
    (Position.objectProperty.content property).references = Property.references property := by
  cases property <;> rfl

/-- As a content, a body's schema has the same references. -/
theorem BodySchema.references_content (schema : BodySchema) :
    (Position.bodySchema.content schema).references = schema.references := by
  cases schema <;> rfl

/-- What may be a parameter is no reference. -/
theorem Parameter.references_content (parameter : Parameter) :
    (Position.paramsProperty.content parameter.unchecked).references = [] := by
  rcases parameter with element | ⟨⟨description, element⟩, bounds⟩ <;> cases element <;> rfl

/-- Parameters have no references. -/
theorem Parameters.referencesOf_parts (parameters : Option (Described Parameters)) :
    referencesOf (Position.parameters.parts parameters.toList) = [] := by
  cases parameters <;> rfl

/-- The references of an input or output are those of its schema, if there is one. -/
theorem Body.referencesOf_parts (body : Option (Described Body)) :
    referencesOf (Position.bodySchema.parts (body.bind (·.content.schema)).toList) =
      Body.references body := by
  rw [Position.referencesOf_parts, Body.references]
  cases body.bind (·.content.schema) with
  | none => rfl
  | some schema => simp [BodySchema.references_content]

/-- The references of messages are the members of their union, if there is one. -/
theorem Message.referencesOf_parts (message : Option (Described Message)) :
    referencesOf (Position.messageSchema.parts (message.bind (·.content.schema)).toList) =
      Message.references message := by
  rw [Position.referencesOf_parts, Message.references]
  cases message.bind (·.content.schema) with
  | none => rfl
  | some union => exact List.append_nil _

/-- A node has its own references, and those of its parts. -/
theorem Node.references_eq (node : Node) :
    Node.references node = Node.ownReferences node ++ referencesOf (Node.parts node) := by
  obtain ⟨description, content⟩ := node
  cases content with
  | element held => exact (List.append_nil _).symm
  | token => rfl
  | array held => exact (List.append_nil _).symm
  | object shape =>
    change shape.references = referencesOf (Position.objectProperty.parts _)
    rw [Position.referencesOf_parts]
    simp only [Property.references_content]
    rfl
  | params held =>
    change [] = referencesOf (Position.paramsProperty.parts _)
    rw [Position.referencesOf_parts, List.flatMap_map]
    simp [Parameter.references_content]
  | record held => exact (List.append_nil _).symm
  | query method =>
    change Body.references method.output = referencesOf (_ ++ _)
    rw [referencesOf_append, Parameters.referencesOf_parts, Body.referencesOf_parts]
    rfl
  | procedure method =>
    change Body.references method.input ++ Body.references method.output =
      referencesOf (_ ++ (_ ++ _))
    rw [referencesOf_append, referencesOf_append, Parameters.referencesOf_parts,
      Body.referencesOf_parts, Body.referencesOf_parts]
    rfl
  | subscription method =>
    change Message.references method.message = referencesOf (_ ++ _)
    rw [referencesOf_append, Parameters.referencesOf_parts, Message.referencesOf_parts]
    rfl

/-- A reference that a node inside declares itself is among those of the whole node. -/
theorem Node.mem_references_of_partAt? {path : List Nat} {node inner : Node}
    (inside : Node.view.partAt? node path = some inner) {reference : Reference}
    (own : reference ∈ inner.ownReferences) : reference ∈ Node.references node := by
  induction path generalizing node with
  | nil =>
    obtain rfl := Option.some.inj inside
    rw [Node.references_eq]
    exact List.mem_append_left _ own
  | cons index rest inductionHypothesis =>
    obtain ⟨part, found, within⟩ := Option.bind_eq_some_iff.mp inside
    rw [Node.references_eq]
    exact List.mem_append_right _
      (List.mem_flatMap.mpr ⟨part, List.mem_of_getElem? found, inductionHypothesis within⟩)

/-- The recursion is that of the tree: a part has fewer levels than the node around it. -/
theorem Node.partAt?_of_mem_references {node : Node} {reference : Reference}
    (member : reference ∈ Node.references node) : ∃ path inner,
      Node.view.partAt? node path = some inner ∧ reference ∈ Node.ownReferences inner := by
  rw [Node.references_eq] at member
  rcases List.mem_append.mp member with own | inside
  · exact ⟨[], node, rfl, own⟩
  · obtain ⟨⟨position, part⟩, among, further⟩ := List.mem_flatMap.mp inside
    have fewer : (Node.kind part).levels < (Node.kind node).levels :=
      Kind.levels_lt (Node.view_governs.placed node _ position part trivial rfl among)
        (Node.view_governs.allowed node _ position part trivial among rfl)
    obtain ⟨path, inner, reached, own⟩ := Node.partAt?_of_mem_references further
    obtain ⟨index, found⟩ := List.mem_iff_getElem?.mp among
    refine ⟨index :: path, inner, ?_, own⟩
    exact Option.bind_eq_some_iff.mpr ⟨_, found, reached⟩
termination_by (Node.kind node).levels

/-- The references of a node are those at the ends of its paths. -/
theorem Node.mem_references_iff {node : Node} {reference : Reference} :
    reference ∈ Node.references node ↔ ∃ path inner,
      Node.view.partAt? node path = some inner ∧ reference ∈ Node.ownReferences inner := by
  constructor
  · exact Node.partAt?_of_mem_references
  · rintro ⟨path, inner, inside, own⟩
    exact Node.mem_references_of_partAt? inside own

/-! What is written for a node has the same parts. -/

/-- The same parts in another form, each in its position. -/
def mapParts {α β : Type} (change : α → β) (parts : List (Position × α)) : List (Position × β) :=
  parts.map fun part => (part.1, change part.2)

/-- Parts are changed part by part, and each keeps its position. -/
theorem mapParts_append {α β : Type} (change : α → β) (first later : List (Position × α)) :
    mapParts change (first ++ later) = mapParts change first ++ mapParts change later :=
  List.map_append

/-- What an object by itself mentions; other values mention nothing. -/
def Json.Value.ownMentions : Value → List String
  | .object entries => mentionedBy entries
  | _ => []

section
variable {entries : List (String × Value)} {name : String}

/-- Where a child was written, the value has the written child as its part. -/
theorem childAt_written (position : Position) {held : Option (Described position.Accepted)}
    (found : findEntry name entries = held.map fun one => Node.render (position.node one)) :
    childAt name position entries = mapParts Node.render (position.parts held.toList) := by
  rw [childAt, present?_of_written found fun _ => rfl]
  cases held <;> rfl

/-- Where a map of nodes was written, the value has the written nodes as its parts, in the same
order. -/
theorem childrenAt_written (position : Position) {α : Type} {node : α → Node} {map : OrderedMap String α}
    (found : findEntry name entries = some (mapObject (fun held => Node.render (node held)) map)) :
    childrenAt name position entries =
      mapParts Node.render (map.values.map fun held => (position, node held)) := by
  rw [childrenAt, present?_of_findEntry found rfl]
  simp [mapObject, children?, mapParts, OrderedMap.values, Function.comp_def]

/-- Where an input or output was written, the value has its written schema as a part. -/
theorem schemaAt_body {body : Option (Described Body)}
    (found : findEntry name entries = body.map Body.render) :
    schemaAt name .bodySchema entries =
      mapParts Node.render (Position.bodySchema.parts (body.bind (·.content.schema)).toList) := by
  rw [schemaAt, present?_of_written found fun _ => rfl]
  rcases body with _ | ⟨description, encoding, schema⟩
  · rfl
  · have inside : findEntry "schema" (descriptionEntry description ++
        ("encoding", .string encoding) :: entryOf "schema" BodySchema.render schema) =
          schema.map fun one => Node.render (Position.bodySchema.node one) := by
      rw [← BodySchema.render_eq]
      cases description <;> cases schema <;> rfl
    exact (List.append_nil _).trans (childAt_written _ inside)

/-- Where messages were written, the value has their written union as a part. -/
theorem schemaAt_message {message : Option (Described Message)}
    (found : findEntry name entries = message.map Message.render) :
    schemaAt name .messageSchema entries =
      mapParts Node.render
        (Position.messageSchema.parts (message.bind (·.content.schema)).toList) := by
  rw [schemaAt, present?_of_written found fun _ => rfl]
  rcases message with _ | ⟨description, ⟨schema⟩⟩
  · rfl
  · have inside : findEntry "schema" (descriptionEntry description ++
        entryOf "schema" Union.render schema) =
          schema.map fun one => Node.render (Position.messageSchema.node one) := by
      cases description <;> cases schema <;> rfl
    exact (List.append_nil _).trans (childAt_written _ inside)

end

/-- Kind and description are no parts. -/
theorem Kind.parts_entries (kind : Kind) (node : Node) :
    kind.parts (Node.entries node) = kind.parts node.content.entries := by
  have present {name : String} (notKind : "type" ≠ name) (notDescription : "description" ≠ name) :
      Value.present? name (Node.entries node) = Value.present? name node.content.entries :=
    congrArg (Option.filter _) (Node.findEntry_entries node notKind notDescription)
  have items := @present "items" (by decide) (by decide)
  have properties := @present "properties" (by decide) (by decide)
  have object := @present "record" (by decide) (by decide)
  have parameters := @present "parameters" (by decide) (by decide)
  have input := @present "input" (by decide) (by decide)
  have output := @present "output" (by decide) (by decide)
  have message := @present "message" (by decide) (by decide)
  cases kind <;> simp only [Kind.parts, childAt, childrenAt, schemaAt, items, properties, object,
    parameters, input, output, message]

/-- The parts of an object are those of the kind that it declares. -/
theorem Json.Value.parts_of_kind {entries : List (String × Value)} {kind : Kind}
    (declared : (Value.object entries).kind? = some kind) :
    (Value.object entries).parts = kind.parts entries := by
  simp only [Value.parts, declared]

/-- The parts of what is written for a node are what is written for its parts. -/
theorem Node.parts_render (node : Node) :
    (Node.render node).parts = mapParts Node.render (Node.parts node) := by
  have declared : (Value.object (Node.entries node)).kind? = some (Node.kind node) :=
    Node.kind?_render node
  rw [Node.render_eq, Value.parts_of_kind declared, Kind.parts_entries]
  obtain ⟨description, content⟩ := node
  cases content with
  | element held =>
    cases held with
    | scalar held => cases held <;> rfl
    | media held => cases held <;> rfl
    | _ => rfl
  | token => rfl
  | array held =>
    have found : findEntry "items" (Content.array held).entries =
        (some held.items).map Element.render := rfl
    exact childAt_written .arrayItems found
  | object shape =>
    have found : findEntry "properties" (Content.object shape).entries = some (mapObject
        (fun held => Node.render (Position.objectProperty.node held)) shape.properties) := by
      rw [← Property.render_eq]
      rfl
    exact childrenAt_written _ found
  | params parameters =>
    have found : findEntry "properties" (Content.params parameters).entries = some (mapObject
        (fun parameter => Node.render (Position.paramsProperty.node
          (parameter.map Parameter.unchecked))) parameters.properties) := by
      rw [← funext Parameter.render_eq]
      rfl
    refine (childrenAt_written _ found).trans (congrArg (mapParts Node.render) ?_)
    change _ = Position.paramsProperty.parts (parameters.properties.values.map _)
    rw [Position.parts, List.map_map]
    rfl
  | record held =>
    have found : findEntry "record" (Content.record held).entries =
        (some held.object).map ObjectShape.render := by
      simp [Content.entries, Record.entries, findEntry_append, findEntry_entryOf, findEntry]
    exact childAt_written .recordObject found
  | query method =>
    obtain ⟨parameters, output, -⟩ := method.findEntry_entries
    change _ = mapParts Node.render (_ ++ _)
    rw [mapParts_append]
    exact congrArg₂ _ (childAt_written .parameters parameters) (schemaAt_body output)
  | procedure method =>
    obtain ⟨parameters, input, output, -⟩ := method.findEntry_entries
    change _ = mapParts Node.render (_ ++ (_ ++ _))
    rw [mapParts_append, mapParts_append]
    exact congrArg₂ _ (childAt_written .parameters parameters)
      (congrArg₂ _ (schemaAt_body input) (schemaAt_body output))
  | subscription method =>
    obtain ⟨parameters, message, -⟩ := method.findEntry_entries
    change _ = mapParts Node.render (_ ++ _)
    rw [mapParts_append]
    exact congrArg₂ _ (childAt_written .parameters parameters) (schemaAt_message message)

/-- What is written for a node mentions the node's own references itself. -/
theorem Node.ownMentions_render (node : Node) :
    (Node.render node).ownMentions = targets (Node.ownReferences node) := by
  obtain ⟨description, content⟩ := node
  have plain (other : [Kind.ref, .union].contains content.kind = false) :
      (Node.render ⟨description, content⟩).ownMentions = [] :=
    Value.mentionedBy_of_plain other rfl
  cases content with
  | element held =>
    cases held with
    | ref held => exact mentionedBy_reference description held
    | union held => exact mentionedBy_union description held
    | scalar held => exact plain (by cases held <;> rfl)
    | media held => exact plain (by cases held <;> rfl)
    | _ => exact plain rfl
  | _ => exact plain rfl

/-! The normal form of a value has the same parts. -/

/-- What is accepted is not written as `null`. -/
theorem Form.isNull_normal {form : Form} {value : Value} (accepted : form.Accepts value) :
    (form.normal value).isNull = false := by
  cases accepted with
  | text => rw [normal_text]; rfl
  | flag => simp [normal, Value.isNull]
  | number => simp [normal, Value.isNull]
  | integer above below => simp [normal, Value.isNull]
  | list each => rw [normal_list]; rfl
  | format named => rw [normal, named]; rfl
  | recordKey proper => simp [normal, Value.isNull]
  | members listed each =>
    rw [normal_members listed]
    split <;> rfl
  | errorCase given named described => rw [normal, given]; rfl
  | node declared apart complete each => rw [normal_node declared]; rfl
  | child valid declared allowed =>
    cases valid with
    | node declared apart complete each => rw [normal_child _ declared]; rfl
  | children given each admitted => rw [normal_children_of_given given]; rfl
  | part complete each => rw [normal_part]; rfl

/-- The normal form of a value does not depend on where it stands. -/
theorem Form.normal_child_eq (position : Position) (value : Value) :
    (Form.child position).normal value = Form.node.normal value := by
  cases value <;> simp [normal]

/-- The only entry is found under its name. -/
theorem findEntry_alone (name : String) (value : Value) :
    findEntry name [(name, value)] = some value := by
  simp [findEntry]

section
variable {fields : List Field} {entries : List (String × Value)} {name : String}
  {position : Position} (distinct : (fields.map (·.name)).Nodup)
include distinct

/-- A field that is no map is present in normal form exactly if it is present. -/
theorem Field.present?_normal {field : Field} (member : field ∈ fields)
    (holds : field.Holds entries) (single : field.form.isMap = false) :
    Value.present? field.name (fields.flatMap fun field => field.entry entries) =
      (Value.present? field.name entries).map field.form.normal := by
  have found := @Field.findEntry_flatMap _ entries _ distinct member
  cases present : Value.present? field.name entries with
  | none =>
    rw [Field.entry_of_absent present, single] at found
    exact present?_of_absent found
  | some value =>
    rw [Field.entry_of_present present] at found
    exact present?_of_findEntry (found.trans (findEntry_alone _ _))
      (Form.isNull_normal (holds.each value present))

/-- In normal form a child is where it was, itself in normal form. -/
theorem childAt_normal {isRequired : Bool} (member : ⟨name, .child position, isRequired⟩ ∈ fields)
    (holds : Field.Holds ⟨name, .child position, isRequired⟩ entries) :
    childAt name position (fields.flatMap fun field => field.entry entries) =
      mapParts Form.node.normal (childAt name position entries) := by
  rw [childAt, childAt, Field.present?_normal distinct member holds rfl]
  cases Value.present? name entries with
  | none => rfl
  | some value =>
    change [(position, (Form.child position).normal value)] = _
    rw [Form.normal_child_eq]
    rfl

/-- In normal form the children of a map are where they were, in the same order, each in normal
form. -/
theorem childrenAt_normal (member : Field.optional name (.children position) ∈ fields)
    (holds : (Field.optional name (.children position)).Holds entries) :
    childrenAt name position (fields.flatMap fun field => field.entry entries) =
      mapParts Form.node.normal (childrenAt name position entries) := by
  have found := @Field.findEntry_flatMap _ entries _ distinct member
  cases present : Value.present? name entries with
  | none =>
    rw [Field.entry_of_absent present] at found
    have empty : Value.present? name (fields.flatMap fun field => field.entry entries) =
        some (.object []) := present?_of_findEntry (found.trans (findEntry_alone _ _)) rfl
    rw [childrenAt, childrenAt, present, empty]
    rfl
  | some value =>
    rw [Field.entry_of_present present] at found
    cases holds.each value present with
    | @children _ _ members given each admitted =>
      have there : Value.present? name (fields.flatMap fun field => field.entry entries) =
          some (.object (members.map fun member =>
            (member.1, (Form.child position).normal member.2))) := by
        rw [← normal_children_of_given given]
        exact present?_of_findEntry (found.trans (findEntry_alone _ _))
          (Form.isNull_normal (holds.each value present))
      rw [childrenAt, childrenAt, present, there, Option.bind_some, Option.bind_some, given]
      simp [children?, mapParts, Form.normal_child_eq, Function.comp_def]

end

/-- A part of a method is in normal form where it is present, and so is the schema in it. -/
theorem schemaAt_normal {fields : List Field} {entries : List (String × Value)} {name : String}
    {position : Position} {which : Part} (distinct : (fields.map (·.name)).Nodup)
    (member : Field.optional name (.part which) ∈ fields)
    (schema : Field.optional "schema" (.child position) ∈ which.fields)
    (holds : (Field.optional name (.part which)).Holds entries) :
    schemaAt name position (fields.flatMap fun field => field.entry entries) =
      mapParts Form.node.normal (schemaAt name position entries) := by
  rw [schemaAt, schemaAt, Field.present?_normal distinct member holds rfl]
  cases present : Value.present? name entries with
  | none => rfl
  | some value =>
    have accepted := holds.each value present
    cases value with
    | object inner =>
      have apart : (which.fields.map (·.name)).Nodup := by cases which <;> decide
      have inside := childAt_normal apart schema (Form.accepts_part_iff.mp accepted _ schema)
      change ((some ((Form.part which).normal (.object inner))).bind Value.entries?).toList.flatMap _ =
        mapParts _ (childAt "schema" position inner ++ [])
      rw [Form.normal_part, List.append_nil, ← inside]
      exact List.append_nil _
    | _ => cases accepted

/-- The parts of an object in normal form are the normal forms of its parts. -/
theorem Kind.parts_normal {kind : Kind} {entries : List (String × Value)}
    (holds : ∀ field ∈ kind.fields, field.Holds entries) :
    kind.parts (kind.fields.flatMap fun field => field.entry entries) =
      mapParts Form.node.normal (kind.parts entries) := by
  have apart := kind.fields_distinct
  have child {name : String} {position : Position} (isRequired : Bool)
      (field : ⟨name, .child position, isRequired⟩ ∈ kind.fields) :=
    childAt_normal apart field (holds _ field)
  have children {position : Position}
      (field : Field.optional "properties" (.children position) ∈ kind.fields) :=
    childrenAt_normal apart field (holds _ field)
  have schema {name : String} {position : Position} (which : Part)
      (field : Field.optional name (.part which) ∈ kind.fields)
      (inside : Field.optional "schema" (.child position) ∈ which.fields) :=
    schemaAt_normal apart field inside (holds _ field)
  cases kind with
  | array => exact child true (by decide)
  | object => exact children (by decide)
  | params => exact children (by decide)
  | record => exact child true (by decide)
  | query =>
    change _ ++ _ = mapParts _ (_ ++ _)
    rw [mapParts_append, child false (by decide), schema .body (by decide) (by decide)]
  | procedure =>
    change _ ++ (_ ++ _) = mapParts _ (_ ++ (_ ++ _))
    rw [mapParts_append, mapParts_append, child false (by decide),
      schema .body (by decide) (by decide), schema .body (by decide) (by decide)]
  | subscription =>
    change _ ++ _ = mapParts _ (_ ++ _)
    rw [mapParts_append, child false (by decide), schema .message (by decide) (by decide)]
  | _ => rfl

/-- The parts of a normal form are the normal forms of the parts, position by position. -/
theorem Json.Value.parts_normal {value : Value} (valid : Valid value) :
    (Form.node.normal value).parts = mapParts Form.node.normal value.parts := by
  cases value with
  | object entries =>
    obtain ⟨-, kind, declared, holds⟩ := accepts_object_iff.mp valid
    have kept := kind?_normal declared
    rw [Form.normal_node declared] at kept ⊢
    rw [Value.parts_of_kind kept, Value.parts_of_kind declared, Kind.parts_normal holds]
  | _ => cases valid

/-- A field that must be there is found with its value in normal form. -/
theorem Kind.findEntry_normal {kind : Kind} {entries : List (String × Value)} {name : String}
    {form : Form} (member : Field.required name form ∈ kind.fields)
    (holds : (Field.required name form).Holds entries) :
    ∃ value, findEntry name entries = some value ∧ form.Accepts value ∧
      findEntry name (kind.fields.flatMap fun field => field.entry entries) =
        some (form.normal value) := by
  obtain ⟨value, present⟩ := Option.isSome_iff_exists.mp (holds.complete rfl)
  have found := @Field.findEntry_flatMap _ entries _ kind.fields_distinct member
  rw [Field.entry_of_present present] at found
  exact ⟨value, Option.eq_some_of_filter_eq_some present, holds.each value present,
    found.trans (findEntry_alone _ _)⟩

/-- The members of a union are the same in normal form. -/
theorem items_normal_members {value : Value} (accepted : Form.members.Accepts value) :
    Value.items (Form.members.normal value) = Value.items value := by
  cases accepted with
  | @members _ held listed each =>
    rw [normal_members listed]
    cases value with
    | array items =>
      obtain rfl := Option.some.inj listed
      cases items <;> rfl
    | object entries =>
      cases entries with
      | nil =>
        obtain rfl := Option.some.inj listed
        rfl
      | cons entry rest => cases listed
    | _ => cases listed

/-- A value in normal form mentions the same itself. -/
theorem Json.Value.ownMentions_normal {value : Value} (valid : Valid value) :
    (Form.node.normal value).ownMentions = value.ownMentions := by
  cases value with
  | object entries =>
    obtain ⟨-, kind, declared, holds⟩ := accepts_object_iff.mp valid
    have typed := findEntry_type declared
    have typedAgain : findEntry "type" (kind.fields.flatMap fun field => field.entry entries) =
        some (.string kind.name) := by
      have member : Field.required "type" .text ∈ kind.fields := List.mem_cons_self
      obtain ⟨value, found, -, again⟩ := Kind.findEntry_normal member (holds _ member)
      rw [again, Form.normal_text, ← found, typed]
    rw [Form.normal_node declared]
    change mentionedBy _ = mentionedBy entries
    by_cases ref : kind = .ref
    · subst ref
      have member : Field.required "ref" .text ∈ Kind.ref.fields := by decide
      obtain ⟨value, found, -, again⟩ := Kind.findEntry_normal member (holds _ member)
      rw [mentionedBy_of_ref typedAgain, mentionedBy_of_ref typed, again, found, Form.normal_text]
    · by_cases union : kind = .union
      · subst union
        have member : Field.required "refs" .members ∈ Kind.union.fields := by decide
        obtain ⟨value, found, accepted, again⟩ := Kind.findEntry_normal member (holds _ member)
        rw [mentionedBy_of_union typedAgain, mentionedBy_of_union typed, again, found,
          Option.toList_some, Option.toList_some, List.flatMap_singleton, List.flatMap_singleton,
          items_normal_members accepted]
      · have plain : [Kind.ref, .union].contains kind = false := by simp [ref, union]
        rw [mentionedBy_of_plain plain typedAgain, mentionedBy_of_plain plain typed]
  | _ => cases valid

/-! A node beside the value that it was read from. -/

/-- A node has the references itself that a value mentions itself, and its parts are in the same
positions. -/
structure Node.Mirrors (node : Node) (value : Value) : Prop where
  texts : targets (Node.ownReferences node) = value.ownMentions
  positions : (Node.parts node).map Prod.fst = value.parts.map Prod.fst

section
variable {node : Node} {value : Value} (valid : Valid value)
  (written : Node.render node = Form.node.normal value)
include valid written

/-- What is written for the parts is the normal form of the parts. -/
theorem Node.mapParts_eq :
    mapParts Node.render (Node.parts node) = mapParts Form.node.normal value.parts := by
  rw [← Node.parts_render, written, Value.parts_normal valid]

/-- A node that is written as a value's normal form mirrors the value: at every path both have a
part in the same position, and the references there are spelled as they were. -/
theorem Node.mirrors_of_render : Node.Mirrors node value where
  texts := by rw [← Node.ownMentions_render, written, Value.ownMentions_normal valid]
  positions := by
    have same := congrArg (List.map Prod.fst) (Node.mapParts_eq valid written)
    rwa [mapParts, mapParts, List.map_map, List.map_map] at same

/-- The same path leads to a part of the node and to one of the value, and these mirror each other.
The induction is on the path: what is written for a part is again its value's normal form. -/
theorem Node.mirrors_partAt? (path : List Nat) : Option.Rel Node.Mirrors
    (Node.view.partAt? node path) (Value.view.partAt? value path) := by
  induction path generalizing node value with
  | nil => exact .some (Node.mirrors_of_render valid written)
  | cons index rest inductionHypothesis =>
    have same := congrArg (fun parts => parts[index]?) (Node.mapParts_eq valid written)
    simp only [mapParts, List.getElem?_map] at same
    change Option.Rel _ ((Node.parts node)[index]?.bind fun part => Node.view.partAt? part.2 rest)
      (value.parts[index]?.bind fun part => Value.view.partAt? part.2 rest)
    cases left : (Node.parts node)[index]? with
    | none =>
      cases right : value.parts[index]? with
      | none => exact .none
      | some source =>
        rw [left, right] at same
        cases same
    | some part =>
      cases right : value.parts[index]? with
      | none =>
        rw [left, right] at same
        cases same
      | some source =>
        rw [left, right] at same
        obtain ⟨-, again⟩ := Prod.mk.inj (Option.some.inj same)
        obtain ⟨-, -, -, accepted, -⟩ := Value.mem_parts valid (List.mem_of_getElem? right)
        exact inductionHypothesis (Form.accepts_child_iff.mp accepted).1 again

end

end LexiconSchema
