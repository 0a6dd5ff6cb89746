import LexiconSchema.Proofs.NormalForms

/-!
# What stands inside what

Which kinds of nodes may stand where, as a table, and what follows for whole trees. In a
composed tree every node, at whatever depth, is of a kind that its position has in the table,
and the arrays among parameters hold scalars or unknown values. Going inwards leads to kinds
of fewer levels, so no tree has more than four.

Both what was read and the value that it was read from are looked at as trees. For the value
this says that nothing the table forbids gets past the reader, in whatever position it stands.

Main statement: `newly_read_is_composed`.
-/

namespace LexiconSchema

open Json (Value)

/-! The table. -/

/-- The kinds of an array's items. -/
def itemKinds : List Kind :=
  [.boolean, .integer, .number, .string, .bytes, .cidLink, .blob, .image, .video, .audio, .ref,
    .union, .unknown]

/-- The kinds of parameters that are no arrays, and of the items of those that are. -/
def parameterKinds : List Kind := [.boolean, .integer, .number, .string, .unknown]

/-- The kinds that may stand in a position. -/
def Position.kinds : Position → List Kind
  | .arrayItems => itemKinds
  | .objectProperty => .array :: itemKinds
  | .paramsProperty => .array :: parameterKinds
  | .recordObject => [.object]
  | .parameters => [.params]
  | .bodySchema => [.object, .ref, .union]
  | .messageSchema => [.union]
  | .unionMember => [.ref]
  | .definition => Kind.all.filter (· ≠ .params)

/-- The table is what the reader asks of a kind in a position. -/
theorem Position.allows_iff {position : Position} {kind : Kind} :
    position.allows kind = true ↔ kind ∈ position.kinds := by
  cases position <;> cases kind <;> decide

/-- The positions inside a node of a kind. -/
def Kind.positions : Kind → List Position
  | .array => [.arrayItems]
  | .object => [.objectProperty]
  | .params => [.paramsProperty]
  | .record => [.recordObject]
  | .query | .procedure => [.parameters, .bodySchema]
  | .subscription => [.parameters, .messageSchema]
  | _ => []

/-- How many levels of nodes a node of a kind can have, itself being the first. -/
def Kind.levels : Kind → Nat
  | .record | .query | .procedure | .subscription => 4
  | .object | .params => 3
  | .array => 2
  | _ => 1

/-- What stands inside a node has fewer levels. -/
theorem Kind.levels_lt {outer inner : Kind} {position : Position}
    (placed : position ∈ outer.positions) (allowed : inner ∈ position.kinds) :
    inner.levels < outer.levels := by
  have table : ∀ outer ∈ Kind.all, ∀ position ∈ outer.positions, ∀ inner ∈ position.kinds,
      inner.levels < outer.levels := by decide
  exact table outer (by cases outer <;> decide) position placed inner allowed

/-- A node takes at least one level of the four. -/
theorem Kind.levels_pos (kind : Kind) : 0 < kind.levels := by
  cases kind <;> decide

/-- No kind takes more than four levels. -/
theorem Kind.levels_le (kind : Kind) : kind.levels ≤ 4 := by
  cases kind <;> decide

/-! Trees. -/

/-- How things are looked at as trees of nodes: the kind of each, and the nodes directly
inside it with their positions. -/
structure View (α : Type) where
  kind? : α → Option Kind
  parts : α → List (Position × α)

namespace View

variable {α : Type} (view : View α)

/-- One thing stands directly inside another. -/
def PartOf (outer inner : α) : Prop := ∃ position, (position, inner) ∈ view.parts outer

/-- The thing itself and what stands inside it, at whatever depth. -/
inductive Within (whole : α) : α → Prop
  | whole : Within whole whole
  | part {outer inner : α} (earlier : Within whole outer) (step : view.PartOf outer inner) :
      Within whole inner

/-- At every depth the kinds are those of the table, and there are no more than four levels. -/
structure Composed (whole : α) : Prop where
  allowed : ∀ outer, view.Within whole outer → ∀ position inner,
    (position, inner) ∈ view.parts outer →
      ∃ kind, view.kind? inner = some kind ∧ kind ∈ position.kinds
  parameters : ∀ outer, view.Within whole outer → ∀ array,
    (Position.paramsProperty, array) ∈ view.parts outer → ∀ item, view.PartOf array item →
      ∃ kind, view.kind? item = some kind ∧ kind ∈ parameterKinds
  levels : ∀ chain, List.IsChain view.PartOf (whole :: chain) → (whole :: chain).length ≤ 4

/-- A property that is passed on to the parts, and from which their kinds follow. -/
structure Governs (property : α → Prop) : Prop where
  declared : ∀ outer, property outer → ∃ kind, view.kind? outer = some kind
  placed : ∀ outer kind position inner, property outer → view.kind? outer = some kind →
    (position, inner) ∈ view.parts outer → position ∈ kind.positions
  inside : ∀ outer position inner, property outer → (position, inner) ∈ view.parts outer →
    property inner
  allowed : ∀ outer kind position inner, property outer → (position, inner) ∈ view.parts outer →
    view.kind? inner = some kind → kind ∈ position.kinds
  parameters : ∀ outer array item kind, property outer →
    (Position.paramsProperty, array) ∈ view.parts outer → view.PartOf array item →
      view.kind? item = some kind → kind ∈ parameterKinds

variable {view} {property : α → Prop} (governs : view.Governs property)
include governs

/-- The property holds at every depth. -/
theorem Governs.within {whole inner : α} (held : property whole) (inside : view.Within whole inner) :
    property inner := by
  induction inside with
  | whole => exact held
  | part earlier step inductionHypothesis =>
    obtain ⟨position, part⟩ := step
    exact governs.inside _ position _ inductionHypothesis part

/-- A chain of things, each directly inside the one before, has no more members than the
first of them has levels. The induction is on the chain: each step costs a level. -/
theorem Governs.length_le {whole : α} {kind : Kind} {chain : List α} (held : property whole)
    (declared : view.kind? whole = some kind) (nested : List.IsChain view.PartOf (whole :: chain)) :
    (whole :: chain).length ≤ kind.levels := by
  induction chain generalizing whole kind with
  | nil => exact kind.levels_pos
  | cons inner rest inductionHypothesis =>
    obtain ⟨⟨position, part⟩, later⟩ := List.isChain_cons_cons.mp nested
    have innerHeld := governs.inside whole position inner held part
    obtain ⟨innerKind, innerDeclared⟩ := governs.declared inner innerHeld
    have fewer := Kind.levels_lt (governs.placed whole kind position inner held declared part)
      (governs.allowed whole innerKind position inner held part innerDeclared)
    have shorter := inductionHypothesis innerHeld innerDeclared later
    simp only [List.length_cons] at shorter ⊢
    omega

/-- A property that governs the parts of a tree makes the whole tree composed. -/
theorem Governs.composed {whole : α} (held : property whole) : view.Composed whole where
  allowed outer within position inner part := by
    have outerHeld := governs.within held within
    have innerHeld := governs.inside outer position inner outerHeld part
    obtain ⟨kind, declared⟩ := governs.declared inner innerHeld
    exact ⟨kind, declared, governs.allowed outer kind position inner outerHeld part declared⟩
  parameters outer within array part item step := by
    have outerHeld := governs.within held within
    obtain ⟨position, inside⟩ := step
    have arrayHeld := governs.inside outer _ array outerHeld part
    obtain ⟨kind, declared⟩ := governs.declared item
      (governs.inside array position item arrayHeld inside)
    exact ⟨kind, declared,
      governs.parameters outer array item kind outerHeld part ⟨position, inside⟩ declared⟩
  levels chain nested := by
    obtain ⟨kind, declared⟩ := governs.declared whole held
    exact Nat.le_trans (governs.length_le held declared nested) kind.levels_le

end View

/-! Nodes as trees. -/

/-- What stands in a position, as nodes. -/
def Position.parts (position : Position) (held : List (Described position.Accepted)) :
    List (Position × Node) :=
  held.map fun one => (position, position.node one)

/-- The nodes directly inside a content, with their positions. A union is one with its
members, which are references. -/
def Content.parts : Content → List (Position × Node)
  | .element _ | .token => []
  | .array held => Position.arrayItems.parts [held.items]
  | .object shape => Position.objectProperty.parts shape.properties.values
  | .params parameters =>
    Position.paramsProperty.parts
      (parameters.properties.values.map (Described.map Parameter.unchecked))
  | .record held => Position.recordObject.parts [held.object]
  | .query method =>
    Position.parameters.parts method.parameters.toList ++
      Position.bodySchema.parts (method.output.bind (·.content.schema)).toList
  | .procedure method =>
    Position.parameters.parts method.parameters.toList ++
      (Position.bodySchema.parts (method.input.bind (·.content.schema)).toList ++
        Position.bodySchema.parts (method.output.bind (·.content.schema)).toList)
  | .subscription method =>
    Position.parameters.parts method.parameters.toList ++
      Position.messageSchema.parts (method.message.bind (·.content.schema)).toList

/-- The nodes directly inside a node. -/
def Node.parts (node : Node) : List (Position × Node) := node.content.parts

/-- Nodes are trees. -/
def Node.view : View Node := ⟨fun node => some (Node.kind node), Node.parts⟩

/-- What a position other than that of definitions holds is of a kind allowed there. -/
theorem Position.allows_content {position : Position} (inner : position ≠ .definition)
    (held : position.Accepted) : position.allows (position.content held).kind = true := by
  rw [← Position.isSome_accept]
  cases position with
  | definition => exact absurd rfl inner
  | objectProperty => cases held <;> rfl
  | paramsProperty =>
    cases held with
    | single element => cases element <;> rfl
    | array held => rfl
  | bodySchema => cases held <;> rfl
  | _ => rfl

/-- A part of a position is what the position holds. -/
theorem Position.mem_parts {position place : Position} {held : List (Described place.Accepted)}
    {inner : Node} (part : (position, inner) ∈ place.parts held) :
    position = place ∧ ∃ one ∈ held, inner = place.node one := by
  obtain ⟨one, member, same⟩ := List.mem_map.mp part
  cases same
  exact ⟨rfl, one, member, rfl⟩

/-- Every part is what some position inside nodes of its kind holds. -/
theorem Content.mem_parts {content : Content} {inner : Node} {position : Position}
    (part : (position, inner) ∈ content.parts) :
    position ∈ content.kind.positions ∧ ∃ held, inner = position.node held := by
  have single {place : Position} {held : List (Described place.Accepted)}
      (among : place ∈ content.kind.positions) (part : (position, inner) ∈ place.parts held) :
      position ∈ content.kind.positions ∧ ∃ held, inner = position.node held := by
    obtain ⟨rfl, one, -, same⟩ := Position.mem_parts part
    exact ⟨among, one, same⟩
  cases content with
  | element element => cases part
  | token => cases part
  | array held => exact single List.mem_cons_self part
  | object shape => exact single List.mem_cons_self part
  | params parameters => exact single List.mem_cons_self part
  | record held => exact single List.mem_cons_self part
  | query method =>
    rcases List.mem_append.mp part with first | second
    · exact single List.mem_cons_self first
    · exact single (List.mem_cons_of_mem _ List.mem_cons_self) second
  | procedure method =>
    rcases List.mem_append.mp part with first | later
    · exact single List.mem_cons_self first
    · rcases List.mem_append.mp later with second | third
      · exact single (List.mem_cons_of_mem _ List.mem_cons_self) second
      · exact single (List.mem_cons_of_mem _ List.mem_cons_self) third
  | subscription method =>
    rcases List.mem_append.mp part with first | second
    · exact single List.mem_cons_self first
    · exact single (List.mem_cons_of_mem _ List.mem_cons_self) second

/-- Only parameters have properties that are parameters. -/
theorem Kind.eq_params {kind : Kind} (placed : Position.paramsProperty ∈ kind.positions) :
    kind = .params := by
  cases kind <;> first | rfl | exact absurd placed (by decide)

/-- What stands in the position of a parameter was checked. -/
theorem Content.of_mem_paramsProperty {content : Content} {inner : Node}
    (part : (Position.paramsProperty, inner) ∈ content.parts) :
    ∃ parameter : Described Parameter,
      inner = Position.paramsProperty.node (parameter.map Parameter.unchecked) := by
  have placed := (Content.mem_parts part).1
  cases content with
  | params parameters =>
    obtain ⟨-, candidate, member, rfl⟩ := Position.mem_parts part
    obtain ⟨parameter, -, rfl⟩ := List.mem_map.mp member
    exact ⟨parameter, rfl⟩
  | element element => cases part
  | token => cases part
  | _ => cases Kind.eq_params placed

/-- What an array among parameters may hold is of a kind that parameters may have. -/
theorem ParameterElement.kind_mem (element : ParameterElement) :
    element.toElement.kind ∈ parameterKinds := by
  cases element with
  | unknown => simp [toElement, Element.kind, parameterKinds]
  | scalar scalar => cases scalar <;> simp [toElement, Element.kind, Scalar.kind, parameterKinds]

/-- The items of a parameter's array are scalars or unknown. -/
theorem Parameter.item_kind {parameter : Described Parameter} {position : Position} {item : Node}
    (part : (position, item) ∈
      Node.parts (Position.paramsProperty.node (parameter.map Parameter.unchecked))) :
    Node.kind item ∈ parameterKinds := by
  obtain ⟨description, content⟩ := parameter
  cases content with
  | single element => cases part
  | array held =>
    obtain ⟨-, one, member, rfl⟩ := Position.mem_parts part
    obtain rfl := List.mem_singleton.mp member
    exact held.items.content.kind_mem

/-- No kind of nodes has definitions inside. -/
theorem Kind.definition_not_mem (kind : Kind) : Position.definition ∉ kind.positions := by
  cases kind <;> decide

/-- The types of nodes admit nothing but composed trees. -/
theorem Node.view_governs : Node.view.Governs fun _ => True where
  declared node _ := ⟨_, rfl⟩
  placed node kind position inner _ declared part := by
    obtain rfl := Option.some.inj declared
    exact (Content.mem_parts part).1
  inside _ _ _ _ _ := trivial
  allowed node kind position inner _ part declared := by
    obtain rfl := Option.some.inj declared
    obtain ⟨placed, held, rfl⟩ := Content.mem_parts part
    refine Position.allows_iff.mp (Position.allows_content ?_ held.content)
    rintro rfl
    exact Kind.definition_not_mem _ placed
  parameters node array item kind _ part step declared := by
    obtain rfl := Option.some.inj declared
    obtain ⟨position, inside⟩ := step
    obtain ⟨parameter, rfl⟩ := Content.of_mem_paramsProperty part
    exact Parameter.item_kind inside

/-! Values as trees. -/

/-- The value under a name, in a position. -/
def childAt (name : String) (position : Position) (entries : List (String × Value)) :
    List (Position × Value) :=
  (Value.present? name entries).toList.map fun value => (position, value)

/-- The values of the map under a name, all in the same position. -/
def childrenAt (name : String) (position : Position) (entries : List (String × Value)) :
    List (Position × Value) :=
  ((Value.present? name entries).bind children?).toList.flatten.map fun member =>
    (position, member.2)

/-- The schema of the part under a name, in a position. -/
def schemaAt (name : String) (position : Position) (entries : List (String × Value)) :
    List (Position × Value) :=
  ((Value.present? name entries).bind Value.entries?).toList.flatMap (childAt "schema" position)

/-- The values directly inside the object of a node of a kind, with their positions. -/
def Kind.parts (entries : List (String × Value)) : Kind → List (Position × Value)
  | .array => childAt "items" .arrayItems entries
  | .object => childrenAt "properties" .objectProperty entries
  | .params => childrenAt "properties" .paramsProperty entries
  | .record => childAt "record" .recordObject entries
  | .query => childAt "parameters" .parameters entries ++ schemaAt "output" .bodySchema entries
  | .procedure =>
    childAt "parameters" .parameters entries ++
      (schemaAt "input" .bodySchema entries ++ schemaAt "output" .bodySchema entries)
  | .subscription =>
    childAt "parameters" .parameters entries ++ schemaAt "message" .messageSchema entries
  | _ => []

/-- The values directly inside the value of a node, which declares its kind. -/
def Json.Value.parts (value : Value) : List (LexiconSchema.Position × Value) :=
  match value, value.kind? with
  | .object entries, some kind => kind.parts entries
  | _, _ => []

/-- Values are trees. -/
def Json.Value.view : View Value := ⟨Value.kind?, Value.parts⟩

section
variable {entries : List (String × Value)} {name : String} {place position : Position}
  {inner : Value}

/-- The child under a name stands in its field's position and is accepted there. -/
theorem childAt_accepted (holds : ∀ value, Value.present? name entries = some value →
      (Form.child place).Accepts value)
    (part : (position, inner) ∈ childAt name place entries) :
    position = place ∧ (Form.child place).Accepts inner := by
  obtain ⟨value, member, same⟩ := List.mem_map.mp part
  cases same
  exact ⟨rfl, holds inner (Option.mem_toList.mp member)⟩

/-- Each child in a map stands in its field's position, is accepted there, and is admitted, which is
what the arrays among parameters are checked for later. -/
theorem childrenAt_accepted (holds : (Field.optional name (.children place)).Holds entries)
    (part : (position, inner) ∈ childrenAt name place entries) :
    position = place ∧ (Form.child place).Accepts inner ∧ place.Admits inner := by
  obtain ⟨member, listed, same⟩ := List.mem_map.mp part
  cases same
  obtain ⟨members, found, inside⟩ := List.mem_flatten.mp listed
  obtain ⟨value, present, given⟩ := Option.bind_eq_some_iff.mp (Option.mem_toList.mp found)
  obtain ⟨lists, admitted⟩ := children_holds_iff.mp holds
  obtain ⟨others, same, each⟩ := lists value present
  obtain rfl := Option.some.inj (given.symm.trans same)
  exact ⟨rfl, each member inside, admitted value members present given member inside⟩

/-- The schema of an input, an output or a message stands in its position and is accepted there. -/
theorem schemaAt_accepted {which : Part}
    (schema : Field.optional "schema" (.child place) ∈ which.fields)
    (holds : (Field.optional name (.part which)).Holds entries)
    (part : (position, inner) ∈ schemaAt name place entries) :
    position = place ∧ (Form.child place).Accepts inner := by
  obtain ⟨part, found, inside⟩ := List.mem_flatMap.mp part
  obtain ⟨value, present, given⟩ := Option.bind_eq_some_iff.mp (Option.mem_toList.mp found)
  cases value with
  | object held =>
    obtain rfl := Option.some.inj given
    have fields := Form.accepts_part_iff.mp (holds.each _ present)
    exact childAt_accepted (fields _ schema).each inside
  | _ => cases given

end

/-- Every part of the object of a node is accepted in its position. -/
theorem Kind.mem_parts {kind : Kind} {entries : List (String × Value)}
    (holds : ∀ field ∈ kind.fields, field.Holds entries) {position : Position} {inner : Value}
    (part : (position, inner) ∈ kind.parts entries) :
    position ∈ kind.positions ∧ (Form.child position).Accepts inner ∧ position.Admits inner := by
  -- Whatever else is in a position, only parameters ask more of it than its kind.
  have single {name : String} {place : Position} (isRequired : Bool)
      (field : ⟨name, .child place, isRequired⟩ ∈ kind.fields) (free : place ≠ .paramsProperty)
      (placed : place ∈ kind.positions) (part : (position, inner) ∈ childAt name place entries) :
      position ∈ kind.positions ∧ (Form.child position).Accepts inner ∧ position.Admits inner := by
    obtain ⟨rfl, accepted⟩ := childAt_accepted (holds _ field).each part
    exact ⟨placed, accepted, fun same => absurd same free⟩
  have schema {name : String} {place : Position} (which : Part)
      (field : Field.optional name (.part which) ∈ kind.fields)
      (inside : Field.optional "schema" (.child place) ∈ which.fields)
      (free : place ≠ .paramsProperty) (placed : place ∈ kind.positions)
      (part : (position, inner) ∈ schemaAt name place entries) :
      position ∈ kind.positions ∧ (Form.child position).Accepts inner ∧ position.Admits inner := by
    obtain ⟨rfl, accepted⟩ := schemaAt_accepted inside (holds _ field) part
    exact ⟨placed, accepted, fun same => absurd same free⟩
  have map {place : Position} (field : Field.optional "properties" (.children place) ∈ kind.fields)
      (placed : place ∈ kind.positions)
      (part : (position, inner) ∈ childrenAt "properties" place entries) :
      position ∈ kind.positions ∧ (Form.child position).Accepts inner ∧ position.Admits inner := by
    obtain ⟨rfl, accepted, admitted⟩ := childrenAt_accepted (holds _ field) part
    exact ⟨placed, accepted, admitted⟩
  cases kind with
  | array => exact single true (by decide) (by decide) (by decide) part
  | object => exact map (by decide) (by decide) part
  | params => exact map (by decide) (by decide) part
  | record => exact single true (by decide) (by decide) (by decide) part
  | query =>
    rcases List.mem_append.mp part with parameters | output
    · exact single false (by decide) (by decide) (by decide) parameters
    · exact schema .body (by decide) (by decide) (by decide) (by decide) output
  | procedure =>
    rcases List.mem_append.mp part with parameters | bodies
    · exact single false (by decide) (by decide) (by decide) parameters
    · rcases List.mem_append.mp bodies with input | output
      · exact schema .body (by decide) (by decide) (by decide) (by decide) input
      · exact schema .body (by decide) (by decide) (by decide) (by decide) output
  | subscription =>
    rcases List.mem_append.mp part with parameters | message
    · exact single false (by decide) (by decide) (by decide) parameters
    · exact schema .message (by decide) (by decide) (by decide) (by decide) message
  | _ => cases part

/-- A part of a valid value stands in a position that the value's kind has, and is accepted and
admitted there. -/
theorem Json.Value.mem_parts {value inner : Value} {position : LexiconSchema.Position}
    (valid : Valid value) (part : (position, inner) ∈ value.parts) :
    ∃ kind, value.kind? = some kind ∧ position ∈ kind.positions ∧
      (Form.child position).Accepts inner ∧ position.Admits inner := by
  cases value with
  | object entries =>
    obtain ⟨-, kind, declared, holds⟩ := accepts_object_iff.mp valid
    simp only [Value.parts, declared] at part
    exact ⟨kind, declared, Kind.mem_parts holds part⟩
  | _ => cases valid

/-- Of what may be a parameter, only arrays have something inside. -/
theorem Kind.eq_array {kind : Kind} {position : Position}
    (allowed : kind ∈ Position.paramsProperty.kinds) (placed : position ∈ kind.positions) :
    kind = .array := by
  cases kind with
  | array => rfl
  | object | params | record | query | procedure | subscription =>
    exact absurd allowed (by decide)
  | _ => cases placed

/-- A scalar kind, or that of unknown data, is one that parameters may have. -/
theorem Kind.mem_parameterKinds {kind : Kind} (free : kind.isScalar = true ∨ kind = .unknown) :
    kind ∈ parameterKinds := by
  rcases free with scalar | rfl
  · cases kind <;> first | decide | cases scalar
  · decide

/-- What stands in an array is its items, whose kind the array shows. -/
theorem Json.Value.itemsKind?_of_part {array item : Value} {position : LexiconSchema.Position}
    (declared : array.kind? = some .array) (part : (position, item) ∈ array.parts) :
    array.itemsKind? = item.kind? := by
  cases array with
  | object entries =>
    simp only [Value.parts, declared] at part
    obtain ⟨value, member, same⟩ := List.mem_map.mp part
    cases same
    have present : Value.present? "items" entries = some item := Option.mem_toList.mp member
    simp [Value.itemsKind?, Value.entries?, present]
  | _ => cases declared

/-- What the grammar accepts is a composed tree. -/
theorem Json.Value.view_governs : Value.view.Governs Valid where
  declared value valid := Form.kind?_of_accepts valid
  placed value kind position inner valid declared part := by
    obtain ⟨other, same, placed, -⟩ := Value.mem_parts valid part
    obtain rfl := Option.some.inj (declared.symm.trans same)
    exact placed
  inside value position inner valid part := by
    obtain ⟨-, -, -, accepted, -⟩ := Value.mem_parts valid part
    exact (Form.accepts_child_iff.mp accepted).1
  allowed value kind position inner valid part declared := by
    obtain ⟨-, -, -, accepted, -⟩ := Value.mem_parts valid part
    obtain ⟨-, other, same, allowed⟩ := Form.accepts_child_iff.mp accepted
    obtain rfl := Option.some.inj (declared.symm.trans same)
    exact Position.allows_iff.mp allowed
  parameters value array item kind valid part step declared := by
    obtain ⟨-, -, -, accepted, admitted⟩ := Value.mem_parts valid part
    obtain ⟨arrayValid, arrayKind, arrayDeclared, allowed⟩ := Form.accepts_child_iff.mp accepted
    obtain ⟨position, inside⟩ := step
    obtain ⟨other, same, placed, -⟩ := Value.mem_parts arrayValid inside
    obtain rfl := Option.some.inj (arrayDeclared.symm.trans same)
    obtain rfl := Kind.eq_array (Position.allows_iff.mp allowed) placed
    obtain ⟨found, items, free⟩ := admitted rfl arrayDeclared
    rw [Value.itemsKind?_of_part arrayDeclared inside] at items
    obtain rfl := Option.some.inj (items.symm.trans declared)
    exact Kind.mem_parameterKinds free

/-! What readers give. -/

/-- A node and the value that it was read from are composed. -/
structure Node.ComposedFrom (node : Node) (value : Value) : Prop where
  tree : Node.view.Composed node
  source : Value.view.Composed value

/-- The values of the definitions in a document's value. -/
def Json.Value.definitions : Value → List Value
  | .object entries => (childrenAt "defs" .definition entries).map Prod.snd
  | _ => []

/-- No definition of a document is one of parameters, neither in the document nor in the value
that it was read from, and all of them are composed. -/
structure Document.ComposedFrom (document : Document) (value : Value) : Prop where
  tree : ∀ node ∈ document.definitions.values,
    Node.kind node ≠ .params ∧ Node.view.Composed node
  source : ∀ inner ∈ value.definitions,
    (∃ kind, inner.kind? = some kind ∧ kind ≠ .params) ∧ Value.view.Composed inner

/-- A schema is a node or a document. -/
def Schema.ComposedFrom : Schema → Value → Prop
  | .node held, value => held.ComposedFrom value
  | .document held, value => held.ComposedFrom value

/-- The definitions of a document that was read are accepted in their position. -/
theorem Document.accepts_definition {context : Context} {entries : List (String × Value)}
    {document : Document} (distinct : (Value.object entries).Distinct)
    (read : Document.ofEntries context entries = .ok document) {inner : Value}
    (member : inner ∈ (Value.object entries).definitions) :
    (Form.child .definition).Accepts inner := by
  obtain ⟨part, inside, rfl⟩ := List.mem_map.mp member
  obtain ⟨id, -, body⟩ := bind_eq_ok_iff.mp read
  have holds : (Field.optional "defs" (.children .definition)).Holds entries :=
    ((Document.readBody_exactly distinct).of_ok body).1 _ (by decide)
  obtain ⟨-, accepted, -⟩ := childrenAt_accepted holds inside
  exact accepted

/-- A node that was read is composed, and so is what it was read from. -/
theorem Node.composedFrom_of_ofValue {context : Context} {value : Value} {node : Node}
    (distinct : value.Distinct) (read : Node.ofValue context value = .ok node) :
    node.ComposedFrom value where
  tree := Node.view_governs.composed trivial
  source := Value.view_governs.composed
    ((Node.ofValue_exactly context value distinct).of_ok read).1

/-- So are the definitions of a document. -/
theorem Document.composedFrom_of_ofEntries {context : Context} {entries : List (String × Value)}
    {document : Document} (distinct : (Value.object entries).Distinct)
    (read : Document.ofEntries context entries = .ok document) :
    document.ComposedFrom (.object entries) where
  tree node member := by
    obtain ⟨entry, inside, rfl⟩ := List.mem_map.mp member
    have defined := (Document.ofEntries_yields context entries document read).defines entry inside
    refine ⟨fun params => ?_, Node.view_governs.composed trivial⟩
    have asked := Position.definition.isSome_accept entry.2.content
    rw [defined.accepted, Option.isSome_some] at asked
    rw [Node.kind] at params
    rw [params] at asked
    cases asked
  source inner member := by
    have accepted := Document.accepts_definition distinct read member
    obtain ⟨valid, kind, declared, allowed⟩ := Form.accepts_child_iff.mp accepted
    refine ⟨⟨kind, declared, ?_⟩, Value.view_governs.composed valid⟩
    rintro rfl
    cases allowed

/-- What has the entries of a document is the object of these entries. -/
theorem Document.object_of_entriesOf {value : Value} {entries : List (String × Value)}
    (given : Document.entriesOf value = .ok entries) : value = .object entries := by
  cases value with
  | object inner =>
    rw [Document.entriesOf] at given
    split at given
    · rw [Except.ok.inj given]
    · cases given
  | _ => cases given

/-- A document that was read is composed, and so is the value it was read from. -/
theorem Document.composedFrom_of_ofValue {value : Value} {document : Document}
    (distinct : value.Distinct) (read : Document.ofValue value = .ok document) :
    document.ComposedFrom value := by
  obtain ⟨entries, rfl, -, made⟩ := Document.ofEntries_of_ofValue read
  exact Document.composedFrom_of_ofEntries distinct made

/-- What is read as what it is, is read as a document or as a node. -/
theorem Schema.read_as {value : Value} {schema : Schema} (read : Schema.ofValue value = .ok schema) :
    (∃ document, schema = .document document ∧ Document.ofValue value = .ok document) ∨
      ∃ node, schema = .node node ∧ Node.ofValue {} value = .ok node := by
  cases value with
  | object entries =>
    rw [Schema.ofValue] at read
    by_cases isWhole : isDocument entries = true
    · rw [if_pos isWhole] at read
      cases made : Document.ofEntries {} entries with
      | error fault => simp [made, Except.map] at read
      | ok document =>
        rw [made] at read
        refine .inl ⟨document, (Except.ok.inj read).symm, ?_⟩
        rw [Document.ofValue, Document.entriesOf, if_pos isWhole]
        exact made
    · rw [if_neg isWhole] at read
      cases made : Node.ofEntries {} entries with
      | error fault => simp [made, Except.map] at read
      | ok node =>
        rw [made] at read
        exact .inr ⟨node, (Except.ok.inj read).symm, by rw [Node.ofValue, if_neg isWhole, made]⟩
  | _ => cases read

/-- A value that is read as what it is. -/
theorem Schema.composedFrom_of_ofValue {value : Value} {schema : Schema} (distinct : value.Distinct)
    (read : Schema.ofValue value = .ok schema) : schema.ComposedFrom value := by
  rcases Schema.read_as read with ⟨document, rfl, made⟩ | ⟨node, rfl, made⟩
  · exact Document.composedFrom_of_ofValue distinct made
  · exact Node.composedFrom_of_ofValue distinct made

namespace Repository

/-- What an operation of a repository acquires: the repository has nothing new afterwards that is
not fit, and what is answered is among what it has. -/
structure Acquires (before : Repository) (fit : Document → Prop) (answer : Option Kept)
    (after : Repository) : Prop where
  new : ∀ key kept, after.kept.get? key = some kept →
    before.kept.get? key = some kept ∨ fit kept.document
  answered : ∀ kept, answer = some kept → ∃ key, after.kept.get? key = some kept

/-- The document was read from one of the sources on behalf of the repository. -/
def ReadFrom (repository : Repository) (sources : Value → Prop) (document : Document) : Prop :=
  ∃ entries, sources (.object entries) ∧ Document.ofEntries repository.context entries = .ok document

/-- What an operation of a repository brings: the repository has nothing new afterwards that is
not composed and read from one of the sources, and what is answered is among what it has. -/
structure Brings (before : Repository) (sources : Value → Prop) (answer : Option Kept)
    (after : Repository) : Prop where
  new : ∀ key kept, after.kept.get? key = some kept →
    before.kept.get? key = some kept ∨ ∃ value, sources value ∧ kept.document.ComposedFrom value
  answered : ∀ kept, answer = some kept → ∃ key, after.kept.get? key = some kept

section
variable {repository after : Repository} {fit : Document → Prop} {sources : Value → Prop}
  {answer : Option Kept}

/-- An operation that changes nothing may refuse to answer. -/
theorem Acquires.unchanged : repository.Acquires fit none repository where
  new _ _ found := .inl found
  answered kept same := by cases same

/-- An operation that changes nothing may answer with what is kept. -/
theorem Acquires.kept {id : Identifier} {kept : Kept} (found : repository.get? id = some kept) :
    repository.Acquires fit (some kept) repository where
  new _ _ found := .inl found
  answered other same := by
    obtain rfl := Option.some.inj same
    exact ⟨id.document, found⟩

/-- Less may be answered. -/
theorem Acquires.weaken {weaker : Option Kept} (acquires : repository.Acquires fit answer after)
    (fewer : ∀ kept, weaker = some kept → answer = some kept) :
    repository.Acquires fit weaker after :=
  ⟨acquires.new, fun kept same => acquires.answered kept (fewer kept same)⟩

/-- What is fit in one way may be fit in another. -/
theorem Acquires.imp {looser : Document → Prop} (acquires : repository.Acquires fit answer after)
    (enough : ∀ document, fit document → looser document) :
    repository.Acquires looser answer after :=
  ⟨fun key kept found => (acquires.new key kept found).imp_right (enough kept.document),
    acquires.answered⟩

/-- What is read from values with distinct names is composed. -/
theorem Acquires.brings
    (acquires : repository.Acquires (repository.ReadFrom sources) answer after)
    (distinct : ∀ value, sources value → value.Distinct) :
    repository.Brings sources answer after where
  new key kept found := by
    rcases acquires.new key kept found with earlier | ⟨entries, among, read⟩
    · exact .inl earlier
    · exact .inr ⟨_, among, Document.composedFrom_of_ofEntries (distinct _ among) read⟩
  answered := acquires.answered

/-- A document is read from its entries, or it is kept already. -/
theorem readEntries_acquires {entries : List (String × Value)} (among : sources (.object entries)) :
    repository.Acquires (repository.ReadFrom sources) (repository.readEntries entries).1.toOption
      (repository.readEntries entries).2 := by
  have reads := readEntries_cases repository entries
  generalize repository.readEntries entries = outcome at reads
  cases reads with
  | refused read => exact .unchanged
  | kept head found => exact .kept found
  | @stored document read head absent =>
    constructor
    · intro key kept found
      rcases kept_of_store found with ⟨-, rfl⟩ | earlier
      · exact .inr ⟨entries, among, read⟩
      · exact .inl earlier
    · intro kept same
      obtain rfl := Option.some.inj same
      exact ⟨document.id.document, keeps_store repository document⟩

/-- The entries in a file are those of the value that its text is. -/
theorem read_of_fileEntries {files : FileTree} {path : String} {entries : List (String × Value)}
    (content : fileEntries files path = .ok entries) :
    ∃ text, files.readText path = .ok text ∧ Json.read text = .ok (.object entries) := by
  rw [fileEntries] at content
  cases held : files.readText path with
  | error fault =>
    rw [held] at content
    cases content
  | ok text =>
    rw [held] at content
    obtain ⟨value, decoded, inner⟩ := bind_eq_ok_iff.mp (mapError_eq_ok_iff.mp content)
    rw [← Document.object_of_entriesOf inner]
    exact ⟨text, rfl, mapError_eq_ok_iff.mp decoded⟩

/-- A document that is loaded is read from a located file, or it is kept already. -/
theorem load_acquires (files : FileTree) (repository : Repository) (id : Identifier) :
    repository.Acquires
      (repository.ReadFrom fun value => ∃ path text, locate? files repository id = some path ∧
        files.readText path = .ok text ∧ Json.read text = .ok value)
      (repository.load files id).1.toOption.join (repository.load files id).2 := by
  rw [load]
  cases found : repository.get? id with
  | some kept => exact .kept found
  | none =>
    dsimp only
    cases located : locate? files repository id with
    | none => exact .unchanged
    | some path =>
      dsimp only
      rw [loadFile_eq]
      cases content : fileEntries files path with
      | error error => exact .unchanged
      | ok entries =>
        obtain ⟨text, held, decoded⟩ := read_of_fileEntries content
        refine (readEntries_acquires ⟨path, text, rfl, held, decoded⟩).weaken fun kept same => ?_
        dsimp only at same
        generalize (repository.readEntries entries).1 = answer at same
        cases answer with
        | error fault => cases same
        | ok read =>
          change ((expected id path read).map some).toOption.join = some kept at same
          rw [expected] at same
          split at same
          · exact same
          · cases same

/-- The document of a reading, if it is one. -/
def Reading.document? : Reading → Option Kept
  | .document kept => some kept
  | .node _ => none

/-- Reading a document brings in no other document than that of the value. -/
theorem readDocument_acquires (value : Value) :
    repository.Acquires (repository.ReadFrom (· = value))
      (repository.readDocument value).1.toOption (repository.readDocument value).2 := by
  rw [readDocument]
  cases given : Document.entriesOf value with
  | error fault => exact .unchanged
  | ok entries =>
    obtain rfl := Document.object_of_entriesOf given
    exact readEntries_acquires rfl

/-- What is read as what it is may be a node; then nothing is acquired. -/
theorem read_acquires (value : Value) :
    repository.Acquires (repository.ReadFrom (· = value))
      ((repository.read value).1.toOption.bind Reading.document?) (repository.read value).2 := by
  cases value with
  | object entries =>
    rw [read]
    split
    · have acquires : repository.Acquires (repository.ReadFrom (· = Value.object entries)) _ _ :=
        readEntries_acquires rfl
      generalize repository.readEntries entries = outcome at acquires ⊢
      obtain ⟨answer, after⟩ := outcome
      cases answer <;> exact acquires
    · refine Acquires.unchanged.weaken fun kept same => ?_
      dsimp only at same
      generalize Node.ofEntries repository.context entries = answer at same
      cases answer <;> cases same
  | _ => exact .unchanged

/-- Loading brings in, if anything, a document that was read from the file found for the
identifier. -/
theorem load_brings (files : FileTree) (repository : Repository) (id : Identifier) :
    repository.Brings
      (fun value => ∃ path text, locate? files repository id = some path ∧
        files.readText path = .ok text ∧ Json.read text = .ok value)
      (repository.load files id).1.toOption.join (repository.load files id).2 := by
  refine (load_acquires files repository id).brings fun value among => ?_
  obtain ⟨path, text, -, -, decoded⟩ := among
  exact Json.read_distinct decoded

/-- Reading a document brings in, if anything, one that was read from the value. -/
theorem readDocument_brings {value : Value} (distinct : value.Distinct) :
    repository.Brings (· = value) (repository.readDocument value).1.toOption
      (repository.readDocument value).2 :=
  (readDocument_acquires value).brings fun _ same => same ▸ distinct

/-- Reading a value as what it is brings in, if anything, a document that was read from it. -/
theorem read_brings {value : Value} (distinct : value.Distinct) :
    repository.Brings (· = value) ((repository.read value).1.toOption.bind Reading.document?)
      (repository.read value).2 :=
  (read_acquires value).brings fun _ same => same ▸ distinct

/-- A node that is read through a repository is read on its behalf. -/
theorem ofValue_of_read {value : Value} {node : Node}
    (made : repository.read value = (.ok (.node node), after)) :
    Node.ofValue repository.context value = .ok node := by
  cases value with
  | object entries =>
    rw [read] at made
    by_cases document : isDocument entries
    · rw [if_pos document] at made
      generalize repository.readEntries entries = outcome at made
      obtain ⟨answer, later⟩ := outcome
      cases answer <;> cases made
    · rw [if_neg document] at made
      cases plain : Node.ofEntries repository.context entries with
      | error fault =>
        rw [plain] at made
        cases made
      | ok held =>
        rw [plain] at made
        cases made
        rw [Node.ofValue, if_neg document, plain]
  | _ => cases made

/-- A node that is read through a repository is composed, and so is the value it was read from. -/
theorem composedFrom_of_read {value : Value} {node : Node} (distinct : value.Distinct)
    (made : repository.read value = (.ok (.node node), after)) : node.ComposedFrom value :=
  Node.composedFrom_of_ofValue distinct (ofValue_of_read made)

end

end Repository

/-- Whatever is newly read is composed, and so is the value that it was read from. That goes
for nodes and documents by themselves and for those read through a repository, be it from a
value or from a file: what a repository has after an operation it had before, or it is
composed, and nothing else is answered. -/
theorem newly_read_is_composed :
    (∀ value : Value, value.Distinct →
      (∀ context node, Node.ofValue context value = .ok node → node.ComposedFrom value) ∧
      (∀ schema, Schema.ofValue value = .ok schema → schema.ComposedFrom value) ∧
      (∀ document, Document.ofValue value = .ok document → document.ComposedFrom value) ∧
      ∀ repository : Repository,
        (∀ node after, repository.read value = (.ok (.node node), after) →
          node.ComposedFrom value) ∧
        repository.Brings (· = value) ((repository.read value).1.toOption.bind
          Repository.Reading.document?) (repository.read value).2 ∧
        repository.Brings (· = value) (repository.readDocument value).1.toOption
          (repository.readDocument value).2) ∧
    ∀ files (repository : Repository) id, repository.Brings
      (fun value => ∃ path text, repository.locate? files id = some path ∧
        files.readText path = .ok text ∧ Json.read text = .ok value)
      (repository.load files id).1.toOption.join (repository.load files id).2 := by
  refine ⟨fun value distinct => ⟨?_, ?_, ?_, ?_⟩, Repository.load_brings⟩
  · exact fun context node made => Node.composedFrom_of_ofValue distinct made
  · exact fun schema made => Schema.composedFrom_of_ofValue distinct made
  · exact fun document made => Document.composedFrom_of_ofValue distinct made
  · intro repository
    refine ⟨?_, Repository.read_brings distinct, Repository.readDocument_brings distinct⟩
    exact fun node after made => Repository.composedFrom_of_read distinct made

/-- An array of texts. -/
def textsProperty : Described Property := ⟨none, .array ⟨⟨none, .scalar (.string {})⟩, {}⟩⟩

/-- The object of a record that has one. -/
def albumObject : Described ObjectShape :=
  ⟨none, ⟨OrderedMap.empty.insert "songs" textsProperty, none, none⟩⟩

/-- The record. -/
def albumNode : Node := ⟨none, .record ⟨none, albumObject⟩⟩

/-- The bound is met by a record of objects, arrays and texts. -/
theorem newly_read_is_composed_album :
    albumNode.ComposedFrom (Node.render albumNode) ∧
      ∃ chain, List.IsChain Node.view.PartOf (albumNode :: chain) ∧
        (albumNode :: chain).length = 4 := by
  have written : Node.render albumNode = .object [("type", .string "record"), ("record",
      .object [("type", .string "object"), ("properties", .object [("songs",
        .object [("type", .string "array"), ("items", .object [("type", .string "string")])])])])] :=
    rfl
  have distinct : (Node.render albumNode).Distinct := by simp [written]
  have read : Node.ofValue {} (Node.render albumNode) = .ok albumNode := by
    have restored : Node.Restored {} albumNode := Node.restored nofun nofun
    rw [Node.render_eq, Node.ofValue, Node.isDocument_entries]
    exact restored
  refine ⟨(newly_read_is_composed.1 _ distinct).1 {} albumNode read, ?_⟩
  let object : Node := Position.recordObject.node albumObject
  let songs : Node := Position.objectProperty.node textsProperty
  let song : Node := ⟨none, .element (.scalar (.string {}))⟩
  refine ⟨[object, songs, song], ?_, rfl⟩
  refine .cons_cons ⟨.recordObject, List.mem_cons_self⟩ (.cons_cons ⟨.objectProperty, ?_⟩
    (.cons_cons ⟨.arrayItems, List.mem_cons_self⟩ (.singleton _)))
  exact List.mem_cons_self

end LexiconSchema
