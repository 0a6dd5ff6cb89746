import LexiconSchema.Proofs.Relocation

/-!
# Twins in two repositories

The same entries read through two repositories give documents that differ only in the
repository that their references are attached to. Such documents are twins, and so are
the nodes, unions and references that stand in the same places of them. Twins have the
same texts and the same documents around their references, so whatever does not ask for
the repository cannot tell them apart.
-/

namespace LexiconSchema

open Json (Value)

/-! The unions of a document, in the order in which they are written. -/

/-- The union that an element is. -/
def Element.unions : Element → List Union
  | .union held => [held]
  | _ => []

/-- The unions of a property. -/
def Property.unions : Property → List Union
  | .single held => held.unions
  | .array held => held.items.content.unions

/-- The unions of an object, property by property. -/
def ObjectShape.unions (object : ObjectShape) : List Union :=
  object.properties.values.flatMap fun property => Property.unions property.content

/-- The unions of a body's schema. -/
def BodySchema.unions : BodySchema → List Union
  | .object held => held.unions
  | .ref _ => []
  | .union held => [held]

/-- The unions of a method's input or output, if there is one. -/
def Body.unions (body : Option (Described Body)) : List Union :=
  match body.bind fun body => body.content.schema with
  | some schema => schema.content.unions
  | none => []

/-- The union of a subscription's messages, if there are any. -/
def Message.unions (message : Option (Described Message)) : List Union :=
  match message.bind fun message => message.content.schema with
  | some union => [union.content]
  | none => []

/-- The unions of a content. Parameters have none. -/
def Content.unions : Content → List Union
  | .element held => held.unions
  | .array held => held.items.content.unions
  | .token => []
  | .object held => held.unions
  | .params _ => []
  | .record held => held.object.content.unions
  | .query held => Body.unions held.output
  | .procedure held => Body.unions held.input ++ Body.unions held.output
  | .subscription held => Message.unions held.message

/-- The unions of a node. -/
def Node.unions (node : Node) : List Union := node.content.unions

/-- The unions of all definitions, definition by definition. -/
def Document.unions (document : Document) : List Union :=
  document.definitions.values.flatMap Node.unions

section
variable (f : Reference → Reference)

/-- Replacing the references of an element replaces the members of its union, if it is one. -/
theorem Element.unions_mapReferences (element : Element) :
    (element.mapReferences f).unions = element.unions.map (Union.mapReferences f) := by
  cases element <;> rfl

/-- So it does in a property. -/
theorem Property.unions_mapReferences (property : Property) :
    Property.unions (property.mapReferences f) =
      (Property.unions property).map (Union.mapReferences f) := by
  cases property with
  | single held => exact held.unions_mapReferences f
  | array held => exact held.items.content.unions_mapReferences f

/-- So it does in an object, property by property. -/
theorem ObjectShape.unions_mapReferences (object : ObjectShape) :
    (object.mapReferences f).unions = object.unions.map (Union.mapReferences f) := by
  simp [ObjectShape.unions, ObjectShape.mapReferences, List.flatMap_map, List.map_flatMap,
    Property.unions_mapReferences]

/-- So it does in the schema of an input or output. -/
theorem BodySchema.unions_mapReferences (schema : BodySchema) :
    (schema.mapReferences f).unions = schema.unions.map (Union.mapReferences f) := by
  cases schema with
  | object held => exact held.unions_mapReferences f
  | ref held => rfl
  | union held => rfl

/-- So it does in an input or output. -/
theorem Body.unions_mapReferences (body : Option (Described Body)) :
    Body.unions (body.map (Described.map (Body.mapReferences f))) =
      (Body.unions body).map (Union.mapReferences f) := by
  rcases body with _ | ⟨description, encoding, schema⟩
  · rfl
  · cases schema with
    | none => rfl
    | some held => exact held.content.unions_mapReferences f

/-- So it does in a subscription's messages. -/
theorem Message.unions_mapReferences (message : Option (Described Message)) :
    Message.unions (message.map (Described.map (Message.mapReferences f))) =
      (Message.unions message).map (Union.mapReferences f) := by
  rcases message with _ | ⟨description, ⟨schema⟩⟩
  · rfl
  · cases schema <;> rfl

/-- The unions of a content have their members replaced, and keep their order. -/
theorem Content.unions_mapReferences (content : Content) :
    (content.mapReferences f).unions = content.unions.map (Union.mapReferences f) := by
  cases content with
  | element held => exact held.unions_mapReferences f
  | array held => exact held.items.content.unions_mapReferences f
  | token => rfl
  | object held => exact held.unions_mapReferences f
  | params held => rfl
  | record held => exact held.object.content.unions_mapReferences f
  | query held => exact Body.unions_mapReferences f held.output
  | procedure held =>
    simp [Content.mapReferences, Content.unions, Body.unions_mapReferences]
  | subscription held => exact Message.unions_mapReferences f held.message

/-- The unions of a document have their members replaced, definition by definition. -/
theorem Document.unions_mapReferences (document : Document) :
    (document.mapReferences f).unions = document.unions.map (Union.mapReferences f) := by
  have each (node : Node) : Node.unions (node.mapReferences f) =
      (Node.unions node).map (Union.mapReferences f) := node.content.unions_mapReferences f
  simp [Document.unions, Document.mapReferences, List.flatMap_map, List.map_flatMap, each]

end

/-! Twins. -/

/-- The context of a repository's reader. -/
def Handle.context (handle : Handle) : Context := { repository := some handle }

/-- The reference as a document in a repository declares it. -/
def Handle.attach (handle : Handle) (base : Identifier) : Reference → Reference :=
  Context.adopt { handle.context with base := some base }

/-- Things with references are twins when they are the same up to the repository of their
references, all of which are declared in one document. -/
def Twins {α : Type} (mapReferences : (Reference → Reference) → α → α) (left right : Handle)
    (one other : α) : Prop :=
  ∃ base, mapReferences (left.attach base) one = one ∧ mapReferences (right.attach base) one = other

section
variable {left right : Handle}

/-- What is found in the same place of twins are twins, if replacing references commutes
with finding it. -/
theorem Twins.image {α β : Type} {outer : (Reference → Reference) → α → α}
    {inner : (Reference → Reference) → β → β} {one other : α}
    (twins : Twins outer left right one other) (find : α → β)
    (commutes : ∀ f a, find (outer f a) = inner f (find a)) :
    Twins inner left right (find one) (find other) := by
  obtain ⟨base, same, moved⟩ := twins
  refine ⟨base, ?_, ?_⟩
  · rw [← commutes, same]
  · rw [← commutes, moved]

/-- Twin references are attached to their repositories and otherwise the same. -/
theorem Twins.reference {one other : Reference}
    (twins : Twins (fun f reference => f reference) left right one other) :
    one.repository = some left ∧ other.repository = some right ∧ other.target = one.target ∧
      other.base = one.base := by
  obtain ⟨base, same, moved⟩ := twins
  have base : some base = one.base := congrArg Reference.base same
  have attached : some left = one.repository := congrArg Reference.repository same
  subst moved
  exact ⟨attached.symm, rfl, rfl, base⟩

/-- The first of twin lists are twins, and so are the rest. -/
theorem Twins.cons {α : Type} {mapReferences : (Reference → Reference) → α → α} {first : α}
    {rest other : List α}
    (twins : Twins (fun f => List.map (mapReferences f)) left right (first :: rest) other) :
    ∃ head tail, other = head :: tail ∧ Twins mapReferences left right first head ∧
      Twins (fun f => List.map (mapReferences f)) left right rest tail := by
  obtain ⟨base, same, moved⟩ := twins
  obtain ⟨sameFirst, sameRest⟩ := List.cons.inj same
  exact ⟨_, _, moved.symm, ⟨base, sameFirst, rfl⟩, ⟨base, sameRest, rfl⟩⟩

/-- What twin lists hold at the same place, if anything, are twins. -/
theorem Twins.getElem? {α : Type} {mapReferences : (Reference → Reference) → α → α}
    {list other : List α}
    (twins : Twins (fun f => List.map (mapReferences f)) left right list other) (index : Nat) :
    Option.Rel (Twins mapReferences left right) list[index]? other[index]? := by
  obtain ⟨base, same, moved⟩ := twins
  have sameAt : list[index]?.map (mapReferences (left.attach base)) = list[index]? := by
    rw [← List.getElem?_map]
    exact congrArg (fun list => list[index]?) same
  have movedAt : list[index]?.map (mapReferences (right.attach base)) = other[index]? := by
    rw [← List.getElem?_map]
    exact congrArg (fun list => list[index]?) moved
  rw [← movedAt]
  cases found : list[index]? with
  | none => exact .none
  | some held =>
    rw [found] at sameAt
    exact .some ⟨base, Option.some.inj sameAt, rfl⟩

/-- Of twins that may be absent both are or neither is. -/
theorem Twins.option {α : Type} {mapReferences : (Reference → Reference) → α → α}
    {one other : Option α}
    (twins : Twins (fun f => Option.map (mapReferences f)) left right one other) :
    Option.Rel (Twins mapReferences left right) one other := by
  obtain ⟨base, same, moved⟩ := twins
  subst moved
  cases one with
  | none => exact .none
  | some held => exact .some ⟨base, Option.some.inj same, rfl⟩

/-- Twin references stand for the same identifier. -/
theorem Twins.identifier {one other : Reference}
    (twins : Twins (fun f reference => f reference) left right one other) :
    other.identifier = one.identifier := by
  obtain ⟨-, -, target, base⟩ := twins.reference
  rw [Reference.identifier, Reference.identifier, target, base]

/-- Twin nodes are references at the same time, and then twin references. -/
theorem Twins.reference? {one other : Node}
    (twins : Twins Node.mapReferences left right one other) :
    Option.Rel (Twins (fun f reference => f reference) left right) one.content.reference?
      other.content.reference? := by
  refine Twins.option (twins.image (fun node : Node => node.content.reference?) fun f node => ?_)
  obtain ⟨description, content⟩ := node
  cases content with
  | element held => cases held <;> rfl
  | _ => rfl

section
variable {one other : Document} (twins : Twins Document.mapReferences left right one other)
include twins

/-- Twin documents have one identifier. -/
theorem Twins.id : other.id = one.id := by
  obtain ⟨base, -, rfl⟩ := twins
  rfl

/-- Twin documents have twin definitions under each name. -/
theorem Twins.definition? (name : String) :
    Option.Rel (Twins Node.mapReferences left right) (one.definition? name)
      (other.definition? name) :=
  Twins.option (twins.image (fun document : Document => document.definition? name)
    fun f document => document.definitions.get?_mapValues (Node.mapReferences f) name)

/-- Twin documents have twin references in the same order. -/
theorem Twins.references :
    Twins (fun f => List.map f) left right one.references other.references :=
  twins.image Document.references Document.references_mapReferences

/-- Twin documents have twin unions in the same order. -/
theorem Twins.unions :
    Twins (fun f => List.map (Union.mapReferences f)) left right one.unions other.unions :=
  twins.image Document.unions Document.unions_mapReferences

end

/-- Nothing but a longer path tells errors of moved readings apart. -/
theorem ParseError.inside_nil (error : ParseError) : error.inside [] = error := by
  cases error <;> rfl

/-- The same entries read through two repositories give the same error or twins. -/
theorem Document.twins_of_ofEntries (left right : Handle) (entries : List (String × Value)) :
    SideBySide (· = ·) (Twins Document.mapReferences left right)
      (Document.ofEntries left.context entries) (Document.ofEntries right.context entries) := by
  have moved := @Document.ofEntries_inside right.context left.context entries
  have stays := @Document.ofEntries_inside left.context left.context entries
  change Relocated right.context _ _ (Document.ofEntries right.context entries) at moved
  change Relocated left.context _ _ (Document.ofEntries left.context entries) at stays
  revert moved stays
  generalize Document.ofEntries right.context entries = there
  cases Document.ofEntries left.context entries with
  | error error =>
    intro moved stays
    cases moved with
    | error same => exact .error (same.trans error.inside_nil).symm
  | ok document =>
    intro moved stays
    cases moved with
    | ok same =>
      cases stays with
      | ok stayed => exact .ok ⟨document.id, stayed.symm, same.symm⟩

end

end LexiconSchema
