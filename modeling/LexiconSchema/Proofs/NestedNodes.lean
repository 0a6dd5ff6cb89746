import LexiconSchema.Proofs.Composition
import LexiconSchema.Proofs.Diagnostics

/-!
# Nested nodes are read alone

What is around a node decides nothing about it. Reading a node in some position of another one is
reading it alone, with two differences. Errors have the path of the place before their own, and
references know the document around the place. Only after the node was read is its position asked
whether it allows the node's kind.

A value that has both keys of a document is no node anywhere. It is refused without a look at what
it holds, so it never is read as a document, and a repository that meets one inside another value
keeps what it kept before and nothing else.

Main statement: `nested_nodes_are_read_alone`.
-/

namespace LexiconSchema

open Json (Value)

/-- The reference with another document around it, or with none. -/
def Reference.rebase (base : Option Identifier) (reference : Reference) : Reference :=
  { reference with base := base }

/-- A node is another one except for the document around its references. -/
structure Node.Rebased (base : Option Identifier) (node other : Node) : Prop where
  replaced : other = node.mapReferences (Reference.rebase base)
  equal : (other == node) = true
  rendered : Node.render other = Node.render node
  references : Node.references other = (Node.references node).map (Reference.rebase base)

/-- Changing the document around references keeps what is declared. -/
theorem Node.rebased_mapReferences (base : Option Identifier) (node : Node) :
    node.Rebased base (node.mapReferences (Reference.rebase base)) := by
  have keepsText (reference : Reference) :
      (Reference.rebase base reference).target = reference.target := rfl
  exact ⟨rfl, Node.mapReferences_beq keepsText node, Node.render_mapReferences keepsText node,
    Node.references_mapReferences _ node⟩

/-- A path behind another one is written behind it, without the sign for the top. -/
theorem pathText_append (outer inner : List String) :
    ∃ behind, pathText inner = "$" ++ behind ∧
      pathText (outer ++ inner) = pathText outer ++ behind := by
  refine ⟨String.join (inner.map ("." ++ ·)), pathText_eq inner, ?_⟩
  simp only [pathText_eq, List.map_append, String.join_append, String.append_assoc]

/-! Reading at another place. -/

/-- A node that was read without a document around it becomes one of the context by getting the
document of the context for its references. Their repository is the same already. -/
theorem Node.mapReferences_adopt {outer : Context} {entries : List (String × Value)} {node : Node}
    (alone : Node.ofEntries { repository := outer.repository } entries = .ok node) :
    node.mapReferences outer.adopt = node.mapReferences (Reference.rebase outer.base) := by
  have again := Node.ofEntries_inside { repository := outer.repository }
    { repository := outer.repository } entries
  have stays : Node.ofEntries (Context.inside { repository := outer.repository }
      { repository := outer.repository }) entries = .ok node := alone
  rw [alone, stays] at again
  cases again with
  | ok own =>
    -- All references are those of the bare context, where both changes come to the same.
    rw [own, Node.mapReferences_mapReferences, Node.mapReferences_mapReferences]
    rfl

/-- Entries are read at a place as they are read alone. -/
theorem Node.ofEntries_at (outer : Context) (entries : List (String × Value)) :
    Relocated outer (Node.mapReferences (Reference.rebase outer.base))
      (Node.ofEntries { repository := outer.repository } entries)
      (Node.ofEntries outer entries) := by
  have moved := Node.ofEntries_inside outer { repository := outer.repository } entries
  have place : outer.inside { repository := outer.repository } = outer := by
    simp [Context.inside]
  rw [place] at moved
  generalize Node.ofEntries outer entries = there at moved ⊢
  cases alone : Node.ofEntries { repository := outer.repository } entries with
  | error error =>
    rw [alone] at moved
    cases moved with
    | error same => exact .error same
  | ok node =>
    rw [alone] at moved
    cases moved with
    | ok same => exact .ok (same.trans (Node.mapReferences_adopt alone))

/-- How reading a value in a position ends, by how reading it alone ends. -/
inductive Position.Nests (position : Position) (outer : Context) (value : Value) :
    Except ParseError Node → Except ParseError (Described position.Accepted) → Prop
  | failed {error other : ParseError} (same : other = error.inside outer.path) :
      Nests position outer value (.error error) (.error other)
  | misplaced {node : Node} {entries : List (String × Value)} (object : value = .object entries)
      (refused : position.allows (Node.kind node) = false) : Nests position outer value (.ok node)
        (.error (.shape outer.path (.kindNotAllowed (Node.kind node) position) entries))
  | placed {node : Node} {held : Described position.Accepted}
      (allowed : position.allows (Node.kind node) = true)
      (rebased : node.Rebased outer.base (position.node held)) :
      Nests position outer value (.ok node) (.ok held)

section
variable {around : List (String × Value)} {position : Position} {value : Value}

/-- A value that is no document is read in every position as it is read alone. -/
theorem readChild_nests (outer : Context) (smaller : sizeOf value < sizeOf around)
    (apart : ∀ entries, value = .object entries → isDocument entries = false) :
    position.Nests outer value (Node.ofValue { repository := outer.repository } value)
      (readChild (Descent.whole around) position outer value smaller) := by
  cases value with
  | object entries =>
    rw [Node.ofValue, readChild, apart entries rfl]
    simp only [Bool.false_eq_true, if_false, Descent.whole]
    have read := Node.ofEntries_at outer entries
    generalize Node.ofEntries { repository := outer.repository } entries = alone at read ⊢
    generalize Node.ofEntries outer entries = there at read ⊢
    cases read with
    | error same => exact .failed same
    | @ok node other same =>
      have sameKind : Node.kind other = Node.kind node := by rw [same, Node.kind_mapReferences]
      have asked : (position.accept other.content).isSome = position.allows (Node.kind node) := by
        rw [position.isSome_accept, ← sameKind]
        rfl
      dsimp only [bind, Except.bind]
      cases accepted : position.accept other.content with
      | some content =>
        rw [accepted] at asked
        refine .placed asked.symm ?_
        rw [Position.node, Described.map, Position.content_of_accept accepted, same]
        exact node.rebased_mapReferences outer.base
      | none =>
        rw [accepted] at asked
        rw [sameKind]
        exact .misplaced rfl asked.symm
  | _ => exact .failed (by simp [ParseError.inside])

/-- A value that has both keys of a document is refused however nodes are read. -/
theorem readChild_of_isDocument {entries : List (String × Value)} (whole : isDocument entries = true)
    (descent : Descent around) (outer : Context)
    (smaller : sizeOf (Value.object entries) < sizeOf around) :
    readChild descent position outer (.object entries) smaller =
      .error (.shape outer.path (.documentInside position) entries) := by
  rw [readChild, if_pos whole]
  rfl

end

/-! Documents inside documents. -/

/-- Reading a value changes nothing about what the repository keeps, neither when it is read through
the repository nor when it stands in the file that is found for an identifier. -/
structure Repository.Ignores (repository : Repository) (value : Value) : Prop where
  read : (repository.read value).2 = repository
  readDocument : (repository.readDocument value).2 = repository
  load : ∀ files id path text, repository.locate? files id = some path →
    files.readText path = .ok text → Json.read text = .ok value →
      (repository.load files id).2 = repository

namespace Repository

variable {repository : Repository} {value : Value}

/-- What cannot be read as a document is ignored. -/
theorem ignores_of_refused (refused : ∀ entries, value = .object entries → ∀ document,
      Document.ofEntries repository.context entries ≠ .ok document) :
    repository.Ignores value := by
  have unchanged (entries : List (String × Value)) (same : value = .object entries) :
      (repository.readEntries entries).2 = repository := by
    have reads := readEntries_cases repository entries
    generalize repository.readEntries entries = outcome at reads ⊢
    cases reads with
    | refused read => rfl
    | kept head found => rfl
    | stored read head absent => exact absurd read (refused entries same _)
  refine ⟨?_, ?_, fun files id path text located held decoded => ?_⟩
  · cases value with
    | object entries =>
      rw [read]
      split
      · exact unchanged entries rfl
      · rfl
    | _ => rfl
  · rw [readDocument]
    cases given : Document.entriesOf value with
    | error fault => rfl
    | ok entries => exact unchanged entries (Document.object_of_entriesOf given)
  · rw [load]
    cases repository.get? id with
    | some kept => rfl
    | none =>
      dsimp only
      rw [located]
      dsimp only
      rw [loadFile_eq]
      cases content : fileEntries files path with
      | error error => rfl
      | ok entries =>
        obtain ⟨other, again, whole⟩ := read_of_fileEntries content
        obtain rfl := Except.ok.inj (held.symm.trans again)
        exact unchanged entries (Except.ok.inj (decoded.symm.trans whole))

end Repository

/-- What stands inside a definition of a document that was read, at whatever depth, has not both
keys of a document. -/
theorem isDocument_of_within {context : Context} {entries part : List (String × Value)}
    {document : Document} {definition : Value} (distinct : (Value.object entries).Distinct)
    (read : Document.ofEntries context entries = .ok document)
    (member : definition ∈ (Value.object entries).definitions)
    (inside : Value.view.Within definition (.object part)) : isDocument part = false := by
  have accepted := Document.accepts_definition distinct read member
  have valid := Value.view_governs.within (Form.accepts_child_iff.mp accepted).1 inside
  exact (accepts_object_iff.mp valid).1

/-- Reading a value in a position of another one, at whatever path and in whatever document, is
reading it alone. It succeeds exactly if reading it alone gives a node of a kind that the position
allows, and gives that node with the document around its references for the only difference. An
error of the value alone is the error at its place, with the path of the place put before it; a kind
that is not allowed is told with the value at its place. A value that has both keys of a document
is refused at its place in every position, whatever reads the nodes inside, and no repository
changes by reading a document that has it inside. -/
theorem nested_nodes_are_read_alone {around : List (String × Value)} (position : Position)
    (outer : Context) (value : Value) (smaller : sizeOf value < sizeOf around) :
    let alone := Node.ofValue { repository := outer.repository } value
    let nested := readChild (Descent.whole around) position outer value smaller
    ((∀ entries, value = .object entries → isDocument entries = false) →
      ((∃ held, nested = .ok held) ↔
        ∃ node, alone = .ok node ∧ position.allows (Node.kind node) = true) ∧
      (∀ node held, alone = .ok node → nested = .ok held →
        node.Rebased outer.base (position.node held)) ∧
      (∀ error, alone = .error error → nested = .error (error.inside outer.path)) ∧
      ∀ node, alone = .ok node → position.allows (Node.kind node) = false →
        ∃ entries, value = .object entries ∧
          nested = .error (.shape outer.path (.kindNotAllowed (Node.kind node) position) entries)) ∧
    (∀ entries, value = .object entries → isDocument entries = true →
      (∀ descent : Descent around, readChild descent position outer value smaller =
        .error (.shape outer.path (.documentInside position) entries)) ∧
      ∀ whole definition : Value, whole.Distinct → definition ∈ whole.definitions →
        Value.view.Within definition value → ∀ repository : Repository, repository.Ignores whole) ∧
    ∀ inner, ∃ behind, pathText inner = "$" ++ behind ∧
      pathText (outer.path ++ inner) = pathText outer.path ++ behind := by
  intro alone nested
  refine ⟨fun apart => ?_, ?_, pathText_append outer.path⟩
  · have nests : position.Nests outer value alone nested := readChild_nests outer smaller apart
    clear_value alone nested
    refine ⟨⟨?_, ?_⟩, ?_, ?_, ?_⟩
    · rintro ⟨held, rfl⟩
      cases nests with
      | placed allowed => exact ⟨_, rfl, allowed⟩
    · rintro ⟨node, rfl, allowed⟩
      cases nests with
      | misplaced object refused => exact absurd allowed (Bool.eq_false_iff.mp refused)
      | placed => exact ⟨_, rfl⟩
    · rintro node held rfl rfl
      cases nests with
      | placed allowed rebased => exact rebased
    · rintro error rfl
      cases nests with
      | failed moved => rw [moved]
    · rintro node rfl refused
      cases nests with
      | misplaced object => exact ⟨_, object, rfl⟩
      | placed allowed => exact absurd allowed (Bool.eq_false_iff.mp refused)
  · rintro part rfl both
    refine ⟨fun descent => readChild_of_isDocument both descent outer smaller, ?_⟩
    intro whole definition distinct member inside repository
    refine Repository.ignores_of_refused fun entries same document read => ?_
    subst same
    have noDocument := isDocument_of_within distinct read member inside
    rw [both] at noDocument
    cases noDocument

/-- A reference among the items of an array knows the document around the array. -/
theorem nested_nodes_are_read_alone_items :
    let handle : Handle := ⟨7⟩
    let id : Identifier := ⟨["com", "example"], "answer", "main"⟩
    let outer : Context := ⟨["defs", "main", "items"], some id, some handle⟩
    let value : Value := .object [("ref", .string "#reply"), ("type", .string "ref")]
    ∃ smaller held,
      @readChild [("items", value)] (Descent.whole _) .arrayItems outer value smaller = .ok held ∧
        Node.references (Position.arrayItems.node held) = [⟨"#reply", some id, some handle⟩] := by
  intro handle id outer value
  have smaller : sizeOf value < sizeOf [("items", value)] := by
    simp only [List.cons.sizeOf_spec, Prod.mk.sizeOf_spec]
    omega
  let node : Node := ⟨none, .element (.ref ⟨"#reply", none, some handle⟩)⟩
  have alone : Node.ofValue { repository := some handle } value = .ok node := by
    rw [Node.ofValue, if_neg (by decide), Node.ofEntries]
    rfl
  obtain ⟨apart, -⟩ := nested_nodes_are_read_alone .arrayItems outer value smaller
  obtain ⟨succeeds, same, -⟩ := apart fun entries given => by
    obtain rfl := Value.object.inj given
    decide
  obtain ⟨held, read⟩ := succeeds.mpr ⟨node, alone, rfl⟩
  exact ⟨smaller, held, read, (same node held alone read).references⟩

end LexiconSchema
