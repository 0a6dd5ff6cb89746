import LexiconSchema.Proofs.Loading
import LexiconSchema.Proofs.RoundTrip
import LexiconSchema.Proofs.Twins

/-!
# Reading with a repository and without

A reader that works for a repository reads what the plain reader reads. Its errors are the
same, and its nodes and documents differ in one thing: their references are attached to
the repository. A document that was read is kept, and nothing else changes the repository.

The one exception is a document that is kept already. Its version and its identifier are
enough to know it, so what is kept is the answer and the rest of the value is never looked
at.

Main statement: `repository_reads_plainly`.
-/

namespace LexiconSchema

open Json (Value)

/-- The same reference, attached to the repository. -/
def Handle.adopt (handle : Handle) (reference : Reference) : Reference :=
  { reference with repository := some handle }

/-- A reference that is attached to a repository keeps its text. -/
theorem Handle.adopt_target (handle : Handle) (reference : Reference) :
    (handle.adopt reference).target = reference.target := rfl

/-- The backed thing is the plain one with its references attached to a repository. So the
two are equal, they are written the same way, and their references have the same texts and
the same documents around them. -/
structure Attached {α : Type} [BEq α] (mapReferences : (Reference → Reference) → α → α)
    (references : α → List Reference) (render : α → Value) (handle : Handle)
    (plain backed : α) : Prop where
  moved : backed = mapReferences handle.adopt plain
  equal : (backed == plain) = true
  rendered : render backed = render plain
  references : references backed = (references plain).map handle.adopt

/-- The backed node is the plain one with its references attached. -/
abbrev Node.AttachedTo : Handle → Node → Node → Prop :=
  Attached Node.mapReferences Node.references Node.render

/-- The backed document is the plain one with its references attached. -/
abbrev Document.AttachedTo : Handle → Document → Document → Prop :=
  Attached Document.mapReferences Document.references Document.render

section
variable {handle : Handle}

/-- A plain node with its references attached is the attached node. -/
theorem Node.attachedTo (plain : Node) :
    Node.AttachedTo handle plain (plain.mapReferences handle.adopt) where
  moved := rfl
  equal := Node.mapReferences_beq handle.adopt_target plain
  rendered := Node.render_mapReferences handle.adopt_target plain
  references := Node.references_mapReferences handle.adopt plain

/-- A plain document with its references attached is the attached document. -/
theorem Document.attachedTo (plain : Document) :
    Document.AttachedTo handle plain (plain.mapReferences handle.adopt) where
  moved := rfl
  equal := Document.mapReferences_beq handle.adopt_target plain
  rendered := Document.render_mapReferences handle.adopt_target plain
  references := Document.references_mapReferences handle.adopt plain

/-- A reading that was moved to two places, at the top of both, gives the same error or
what was moved from one thing. -/
theorem Relocated.together {α β : Type} {first second : Context} {f g : α → β}
    {read : Except ParseError α} {left right : Except ParseError β}
    (topFirst : first.path = []) (topSecond : second.path = [])
    (leftMoved : Relocated first f read left) (rightMoved : Relocated second g read right) :
    SideBySide (· = ·) (fun a b => ∃ made, a = f made ∧ b = g made) left right := by
  cases leftMoved with
  | error same =>
    cases rightMoved with
    | error other =>
      rw [topFirst, ParseError.inside_nil] at same
      rw [topSecond, ParseError.inside_nil] at other
      exact .error (same.trans other.symm)
  | ok same =>
    cases rightMoved with
    | ok other => exact .ok ⟨_, same, other⟩

/-- Entries of a node are read for a repository as they are read plainly. -/
theorem Node.attached_of_ofEntries (handle : Handle) (entries : List (String × Value)) :
    SideBySide (· = ·) (Node.AttachedTo handle) (Node.ofEntries {} entries)
      (Node.ofEntries handle.context entries) := by
  have together := Relocated.together rfl rfl (Node.ofEntries_inside {} {} entries)
    (Node.ofEntries_inside handle.context {} entries)
  refine SideBySide.mono together ?_
  rintro plain backed ⟨made, rfl, rfl⟩
  have attached : made.mapReferences handle.context.adopt =
      (made.mapReferences (Context.adopt {})).mapReferences handle.adopt :=
    (Node.mapReferences_mapReferences (Context.adopt {}) handle.adopt made).symm
  rw [attached]
  exact Node.attachedTo _

/-- Entries of a document are read for a repository as they are read plainly. -/
theorem Document.attached_of_ofEntries (handle : Handle) (entries : List (String × Value)) :
    SideBySide (· = ·) (Document.AttachedTo handle) (Document.ofEntries {} entries)
      (Document.ofEntries handle.context entries) := by
  have together := Relocated.together rfl rfl (@Document.ofEntries_inside {} {} entries)
    (@Document.ofEntries_inside handle.context {} entries)
  refine SideBySide.mono together ?_
  rintro plain backed ⟨made, rfl, rfl⟩
  have attached : made.inside handle.context =
      (made.inside {}).mapReferences handle.adopt :=
    (Document.mapReferences_mapReferences (Context.adopt { base := some made.id })
      handle.adopt made).symm
  rw [attached]
  exact Document.attachedTo _

end

/-! The head of a document. -/

/-- A head is read exactly if the version is the number one and the identifier a text that
is one and names no definition. -/
theorem Document.readHead_eq_ok_iff {source : Source} {id : Identifier} :
    Document.readHead source = .ok id ↔
      findEntry "lexicon" source.entries = some (.number languageVersion) ∧
      ∃ text, findEntry "id" source.entries = some (.string text) ∧ '#' ∉ text.toList ∧
        Identifier.parse text = .ok id := by
  constructor
  · intro head
    obtain ⟨text, found, whole, parsed⟩ := Document.readHead_text source id head
    refine ⟨?_, text, findEntry_of_text found, whole, parsed⟩
    have checked : Document.checkVersion source = .ok () := by
      rw [Document.readHead] at head
      cases version : Document.checkVersion source with
      | error error => simp [version, bind, Except.bind] at head
      | ok _ => rfl
    revert checked
    rw [Document.checkVersion]
    cases present : Value.present? "lexicon" source.entries with
    | none => simp
    | some held =>
      have declared := Option.eq_some_of_filter_eq_some present
      rcases held with _ | _ | (version | _) | _ | _ | _ <;> try simp
      intro one
      rw [declared]
      obtain ⟨value, least, bound⟩ := version
      subst one
      rfl
  · rintro ⟨version, text, named, whole, parsed⟩
    rw [Document.readHead_of_findEntry version named]
    exact Document.identify_of_parse whole parsed

namespace Repository

/-- A value asks for a document that the repository keeps: it has the version one, and its
identifier is a text without a definition's name that the document is kept under. -/
inductive Recalls (repository : Repository) : Value → Kept → Prop
  | intro {entries : List (String × Value)} {text : String} {id : Identifier} {kept : Kept}
      (version : findEntry "lexicon" entries = some (.number languageVersion))
      (named : findEntry "id" entries = some (.string text)) (whole : '#' ∉ text.toList)
      (parsed : Identifier.parse text = .ok id) (found : repository.get? id = some kept) :
      Recalls repository (.object entries) kept

/-- An answer of the repository's reader belongs to the answer of the plain one. An error
is the same and changes nothing. A node has its references attached and changes nothing
either. A document has its references attached and is put under its identifier, with the
next serial number. -/
inductive Mirrors (repository : Repository) :
    Except ParseError Schema → Except ParseError Reading × Repository → Prop
  | refused {error : ParseError} : Mirrors repository (.error error) (.error error, repository)
  | node {plain backed : Node} (attached : Node.AttachedTo repository.handle plain backed) :
      Mirrors repository (.ok (.node plain)) (.ok (.node backed), repository)
  | document {plain backed : Document}
      (attached : Document.AttachedTo repository.handle plain backed) :
      Mirrors repository (.ok (.document plain))
        (.ok (.document ⟨backed, repository.nextSerial⟩),
          { repository with
            kept := repository.kept.insert plain.id ⟨backed, repository.nextSerial⟩
            nextSerial := repository.nextSerial + 1 })

section
variable {repository : Repository} {entries : List (String × Value)}

/-- A value recalls a document exactly if its head is read and the document found. -/
theorem recalls_iff {kept : Kept} (context : Context) : repository.Recalls (.object entries) kept ↔
    ∃ id, Document.readHead ⟨context, entries⟩ = .ok id ∧ repository.get? id = some kept := by
  constructor
  · intro recalls
    cases recalls with
    | intro version named whole parsed found =>
      exact ⟨_, Document.readHead_eq_ok_iff.mpr ⟨version, _, named, whole, parsed⟩, found⟩
  · rintro ⟨id, head, found⟩
    obtain ⟨version, text, named, whole, parsed⟩ := Document.readHead_eq_ok_iff.mp head
    exact .intro version named whole parsed found

/-- Entries that recall a document are those of a document. -/
theorem Recalls.isDocument {kept : Kept} (recalls : repository.Recalls (.object entries) kept) :
    isDocument entries = true := by
  cases recalls with
  | intro version named whole parsed found => simp [LexiconSchema.isDocument, version, named]

/-- A document that is recalled is the answer, and nothing changes. -/
theorem readEntries_of_recalls {kept : Kept}
    (recalls : repository.Recalls (.object entries) kept) :
    repository.readEntries entries = (.ok kept, repository) := by
  obtain ⟨id, head, found⟩ := (recalls_iff repository.context).mp recalls
  exact readEntries_of_kept head found

/-- An identifier from a head names the document itself. -/
theorem document_of_readHead {source : Source} {id : Identifier}
    (head : Document.readHead source = .ok id) : id.document = id := by
  obtain ⟨-, text, -, whole, parsed⟩ := Document.readHead_eq_ok_iff.mp head
  exact Identifier.document_of_parse whole parsed

/-- Where nothing is recalled, the entries of a document are read as they are read
plainly, and the document is kept. -/
theorem mirrors_readEntries (unknown : ∀ kept, ¬ repository.Recalls (.object entries) kept) :
    repository.Mirrors ((Document.ofEntries {} entries).map .document)
      ((repository.readEntries entries).1.map .document, (repository.readEntries entries).2) := by
  have together := Document.attached_of_ofEntries repository.handle entries
  change SideBySide _ _ _ (Document.ofEntries repository.context entries) at together
  have reads := readEntries_cases repository entries
  generalize repository.readEntries entries = outcome at reads ⊢
  cases reads with
  | refused read =>
    rw [read] at together
    generalize Document.ofEntries {} entries = plain at together ⊢
    cases together with
    | error same =>
      subst same
      exact .refused
  | kept head found => exact absurd ((recalls_iff _).mpr ⟨_, head, found⟩) (unknown _)
  | @stored backed read head absent =>
    rw [read] at together
    generalize Document.ofEntries {} entries = plain at together ⊢
    cases together with
    | @ok plain _ attached =>
      have identifier : backed.id.document = plain.id := by
        rw [document_of_readHead head, attached.moved]
        rfl
      have inserted := Mirrors.document attached
      rw [← identifier] at inserted
      exact inserted

/-- The entries of a node are read as they are read plainly. -/
theorem mirrors_readNode : repository.Mirrors ((Node.ofEntries {} entries).map .node)
    ((Node.ofEntries repository.context entries).map .node, repository) := by
  have together := Node.attached_of_ofEntries repository.handle entries
  change SideBySide _ _ _ (Node.ofEntries repository.context entries) at together
  generalize Node.ofEntries repository.context entries = backed at together ⊢
  generalize Node.ofEntries {} entries = plain at together ⊢
  cases together with
  | error same =>
    subst same
    exact .refused
  | ok attached => exact .node attached

end

end Repository

/-- How a repository's reader answers, whatever the repository keeps and whatever the value
is. A value that asks for a kept document gets that document, and nothing changes. Any other
value is read as the plain reader reads it: as a document, as a node, or as what it is. A
document that was read is put under its identifier, and nothing else ever changes. -/
theorem repository_reads_plainly (repository : Repository) (value : Value) :
    (∀ kept, repository.Recalls value kept →
      repository.readDocument value = (.ok kept, repository) ∧
      repository.read value = (.ok (.document kept), repository)) ∧
    ((∀ kept, ¬ repository.Recalls value kept) →
      repository.Mirrors ((Document.ofValue value).map .document)
        ((repository.readDocument value).1.map .document, (repository.readDocument value).2) ∧
      repository.Mirrors (Schema.ofValue value) (repository.read value)) ∧
    repository.Mirrors ((Node.ofValue {} value).map .node)
      ((repository.readNode value).map .node, repository) := by
  refine ⟨fun kept recalls => ?_, fun unknown => ?_, ?_⟩
  · obtain ⟨entries, rfl⟩ : ∃ entries, value = .object entries := by
      cases recalls
      exact ⟨_, rfl⟩
    have document := recalls.isDocument
    have read := Repository.readEntries_of_recalls recalls
    constructor
    · simp [Repository.readDocument, Document.entriesOf, document, read]
    · simp [Repository.read, document, read, Except.map]
  · cases value with
    | object entries =>
      have mirrors := Repository.mirrors_readEntries unknown
      by_cases document : isDocument entries = true
      · constructor
        · simp only [Repository.readDocument, Document.ofValue, Document.entriesOf, document]
          exact mirrors
        · simp only [Repository.read, Schema.ofValue, document]
          exact mirrors
      · constructor
        · simp only [Repository.readDocument, Document.ofValue, Document.entriesOf, document]
          exact .refused
        · simp only [Repository.read, Schema.ofValue, document]
          exact Repository.mirrors_readNode
    | _ => exact ⟨.refused, .refused⟩
  · cases value with
    | object entries =>
      by_cases document : isDocument entries = true
      · simp only [Repository.readNode, Node.ofValue, document, if_true]
        exact .refused
      · simp only [Repository.readNode, Node.ofValue, document]
        exact Repository.mirrors_readNode
    | _ => exact .refused

/-- A document with the identifier of the feed whose definitions cannot be read. -/
def brokenFeed : Value :=
  .object [("id", .string "com.example.feed"), ("lexicon", .number languageVersion),
    ("defs", .bool true)]

/-- A repository without documents reads the feed and keeps it. Once the feed is kept, a
broken document of its identifier gives the kept one. -/
theorem repository_reads_plainly_feed :
    let before := Repository.new ⟨0⟩ {}
    let kept : Kept := (before.store feedDocument).1
    let after := (before.store feedDocument).2
    ((∀ other, ¬ before.Recalls (.object feedEntries) other) ∧
      before.Mirrors (Schema.ofValue (.object feedEntries)) (before.read (.object feedEntries))) ∧
    (after.Recalls brokenFeed kept ∧
      after.readDocument brokenFeed = (.ok kept, after) ∧
      after.read brokenFeed = (.ok (.document kept), after)) := by
  intro before kept after
  have unknown : ∀ other, ¬ before.Recalls (.object feedEntries) other := by
    intro other recalls
    cases recalls with
    | intro version named whole parsed found => cases found
  have recalled : after.Recalls brokenFeed kept :=
    .intro rfl rfl (by decide) (show Identifier.parse "com.example.feed" = .ok feedId by rfl) rfl
  exact ⟨⟨unknown, ((repository_reads_plainly before _).2.1 unknown).2⟩,
    ⟨recalled, (repository_reads_plainly after _).1 kept recalled⟩⟩

end LexiconSchema
