import LexiconSchema.Proofs.CorrespondingParts
import LexiconSchema.Proofs.Origins

/-!
# References know their surroundings

What is around a reference is known when it is read: the document, if there is one, and the
repository on whose behalf the reading is done, if it is. Both are handed down from the whole to the
parts, through all positions. Here it is shown of everything that is newly read, in whatever way,
that nothing is lost underway: every reference has them, and has the text that was declared in its
place.

Main statement: `references_know_their_surroundings`.
-/

namespace LexiconSchema

open Json (Value)

/-- Every reference in a node, however deep it stands, knows the document around it and the
repository that read it, if there are any; and its text is the one that stands in its place in the
value. -/
structure Node.Situated (node : Node) (base : Option Identifier) (handle : Option Handle)
    (value : Value) : Prop where
  knows : ∀ path inner, Node.view.partAt? node path = some inner →
    ∀ reference ∈ Node.ownReferences inner, reference.base = base ∧
      reference.repository = handle ∧ reference.isAttached = handle.isSome
  spelled : ∀ path, Option.Rel Node.Mirrors
    (Node.view.partAt? node path) (Value.view.partAt? value path)

/-- The definitions of a document and those in its value are situated one by one. The document
around them is this one. -/
def Document.Situated (document : Document) (handle : Option Handle) (value : Value) : Prop :=
  List.Forall₂ (fun node inner => Node.Situated node (some document.id) handle inner)
    document.definitions.values value.definitions

/-- A schema that was read without a repository. -/
def Schema.Situated : Schema → Value → Prop
  | .node held, value => Node.Situated held none none value
  | .document held, value => held.Situated none value

/-- What all references of a node know of their surroundings is known at every depth. -/
theorem Node.knows_of_references {node : Node} {base : Option Identifier} {handle : Option Handle}
    (each : ∀ reference ∈ Node.references node, reference.base = base ∧
      reference.repository = handle) (path : List Nat) (inner : Node)
    (inside : Node.view.partAt? node path = some inner) :
    ∀ reference ∈ Node.ownReferences inner, reference.base = base ∧
      reference.repository = handle ∧ reference.isAttached = handle.isSome := by
  intro reference own
  obtain ⟨around, attached⟩ := each reference (Node.mem_references_iff.mpr ⟨path, inner, inside, own⟩)
  exact ⟨around, attached, congrArg Option.isSome attached⟩

/-- The references of a node that was read are those of its context, at the places where the value
has their texts. -/
theorem Node.situated_of_ofValue {context : Context} {value : Value} {node : Node}
    (distinct : value.Distinct) (read : Node.ofValue context value = .ok node) :
    Node.Situated node context.base context.repository value := by
  obtain ⟨valid, written⟩ := (Node.ofValue_exactly context value distinct).of_ok read
  have each : ∀ reference ∈ Node.references node, reference.base = context.base ∧
      reference.repository = context.repository := by
    cases value with
    | object entries =>
      rw [Node.ofValue] at read
      split at read
      · cases read
      · exact Node.references_of_ofEntries read
    | _ => cases read
  exact ⟨Node.knows_of_references each, Node.mirrors_partAt? valid written⟩

/-- The definitions of a document are written as the entry of their field. -/
theorem Document.definitions_written {source : Source} {id : Identifier} {document : Document}
    (distinct : (Value.object source.entries).Distinct)
    (read : Document.readBody source id = .ok document) :
    [("defs", mapObject Node.render document.definitions)] =
      (Field.optional "defs" (.children .definition)).entry source.entries := by
  obtain ⟨revision, -, later⟩ := bind_eq_ok_iff.mp read
  obtain ⟨definitions, mapped, last⟩ := bind_eq_ok_iff.mp later
  obtain ⟨description, -, made⟩ := bind_eq_ok_iff.mp last
  obtain rfl := Except.ok.inj made
  have reads : (Descent.whole source.entries).Reads :=
    fun context inner _ => Node.ofEntries_exactly context inner
  exact ((readMap_readBy reads distinct "defs" (by decide) _).of_ok mapped).2

/-- So they are written one by one as the normal forms of their values. -/
theorem Document.definitions_normal {context : Context} {entries : List (String × Value)}
    {document : Document} (distinct : (Value.object entries).Distinct)
    (read : Document.ofEntries context entries = .ok document) :
    document.definitions.values.map Node.render =
      (Value.object entries).definitions.map Form.node.normal := by
  obtain ⟨id, -, body⟩ := bind_eq_ok_iff.mp read
  have holds : (Field.optional "defs" (.children .definition)).Holds entries :=
    ((Document.readBody_exactly distinct).of_ok body).1 _ (by decide)
  have written := Document.definitions_written distinct body
  have apart : ([Field.optional "defs" (.children .definition)].map (·.name)).Nodup :=
    List.nodup_singleton _
  have normal := childrenAt_normal apart List.mem_cons_self holds
  have found : findEntry "defs" [("defs", mapObject Node.render document.definitions)] =
      some (mapObject Node.render document.definitions) := findEntry_alone _ _
  rw [List.flatMap_singleton, ← written, childrenAt_written .definition found] at normal
  have values := congrArg (List.map Prod.snd) normal
  simpa [mapParts, Function.comp_def, Value.definitions] using values

/-- Items that are the same in another form, one by one, are paired. -/
theorem forall₂_of_map_eq {α β γ : Type} {f : α → γ} {g : β → γ} {property : β → Prop}
    {left : List α} {right : List β} (same : left.map f = right.map g)
    (each : ∀ one ∈ right, property one) :
    List.Forall₂ (fun one other => property other ∧ f one = g other) left right := by
  induction right generalizing left with
  | nil =>
    obtain rfl := List.map_eq_nil_iff.mp same
    exact .nil
  | cons other rest inductionHypothesis =>
    obtain ⟨one, others, rfl, first, later⟩ := List.map_eq_cons_iff.mp same
    obtain ⟨here, there⟩ := List.forall_mem_cons.mp each
    exact .cons ⟨here, first⟩ (inductionHypothesis later there)

/-- The references of a document that was read know the document, and the repository that it was
read for. -/
theorem Document.situated_of_ofEntries {context : Context} {entries : List (String × Value)}
    {document : Document} (distinct : (Value.object entries).Distinct)
    (read : Document.ofEntries context entries = .ok document) :
    document.Situated context.repository (.object entries) := by
  have accepted (inner : Value) (member : inner ∈ (Value.object entries).definitions) :
      Valid inner :=
    (Form.accepts_child_iff.mp (Document.accepts_definition distinct read member)).1
  have paired := forall₂_of_map_eq (Document.definitions_normal distinct read) accepted
  have known : ∀ node ∈ document.definitions.values, ∀ reference ∈ Node.references node,
      reference.base = some document.id ∧ reference.repository = context.repository :=
    fun node member reference inside => Document.references_of_ofEntries read reference
      (List.mem_flatMap.mpr ⟨node, member, inside⟩)
  refine ((List.forall₂_and_left _ _).mpr ⟨known, paired⟩).imp fun node inner together => ?_
  obtain ⟨each, valid, written⟩ := together
  exact ⟨Node.knows_of_references each, Node.mirrors_partAt? valid written⟩

/-- The references of a document that was read by itself are attached to no repository. -/
theorem Document.situated_of_ofValue {value : Value} {document : Document}
    (distinct : value.Distinct) (read : Document.ofValue value = .ok document) :
    document.Situated none value := by
  obtain ⟨entries, rfl, -, made⟩ := Document.ofEntries_of_ofValue read
  exact Document.situated_of_ofEntries distinct made

/-- Read as what it is, a value gives a document whose references know it, or a node whose
references know nothing around. -/
theorem Schema.situated_of_ofValue {value : Value} {schema : Schema} (distinct : value.Distinct)
    (read : Schema.ofValue value = .ok schema) : schema.Situated value := by
  rcases Schema.read_as read with ⟨document, rfl, made⟩ | ⟨node, rfl, made⟩
  · exact Document.situated_of_ofValue distinct made
  · exact Node.situated_of_ofValue distinct made

/-- What a repository reads is attached to it. -/
theorem Repository.situated_of_readFrom {repository : Repository} {sources : Value → Prop}
    (distinct : ∀ value, sources value → value.Distinct) {document : Document}
    (read : repository.ReadFrom sources document) :
    ∃ value, sources value ∧ document.Situated (some repository.handle) value := by
  obtain ⟨entries, among, made⟩ := read
  exact ⟨.object entries, among, Document.situated_of_ofEntries (distinct _ among) made⟩

/-- References know their surroundings. Whatever is newly read, each reference in it has the
document around it as its base, or none if it is read as a node; it is attached to the repository
that read it, and to none if there was none. That goes for each position at each depth, be it a
reference by itself or a member of a union, and there the reference has the text that stands in this
place of the value. A document counts as newly read if a repository has it after an operation and had
not before.

Proof: what was read would be read again with other surroundings as the same with these put into its
references, so those are the ones of the reading's context. It is written as the normal form of its
value, and neither writing nor the normal form moves a part or changes what is mentioned in it. -/
theorem references_know_their_surroundings :
    (∀ value : Value, value.Distinct →
      (∀ node, Node.ofValue {} value = .ok node → Node.Situated node none none value) ∧
      (∀ schema, Schema.ofValue value = .ok schema → schema.Situated value) ∧
      (∀ document, Document.ofValue value = .ok document → document.Situated none value) ∧
      ∀ repository : Repository,
        (∀ node, repository.readNode value = .ok node →
          Node.Situated node none (some repository.handle) value) ∧
        (∀ node after, repository.read value = (.ok (.node node), after) →
          Node.Situated node none (some repository.handle) value) ∧
        repository.Acquires (fun document => document.Situated (some repository.handle) value)
          ((repository.read value).1.toOption.bind Repository.Reading.document?)
          (repository.read value).2 ∧
        repository.Acquires (fun document => document.Situated (some repository.handle) value)
          (repository.readDocument value).1.toOption (repository.readDocument value).2) ∧
    ∀ files (repository : Repository) id, repository.Acquires
      (fun document => ∃ value, (∃ path text, repository.locate? files id = some path ∧
        files.readText path = .ok text ∧ Json.read text = .ok value) ∧
          document.Situated (some repository.handle) value)
      (repository.load files id).1.toOption.join (repository.load files id).2 := by
  refine ⟨fun value distinct => ⟨?_, ?_, ?_, fun repository => ?_⟩, fun files repository id => ?_⟩
  · exact fun node made => Node.situated_of_ofValue distinct made
  · exact fun schema made => Schema.situated_of_ofValue distinct made
  · exact fun document made => Document.situated_of_ofValue distinct made
  · have fit (document : Document) (read : repository.ReadFrom (· = value) document) :
        document.Situated (some repository.handle) value := by
      have apart (other : Value) (same : other = value) : other.Distinct := same ▸ distinct
      obtain ⟨_, rfl, situated⟩ := Repository.situated_of_readFrom apart read
      exact situated
    refine ⟨?_, ?_, (Repository.read_acquires value).imp fit,
      (Repository.readDocument_acquires value).imp fit⟩
    · exact fun node made => Node.situated_of_ofValue distinct made
    · exact fun node after made =>
        Node.situated_of_ofValue distinct (Repository.ofValue_of_read made)
  · refine (Repository.load_acquires files repository id).imp fun document read => ?_
    refine Repository.situated_of_readFrom (fun value among => ?_) read
    obtain ⟨path, text, -, -, decoded⟩ := among
    exact Json.read_distinct decoded

/-- The identifier of a document. -/
def answerId : Identifier := ⟨["com", "example"], "answer", "main"⟩

/-- A union of a definition in the document and of one elsewhere. -/
def embedUnion : Union :=
  ⟨[⟨"#image", some answerId, none⟩, ⟨"com.example.link", some answerId, none⟩], none⟩

/-- An object with a reference and with an array of the union. -/
def answerNode : Node :=
  ⟨none, .object ⟨(OrderedMap.empty.insert "parent"
    ⟨none, .single (.ref ⟨"#root", some answerId, none⟩)⟩).insert "embeds"
      ⟨none, .array ⟨⟨none, .union embedUnion⟩, {}⟩⟩, none, none⟩⟩

/-- The document that defines the object. -/
def answerDocument : Document := ⟨answerId, none, none, OrderedMap.empty.insert "main" answerNode⟩

/-- The union is the first part of the second one. -/
theorem references_know_their_surroundings_answer :
    answerDocument.Situated none answerDocument.render ∧
      Node.view.partAt? answerNode [1, 0] = some ⟨none, .element (.union embedUnion)⟩ := by
  have written : answerDocument.render = .object [("lexicon", .number languageVersion),
      ("id", .string "com.example.answer"), ("defs", .object [("main", .object [
        ("type", .string "object"), ("properties", .object [
          ("parent", .object [("type", .string "ref"), ("ref", .string "#root")]),
          ("embeds", .object [("type", .string "array"), ("items", .object [
            ("type", .string "union"),
            ("refs", .array [.string "#image", .string "com.example.link"])])])])])])] := rfl
  have distinct : answerDocument.render.Distinct := by simp [written]
  have writable : answerDocument.Writable {} := by
    refine ⟨fun source => Document.identify_of_parse (by decide) rfl, fun entry member => ?_⟩
    obtain rfl := List.mem_singleton.mp member
    refine ⟨⟨trivial, ?_⟩, rfl⟩
    exact List.forall_mem_cons.mpr ⟨rfl, List.forall_mem_cons.mpr ⟨rfl,
      List.forall_mem_cons.mpr ⟨rfl, List.forall_mem_nil _⟩⟩⟩
  have read : Document.ofValue answerDocument.render = .ok answerDocument :=
    Document.ofEntries_entries writable
  exact ⟨(references_know_their_surroundings.1 _ distinct).2.2.1 answerDocument read, rfl⟩

end LexiconSchema
