import LexiconSchema.Proofs.Acceptance
import LexiconSchema.Proofs.Backing

/-!
# Nothing declared is lost or altered

What is read from a value is written as the value's normal form. So of every node, at
whatever depth, exactly those fields are written that are present in its value and belong to
its kind; they stand in the order of the kind's table and have the values that were given.
Names in maps keep their order, and a map that was left out is written without entries.

For nodes this was shown along with their acceptance. A document is read field by field as
well, only that its version and its identifier come first.

Main statement: `rendering_is_normal_form`.
-/

namespace LexiconSchema

open Json (Codec Value)

namespace Document

section
variable {source : Source} {id : Identifier}

/-- The version and the identifier are written as they were given. -/
theorem entries_of_readHead (read : readHead source = .ok id) :
    [("lexicon", .number languageVersion)] =
        (Field.required "lexicon" .number).entry source.entries ∧
      [("id", .string id.toString)] = (Field.required "id" .text).entry source.entries := by
  obtain ⟨version, text, named, whole, parsed⟩ := readHead_eq_ok_iff.mp read
  constructor
  · rw [Field.entry_of_present (present?_of_findEntry version rfl)]
    simp [Form.normal]
  · rw [Field.entry_of_present (present?_of_findEntry named rfl), Form.normal_text,
      Identifier.toString_of_parse whole parsed]

/-- The revision is read exactly if it is a count where it is present. -/
theorem readRevision_readBy (distinct : (Value.object source.entries).Distinct) :
    (Field.optional "revision" .count).ReadBy source.entries
      (entryOf "revision" Codec.count.encode) (readRevision source) :=
  Source.field?_readBy "revision" rfl fun value present =>
    Form.integer_follows value (distinct.present present)

/-- Behind the head a document is read exactly if its other fields hold, and it is written
with their entries. -/
theorem readBody_exactly (distinct : (Value.object source.entries).Distinct) :
    Exactly (∀ field ∈ Document.fields.tail.tail, field.Holds source.entries)
      (fun document => document.id = id ∧
        entryOf "revision" Codec.count.encode document.revision ++
            descriptionEntry document.description ++
            [("defs", mapObject Node.render document.definitions)] =
          Document.fields.tail.tail.flatMap fun field => field.entry source.entries)
      (readBody source id) := by
  have reads : (Descent.whole source.entries).Reads :=
    fun context inner _ => Node.ofEntries_exactly context inner
  refine (readRevision_readBy distinct).bind_iff (fun revision first =>
    (readMap_readBy reads distinct "defs" (by decide) _).bind fun definitions second =>
    Source.description_readBy.map fun description third => ⟨rfl, ?_⟩) ?_
  · simp only [Document.fields, List.tail_cons, List.flatMap_cons, List.flatMap_nil,
      List.append_nil, ← first, ← second, ← third, List.append_assoc]
    rfl
  · simp only [Document.fields, List.tail_cons, List.forall_mem_cons]
    tauto

end

/-- A document that was read from entries is written with the entries of its fields. -/
theorem render_of_ofEntries {context : Context} {entries : List (String × Value)}
    {document : Document} (distinct : (Value.object entries).Distinct)
    (read : Document.ofEntries context entries = .ok document) :
    document.render = Document.normal (.object entries) := by
  obtain ⟨id, head, body⟩ := bind_eq_ok_iff.mp read
  have front := entries_of_readHead head
  obtain ⟨-, rfl, back⟩ := (readBody_exactly distinct).of_ok body
  have written : document.render = .object ([("lexicon", .number languageVersion)] ++
      ([("id", .string document.id.toString)] ++
        (entryOf "revision" Codec.count.encode document.revision ++
          descriptionEntry document.description ++
          [("defs", mapObject Node.render document.definitions)]))) := rfl
  rw [written, front.1, front.2, back]
  rfl

/-- What is read as a document is the object of one. -/
theorem ofEntries_of_ofValue {value : Value} {document : Document}
    (read : Document.ofValue value = .ok document) :
    ∃ entries, value = .object entries ∧ isDocument entries = true ∧
      Document.ofEntries {} entries = .ok document := by
  cases value with
  | object entries =>
    by_cases isWhole : isDocument entries = true
    · rw [Document.ofValue, Document.entriesOf, if_pos isWhole] at read
      exact ⟨entries, rfl, isWhole, read⟩
    · rw [Document.ofValue, Document.entriesOf, if_neg isWhole] at read
      cases read
  | _ => cases read

end Document

/-- What was read is written in the normal form of its value, be it a node or a document. The
normal form is made from the value alone, by going through the fields of its kind. -/
theorem rendering_is_normal_form (value : Value) (distinct : value.Distinct) :
    (∀ context node, Node.ofValue context value = .ok node →
      Node.render node = Form.node.normal value) ∧
    (∀ document, Document.ofValue value = .ok document →
      document.render = Document.normal value) := by
  constructor
  · intro context node read
    exact ((Node.ofValue_exactly context value distinct).of_ok read).2
  · intro document read
    cases value with
    | object entries =>
      by_cases isWhole : isDocument entries = true
      · rw [Document.ofValue, Document.entriesOf, if_pos isWhole] at read
        exact Document.render_of_ofEntries distinct read
      · rw [Document.ofValue, Document.entriesOf, if_neg isWhole] at read
        cases read
    | _ => cases read

/-- The number ten. -/
def ten : Json.Number := .integer ⟨10, by decide, by decide⟩

/-- A text whose format is given as an object. One of the names is no field. -/
def linkEntries : List (String × Value) :=
  [("maxLength", .number ten), ("note", .bool true), ("format", .object [("cid", .null)]),
    ("description", .null), ("type", .string "string")]

/-- A document that declares such a text. -/
def linksEntries : List (String × Value) :=
  [("defs", .object [("link", .object linkEntries)]), ("id", .string "com.example.links"),
    ("lexicon", .number languageVersion)]

/-- The text, as it is read. -/
def linkNode : Node :=
  ⟨none, .element (.scalar (.string ⟨some .cid, { maxLength := some ⟨10, by decide, by decide⟩ }⟩))⟩

/-- The normal form of a string whose format is spelled as an object, and of a document that has it:
fields in order, unknown ones left out. -/
theorem rendering_is_normal_form_links :
    Form.node.normal (.object linkEntries) = .object [("type", .string "string"),
        ("format", .string "cid"), ("maxLength", .number ten)] ∧
      Document.normal (.object linksEntries) = .object [("lexicon", .number languageVersion),
        ("id", .string "com.example.links"), ("defs", .object [("link", .object
          [("type", .string "string"), ("format", .string "cid"), ("maxLength", .number ten)])])] := by
  have link : (Value.object linkEntries).Distinct := by simp [linkEntries]
  have links : (Value.object linksEntries).Distinct := by simp [linksEntries, linkEntries]
  have readNode : Node.ofValue {} (.object linkEntries) = .ok linkNode := by
    change Node.ofEntries {} linkEntries = _
    rw [Node.ofEntries]
    rfl
  have readDocument : Document.ofValue (.object linksEntries) =
      .ok ⟨⟨["com", "example"], "links", "main"⟩, none, none,
        OrderedMap.empty.insert "link" linkNode⟩ := by
    have head : Document.readHead ⟨{}, linksEntries⟩ =
        .ok ⟨["com", "example"], "links", "main"⟩ := by rfl
    change Document.ofEntries {} linksEntries = _
    rw [Document.ofEntries, head]
    change Document.readBody ⟨{}, linksEntries⟩ _ = _
    rw [Document.readBody, readMap, Source.entry?_of_present (by rfl)]
    simp only [readMembers]
    rw [readChild, Node.ofEntries]
    rfl
  exact ⟨((rendering_is_normal_form _ link).1 {} _ readNode).symm.trans rfl,
    ((rendering_is_normal_form _ links).2 _ readDocument).symm.trans rfl⟩

end LexiconSchema
