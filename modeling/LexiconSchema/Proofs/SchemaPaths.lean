import LexiconSchema.Repository
import LexiconSchema.Proofs.WellFormedIdentifiers
import LexiconSchema.Proofs.WrittenFiles

/-!
# The paths of schema files

The path of an identifier's file has the labels for its folders and the name for its file.
These are plain names, so that whatever root the path is put behind, it leads down from
there: no name of it is passed over, goes up or is cut in two. Two documents have different
paths, and a path ends with a name that has a dot, which no folder's name has: no path goes on
behind another, and the files of all documents can stand side by side in one tree.

Main statement: `schema_paths_stay_apart`.
-/

namespace LexiconSchema

namespace FileTree

variable {tree : FileTree} {root : String} {names : List String}

/-- The place of a path is below that of the root that it is put behind, dots resolved. -/
theorem placeOf_joinPath (present : names ≠ []) (plain : ∀ name ∈ names, Plain name) :
    tree.placeOf (joinPath root names) = tree.placeOf root ++ names := by
  by_cases rooted : root = ""
  · subst rooted
    exact placeOf_join present plain
  · rw [placeOf, placeOf, startOf_joinPath rooted]
    rcases joinPath_cases rooted with added | ⟨front, slashed, brought⟩
    · rw [added, split_behind_slash root present plain, List.foldl_append]
      exact foldl_plain _ plain
    · rw [brought, split_behind_slash front present plain, slashed, split_slash, List.foldl_append,
        List.foldl_append]
      exact foldl_plain _ plain

/-- Names that stay below whatever root they are put behind: their path does not start from
the top and is cut into them again, and behind a root, whether the path is resolved by its text
or walked in a tree, they follow what the root leads to. -/
structure StaysBelow (names : List String) : Prop where
  plain : ∀ name ∈ names, Plain name
  relative : ∃ c ≠ '/', (Text.join '/' names).toList.head? = some c
  parts : Text.split '/' (Text.join '/' names) = names
  resolved : ∀ (tree : FileTree) (root : String),
    tree.placeOf (joinPath root names) = tree.placeOf root ++ names
  walked : ∀ (tree : FileTree) (root : String) (place : Place), root ≠ "" →
    tree.walk (joinPath root names) = .ok place →
      ∃ folder, tree.walk root = .ok folder ∧ place = folder ++ names

/-- Plain names stay below. -/
theorem staysBelow_of_plain (present : names ≠ []) (plain : ∀ name ∈ names, Plain name) :
    StaysBelow names where
  plain := plain
  relative := relative_join present plain
  parts := split_join_of_plain present plain
  resolved _ _ := placeOf_joinPath present plain
  walked _ _ _ rooted walked := walk_joinPath rooted present plain walked

/-- A tree with the files of some documents below a root, written one after another. -/
def withDocuments (root : String) (documents : List (Identifier × ByteArray)) : FileTree :=
  documents.foldl
    (fun tree document => tree.write (joinPath root document.1.relativePath) (.file document.2))
    empty

/-- Its working folder is that of the empty tree. -/
theorem working_withDocuments (root : String) (documents : List (Identifier × ByteArray)) :
    (withDocuments root documents).working = empty.working := by
  unfold withDocuments
  generalize empty = tree
  induction documents generalizing tree with
  | nil => rfl
  | cons document later inductionHypothesis =>
    rw [List.foldl_cons, inductionHypothesis, working_write]

end FileTree

namespace Identifier

variable {id left right : Identifier}

/-- The path of a schema has at least one part. -/
theorem relativePath_ne_nil : id.relativePath ≠ [] := by simp [relativePath]

/-- Two documents are the same exactly if their files' paths are. -/
theorem relativePath_eq_iff : left.relativePath = right.relativePath ↔ left.document = right.document := by
  constructor
  · exact document_of_relativePath
  · intro same
    have labels : left.labels = right.labels := congrArg (fun document => document.labels) same
    have name : left.name = right.name := congrArg (fun document => document.name) same
    rw [relativePath, relativePath, labels, name]

/-- A path that another path starts with is that path, since no label has a dot. -/
theorem relativePath_eq_of_front (named : right.Named)
    (front : left.relativePath <+: right.relativePath) : left.relativePath = right.relativePath := by
  rcases List.prefix_concat_iff.mp front with same | inLabels
  · exact same
  · have file : left.name ++ ".json" ∈ right.labels :=
      inLabels.subset (List.mem_append_right _ (List.mem_singleton.mpr rfl))
    have dot : '.' ∈ (left.name ++ ".json").toList := by simp
    exact absurd dot (named.labels.2 _ file)

/-- Different documents have their files apart. -/
theorem relativePath_apart (namedLeft : left.Named) (namedRight : right.Named)
    (different : left.document ≠ right.document) :
    FileTree.Apart left.relativePath right.relativePath := by
  have paths : left.relativePath ≠ right.relativePath :=
    fun same => different (relativePath_eq_iff.mp same)
  exact ⟨fun front => paths (relativePath_eq_of_front namedRight front),
    fun front => paths (relativePath_eq_of_front namedLeft front).symm⟩

namespace WellFormed

variable (formed : id.WellFormed)
include formed

/-- Every name of a path is small enough for a file system. -/
theorem portable : ∀ name ∈ id.relativePath, FileTree.Portable name := by
  have plain := (named_of_parse formed.parse_toString).plain
  intro part member
  refine ⟨plain part member, ?_, ?_⟩
  · rcases List.mem_append.mp member with label | last
    · have bounded := (formed.labels part label).bounded
      simp only [domainLabelLimit, FileTree.nameLimit] at *
      omega
    · obtain rfl := List.mem_singleton.mp last
      have bounded := formed.name.bounded
      have ending : ".json".utf8ByteSize = 5 := rfl
      rw [String.utf8ByteSize_append]
      simp only [nameLimit, FileTree.nameLimit] at *
      omega
  · rcases List.mem_append.mp member with label | last
    · exact (formed.labels part label).absent (by decide)
    · obtain rfl := List.mem_singleton.mp last
      have inName : '\x00' ∉ id.name.toList := formed.name.absent (by decide)
      simp [inName]

/-- The path below a root of one name is short enough for a file system. -/
theorem path_short {root : String} (bounded : root.utf8ByteSize ≤ FileTree.nameLimit) :
    (Text.join '/' (root :: id.relativePath)).utf8ByteSize ≤ FileTree.pathLimit := by
  have slash : '/'.utf8Size = 1 := rfl
  have ending : ".json".utf8ByteSize = 5 := rfl
  have last : [id.name ++ ".json"] ≠ [] := List.cons_ne_nil _ []
  have below := @Text.utf8ByteSize_join_append '/' [root] id.relativePath (List.cons_ne_nil root [])
    relativePath_ne_nil
  have file := @Text.utf8ByteSize_join_append '/' id.labels _ formed.labelled last
  have host := @Text.utf8ByteSize_join_congr '/' id.labels '.' rfl
  have hostBound := formed.bounded
  have nameBound := formed.name.bounded
  simp only [List.singleton_append, Text.join, String.intercalate_singleton,
    String.utf8ByteSize_append, slash, ending] at below file host hostBound ⊢
  simp only [relativePath] at below ⊢
  simp only [hostnameLimit, nameLimit, FileTree.nameLimit, FileTree.pathLimit] at *
  omega

end WellFormed

end Identifier

namespace FileTree

section
variable {root : String} {documents : List (Identifier × ByteArray)} (portable : Portable root)
  (formed : ∀ document ∈ documents, document.1.WellFormed)
  (distinct : documents.Pairwise fun left right => left.1.document ≠ right.1.document)
include portable formed distinct

/-- The tree with the files of different documents holds exactly these files. -/
theorem holds_withDocuments : Holds (withDocuments root documents)
    (empty.placed (documents.map fun document =>
      (root :: document.1.relativePath, document.2))).reverse := by
  have written : withDocuments root documents = empty.writeAll
      (documents.map fun document => (root :: document.1.relativePath, document.2)) := by
    simp only [withDocuments, writeAll, List.foldl_map,
      joinPath_eq portable.toPlain Identifier.relativePath_ne_nil]
  rw [written, ← List.append_nil (List.reverse _)]
  refine holds_empty.writeAll ?_ ?_
  · intro file member
    obtain ⟨document, inside, rfl⟩ := List.mem_map.mp member
    exact ⟨List.cons_ne_nil _ _, List.forall_mem_cons.mpr ⟨portable.toPlain, fun name below =>
      ((formed document inside).portable name below).toPlain⟩⟩
  · rw [List.append_nil, placed, List.pairwise_map, List.pairwise_map]
    refine distinct.imp_of_mem fun {left right} before behind different => ?_
    obtain ⟨forward, backward⟩ := Identifier.relativePath_apart
      (Identifier.named_of_parse (formed left before).parse_toString)
      (Identifier.named_of_parse (formed right behind).parse_toString) different
    constructor
    · intro front
      exact forward (List.cons_prefix_cons.mp ((List.prefix_append_right_inj _).mp front)).2
    · intro front
      exact backward (List.cons_prefix_cons.mp ((List.prefix_append_right_inj _).mp front)).2

/-- Each of the documents is located below the root, and its file is there. -/
theorem located_withDocuments (handle : Handle) {document : Identifier × ByteArray}
    (member : document ∈ documents) :
    Repository.locate? (withDocuments root documents) (.new handle { roots := [root] }) document.1 =
        some (joinPath root document.1.relativePath) ∧
      ∃ place, (withDocuments root documents).walk (joinPath root document.1.relativePath) =
          .ok place ∧
        (withDocuments root documents).item? place = some (.file document.2) := by
  have holds := holds_withDocuments portable formed distinct
  have working := working_withDocuments root documents
  generalize withDocuments root documents = tree at holds working ⊢
  have stands : (tree.working ++ root :: document.1.relativePath, document.2) ∈
      (empty.placed (documents.map fun document =>
        (root :: document.1.relativePath, document.2))).reverse := by
    rw [working, List.mem_reverse, placed, List.map_map]
    exact List.mem_map.mpr ⟨document, member, rfl⟩
  have names : ∀ name ∈ root :: document.1.relativePath, Portable name :=
    List.forall_mem_cons.mpr ⟨portable, (formed document member).portable⟩
  obtain ⟨walked, item⟩ := holds.walk stands (List.cons_ne_nil _ _) names
    ((formed document member).path_short portable.bounded)
  rw [← joinPath_eq portable.toPlain Identifier.relativePath_ne_nil] at walked
  have top : tree.item? (tree.working ++ [root]) = some .folder := by
    refine holds.folder _ stands _ ⟨?_, ?_⟩
    · exact (List.prefix_append_right_inj _).mpr (List.prefix_append [root] _)
    · intro same
      have tails := List.append_cancel_left same
      exact Identifier.relativePath_ne_nil (List.tail_eq_of_cons_eq tails).symm
  have rootWalked : tree.walk root = .ok (tree.working ++ [root]) := by
    obtain ⟨folder, before, down⟩ := walk_joinPath portable.present Identifier.relativePath_ne_nil
      (fun name below => ((formed document member).portable name below).toPlain) walked
    have same : tree.working ++ [root] = folder := by
      refine List.append_cancel_right (?_ : _ ++ document.1.relativePath = _)
      rw [← down, List.append_assoc]
      rfl
    exact same ▸ before
  have rootFolder : tree.isFolder root = true := by
    rw [isFolder, rootWalked]
    simp only [isFolderAt, top]
  have file : tree.isFile (joinPath root document.1.relativePath) = true := by
    rw [isFile, walked]
    simp only [isFolderAt, item]
    rfl
  refine ⟨?_, _, walked, item⟩
  simp [Repository.locate?, Repository.new, rootFolder, file]

end

end FileTree

/-- Paths of schema files stay apart. The path of an identifier has the labels of the text that
it was read from for its folders and the name with its ending for its file, and stays below
whatever root it is put behind. Two identifiers have the same path exactly if they are of the
same document, and else neither path goes on behind the other. So the files of any different
documents can be written one after another below one root: each of them is located there
afterwards, with what was written into it. -/
theorem schema_paths_stay_apart {leftText rightText : String} {left right : Identifier}
    (readLeft : Identifier.parse leftText = .ok left)
    (readRight : Identifier.parse rightText = .ok right) :
    (∃ declared behind, leftText = declared ++ "." ++ left.name ++ behind ∧
      '#' ∉ (declared ++ "." ++ left.name).toList ∧ '.' ∉ left.name.toList ∧
      (behind = "" ∨ ∃ fragment, behind = "#" ++ fragment) ∧
      left.relativePath = Text.split '.' declared ++ [left.name ++ ".json"]) ∧
    FileTree.StaysBelow left.relativePath ∧
    (left.relativePath = right.relativePath ↔ left.document = right.document) ∧
    (left.relativePath <+: right.relativePath → left.relativePath = right.relativePath) ∧
    (right.relativePath <+: left.relativePath → left.relativePath = right.relativePath) ∧
    ∀ root, FileTree.Portable root → ∀ documents : List (Identifier × ByteArray),
      (∀ document ∈ documents, ∃ text, Identifier.parse text = .ok document.1) →
      (documents.Pairwise fun one other => one.1.document ≠ other.1.document) →
      ∀ handle, ∀ document ∈ documents,
        Repository.locate? (FileTree.withDocuments root documents)
            (.new handle { roots := [root] }) document.1 =
          some (FileTree.joinPath root document.1.relativePath) ∧
        ∃ place, (FileTree.withDocuments root documents).walk
            (FileTree.joinPath root document.1.relativePath) = .ok place ∧
          (FileTree.withDocuments root documents).item? place = some (.file document.2) := by
  have namedLeft := Identifier.named_of_parse readLeft
  have namedRight := Identifier.named_of_parse readRight
  refine ⟨?_, ?_, Identifier.relativePath_eq_iff, ?_, ?_, ?_⟩
  · obtain ⟨declared, behind, sum, whole, dotless, kind, labels⟩ :=
      Identifier.declared_of_parse readLeft
    exact ⟨declared, behind, sum, whole, dotless, kind, by rw [← labels]; rfl⟩
  · exact FileTree.staysBelow_of_plain Identifier.relativePath_ne_nil namedLeft.plain
  · exact Identifier.relativePath_eq_of_front namedRight
  · exact fun front => (Identifier.relativePath_eq_of_front namedLeft front).symm
  · intro root portable documents read distinct handle document member
    have formed : ∀ document ∈ documents, document.1.WellFormed := by
      intro document member
      obtain ⟨text, parsed⟩ := read document member
      exact (Identifier.parse_eq_ok_iff.mp parsed).1
    exact FileTree.located_withDocuments portable formed distinct handle member

/-- An identifier whose dotted name goes on behind another's. -/
def nestedId : Identifier := ⟨["com", "example", "foo"], "bar", "main"⟩

/-- The identifier before it. -/
def outerId : Identifier := ⟨["com", "example"], "foo", "main"⟩

/-- The file `foo.json` of one identifier stands beside the folder `foo` in which the other one has
its `bar.json`, and both are located. -/
theorem schema_paths_stay_apart_nested :
    (Identifier.parse "com.example.foo.bar" = .ok nestedId ∧
      Identifier.parse "com.example.foo" = .ok outerId) ∧
    FileTree.StaysBelow nestedId.relativePath ∧
    (nestedId.relativePath = outerId.relativePath ↔ nestedId.document = outerId.document) ∧
    ∀ document ∈ [(nestedId, "bar".toUTF8), (outerId, "foo".toUTF8)],
      Repository.locate?
          (FileTree.withDocuments "root" [(nestedId, "bar".toUTF8), (outerId, "foo".toUTF8)])
          (.new ⟨0⟩ { roots := ["root"] }) document.1 =
        some (FileTree.joinPath "root" document.1.relativePath) := by
  have nested : Identifier.parse "com.example.foo.bar" = .ok nestedId := rfl
  have outer : Identifier.parse "com.example.foo" = .ok outerId := rfl
  obtain ⟨-, stays, same, -, -, together⟩ := schema_paths_stay_apart nested outer
  refine ⟨⟨nested, outer⟩, stays, same, fun document member => ?_⟩
  have root : FileTree.Portable "root" :=
    ⟨⟨by decide, by decide, by decide, by decide⟩, by decide, by decide⟩
  refine (together "root" root _ ?_ ?_ ⟨0⟩ document member).1
  · simp only [List.forall_mem_cons, List.not_mem_nil, false_imp_iff, implies_true, and_true]
    exact ⟨⟨_, nested⟩, ⟨_, outer⟩⟩
  · simp only [List.pairwise_cons, List.mem_singleton, List.not_mem_nil, false_imp_iff,
      implies_true, List.Pairwise.nil, and_true, forall_eq]
    decide

end LexiconSchema
