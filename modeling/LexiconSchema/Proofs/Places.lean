import LexiconSchema.FileTree
import LexiconSchema.Proofs.Outcomes
import LexiconSchema.Proofs.WellFormedIdentifiers

/-!
# The place of an identifier's file

A path of plain names leads, if anywhere, to the place that these names spell from where the
path starts. The names on the path of an identifier that was read are plain, as they are made
of letters, digits and hyphens. So the file of an identifier spells it, and below one root no
two documents share a file.
-/

namespace LexiconSchema

namespace FileTree

/-- A name that a path text keeps apart from others and that leads down. -/
structure Plain (name : String) : Prop where
  present : name ≠ ""
  notHere : name ≠ "."
  notUp : name ≠ ".."
  whole : '/' ∉ name.toList

section
variable {files : FileTree} {names : List String}

/-- A step by a plain name leads to the place with that name at the end. -/
theorem step_of_plain {place : Place} {name : String} (plain : Plain name) :
    Yields (fun next => next = place ++ [name]) (files.step place name) := by
  unfold step
  rw [if_neg (not_or.mpr ⟨plain.present, plain.notHere⟩), if_neg plain.notUp]
  split
  · exact .error
  · split
    · exact .error
    · split
      · exact .ok rfl
      · exact .error

/-- Steps by plain names lead to the place with these names at the end. -/
theorem steps_of_plain {place : Place} (later : List String) (plain : ∀ name ∈ later, Plain name) :
    Yields (fun last => last = place ++ later) (later.foldlM files.step place) := by
  induction later generalizing place with
  | nil => exact .ok (by rw [List.append_nil])
  | cons name rest inductionHypothesis =>
    refine .bind fun next stepped => ?_
    obtain rfl := step_of_plain (plain name List.mem_cons_self) next stepped
    have onward := @inductionHypothesis (place ++ [name]) fun other member =>
      plain other (List.mem_cons_of_mem _ member)
    rw [List.append_assoc] at onward
    exact onward

/-- A path of plain names is cut into them again. -/
theorem split_join_of_plain (present : names ≠ []) (plain : ∀ name ∈ names, Plain name) :
    Text.split '/' (Text.join '/' names) = names :=
  Text.split_join present fun name member => (plain name member).whole

/-- A path of plain names has a character and does not start from the root. -/
theorem relative_join (present : names ≠ []) (plain : ∀ name ∈ names, Plain name) :
    ∃ c ≠ '/', (Text.join '/' names).toList.head? = some c := by
  have cut := split_join_of_plain present plain
  cases shape : (Text.join '/' names).toList with
  | nil =>
    have empty : "" ∈ names := by
      rw [← cut, Text.split, shape]
      exact List.mem_cons_self
    exact absurd rfl (plain "" empty).present
  | cons c rest =>
    refine ⟨c, ?_, rfl⟩
    rintro rfl
    have empty : "" ∈ names := by
      rw [← cut, Text.split, shape, Text.pieces, if_pos rfl]
      exact List.mem_cons_self
    exact (plain "" empty).present rfl

/-- A path of plain names starts at the working folder. -/
theorem startOf_join (present : names ≠ []) (plain : ∀ name ∈ names, Plain name) :
    files.startOf (Text.join '/' names) = files.working := by
  obtain ⟨c, relative, first⟩ := relative_join present plain
  rw [startOf, first, if_neg (by simpa using relative)]

/-- A path that is fit to be walked is walked name by name. -/
theorem walk_eq_ok_iff {path : String} {place : Place} :
    files.walk path = .ok place ↔
      ('\x00' ∉ path.toList ∧ path ≠ "" ∧ path.utf8ByteSize ≤ pathLimit) ∧
        (Text.split '/' path).foldlM files.step (files.startOf path) = .ok place := by
  rw [walk]
  by_cases zero : '\x00' ∈ path.toList
  · simp [zero]
  · by_cases empty : path = ""
    · simp [empty]
    · by_cases long : pathLimit < path.utf8ByteSize
      · simp [zero, empty, long, Nat.not_le.mpr long]
      · simp [zero, empty, long, Nat.not_lt.mp long]

/-! Paths behind a root. -/

variable {root : String}

/-- A step is made from folders only. -/
theorem isFolderAt_of_step {place next : Place} {name : String}
    (stepped : files.step place name = .ok next) : files.isFolderAt place = true := by
  cases folder : files.isFolderAt place with
  | true => rfl
  | false => simp [step, folder] at stepped

/-- A path behind a root goes on behind one slash, which the root may bring along. -/
theorem joinPath_cases (rooted : root ≠ "") :
    joinPath root names = root ++ "/" ++ Text.join '/' names ∨
      ∃ front, root = front ++ "/" ∧ joinPath root names = front ++ "/" ++ Text.join '/' names := by
  unfold joinPath
  dsimp only
  cases last : root.toList.getLast? with
  | none =>
    rw [List.getLast?_eq_none_iff] at last
    exact absurd (String.toList_eq_nil_iff.mp last) rooted
  | some c =>
    by_cases slash : c = '/'
    · subst slash
      obtain ⟨front, shape⟩ := List.getLast?_eq_some_iff.mp last
      have sum : root = String.ofList front ++ "/" := by
        apply String.toList_inj.mp
        simp [shape]
      refine .inr ⟨String.ofList front, sum, ?_⟩
      rw [← sum]
      exact if_pos rfl
    · exact .inl (if_neg slash)

/-- Below a root of one name the names of a path follow that name. -/
theorem joinPath_eq (plain : Plain root) (present : names ≠ []) :
    joinPath root names = Text.join '/' (root :: names) := by
  have joined : Text.join '/' (root :: names) = root ++ "/" ++ Text.join '/' names := by
    obtain ⟨name, rest, rfl⟩ := List.exists_cons_of_ne_nil present
    apply String.toList_inj.mp
    simp [Text.join, String.toList_intercalate, List.intercalate]
  rcases joinPath_cases plain.present with added | ⟨front, slashed, -⟩
  · rw [added, joined]
  · exact absurd (by simp [slashed]) plain.whole

/-- Behind a slash the names of a path are parts of their own. -/
theorem split_behind_slash (front : String) (present : names ≠ [])
    (plain : ∀ name ∈ names, Plain name) :
    Text.split '/' (front ++ "/" ++ Text.join '/' names) = Text.split '/' front ++ names :=
  calc Text.split '/' (front ++ "/" ++ Text.join '/' names)
      = Text.split '/' front ++ Text.split '/' (Text.join '/' names) := Text.split_append front _
    _ = Text.split '/' front ++ names := by rw [split_join_of_plain present plain]

/-- Behind a slash at the end there is one more part, which is empty. -/
theorem split_slash (front : String) :
    Text.split '/' (front ++ "/") = Text.split '/' front ++ [""] := by
  have whole : Text.split '/' "" = [""] := rfl
  rw [← whole, ← Text.split_append, String.append_empty]
  rfl

/-- A path behind a root starts where the root does. -/
theorem startOf_joinPath (rooted : root ≠ "") :
    files.startOf (joinPath root names) = files.startOf root := by
  obtain ⟨rest, sum⟩ : ∃ rest, joinPath root names = root ++ rest := by
    rcases @joinPath_cases names root rooted with added | ⟨front, slashed, brought⟩
    · exact ⟨"/" ++ Text.join '/' names, by rw [added, String.append_assoc]⟩
    · exact ⟨Text.join '/' names, by rw [brought, slashed]⟩
  rw [sum, startOf, startOf, String.toList_append]
  cases shape : root.toList with
  | nil => exact absurd (String.toList_eq_nil_iff.mp shape) rooted
  | cons c later => rfl

/-- Steps that end with plain names come to a folder before them and go down from there. -/
theorem folder_of_steps {parts : List String} {start place : Place} (present : names ≠ [])
    (plain : ∀ name ∈ names, Plain name)
    (steps : (parts ++ names).foldlM files.step start = .ok place) :
    ∃ folder, parts.foldlM files.step start = .ok folder ∧
      files.isFolderAt folder = true ∧ place = folder ++ names := by
  rw [List.foldlM_append] at steps
  obtain ⟨folder, before, down⟩ := bind_eq_ok_iff.mp steps
  obtain ⟨name, later, rfl⟩ := List.exists_cons_of_ne_nil present
  have first : files.step folder name >>= (fun next => later.foldlM files.step next) = .ok place := down
  obtain ⟨next, stepped, -⟩ := bind_eq_ok_iff.mp first
  exact ⟨folder, before, isFolderAt_of_step stepped, steps_of_plain _ plain place down⟩

/-- A path of plain names leads down from its root: where it ends, its names stand behind
those of the place to which the root leads. -/
theorem walk_joinPath (rooted : root ≠ "") (present : names ≠ [])
    (plain : ∀ name ∈ names, Plain name) {place : Place}
    (walked : files.walk (joinPath root names) = .ok place) :
    ∃ folder, files.walk root = .ok folder ∧ place = folder ++ names := by
  obtain ⟨⟨zeroless, -, short⟩, steps⟩ := walk_eq_ok_iff.mp walked
  rw [startOf_joinPath rooted] at steps
  rcases @joinPath_cases names root rooted with added | ⟨front, slashed, brought⟩
  · rw [added] at zeroless short steps
    rw [split_behind_slash root present plain] at steps
    obtain ⟨folder, before, -, down⟩ := folder_of_steps present plain steps
    refine ⟨folder, walk_eq_ok_iff.mpr ⟨⟨?_, rooted, ?_⟩, before⟩, down⟩
    · exact fun member => zeroless (by simp [member])
    · rw [String.utf8ByteSize_append, String.utf8ByteSize_append] at short
      omega
  · rw [brought, ← slashed] at zeroless short
    rw [brought, split_behind_slash front present plain] at steps
    obtain ⟨folder, before, isFolder, down⟩ := folder_of_steps present plain steps
    -- The root goes one empty name further than what is before its slash, and so stays.
    have stays : files.step folder "" = .ok folder := by
      simp [step, isFolder]
    have parts : Text.split '/' root = Text.split '/' front ++ [""] := slashed ▸ split_slash front
    refine ⟨folder, walk_eq_ok_iff.mpr ⟨⟨?_, rooted, ?_⟩, ?_⟩, down⟩
    · exact fun member => zeroless (by simp [member])
    · rw [String.utf8ByteSize_append] at short
      omega
    · rw [parts, List.foldlM_append, before]
      change [""].foldlM files.step folder = _
      rw [List.foldlM_cons, stays]
      rfl

/-- What is read from a path of plain names below a root stands at the place that they spell from
where the root leads. -/
theorem readText_joinPath (rooted : root ≠ "") (present : names ≠ [])
    (plain : ∀ name ∈ names, Plain name) :
    Yields (fun text => ∃ folder contents, files.walk root = .ok folder ∧
        files.item? (folder ++ names) = some (.file contents) ∧
          String.fromUTF8? contents = some text) (files.readText (joinPath root names)) := by
  refine .bind fun place walked => ?_
  obtain ⟨folder, before, rfl⟩ := walk_joinPath rooted present plain walked
  cases found : files.item? (folder ++ names) with
  | none => exact .error
  | some item =>
    cases item with
    | folder => exact .error
    | file contents =>
      dsimp only
      cases decoded : String.fromUTF8? contents with
      | none => exact .error
      | some text => exact .ok ⟨folder, contents, before, found, decoded⟩

end

end FileTree

namespace Identifier

/-- What the names of an identifier are made of. -/
def Spelled (name : String) : Prop := name ≠ "" ∧ ∀ c ∈ name.toList, isLabelCharacter c = true

/-- What labels and names have in common makes them plain names of files. -/
theorem spelled_of_worded {limit : Nat} {text : String} (worded : Worded limit text) : Spelled text :=
  ⟨worded.present, worded.spelled⟩

/-- The labels and the name of an identifier that was read are spelled with letters,
digits and hyphens. -/
theorem Named.spelled {id : Identifier} (named : id.Named) :
    (∀ label ∈ id.labels, Spelled label) ∧ Spelled id.name := by
  obtain ⟨text, parsed, read, same⟩ := named
  have labels : parsed.labels = id.labels := congrArg (fun document => document.labels) same
  have name : parsed.name = id.name := congrArg (fun document => document.name) same
  have formed := (parse_eq_ok_iff.mp read).1
  rw [← labels, ← name]
  exact ⟨fun label member => spelled_of_worded (formed.labels label member).toWorded,
    spelled_of_worded formed.name⟩

/-- A character of a name is neither the one between the names of a path nor a dot. -/
theorem Spelled.absent {name : String} (spelled : Spelled name) :
    '/' ∉ name.toList ∧ '.' ∉ name.toList := by
  constructor
  · intro member
    exact absurd (spelled.2 _ member) (by decide)
  · intro member
    exact absurd (spelled.2 _ member) (by decide)

/-- The names on the path of an identifier that was read are plain. -/
theorem Named.plain {id : Identifier} (named : id.Named) :
    ∀ name ∈ id.relativePath, FileTree.Plain name := by
  obtain ⟨labels, name⟩ := named.spelled
  intro part member
  rcases List.mem_append.mp member with label | last
  · have spelled := labels part label
    obtain ⟨noSlash, noDot⟩ := spelled.absent
    refine ⟨spelled.1, ?_, ?_, noSlash⟩
    · rintro rfl
      exact noDot (by decide)
    · rintro rfl
      exact noDot (by decide)
  · obtain rfl := List.mem_singleton.mp last
    have letter : 'j' ∈ (id.name ++ ".json").toList := by simp
    refine ⟨?_, ?_, ?_, ?_⟩
    · intro same
      rw [same] at letter
      exact absurd letter (by decide)
    · intro same
      rw [same] at letter
      exact absurd letter (by decide)
    · intro same
      rw [same] at letter
      exact absurd letter (by decide)
    · rw [String.toList_append]
      exact fun member => (List.mem_append.mp member).elim name.absent.1 (by decide)

/-- Identifiers with one path are of one document. -/
theorem document_of_relativePath {left right : Identifier}
    (same : left.relativePath = right.relativePath) : left.document = right.document := by
  obtain ⟨labels, last⟩ := List.append_inj' same rfl
  have name : left.name = right.name := by
    have letters := congrArg String.toList (List.singleton_inj.mp last)
    rw [String.toList_append, String.toList_append] at letters
    exact String.toList_inj.mp (List.append_cancel_right letters)
  rw [document, document, withDefinition, withDefinition, labels, name]

end Identifier

end LexiconSchema
