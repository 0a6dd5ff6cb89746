import LexiconSchema.Proofs.CutTexts
import LexiconSchema.Proofs.Places

/-!
# Files that stand side by side

A file is written together with the folders on the way to it. Folders that are there already
stay, and so does everything else, but a file that stands where a folder is needed, or a
folder where a file is written, gets in the way. When no file's place is on the way to
another's, nothing does: however many files are written one after another, each of them is
found at its place afterwards.
-/

namespace LexiconSchema.FileTree

/-- Whether a place is a folder on the way to another place. -/
def OnTheWay (folder place : Place) : Prop := folder <+: place ∧ folder ≠ place

instance (folder place : Place) : Decidable (OnTheWay folder place) :=
  inferInstanceAs (Decidable (_ ∧ _))

/-- Neither of two places is the other or on the way to it. -/
def Apart (left right : Place) : Prop := ¬ left <+: right ∧ ¬ right <+: left

/-- Being apart goes both ways. -/
theorem Apart.symm {left right : Place} (apart : Apart left right) : Apart right left :=
  ⟨apart.2, apart.1⟩

section
variable {tree : FileTree} {place other : Place} {item : FileItem}

/-- The places on the way are the shorter pieces of it from the top. -/
theorem onTheWay_iff :
    OnTheWay other place ↔ ∃ depth ∈ List.range place.length, place.take depth = other := by
  constructor
  · rintro ⟨front, different⟩
    refine ⟨other.length, List.mem_range.mpr ?_, (List.prefix_iff_eq_take.mp front).symm⟩
    exact Nat.lt_of_le_of_ne front.length_le fun same => different (front.eq_of_length same)
  · rintro ⟨depth, short, rfl⟩
    refine ⟨List.take_prefix depth place, fun same => ?_⟩
    have length := congrArg List.length same
    rw [List.length_take] at length
    have bound := List.mem_range.mp short
    omega

/-- What is put somewhere is found there, and all else is found as before. -/
theorem item?_put (free : ¬ place <+: tree.working) :
    (tree.put place item).item? other = if place = other then some item else tree.item? other := by
  rw [put, if_neg free]
  by_cases same : place = other
  · subst same
    rw [if_pos rfl, item?, if_neg free, OrderedMap.get?_insert, if_pos rfl]
  · rw [if_neg same]
    simp only [item?, OrderedMap.get?_insert, if_neg same]

/-- A folder is made at a place unless something is there. -/
theorem item?_withFolder : (tree.withFolder place).item? other =
    (tree.item? other).or (if place = other then some .folder else none) := by
  cases found : tree.item? place with
  | some standing =>
    rw [withFolder, found, Option.isSome_some, if_pos rfl]
    by_cases same : place = other
    · rw [← same, found, Option.some_or]
    · rw [if_neg same, Option.or_none]
  | none =>
    have free : ¬ place <+: tree.working := by
      intro always
      rw [item?, if_pos always] at found
      cases found
    rw [withFolder, found, Option.isSome_none, if_neg Bool.false_ne_true, item?_put free]
    by_cases same : place = other
    · rw [← same, found, if_pos rfl, Option.none_or]
    · rw [if_neg same, if_neg same, Option.or_none]

/-- The working folder stays the same whatever is put into the tree. -/
theorem working_put : (tree.put place item).working = tree.working := by
  unfold put
  split
  · rfl
  · rfl

/-- Making a folder does not change the working folder. -/
theorem working_withFolder : (tree.withFolder place).working = tree.working := by
  unfold withFolder
  split
  · rfl
  · exact working_put

/-- Making folders keeps what is there and fills what is missing on the way. -/
theorem withFolders_spec : (tree.withFolders place).working = tree.working ∧
    (tree.withFolders place).item? other =
      (tree.item? other).or (if OnTheWay other place then some .folder else none) := by
  simp only [onTheWay_iff, withFolders]
  generalize List.range place.length = depths
  induction depths generalizing tree with
  | nil => simp
  | cons depth later inductionHypothesis =>
    obtain ⟨working, found⟩ := @inductionHypothesis (tree.withFolder (place.take depth))
    rw [List.foldl_cons]
    refine ⟨working.trans working_withFolder, ?_⟩
    rw [found, item?_withFolder, Option.or_assoc]
    congr 1
    by_cases here : place.take depth = other
    · simp [here]
    · simp [here]

/-- Writing does not change the working folder. -/
theorem working_write (path : String) (item : FileItem) :
    (tree.write path item).working = tree.working := by
  have ready := (@withFolders_spec tree (tree.placeOf path) []).1
  cases item with
  | folder => exact working_withFolder.trans ready
  | file contents => exact working_put.trans ready

/-- Plain names go down, whatever is before them. -/
theorem foldl_plain {names : List String} (front : Place) (plain : ∀ name ∈ names, Plain name) :
    names.foldl (fun place name =>
      if name = "" ∨ name = "." then place
      else if name = ".." then place.dropLast
      else place ++ [name]) front = front ++ names := by
  induction names generalizing front with
  | nil => simp
  | cons name later inductionHypothesis =>
    have first := plain name List.mem_cons_self
    rw [List.foldl_cons, if_neg (not_or.mpr ⟨first.present, first.notHere⟩), if_neg first.notUp,
      inductionHypothesis _ fun other member => plain other (List.mem_cons_of_mem name member)]
    simp

section
variable {names : List String} (present : names ≠ []) (plain : ∀ name ∈ names, Plain name)
include present plain

/-- A path of plain names has the place that they spell from the working folder. -/
theorem placeOf_join : tree.placeOf (Text.join '/' names) = tree.working ++ names := by
  rw [placeOf, split_join_of_plain present plain, startOf_join present plain]
  exact foldl_plain _ plain

omit plain in
/-- Below the working folder nothing is always there. -/
theorem free_below : ¬ tree.working ++ names <+: tree.working := by
  intro front
  have length := front.length_le
  rw [List.length_append] at length
  have some := List.length_pos_iff.mpr present
  omega

/-- After a file was written it is at its place, the folders on the way that were missing are
there, and all else is as before. -/
theorem item?_write {contents : ByteArray} :
    (tree.write (Text.join '/' names) (.file contents)).item? other =
      if tree.working ++ names = other then some (.file contents)
      else (tree.item? other).or
        (if OnTheWay other (tree.working ++ names) then some .folder else none) := by
  obtain ⟨working, found⟩ := @withFolders_spec tree (tree.working ++ names) other
  have free : ¬ tree.working ++ names <+: (tree.withFolders (tree.working ++ names)).working := by
    rw [working]
    exact free_below present
  simp only [write, placeOf_join present plain]
  rw [item?_put free, found]

end

end

/-! Trees with certain files. -/

/-- A tree that has certain files at their places and the folders on the way to them, and no
other file. -/
structure Holds (tree : FileTree) (files : List (Place × ByteArray)) : Prop where
  file : ∀ entry ∈ files, tree.item? entry.1 = some (.file entry.2)
  folder : ∀ entry ∈ files, ∀ place, OnTheWay place entry.1 → tree.item? place = some .folder
  only : ∀ place contents, tree.item? place = some (.file contents) → (place, contents) ∈ files

/-- The empty tree holds no files. -/
theorem holds_empty : Holds empty [] where
  file _ member := absurd member List.not_mem_nil
  folder _ member := absurd member List.not_mem_nil
  only place contents found := by
    rw [item?] at found
    split at found
    · cases found
    · cases found

/-- A file that is written apart from all others leaves them where they are. -/
theorem Holds.write {tree : FileTree} {files : List (Place × ByteArray)}
    {names : List String} {contents : ByteArray} (holds : Holds tree files) (present : names ≠ [])
    (plain : ∀ name ∈ names, Plain name)
    (apart : ∀ entry ∈ files, Apart (tree.working ++ names) entry.1) :
    Holds (tree.write (Text.join '/' names) (.file contents))
      ((tree.working ++ names, contents) :: files) := by
  constructor
  · intro entry member
    rw [item?_write present plain]
    rcases List.mem_cons.mp member with rfl | earlier
    · exact if_pos rfl
    · have other : tree.working ++ names ≠ entry.1 :=
        fun same => (apart entry earlier).1 (same ▸ List.prefix_rfl)
      rw [if_neg other, holds.file entry earlier]
      rfl
  · intro entry member place way
    rw [item?_write present plain]
    rcases List.mem_cons.mp member with rfl | earlier
    · rw [if_neg way.2.symm, if_pos way]
      cases found : tree.item? place with
      | none => rfl
      | some item =>
        cases item with
        | folder => rfl
        | file standing =>
          -- A file on the way to the new one is one of the files before.
          have earlier := holds.only place standing found
          exact absurd way.1 (apart _ earlier).2
    · have other : tree.working ++ names ≠ place :=
        fun same => (apart entry earlier).1 (same ▸ way.1)
      rw [if_neg other, holds.folder entry earlier place way]
      rfl
  · intro place standing found
    rw [item?_write present plain] at found
    by_cases same : tree.working ++ names = place
    · rw [if_pos same] at found
      cases found
      exact same ▸ List.mem_cons_self
    · rw [if_neg same] at found
      refine List.mem_cons_of_mem _ (holds.only place standing ?_)
      rcases Option.or_eq_some_iff.mp found with earlier | ⟨-, made⟩
      · exact earlier
      · cases (Option.ite_none_right_eq_some.mp made).2

/-- Writes files one after another. -/
def writeAll (tree : FileTree) (files : List (List String × ByteArray)) : FileTree :=
  files.foldl (fun tree file => tree.write (Text.join '/' file.1) (.file file.2)) tree

/-- The files with their places below the working folder. -/
def placed (tree : FileTree) (files : List (List String × ByteArray)) : List (Place × ByteArray) :=
  files.map fun file => (tree.working ++ file.1, file.2)

/-- Files at places that are all apart are all there when they were written, whatever their
order. -/
theorem Holds.writeAll {tree : FileTree} {earlier : List (Place × ByteArray)}
    {files : List (List String × ByteArray)} (holds : Holds tree earlier)
    (plain : ∀ file ∈ files, file.1 ≠ [] ∧ ∀ name ∈ file.1, Plain name)
    (apart : (tree.placed files ++ earlier).Pairwise fun left right => Apart left.1 right.1) :
    Holds (tree.writeAll files) ((tree.placed files).reverse ++ earlier) := by
  induction files generalizing tree earlier with
  | nil => exact holds
  | cons file later inductionHypothesis =>
    obtain ⟨fromFirst, others⟩ := List.pairwise_cons.mp apart
    obtain ⟨present, names⟩ := plain file List.mem_cons_self
    have written : Holds (tree.write (Text.join '/' file.1) (.file file.2))
        ((tree.working ++ file.1, file.2) :: earlier) :=
      holds.write present names fun entry member =>
        fromFirst entry (List.mem_append_right (tree.placed later) member)
    have rearranged : (tree.placed later ++ (tree.working ++ file.1, file.2) :: earlier).Pairwise
        fun left right => Apart left.1 right.1 :=
      (List.perm_middle.symm.pairwise apart) Apart.symm
    have same : (tree.write (Text.join '/' file.1) (.file file.2)).placed later =
        tree.placed later := by
      rw [placed, working_write, placed]
    have onward := inductionHypothesis written
      (fun other member => plain other (List.mem_cons_of_mem file member))
    rw [same] at onward
    have finished := onward rearranged
    rw [placed, List.map_cons, List.reverse_cons, List.append_assoc]
    exact finished

/-! Walking to a file. -/

/-- A plain name that a path may have. -/
structure Portable (name : String) : Prop extends Plain name where
  bounded : name.utf8ByteSize ≤ nameLimit
  zeroless : '\x00' ∉ name.toList

section
variable {tree : FileTree} {names : List String}

/-- Steps lead down as long as there are folders on the way and something at the end. -/
theorem steps_of_folders (front : Place) (portable : ∀ name ∈ names, Portable name)
    (folders : ∀ place, OnTheWay place (front ++ names) → tree.item? place = some .folder)
    (reached : names ≠ [] → (tree.item? (front ++ names)).isSome = true) :
    names.foldlM tree.step front = .ok (front ++ names) := by
  induction names generalizing front with
  | nil => rw [List.append_nil]; rfl
  | cons name later inductionHypothesis =>
    have first := portable name List.mem_cons_self
    have regrouped : front ++ name :: later = front ++ [name] ++ later := by simp
    have here : tree.isFolderAt front = true := by
      have way : OnTheWay front (front ++ name :: later) := ⟨List.prefix_append _ _, by simp⟩
      rw [isFolderAt, folders front way]
    have next : (tree.item? (front ++ [name])).isSome = true := by
      cases later with
      | nil => exact reached (List.cons_ne_nil name [])
      | cons following rest =>
        have way : OnTheWay (front ++ [name]) (front ++ name :: following :: rest) :=
          ⟨by simp, by simp⟩
        rw [folders _ way]
        rfl
    have stepped : tree.step front name = .ok (front ++ [name]) := by
      simp [step, here, first.present, first.notHere, first.notUp, Nat.not_lt.mpr first.bounded, next]
    rw [List.foldlM_cons, stepped, regrouped]
    refine inductionHypothesis (front ++ [name])
      (fun other member => portable other (List.mem_cons_of_mem name member))
      (regrouped ▸ folders) fun _ => ?_
    rw [← regrouped]
    exact reached (List.cons_ne_nil name later)

/-- A path of portable names leads to the place that they spell from the working folder as long as
there are folders on the way and something at the end. -/
theorem walk_of_folders (present : names ≠ []) (portable : ∀ name ∈ names, Portable name)
    (short : (Text.join '/' names).utf8ByteSize ≤ pathLimit)
    (folders : ∀ place, OnTheWay place (tree.working ++ names) → tree.item? place = some .folder)
    (reached : (tree.item? (tree.working ++ names)).isSome = true) :
    tree.walk (Text.join '/' names) = .ok (tree.working ++ names) := by
  have plain : ∀ name ∈ names, Plain name := fun name member => (portable name member).toPlain
  have zeroless : '\x00' ∉ (Text.join '/' names).toList := by
    intro member
    rcases Text.mem_join member with between | ⟨name, among, inside⟩
    · exact absurd between (by decide)
    · exact (portable name among).zeroless inside
  have filled : Text.join '/' names ≠ "" := by
    intro empty
    obtain ⟨c, -, first⟩ := relative_join present plain
    rw [empty] at first
    cases first
  rw [walk_eq_ok_iff, split_join_of_plain present plain, startOf_join present plain]
  exact ⟨⟨zeroless, filled, short⟩,
    steps_of_folders tree.working portable folders fun _ => reached⟩

/-- Every file of a tree is found at the end of its path. -/
theorem Holds.walk {files : List (Place × ByteArray)} {contents : ByteArray}
    (holds : Holds tree files) (member : (tree.working ++ names, contents) ∈ files)
    (present : names ≠ []) (portable : ∀ name ∈ names, Portable name)
    (short : (Text.join '/' names).utf8ByteSize ≤ pathLimit) :
    tree.walk (Text.join '/' names) = .ok (tree.working ++ names) ∧
      tree.item? (tree.working ++ names) = some (.file contents) := by
  have stands := holds.file _ member
  refine ⟨walk_of_folders present portable short (holds.folder _ member) ?_, stands⟩
  rw [stands]
  rfl

end

end LexiconSchema.FileTree
