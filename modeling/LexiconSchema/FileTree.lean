import LexiconSchema.OrderedMap
import LexiconSchema.Text.Split

/-!
# Trees of files

A tree of folders and files, enough of a file system to look schemas up in. A
place in it is the list of names that lead there from the top. One folder is the
working folder, which is always there with all folders on the way to it.

Path texts are walked name by name, from the top if they start with a slash and
from the working folder else: a dot stays, two dots go up, an empty name stays too,
and each of them as well as any name can only be walked from a folder. Nothing lies
above the top, so two dots stay there.
-/

namespace LexiconSchema

/-- What is wrong with a file as such. -/
inductive FileFault
  | missing | notFolder | isFolder | nameTooLong | zeroInPath | notText
deriving DecidableEq, Repr

/-- The wording of a file's fault, as the operating system has it. -/
def FileFault.message : FileFault → String
  | .missing => "No such file or directory (os error 2)"
  | .notFolder => "Not a directory (os error 20)"
  | .isFolder => "Is a directory (os error 21)"
  | .nameTooLong => "File name too long (os error 36)"
  | .zeroInPath => "file name contained an unexpected NUL byte"
  | .notText => "stream did not contain valid UTF-8"

/-- A file with its bytes, or a folder. -/
inductive FileItem
  | file (contents : ByteArray)
  | folder

/-- A place in a tree: the names that lead there from the top. -/
abbrev Place := List String

/-- The items by their places, and the place of the working folder. -/
structure FileTree where
  items : OrderedMap Place FileItem
  working : Place

namespace FileTree

/-- The tree with nothing but a working folder in the top folder. -/
def empty : FileTree := ⟨.empty, ["work"]⟩

/-- The item at a place. The working folder and those on the way to it are folders, whatever is
among the items. -/
def item? (tree : FileTree) (place : Place) : Option FileItem :=
  if place <+: tree.working then some .folder else tree.items.get? place

/-- Whether a place is a folder. -/
def isFolderAt (tree : FileTree) (place : Place) : Bool :=
  match tree.item? place with
  | some .folder => true
  | _ => false

/-- The longest name in bytes. -/
def nameLimit : Nat := 255

/-- One step from an existing place. -/
def step (tree : FileTree) (place : Place) (name : String) : Except FileFault Place :=
  if !tree.isFolderAt place then .error .notFolder
  else if name = "" ∨ name = "." then .ok place
  else if name = ".." then .ok place.dropLast
  else if nameLimit < name.utf8ByteSize then .error .nameTooLong
  else if (tree.item? (place ++ [name])).isSome then .ok (place ++ [name])
  else .error .missing

/-- The longest path in bytes. -/
def pathLimit : Nat := 4095

/-- Where a path starts: at the top if it has a slash there, else at the working folder. -/
def startOf (tree : FileTree) (path : String) : Place :=
  if path.toList.head? == some '/' then [] else tree.working

/-- The place that a path leads to. -/
def walk (tree : FileTree) (path : String) : Except FileFault Place :=
  if path.toList.contains '\x00' then .error .zeroInPath
  else if path.toList.isEmpty then .error .missing
  else if pathLimit < path.utf8ByteSize then .error .nameTooLong
  else (Text.split '/' path).foldlM tree.step (tree.startOf path)

/-- Whether a path leads to a folder. -/
def isFolder (tree : FileTree) (path : String) : Bool :=
  match tree.walk path with
  | .ok place => tree.isFolderAt place
  | .error _ => false

/-- Whether a path leads to a file. -/
def isFile (tree : FileTree) (path : String) : Bool :=
  match tree.walk path with
  | .ok place => (tree.item? place).isSome && !tree.isFolderAt place
  | .error _ => false

/-- The text of the file that a path leads to. -/
def readText (tree : FileTree) (path : String) : Except FileFault String := do
  let place ← tree.walk path
  match tree.item? place with
  | none => .error .missing
  | some .folder => .error .isFolder
  | some (.file contents) =>
    match String.fromUTF8? contents with
    | some text => .ok text
    | none => .error .notText

/-- The place of a path, dots resolved by the text alone. -/
def placeOf (tree : FileTree) (path : String) : Place :=
  (Text.split '/' path).foldl (fun place name =>
    if name = "" ∨ name = "." then place
    else if name = ".." then place.dropLast
    else place ++ [name]) (tree.startOf path)

/-- The tree with an item put at a place, unless that is where a folder always is. -/
def put (tree : FileTree) (place : Place) (item : FileItem) : FileTree :=
  if place <+: tree.working then tree else { tree with items := tree.items.insert place item }

/-- The tree with a folder at a place, unless something is there. -/
def withFolder (tree : FileTree) (place : Place) : FileTree :=
  if (tree.item? place).isSome then tree else tree.put place .folder

/-- The tree with all folders on the way to a place. -/
def withFolders (tree : FileTree) (place : Place) : FileTree :=
  (List.range place.length).foldl (fun tree depth => tree.withFolder (place.take depth)) tree

/-- The tree with an item written at a path, the folders on the way to it being made first. -/
def write (tree : FileTree) (path : String) (item : FileItem) : FileTree :=
  let place := tree.placeOf path
  let ready := tree.withFolders place
  match item with
  | .folder => ready.withFolder place
  | .file _ => ready.put place item

/-- The tree without the item at a path and all below it. -/
def remove (tree : FileTree) (path : String) : FileTree :=
  let place := tree.placeOf path
  let kept := tree.items.entries.filter fun entry => !place.isPrefixOf entry.1
  { tree with items := ⟨kept, tree.items.distinct.sublist (List.filter_sublist.map _)⟩ }

/-- The path text of some names below a root. -/
def joinPath (root : String) (names : List String) : String :=
  let relative := Text.join '/' names
  match root.toList.getLast? with
  | none => relative
  | some last => if last = '/' then root ++ relative else root ++ "/" ++ relative

end FileTree

end LexiconSchema
