import BooleanRetrieval.Files.Error
import BooleanRetrieval.Files.Path

/-!
# The file tree

The files and directories of a system as one value. Relative paths start at the current directory, and a
double dot leads to the directory above, where the root is above itself. Operations that change files return
a new tree. An operation is refused where a name or a path is too long, and where a directory may not be
entered or something may not be changed.
-/

set_option autoImplicit false

namespace BooleanRetrieval

/-- What a path can name. -/
inductive FileNode where
  | file (bytes : List UInt8)
  | directory
  deriving DecidableEq, Repr

/-- The place of a node: its components from the root downwards. -/
abbrev Place : Type := List String

/-- Places are compared component by component. -/
instance : LawfulBEq Place :=
  inferInstanceAs (LawfulBEq (List String))

/-- The nodes below the root, each with its place, in the order in which directories list their entries. -/
structure FileTree where
  entries : List (Place × FileNode)
  /-- The current directory. -/
  home : Place := []
  /-- The directories that may neither be entered nor listed. -/
  locked : List Place := []
  /-- The files that may not be written and the directories in which nothing may be made. -/
  frozen : List Place := []

namespace FileTree

/-- The most bytes that a component of a path may have. -/
def nameLimit : Nat := 255

/-- The most bytes that the text of a path may have. -/
def pathLimit : Nat := 4095

/-- The tree without files. -/
def empty : FileTree := { entries := [] }

/-- The node at a place; the root is always there. -/
def node? (tree : FileTree) (place : Place) : Option FileNode :=
  if place.isEmpty then some .directory else tree.entries.lookup place

/-- Whether a directory stands at a place. -/
def isDirectoryAt (tree : FileTree) (place : Place) : Bool :=
  match tree.node? place with
  | some .directory => true
  | _ => false

/-- The place that components lead to from a directory, which is given with its last component first. All
components but the last must be directories, and a directory must be one that may be entered before anything
is looked for in it. -/
def walk (tree : FileTree) : Place → List String → Except FileFault Place
  | here, [] => .ok here.reverse
  | here, part :: rest =>
    match tree.node? here.reverse with
    | none => .error .notFound
    | some (.file _) => .error .notDirectory
    | some .directory =>
      if here.reverse ∈ tree.locked then .error .denied
      else if part = ".." then tree.walk here.tail rest
      else if nameLimit < part.utf8ByteSize then .error .nameTooLong
      else tree.walk (part :: here) rest

/-- The place that a path names. The path as a whole is looked at before its components. -/
def resolve (tree : FileTree) (path : Path) : Except FileFault Place :=
  if path.parts.any (·.toList.contains '\x00') then .error .invalidPath
  else if pathLimit < path.text.utf8ByteSize then .error .nameTooLong
  else tree.walk (if path.root.isEmpty then tree.home.reverse else []) path.parts

/-- The node that a path names. -/
def find (tree : FileTree) (path : Path) : Except FileFault FileNode := do
  match tree.node? (← tree.resolve path) with
  | some node => .ok node
  | none => .error .notFound

/-- Whether a path names a directory. -/
def isDirectory (tree : FileTree) (path : Path) : Bool :=
  match tree.find path with
  | .ok .directory => true
  | _ => false

/-- Ask whether a path names something of a kind. That nothing is there is an answer; every other fault is
an error. -/
def asks (tree : FileTree) (path : Path) (isKind : FileNode → Bool) : Except FileError Bool :=
  match tree.find path with
  | .ok node => .ok (isKind node)
  | .error fault => if fault.meansAbsent then .ok false else .error ⟨fault, path.text⟩

/-- Ask whether a path names a directory. -/
def asksDirectory (tree : FileTree) (path : Path) : Except FileError Bool :=
  tree.asks path (· = .directory)

/-- Ask whether a path names a file or a directory. -/
def asksExistence (tree : FileTree) (path : Path) : Except FileError Bool :=
  tree.asks path fun _ => true

/-- The bytes of the file at a path, which is shown in errors as it was written. -/
def read (tree : FileTree) (path : Path) (shown : String) : Except FileError (List UInt8) :=
  match tree.find path with
  | .ok (.file bytes) => .ok bytes
  | .ok .directory => .error ⟨.isDirectory, shown⟩
  | .error fault => .error ⟨fault, shown⟩

/-- Whether a path text can only name a directory: it ends in a slash or in a dot that is a whole
component. -/
def namesDirectory (text : String) : Bool :=
  match text.toList.reverse with
  | '/' :: _ => true
  | '.' :: '/' :: _ => true
  | _ => false

/-- The bytes of the file that a text names, as the text is written. The empty text names nothing, a text is
too long if it is so as it is written, and one that can only name a directory does not name a file. -/
def readText (tree : FileTree) (text : String) : Except FileError (List UInt8) := do
  if text.isEmpty then .error ⟨.notFound, text⟩
  else if pathLimit < text.utf8ByteSize && !text.toList.contains '\x00' then
    .error ⟨.nameTooLong, text⟩
  else
    let bytes ← tree.read (.ofString text) text
    if namesDirectory text then .error ⟨.notDirectory, text⟩ else .ok bytes

/-- The tree with a node at a place. A node that is there is exchanged, a new one comes last. -/
def put (tree : FileTree) (place : Place) (node : FileNode) : FileTree :=
  if tree.entries.any (·.1 = place) then
    { tree with entries := tree.entries.map fun entry =>
        if entry.1 = place then (place, node) else entry }
  else { tree with entries := tree.entries ++ [(place, node)] }

/-- Make a node at a place where nothing stands. Its directory must be there and take new entries. -/
def make (tree : FileTree) (place : Place) (node : FileNode) : Except FileFault FileTree :=
  match tree.node? place.dropLast with
  | some .directory =>
    if place.dropLast ∈ tree.frozen then .error .denied else .ok (tree.put place node)
  | some (.file _) => .error .notDirectory
  | none => .error .notFound

/-- The tree in which a place holds a file with the given bytes. No directory may stand in its place. -/
def writeAt (tree : FileTree) (place : Place) (bytes : List UInt8) : Except FileFault FileTree :=
  match tree.node? place with
  | some .directory => .error .isDirectory
  | some (.file _) =>
    if place ∈ tree.frozen then .error .denied else .ok (tree.put place (.file bytes))
  | none => tree.make place (.file bytes)

/-- The tree in which a path names a file with the given bytes. -/
def write (tree : FileTree) (path : Path) (bytes : List UInt8) : Except FileError FileTree :=
  (tree.resolve path >>= (tree.writeAt · bytes)).mapError (⟨·, path.text⟩)

/-- Make a single directory. -/
def makeDirectory (tree : FileTree) (path : Path) : Except FileFault FileTree := do
  let place ← tree.resolve path
  match tree.node? place with
  | some _ => .error .exists
  | none => tree.make place .directory

/-- Make a directory with the directories above it. A directory that is there already is kept. The
components are given with the last first. -/
def makeDirectoriesUpTo (tree : FileTree) (root : String) : List String → Except FileError FileTree
  | [] =>
    let path : Path := ⟨root, []⟩
    if tree.isDirectory path then .ok tree else .error ⟨.notFound, path.text⟩
  | part :: above =>
    let path : Path := ⟨root, (part :: above).reverse⟩
    let again (tree : FileTree) : Except FileError FileTree :=
      match tree.makeDirectory path with
      | .ok tree => .ok tree
      | .error fault => if tree.isDirectory path then .ok tree else .error ⟨fault, path.text⟩
    match tree.makeDirectory path with
    | .error .notFound =>
      match makeDirectoriesUpTo tree root above with
      | .ok tree => again tree
      | .error e => .error e
    | _ => again tree

/-- Make the directory that a path names, with the directories above it. -/
def makeDirectories (tree : FileTree) (path : Path) : Except FileError FileTree :=
  tree.makeDirectoriesUpTo path.root path.parts.reverse

/-- The regular files with their places. -/
def files (tree : FileTree) : List (Place × List UInt8) :=
  tree.entries.filterMap fun (p, node) =>
    match node with
    | .file bytes => some (p, bytes)
    | .directory => none

end FileTree

end BooleanRetrieval
