import BooleanRetrieval.Files.Tree

/-!
# Finding the files of a collection

The regular files of a directory that have at least a given size, in the order of their path texts.
The order in which directories list their entries does not matter.
-/

set_option autoImplicit false

namespace BooleanRetrieval

namespace FileTree

/-- The place of a directory whose entries can be listed. -/
def listed (tree : FileTree) (directory : Path) : Except FileFault Place := do
  let place ← tree.resolve directory
  match tree.node? place with
  | some .directory => if place ∈ tree.locked then .error .denied else .ok place
  | some (.file _) => .error .notDirectory
  | none => .error .notFound

/-- The path of a place that a search in a directory reaches: it stands directly in the directory or, if the
search is recursive, at any depth below it. -/
def pathTo? (directory : Path) (place : Place) (recursive : Bool) (p : Place) : Option Path :=
  if place.isPrefixOf p && place.length < p.length && (recursive || p.length = place.length + 1) then
    some (directory.below (p.drop place.length))
  else none

/-- The paths that a search reaches, in the order of the entries of a tree. -/
def reachedPaths (tree : FileTree) (directory : Path) (place : Place) (recursive : Bool) : List Path :=
  tree.entries.filterMap fun entry => pathTo? directory place recursive entry.1

/-- Whether bytes are at least as many as a number of kilobytes, each of 1024 bytes. -/
def hasSize (minKb : Int) (bytes : List UInt8) : Bool :=
  minKb * 1024 ≤ bytes.length

/-- Whether a path names a regular file of at least a size. What cannot be looked at is none. -/
def isFileOfSize (tree : FileTree) (minKb : Int) (path : Path) : Bool :=
  match tree.find path with
  | .ok (.file bytes) => hasSize minKb bytes
  | _ => false

/-- What a search chooses from the paths that it comes to in some order: the regular files of at least a
size, sorted by their texts. -/
def chosen (tree : FileTree) (minKb : Int) (order : List Path) : List Path :=
  (order.filter (tree.isFileOfSize minKb)).mergeSort fun p q => decide (p.text ≤ q.text)

/-- The paths that a search in a directory comes to and cannot look at, as they are too long. -/
def unseenPaths (tree : FileTree) (directory : Path) (recursive : Bool) : List Path :=
  match tree.listed directory with
  | .error _ => []
  | .ok place =>
    (tree.reachedPaths directory place recursive).filter fun path =>
      (tree.listed path.parent).isOk && pathLimit < path.text.utf8ByteSize

/-- Whether a path is that of a directory which a recursive search comes to and cannot list, as its path is
too long. -/
def breaksSearch (tree : FileTree) (place : Place) (path : Path) : Bool :=
  tree.isDirectoryAt place && (tree.listed path.parent).isOk && pathLimit < path.text.utf8ByteSize

/-- The first directory below a directory that breaks a recursive search. -/
def searchBreak? (tree : FileTree) (directory : Path) (place : Place) : Option Path :=
  tree.entries.findSome? fun entry =>
    (pathTo? directory place true entry.1).filter (tree.breaksSearch entry.1)

/-- The paths of the regular files in a directory that have at least the given size. A recursive
search also looks into the directories below. It finds nothing where there is no directory and in directories
that may not be listed, but it breaks off at a directory whose path is too long. -/
def discover (tree : FileTree) (directory : Path) (minKb : Int) (recursive : Bool) :
    Except FileError (List Path) :=
  match tree.listed directory with
  | .error fault =>
    if recursive then (tree.asksDirectory directory).map fun _ => []
    else .error ⟨fault, directory.text⟩
  | .ok place =>
    match if recursive then tree.searchBreak? directory place else none with
    | some path => .error ⟨.nameTooLong, path.text⟩
    | none => .ok (tree.chosen minKb (tree.reachedPaths directory place recursive))

end FileTree

end BooleanRetrieval
