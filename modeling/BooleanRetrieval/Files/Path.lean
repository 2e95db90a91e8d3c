import BooleanRetrieval.Text.LetterCase

/-!
# Paths

A path is a root, which is empty for relative paths, and components. Empty components and single dots
are dropped when a path is read; double dots are kept, since they mean a step in the file tree.
-/

set_option autoImplicit false

namespace BooleanRetrieval

/-- A path with its components from the root downwards. -/
structure Path where
  /-- One slash for absolute paths, two if exactly two were written, none for relative paths. -/
  root : String
  parts : List String
  deriving DecidableEq, Repr

namespace Path

/-- The root of a path text. -/
def rootOf : List Char → String
  | '/' :: '/' :: '/' :: _ => "/"
  | '/' :: '/' :: _ => "//"
  | '/' :: _ => "/"
  | _ => ""

/-- The components between the slashes of a text, without empty ones and single dots. -/
def partsOf (cs : List Char) : List String :=
  ((cs.splitOn '/').map String.ofList).filter fun part => part ≠ "" && part ≠ "."

/-- The path that a text writes. -/
def ofString (text : String) : Path :=
  ⟨rootOf text.toList, partsOf text.toList⟩

/-- The text of a path; the empty path is written as a dot. -/
def text (p : Path) : String :=
  let written := p.root ++ "/".intercalate p.parts
  if written.isEmpty then "." else written

/-- The last component, or nothing if there is none. -/
def name (p : Path) : String :=
  p.parts.getLast?.getD ""

/-- The part of a name from its last dot, unless the dot is its first or its last character. -/
def suffixOf (name : List Char) : List Char :=
  let tail := (name.reverse.takeWhile (· ≠ '.')).reverse
  if tail.isEmpty || name.length ≤ tail.length + 1 then [] else '.' :: tail

/-- The suffix of the last component. -/
def suffix (p : Path) : String :=
  .ofList (suffixOf p.name.toList)

/-- The path without its last component. -/
def parent (p : Path) : Path :=
  { p with parts := p.parts.dropLast }

/-- The path of an entry of a directory. -/
def child (p : Path) (name : String) : Path :=
  { p with parts := p.parts ++ [name] }

/-- The path that names lead to below a directory. -/
def below (directory : Path) (names : List String) : Path :=
  { directory with parts := directory.parts ++ names }

/-- The path that a relative path names in a directory. -/
def join (p q : Path) : Path :=
  if q.root.isEmpty then { p with parts := p.parts ++ q.parts } else q

/-- The places that a path leads through, from the root or from the current directory on, when a double dot
leaves the component in front of it. -/
def places (home : List String) (p : Path) : List (List String) :=
  (p.parts.foldl (fun places part =>
    let here := places.headD []
    (if part = ".." then here.dropLast else here ++ [part]) :: places)
      [if p.root.isEmpty then home else []]).reverse

end Path

/-- The id of the document that a file holds: the last component of its path. -/
def documentId (path : String) : String :=
  (Path.ofString path).name

end BooleanRetrieval
