import BooleanRetrieval.Clock
import BooleanRetrieval.Saved.Index
import BooleanRetrieval.Saved.Matrix

/-!
# Saving both structures

Each structure is written in both formats into the output directory, under fixed names. A file that
cannot be written is reported, and the others are still written.
-/

set_option autoImplicit false

namespace BooleanRetrieval

/-- The name of the index as JSON. -/
def indexJsonName : String := "inverted_index.json"

/-- The name of the index as lines. -/
def indexLinesName : String := "inverted_index_custom.txt"

/-- The name of the matrix as JSON. -/
def matrixJsonName : String := "term_document_matrix.json"

/-- The name of the matrix as lines. -/
def matrixLinesName : String := "term_document_matrix_custom.txt"

/-- Write a text to a path, making the directories above it. Every text can be encoded: one half of a surrogate
pair, as the name of a file may hold in place of a byte that cannot be decoded, is no character here. -/
def saveText (tree : FileTree) (path : Path) (text : List Char) : Except WriteError FileTree := do
  let tree ← (tree.makeDirectories path.parent).mapError .file
  (tree.write path (Encoding.encodeUtf8 text)).mapError .file

/-- A written file and its size in bytes. -/
structure SavedFile where
  path : Path
  size : Nat
  deriving DecidableEq, Repr

/-- The state of saving: the tree, the written files and the reports, the latest first. -/
structure Saving where
  tree : FileTree
  saved : List SavedFile
  log : List LogRecord

/-- The name of a file and its text. -/
abbrev SaveJob : Type := String × Except WriteError (List Char)

/-- The files of the given structures. -/
def saveJobs (index : Option InvertedIndex) (matrix : Option IncidenceMatrix) : List SaveJob :=
  (match index with
    | some index => [(indexJsonName, index.toText .json), (indexLinesName, index.toText .lines)]
    | none => []) ++
  (match matrix with
    | some matrix =>
      [(matrixJsonName, .ok (matrix.toText .json)), (matrixLinesName, .ok (matrix.toText .lines))]
    | none => [])

/-- Write one file. A refusal by the file tree is reported; a number that cannot be written ends the
saving. -/
def Saving.write (clock : Clock) (directory : Path) (s : Saving) (job : SaveJob) :
    Except WriteError Saving :=
  let path := directory.child job.1
  let report (level : LogLevel) (message : String) : List LogRecord :=
    ⟨level, savingLogger, message⟩ :: s.log
  match job.2 with
  | .error e => .error e
  | .ok text =>
    match saveText s.tree path text with
    | .error (.file e) =>
      .ok { s with log := report .error ("Could not save " ++ path.text ++ ": " ++ e.message) }
    | .error e => .error e
    | .ok tree =>
      .ok ⟨tree, ⟨path, (Encoding.encodeUtf8 text).length⟩ :: s.saved,
        report .info ("Saved " ++ path.text ++ " in " ++ clock.saveSeconds ++ "s")⟩

/-- Write the given structures into a directory, which is made if need be. -/
def saveStructures (clock : Clock) (tree : FileTree) (index : Option InvertedIndex)
    (matrix : Option IncidenceMatrix) (directory : Path) : Except WriteError Saving := do
  let tree ← (tree.makeDirectories directory).mapError .file
  let s ← (saveJobs index matrix).foldlM (Saving.write clock directory) ⟨tree, [], []⟩
  .ok { s with saved := s.saved.reverse, log := s.log.reverse }

end BooleanRetrieval
