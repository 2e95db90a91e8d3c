import BooleanRetrieval.Decimal.Fixed
import BooleanRetrieval.Decimal.Numeral
import BooleanRetrieval.LogRecord
import BooleanRetrieval.Store.IncidenceMatrix
import BooleanRetrieval.Store.InvertedIndex
import BooleanRetrieval.Text.Column

/-!
# Statistics of a collection

How large a collection and its stores are, and the table in which that is shown.
-/

set_option autoImplicit false

namespace BooleanRetrieval

/-- The sizes of an index. -/
structure IndexSizes where
  tokens : Nat
  vocabulary : Nat
  documents : Nat
  postings : Nat
  deriving DecidableEq, Repr

/-- The sizes of a matrix. -/
structure MatrixSizes where
  vocabulary : Nat
  documents : Nat
  entries : Nat
  deriving DecidableEq, Repr

/-- The sizes of a collection and of the stores that there are. -/
structure Statistics where
  fileCount : Nat
  collectionBytes : Nat
  index : Option IndexSizes
  matrix : Option MatrixSizes
  deriving DecidableEq, Repr

/-- The sizes of an index. -/
def InvertedIndex.sizes (index : InvertedIndex) : IndexSizes :=
  ⟨index.totalTokenCount, index.vocabularySize, index.documentCount, index.totalPostings⟩

/-- The sizes of a matrix. -/
def IncidenceMatrix.sizes (matrix : IncidenceMatrix) : MatrixSizes :=
  ⟨matrix.vocabularySize, matrix.documentCount, matrix.nonZeroEntries⟩

/-- A row of a table: a name and a value. -/
abbrev TableRow : Type := String × String

namespace Statistics

/-- What is logged about a file whose size is not known. -/
def vanished (path : String) : LogRecord :=
  ⟨.warning, "boolindex.stats", "File " ++ path ++ " vanished before its size was counted"⟩

/-- The sum of the known sizes. -/
def collectionSize (files : List (String × Option Nat)) : Nat :=
  (files.filterMap Prod.snd).foldr (· + ·) 0

/-- The statistics of a collection, given the path of each file and its size, if the file is there. -/
def collect (index : Option InvertedIndex) (matrix : Option IncidenceMatrix)
    (files : List (String × Option Nat)) : Statistics × List LogRecord :=
  (⟨files.length, collectionSize files, index.map InvertedIndex.sizes,
      matrix.map IncidenceMatrix.sizes⟩,
    (files.filter (·.2.isNone)).map fun file => vanished file.1)

/-- The bytes of a megabyte. -/
def megabyte : Nat := 1024 * 1024

/-- The rows of the table. -/
def rows (s : Statistics) : Except TooManyDigits (List TableRow) := do
  let indexRows ← match s.index with
    | some sizes =>
      .ok [("Total tokens (inverted index)", ← numeral sizes.tokens),
        ("Vocabulary size (inverted index)", ← numeral sizes.vocabulary),
        ("Documents (inverted index)", ← numeral sizes.documents),
        ("Postings (term -> document)", ← numeral sizes.postings)]
    | none => .ok []
  let matrixRows ← match s.matrix with
    | some sizes =>
      .ok [("Vocabulary size (matrix)", ← numeral sizes.vocabulary),
        ("Documents (matrix)", ← numeral sizes.documents),
        ("Non-zero matrix entries", ← numeral sizes.entries)]
    | none => .ok []
  .ok ([("Files processed", ← numeral s.fileCount),
    ("Collection size (MB)", twoPlaces s.collectionBytes megabyte)] ++ indexRows ++ matrixRows)

/-- A row of a table whose names have a width. -/
def rowText (width : Nat) (row : TableRow) : String :=
  "| " ++ Text.padded width row.1 ++ " | " ++ row.2 ++ " |"

/-- The width of the names in a table: the length of the longest. -/
def nameWidth (table : List TableRow) : Nat :=
  (table.map fun row => row.1.length).foldl max 0

/-- The table. -/
def report (s : Statistics) : Except TooManyDigits String := do
  let rows ← s.rows
  let width := nameWidth rows
  let rule := "|" ++ String.ofList (List.replicate (width + 2) '-') ++ "|-------|"
  .ok ("\n".intercalate (rowText width ("Metric", "Value") :: rule :: rows.map (rowText width)))

end Statistics

end BooleanRetrieval
