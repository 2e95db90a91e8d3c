import BooleanRetrieval.Document.Reader
import BooleanRetrieval.Files.Tree
import BooleanRetrieval.LogRecord
import BooleanRetrieval.Store.IncidenceMatrix
import BooleanRetrieval.Store.InvertedIndex

/-!
# Taking in files

Files are taken in one after the other. A file without a reader is skipped, and a file that cannot be opened
or read to its end is reported, and so is one with a word that cannot be normalized or added; its words up to
that point are kept. Cancellation is looked for before every file and before every word. What is logged may
change the files that are still to be read, so there is a file tree for each state of the log.
-/

set_option autoImplicit false

namespace BooleanRetrieval

/-- The name under which a build reports. -/
def buildLogger : String := "boolindex.index_builder"

/-- The stores that a build fills. -/
structure Stores where
  index : InvertedIndex
  /-- Nothing, if only the index is built. -/
  matrix : Option IncidenceMatrix

namespace Stores

/-- The stores before the first word. -/
def empty (withMatrix : Bool) : Stores :=
  ⟨.empty, if withMatrix then some .empty else none⟩

/-- The stores with one more occurrence of a term in a document. The index is filled first, and keeps
an occurrence that the matrix refuses. -/
def add (stores : Stores) (t doc : String) : Stores × Option CellError :=
  let index := stores.index.addCount t doc 1
  match stores.matrix with
  | none => (⟨index, none⟩, none)
  | some matrix =>
    match matrix.add t doc with
    | .ok filled => (⟨index, some filled⟩, none)
    | .error e => (⟨index, some matrix⟩, some e)

end Stores

/-- Why a file was not taken in to its end. -/
inductive FileFailure where
  | file (error : FileError)
  | reading (error : ReadError)
  /-- A word of the file could not be normalized. -/
  | normalizing (complaint : Complaint)
  | cell (error : CellError)
  deriving DecidableEq, Repr

namespace FileFailure

/-- The text of a failure. -/
def message : FileFailure → String
  | file error => error.message
  | reading error => error.message
  | normalizing complaint => complaint.message
  | cell error => error.message

/-- The name of the kind of a failure. -/
def kind : FileFailure → String
  | file error => error.kind
  | reading error => error.kind
  | normalizing complaint => complaint.kind
  | cell _ => "ValueError"

/-- The text of a failure in a report. Where it is empty, as it may be if a reader says nothing or an
archive ends too early, the kind of the failure stands for it. -/
def summary (failure : FileFailure) : String :=
  if failure.message.isEmpty then failure.kind else failure.message

end FileFailure

/-- What became of a file. -/
inductive FileOutcome where
  | indexed
  /-- No reader handles the file. -/
  | skipped
  | failed (failure : FileFailure)
  deriving DecidableEq, Repr

/-- What is logged about a file. -/
def FileOutcome.records (path : String) : FileOutcome → List LogRecord
  | indexed => []
  | skipped => [⟨.debug, buildLogger, "No reader for " ++ path ++ ", skipping"⟩]
  | failed failure =>
    [⟨.warning, buildLogger, "Error processing file " ++ path ++ ": " ++ failure.message⟩]

/-- What becomes of a file that is read to the end of a reading. -/
def Reading.outcome (reading : Reading) : FileOutcome :=
  match reading.error with
  | none => .indexed
  | some e => .failed (.reading e)

/-- What became of the files of a build, by their path texts. -/
structure BuildReport where
  indexed : List String
  skipped : List String
  /-- The files that failed, each once, with the text of the last failure. -/
  failed : OrderedMap String

namespace BuildReport

/-- The report on no files. -/
def empty : BuildReport := ⟨[], [], .empty⟩

/-- The report that knows of one more file. -/
def record (report : BuildReport) (path : String) : FileOutcome → BuildReport
  | .indexed => { report with indexed := report.indexed ++ [path] }
  | .skipped => { report with skipped := report.skipped ++ [path] }
  | .failed failure => { report with failed := report.failed.insert path failure.summary }

/-- The number of files taken in to their ends. -/
def indexedCount (report : BuildReport) : Nat :=
  report.indexed.length

/-- The number of files that failed. -/
def failedCount (report : BuildReport) : Nat :=
  report.failed.size

/-- The report in one line. -/
def summary (report : BuildReport) : String :=
  "Indexed " ++ toString report.indexedCount ++ " files (" ++ toString report.skipped.length
    ++ " skipped, " ++ toString report.failedCount ++ " failed)"

end BuildReport

/-- The stores while files are taken in, and whether the build has been cancelled. -/
structure Intake where
  stores : Stores
  cancelled : Bool

/-- Why a document is not taken in further. -/
inductive IntakeStop where
  | cancelled
  /-- One of its words is refused. -/
  | refused (failure : FileFailure)
  deriving DecidableEq, Repr

/-- A build under way. -/
structure BuildState where
  intake : Intake
  report : BuildReport
  /-- What was logged, in order. -/
  log : List LogRecord

/-- What a build works with: its readers, how words become terms, and whether a matrix is built. -/
structure Builder where
  readers : List Reader
  /-- The term of a word, or what normalizing the word complains of. -/
  normalize : String → Except Complaint String
  withMatrix : Bool

namespace Builder

/-- The builder of both stores with the usual readers and terms. -/
def standard : Builder :=
  ⟨Reader.defaults, fun word => .ok (Text.normalize word), true⟩

/-- File a word of a document under its term. A word with a blank term is left out. -/
def takeWord (builder : Builder) (doc : String) (stores : Stores) (word : String) :
    Stores × Option FileFailure :=
  match builder.normalize word with
  | .error complaint => (stores, some (.normalizing complaint))
  | .ok t =>
    if Text.isBlankText t then (stores, none)
    else
      let (stores, refusal) := stores.add t doc
      (stores, refusal.map .cell)

/-- Take in what happens while a document is read, until the end or the first stop. -/
def takeEvents (builder : Builder) (doc : String) (intake : Intake) :
    List ReadEvent → Intake × Option IntakeStop
  | [] => (intake, none)
  | .cancel :: rest => builder.takeEvents doc { intake with cancelled := true } rest
  | .word w :: rest =>
    if intake.cancelled then (intake, some .cancelled)
    else
      match builder.takeWord doc intake.stores w with
      | (stores, none) => builder.takeEvents doc { intake with stores := stores } rest
      | (stores, some failure) => ({ intake with stores := stores }, some (.refused failure))

/-- Take in a file. There is no outcome if the build is found to be cancelled. -/
def takeFile (builder : Builder) (tree : FileTree) (intake : Intake) (path : String) :
    Intake × Option FileOutcome :=
  if intake.cancelled then (intake, none)
  else
    match Reader.forFile builder.readers path with
    | none => (intake, some .skipped)
    | some reader =>
      match tree.readText path with
      | .error e => (intake, some (.failed (.file e)))
      | .ok bytes =>
        let reading := reader.read bytes
        match builder.takeEvents (documentId path) intake reading.events with
        | (intake, some .cancelled) => (intake, none)
        | (intake, some (.refused failure)) => (intake, some (.failed failure))
        | (intake, none) => (intake, some reading.outcome)

/-- Take in files in their order, until the end or the first one that finds the build cancelled. -/
def takeFiles (builder : Builder) (treeAfter : List LogRecord → FileTree) (s : BuildState) :
    List String → BuildState
  | [] => s
  | path :: rest =>
    match builder.takeFile (treeAfter s.log) s.intake path with
    | (intake, none) => { s with intake := intake }
    | (intake, some outcome) =>
      builder.takeFiles treeAfter
        ⟨intake, s.report.record path outcome, s.log ++ outcome.records path⟩ rest

end Builder

end BooleanRetrieval
