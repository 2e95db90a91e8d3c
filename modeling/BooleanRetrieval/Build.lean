import BooleanRetrieval.Build.Pool
import BooleanRetrieval.Files.Discovery

/-!
# Building the stores

A build takes in a list of files. With one worker they are taken in one after the other, and with several
workers by a pool. A cancelled build has no result: cancellation is looked for before every file, before
every word and after the last file.
-/

set_option autoImplicit false

namespace BooleanRetrieval

/-- Why a build has no result. -/
inductive BuildError where
  /-- Fewer than one worker was asked for. -/
  | noWorkers (degree : Int)
  /-- The build was cancelled; what was logged until then is kept. -/
  | cancelled (log : List LogRecord)
  deriving DecidableEq, Repr

/-- The text of a build error. -/
def BuildError.message : BuildError → String
  | noWorkers degree => "degree_of_parallelism must be >= 1, got " ++ toString degree
  | cancelled _ => "Index build was cancelled"

/-- The number of workers of a build: one if a single one is demanded, else the given number, else as
many as there are processors, and one if their number is not known. -/
def workerCount (degree : Option Int) (single : Bool) (processors : Nat) :
    Except BuildError Nat :=
  if single then .ok 1
  else
    match degree with
    | none => .ok (max 1 processors)
    | some degree => if degree < 1 then .error (.noWorkers degree) else .ok degree.toNat

/-- What the search for the files of a build reports: a warning about each path that it cannot look at. -/
def discoveryLog (tree : FileTree) (directory : Path) (recursive : Bool) : List LogRecord :=
  (tree.unseenPaths directory recursive).map fun path =>
    ⟨.warning, buildLogger, "Could not stat " ++ path.text ++ ": "
      ++ FileError.message ⟨.nameTooLong, path.text⟩⟩

/-- The result of a build. -/
structure Built where
  stores : Stores
  report : BuildReport
  log : List LogRecord

namespace Builder

/-- What is logged before the first file. -/
def opening (fileCount workers : Nat) : LogRecord :=
  ⟨.info, buildLogger, "Indexing " ++ toString fileCount ++ " files with " ++ toString workers
    ++ " worker(s)"⟩

/-- Build the stores from the files at the given paths. `treeAfter` is the file tree once records have
been logged. The build may be cancelled beforehand. The schedule tells in which order several workers take
their turns. -/
def build (builder : Builder) (treeAfter : List LogRecord → FileTree) (paths : List String)
    (cancelled : Bool) (workers : Nat) (schedule : List Nat := []) : Except BuildError Built :=
  let start : BuildState :=
    ⟨⟨.empty builder.withMatrix, cancelled⟩, .empty, [opening paths.length workers]⟩
  let s :=
    if workers = 1 then builder.takeFiles treeAfter start paths
    else (builder.takePooled treeAfter workers schedule start paths).state
  if s.intake.cancelled then .error (.cancelled s.log)
  else .ok ⟨s.intake.stores, s.report, s.log ++ [⟨.info, buildLogger, s.report.summary⟩]⟩

end Builder

end BooleanRetrieval
