import BooleanRetrieval.CommandLine.Arguments
import BooleanRetrieval.Console.Session
import BooleanRetrieval.Decimal.Fixed
import BooleanRetrieval.Files.Discovery
import BooleanRetrieval.Saved.Structures
import BooleanRetrieval.Statistics

/-!
# The build program

The program finds the files of a directory, builds both stores from them, shows what became of the
files and how large the collection is, and saves both stores. A cancelled build saves nothing.
-/

set_option autoImplicit false

namespace BooleanRetrieval

namespace BuildProgram

/-- What the user is told about the number of files found. -/
def foundLine (c : Configuration) (count : Nat) : String :=
  if (count : Int) < c.minFileCount then
    "Warning: only " ++ toString count ++ " files qualify (at least " ++ toString c.minFileCount
      ++ " expected)."
  else "Found " ++ toString count ++ " files to index."

/-- What the user is told when there are no files. -/
def noFilesLine (c : Configuration) (directory : String) : String :=
  "No files of at least " ++ toString c.minFileSizeKb ++ " KB found in " ++ directory ++ "."

/-- The lines about the files that failed, in the order of their paths. -/
def failureLines (fileCount : Nat) (report : BuildReport) : List String :=
  if report.failedCount = 0 then []
  else
    ("Warning: " ++ toString report.failedCount ++ " of " ++ toString fileCount
      ++ " files could not be indexed:")
    :: (report.failed.entries.mergeSort fun a b => decide (a.1 ≤ b.1)).map fun (path, text) =>
      "  - " ++ path ++ ": " ++ text

/-- The line about an index without terms. -/
def emptyLines (index : InvertedIndex) : List String :=
  if index.vocabularySize = 0 then
    ["Warning: the vocabulary is empty. Check the readers and the input files."]
  else []

/-- A line across the page. -/
def rule : String := String.ofList (List.replicate 50 '=')

/-- The lines that show statistics. -/
def statisticsLines (report : String) : List String :=
  ["", rule, "INDEX STATISTICS", rule, "", report, ""]

/-- The line about a saved file. -/
def savedLine (clock : Clock) (file : SavedFile) : String :=
  "Saved " ++ file.path.text ++ " (" ++ twoPlaces file.size 1024 ++ " KB, " ++ clock.saveMillis
    ++ " ms)"

/-- The sizes of files in a tree. -/
def sizesOf (tree : FileTree) (paths : List String) : List (String × Option Nat) :=
  paths.map fun path =>
    (path, ((tree.read (.ofString path) path).toOption).map List.length)

/-- Save the stores, and ask for queries if that is wanted. -/
def save (env : Environment) (a : BuildArguments) (stores : Stores) (s : Session) :
    Session × Continuation :=
  let directory := Path.ofString (a.configuration.outputDirectory.getD defaultOutputDirectory)
  match saveStructures env.clock s.tree (some stores.index) stores.matrix directory with
  | .error e => (s, .stop (.broken (.write e)))
  | .ok saving =>
    let s := (({ s with tree := saving.tree }).logAll env.clock saving.log).sayAll
      (saving.saved.map (savedLine env.clock))
    if a.search then (s.say "", .ask stores.collections (.code 0)) else (s, .stop (.code 0))

/-- Show what was built and save it. -/
def finish (env : Environment) (a : BuildArguments) (fileCount : Nat) (built : Built)
    (s : Session) : Session × Continuation :=
  let stores := built.stores
  let s := (s.logAll env.clock built.log).sayAll
    (["", "Built both structures in " ++ env.clock.buildSeconds ++ "s"]
      ++ failureLines fileCount built.report ++ emptyLines stores.index)
  let (statistics, records) := Statistics.collect (some stores.index) stores.matrix
    (sizesOf s.tree built.report.indexed)
  let s := s.logAll env.clock records
  match statistics.report with
  | .error e => (s, .stop (.broken (.write (.tooManyDigits e))))
  | .ok report => save env a stores (s.sayAll (statisticsLines report))

/-- Build the stores from the files found. -/
def buildStores (env : Environment) (a : BuildArguments) (paths : List String) (s : Session) :
    Session × Continuation :=
  let c := a.configuration
  let cancelled (s : Session) : Session × Continuation :=
    (s.sayAll (interruptLines ++ ["Build cancelled; nothing was saved."]),
      .stop (.code cancelledStatus))
  if env.interrupted then cancelled s
  else
    match workerCount c.workers c.singleThreaded env.processors with
    | .error e => (s, .stop (.broken (.build e)))
    | .ok workers =>
      match Builder.standard.build (s.treeAfter env.clock) paths false workers env.schedule with
      | .error (.cancelled records) => cancelled (s.logAll env.clock records)
      | .error e => (s, .stop (.broken (.build e)))
      | .ok built => finish env a paths.length built s

/-- Find the files of a checked configuration and go on with them. -/
def findFiles (env : Environment) (a : BuildArguments) (s : Session) : Session × Continuation :=
  let c := a.configuration
  let directory := c.textsDirectory.getD "."
  match s.tree.discover (.ofString directory) c.minFileSizeKb c.recursive with
  | .error e => (s, .stop (.broken (.write (.file e))))
  | .ok paths =>
    let s := s.logAll env.clock (discoveryLog s.tree (.ofString directory) c.recursive)
    if paths.isEmpty then (s.say (noFilesLine c directory), .stop (.code 1))
    else buildStores env a (paths.map Path.text) (s.say (foundLine c paths.length))

/-- Start the program with the words of its command line. -/
def start (env : Environment) (line : List String) (s : Session) : Session × Continuation :=
  match BuildArguments.read line with
  | .error stop => (s, .stop (.ofStop stop))
  | .ok a =>
    match s.setUpLogging .info a.logFile with
    | .error e => (s, .stop (.broken (.write (.file e))))
    | .ok s =>
      match a.configuration.validate s.tree with
      | .error (.invalid e) => (s.say ("Configuration error: " ++ e.message), .stop (.code 1))
      | .error (.file e) => (s, .stop (.broken (.write (.file e))))
      | .ok () => findFiles env a s

end BuildProgram

end BooleanRetrieval
