import BooleanRetrieval.CommandLine.Usage
import BooleanRetrieval.Configuration
import BooleanRetrieval.Saved.Structures

/-!
# The arguments of the programs

What can be said on the command lines of the build program and of the search program.
-/

set_option autoImplicit false

namespace BooleanRetrieval

/-- The normal form of a path text. -/
def pathText (text : String) : String :=
  (Path.ofString text).text

/-- The arguments of the build program. -/
structure BuildArguments where
  configuration : Configuration := {}
  /-- Whether to ask for queries after the build. -/
  search : Bool := false
  logFile : Option Path := none
  deriving DecidableEq, Repr

namespace BuildArguments

/-- The arguments with their configuration changed. -/
def configure (change : Configuration → Configuration) (a : BuildArguments) : BuildArguments :=
  { a with configuration := change a.configuration }

/-- The command line of the build program. -/
def usage : Usage BuildArguments :=
  ⟨some ("texts", fun text => configure fun c => { c with textsDirectory := some (pathText text) }),
    [⟨"--output", .text fun text =>
        configure fun c => { c with outputDirectory := some (pathText text) }⟩,
      ⟨"--min-size-kb", .number fun n => configure fun c => { c with minFileSizeKb := n }⟩,
      ⟨"--min-files", .number fun n => configure fun c => { c with minFileCount := n }⟩,
      ⟨"--workers", .number fun n => configure fun c => { c with workers := some n }⟩,
      ⟨"--single-threaded", .flag (configure fun c => { c with singleThreaded := true })⟩,
      ⟨"--recursive", .flag (configure fun c => { c with recursive := true })⟩,
      ⟨"--search", .flag fun a => { a with search := true }⟩,
      ⟨"--log-file", .text fun text a => { a with logFile := some (.ofString text) }⟩]⟩

/-- Read the command line of the build program. -/
def read (line : List String) : Except CommandStop BuildArguments :=
  usage.read {} line

/-- The paths that the build program works on. -/
def paths (a : BuildArguments) : List Path :=
  ([a.configuration.textsDirectory, a.configuration.outputDirectory].filterMap id).map .ofString
    ++ a.logFile.toList

end BuildArguments

/-- The arguments of the search program. -/
structure SearchArguments where
  index : Path := (Path.ofString defaultOutputDirectory).child indexJsonName
  matrix : Path := (Path.ofString defaultOutputDirectory).child matrixJsonName
  /-- The directory to build the stores from, instead of loading them. -/
  texts : Option Path := none
  singleThreaded : Bool := false
  verbose : Bool := false
  deriving DecidableEq, Repr

namespace SearchArguments

/-- The command line of the search program. -/
def usage : Usage SearchArguments :=
  ⟨none,
    [⟨"--index", .text fun text a => { a with index := .ofString text }⟩,
      ⟨"--matrix", .text fun text a => { a with matrix := .ofString text }⟩,
      ⟨"--texts", .text fun text a => { a with texts := some (.ofString text) }⟩,
      ⟨"--single-threaded", .flag fun a => { a with singleThreaded := true }⟩,
      ⟨"--verbose", .flag fun a => { a with verbose := true }⟩]⟩

/-- Read the command line of the search program. -/
def read (line : List String) : Except CommandStop SearchArguments :=
  usage.read {} line

/-- The paths that the search program works on. -/
def paths (a : SearchArguments) : List Path :=
  match a.texts with
  | some texts => [texts]
  | none => [a.index, a.matrix]

end SearchArguments

end BooleanRetrieval
