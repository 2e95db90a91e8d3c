import BooleanRetrieval.Files.Tree
import BooleanRetrieval.Text.Term

/-!
# Configuration of a build

The settings of a build and the check that they make sense. The first setting that does not is
reported.
-/

set_option autoImplicit false

namespace BooleanRetrieval

/-- The directory for saved stores if none is named. -/
def defaultOutputDirectory : String := "output"

/-- The size in kilobytes below which files are ignored if none is named. -/
def defaultMinFileSizeKb : Int := 150

/-- The number of files below which a warning is given if none is named. -/
def defaultMinFileCount : Int := 10

/-- The settings of a build. Directories are given by their path texts. -/
structure Configuration where
  textsDirectory : Option String := none
  outputDirectory : Option String := some defaultOutputDirectory
  minFileSizeKb : Int := defaultMinFileSizeKb
  minFileCount : Int := defaultMinFileCount
  singleThreaded : Bool := false
  /-- The number of workers; nothing means one for each processor. -/
  workers : Option Int := none
  recursive : Bool := false
  deriving DecidableEq, Repr

/-- The setting that does not make sense. -/
inductive ConfigurationError where
  | textsMissing
  | textsNotFound (directory : String)
  | outputMissing
  | negativeFileSize
  | negativeFileCount
  | noWorkers
  deriving DecidableEq, Repr

/-- The text of a configuration error. -/
def ConfigurationError.message : ConfigurationError → String
  | textsMissing => "Texts directory path is not configured."
  | textsNotFound directory => "Texts directory not found: " ++ directory
  | outputMissing => "Output directory path is not configured."
  | negativeFileSize => "Minimum file size cannot be negative."
  | negativeFileCount => "Minimum file count cannot be negative."
  | noWorkers => "Worker count must be at least 1."

/-- Why a configuration is not accepted. -/
inductive ConfigurationStop where
  | invalid (error : ConfigurationError)
  /-- Whether the directory of the texts is there cannot be told. -/
  | file (error : FileError)
  deriving DecidableEq, Repr

namespace Configuration

/-- The configuration with its directories in the normal form of paths. -/
def withPaths (c : Configuration) : Configuration :=
  { c with
    textsDirectory := c.textsDirectory.map fun text => (Path.ofString text).text
    outputDirectory := c.outputDirectory.map fun text => (Path.ofString text).text }

/-- A directory setting that is there and not blank. -/
def named (directory : Option String) : Option String :=
  directory.filter (!Text.isBlankText ·)

/-- Check the settings in their order. The directory of the texts must be there; the others are not
looked for. -/
def validate (tree : FileTree) (c : Configuration) : Except ConfigurationStop Unit :=
  match named c.textsDirectory with
  | none => .error (.invalid .textsMissing)
  | some texts =>
    match tree.asksDirectory (.ofString texts) with
    | .error e => .error (.file e)
    | .ok isThere =>
      if !isThere then .error (.invalid (.textsNotFound texts))
      else if (named c.outputDirectory).isNone then .error (.invalid .outputMissing)
      else if c.minFileSizeKb < 0 then .error (.invalid .negativeFileSize)
      else if c.minFileCount < 0 then .error (.invalid .negativeFileCount)
      else if c.workers.any (· < 1) then .error (.invalid .noWorkers)
      else .ok ()

end Configuration

end BooleanRetrieval
