import BooleanRetrieval.Build
import BooleanRetrieval.CommandLine.Usage
import BooleanRetrieval.Logging
import BooleanRetrieval.Saved.Format

/-!
# Console sessions

A program works on a file tree and writes on the two channels of a console. What it has done so far is
a session, and how it ends is a value too.
-/

set_option autoImplicit false

namespace BooleanRetrieval

/-- What a program cannot know by itself. -/
structure Environment where
  clock : Clock
  /-- The number of processors. -/
  processors : Nat
  /-- Whether the user interrupts the build. -/
  interrupted : Bool
  /-- In which order the workers of a build take their turns. -/
  schedule : List Nat := []
  /-- How deep values may nest. -/
  limits : NestingLimits := {}

/-- A channel of the console: for results, or for log records. -/
inductive Channel where
  | results
  | records
  deriving DecidableEq, Repr

/-- A program under way. -/
structure Session where
  tree : FileTree
  logging : Logging
  /-- What was written, the latest first. -/
  written : List (Channel × String)

/-- An error that a program does not handle. -/
inductive Fault where
  | build (error : BuildError)
  | write (error : WriteError)
  | load (error : LoadError)
  | nesting (error : NestingError)
  deriving DecidableEq, Repr

/-- The text of an unhandled error. -/
def Fault.message : Fault → String
  | build error => error.message
  | write error => error.message
  | load error => error.message
  | nesting error => error.message

/-- How a program ends. -/
inductive Ending where
  /-- It comes to its end and says nothing about it. -/
  | finished
  | code (status : Nat)
  /-- It gives up with a message. -/
  | message (text : String)
  | help
  /-- Its command line is not understood. -/
  | misused (error : UsageError)
  | broken (fault : Fault)
  deriving DecidableEq, Repr

/-- The ending of a program whose command line was not read to the end. -/
def Ending.ofStop : CommandStop → Ending
  | .help => .help
  | .wrong error => .misused error

/-- A collection that queries are asked of, with the name under which its answers are shown. -/
structure Collection where
  label : String
  accessor : Accessor

/-- What a program does behind its first part: it ends, or it asks for queries before it ends. -/
inductive Continuation where
  | stop (ending : Ending)
  | ask (collections : List Collection) (ending : Ending)

namespace Session

/-- A session in which nothing has been done. -/
def start (tree : FileTree) : Session :=
  ⟨tree, .unset, []⟩

/-- What was written on a channel. -/
def output (s : Session) (channel : Channel) : String :=
  String.join ((s.written.reverse.filter (·.1 = channel)).map Prod.snd)

/-- Write a text on a channel. -/
def write (s : Session) (channel : Channel) (text : String) : Session :=
  { s with written := (channel, text) :: s.written }

/-- Write a line of results. -/
def say (s : Session) (line : String) : Session :=
  s.write .results (line ++ "\n")

/-- Write lines of results. -/
def sayAll (s : Session) (lines : List String) : Session :=
  lines.foldl say s

/-- Log a record. -/
def log (clock : Clock) (s : Session) (record : LogRecord) : Session :=
  let (tree, text) := s.logging.emit clock s.tree record
  if text.isEmpty then { s with tree := tree }
  else ({ s with tree := tree }).write .records text

/-- Log records in their order. -/
def logAll (clock : Clock) (s : Session) (records : List LogRecord) : Session :=
  records.foldl (log clock) s

/-- The file tree once records have been logged, which may add to the log file. -/
def treeAfter (clock : Clock) (s : Session) (records : List LogRecord) : FileTree :=
  (s.logAll clock records).tree

/-- Set up logging. -/
def setUpLogging (s : Session) (level : LogLevel) (file : Option Path) :
    Except FileError Session :=
  (s.logging.setUp s.tree level file).map fun (logging, tree) =>
    { s with logging := logging, tree := tree }

end Session

/-- What the user is told when the build is interrupted. -/
def interruptLines : List String :=
  ["", "Ctrl+C received, cancelling the build ..."]

/-- The status of a program whose build was cancelled. -/
def cancelledStatus : Nat := 130

/-- The two stores of a build as collections. -/
def Stores.collections (stores : Stores) : List Collection :=
  ⟨"inverted index", stores.index.accessor⟩
    :: (stores.matrix.map fun matrix => Collection.mk "term-document matrix" matrix.accessor).toList

end BooleanRetrieval
