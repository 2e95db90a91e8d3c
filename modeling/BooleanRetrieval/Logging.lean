import BooleanRetrieval.Clock
import BooleanRetrieval.Encoding.Utf8
import BooleanRetrieval.Files.Tree
import BooleanRetrieval.LogRecord
import BooleanRetrieval.Text.Column

/-!
# Showing log records

Records are shown on the console, and written to a log file if there is one, from a level upwards. The
first set-up decides whether there is a log file; later ones only change the level. Without a set-up,
and for reporters outside the program, warnings are shown bare.
-/

set_option autoImplicit false

namespace BooleanRetrieval

/-- Where records are shown. -/
structure Logging where
  /-- The level from which records are shown; zero if none has been set. -/
  level : LogLevel
  /-- Whether there has been a set-up. -/
  ready : Bool
  file : Option Path
  deriving DecidableEq, Repr

namespace Logging

/-- The reporter whose records the set-up is for, with all reporters below it. -/
def mainLogger : String := "boolindex"

/-- Before any set-up. -/
def unset : Logging := ⟨0, false, none⟩

/-- The number of places where records are shown. -/
def placeCount (l : Logging) : Nat :=
  (if l.ready then 1 else 0) + (if l.file.isSome then 1 else 0)

/-- The tree with bytes at the end of a file, which is made if need be. -/
def append (tree : FileTree) (path : Path) (bytes : List UInt8) : Except FileError FileTree :=
  match tree.find path with
  | .ok (.file old) => tree.write path (old ++ bytes)
  | _ => tree.write path bytes

/-- Set the level, and at the first time the log file. Its directory is made if need be, and what the
file holds already is kept. -/
def setUp (l : Logging) (tree : FileTree) (level : LogLevel) (file : Option Path) :
    Except FileError (Logging × FileTree) :=
  if l.ready then .ok ({ l with level := level }, tree)
  else
    match file with
    | none => .ok (⟨level, true, none⟩, tree)
    | some path => do
      let tree ← append (← tree.makeDirectories path.parent) path []
      return (⟨level, true, some path⟩, tree)

/-- Whether a reporter belongs to the program. -/
def isOwn (logger : String) : Bool :=
  logger = mainLogger || (mainLogger ++ ".").toList.isPrefixOf logger.toList

/-- The level from which the records of a reporter are shown. -/
def threshold (l : Logging) (logger : String) : LogLevel :=
  if isOwn logger && l.level ≠ 0 then l.level else LogLevel.warning

/-- Whether a record is shown at all. Records without a positive level never are. -/
def shows (l : Logging) (record : LogRecord) : Bool :=
  0 < record.level && l.threshold record.logger ≤ record.level

/-- The line of a record. -/
def line (clock : Clock) (record : LogRecord) : String :=
  clock.stamp ++ "  " ++ Text.padded 8 (LogLevel.name record.level) ++ "  " ++ record.logger ++ "  "
    ++ record.message ++ "\n"

/-- Show a record: the tree with the log file, and the text on the console. -/
def emit (clock : Clock) (l : Logging) (tree : FileTree) (record : LogRecord) :
    FileTree × String :=
  if !l.shows record then (tree, "")
  else if l.ready && isOwn record.logger then
    let text := line clock record
    match l.file with
    | none => (tree, text)
    | some path =>
      (((append tree path (Encoding.encodeUtf8 text.toList)).toOption).getD tree, text)
  else if LogLevel.warning ≤ record.level then (tree, record.message ++ "\n")
  else (tree, "")

end Logging

end BooleanRetrieval
