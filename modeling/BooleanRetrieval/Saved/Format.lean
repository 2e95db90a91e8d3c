import BooleanRetrieval.Decimal.Numeral
import BooleanRetrieval.Encoding.Utf8
import BooleanRetrieval.Files.Tree
import BooleanRetrieval.Json.Reader
import BooleanRetrieval.LogRecord
import BooleanRetrieval.Store.IncidenceMatrix

/-!
# Formats of saved stores

A store is saved as JSON or as lines of text, by the suffix of the file. This module holds what both
formats and both kinds of stores share: how a file is chosen and why reading or writing one fails.
-/

set_option autoImplicit false

namespace BooleanRetrieval

/-- The format of a saved store. -/
inductive StoreFormat where
  | json
  | lines
  deriving DecidableEq, Repr

/-- The format of the file at a path: JSON for the suffix `.json` in any case, else lines. -/
def StoreFormat.ofPath (path : Path) : StoreFormat :=
  if Text.toLower path.suffix = ".json" then json else lines

/-- Why a store cannot be written. -/
inductive WriteError where
  | tooManyDigits (error : TooManyDigits)
  | file (error : FileError)
  deriving DecidableEq, Repr

/-- The text of a writing error. -/
def WriteError.message : WriteError → String
  | tooManyDigits error => error.message
  | file error => error.message

/-- The digits of a frequency. -/
def writeFrequency (n : Nat) : Except WriteError (List Char) :=
  ((numeral n).mapError .tooManyDigits).map String.toList

/-- Why a saved store cannot be read. -/
inductive LoadError where
  | missing (path : String)
  | file (error : FileError)
  | encoding (error : Encoding.Utf8Error)
  | json (error : Json.Error)
  /-- A frequency has more digits than numbers may have. -/
  | tooManyDigits (count : Nat)
  | cell (error : CellError)
  /-- A value has no members where an object is expected. -/
  | noMembers (kind : String)
  /-- A value has no items where an array is expected. -/
  | noItems (kind : String)
  /-- A value is no text where a document id is expected. -/
  | noText (kind : String)
  /-- A value that is to be reported nests too deeply to be shown. -/
  | nesting (error : NestingError)
  deriving DecidableEq, Repr

/-- The text of a reading error. -/
def LoadError.message : LoadError → String
  | missing path => "Index file not found: " ++ path
  | file error => error.message
  | encoding error => error.message
  | json error => error.message
  | tooManyDigits count => (Json.Fault.tooManyDigits count).description
  | cell error => error.message
  | noMembers kind => "'" ++ kind ++ "' object has no attribute 'items'"
  | noItems kind => "'" ++ kind ++ "' object is not iterable"
  | noText kind => "'" ++ kind ++ "' object has no attribute 'strip'"
  | nesting error => error.message

/-- What reading a saved store gives: the store or an error, and what was reported meanwhile. -/
structure Loaded (α : Type) where
  outcome : Except LoadError α
  log : List LogRecord

/-- The name under which saving and loading report. -/
def savingLogger : String := "boolindex.serialization"

/-- A warning of saving and loading. -/
def loadWarning (message : String) : LogRecord :=
  ⟨.warning, savingLogger, message⟩

/-- The bytes of a saved store. -/
def savedBytes (tree : FileTree) (path : Path) : Except LoadError (List UInt8) :=
  match tree.asksExistence path with
  | .error e => .error (.file e)
  | .ok false => .error (.missing path.text)
  | .ok true => (tree.read path path.text).mapError .file

end BooleanRetrieval
