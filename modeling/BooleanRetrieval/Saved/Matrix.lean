import BooleanRetrieval.Encoding.Chunks
import BooleanRetrieval.Json.Writer
import BooleanRetrieval.Saved.Format
import BooleanRetrieval.Saved.Sections

/-!
# The saved matrix

As JSON a matrix is an object of arrays: documents by term. As lines it has a section for each term
with a line for each document. Reading stops at a pair that the matrix refuses.
-/

set_option autoImplicit false

namespace BooleanRetrieval.IncidenceMatrix

/-- The matrix as a JSON value. -/
def toJson (matrix : IncidenceMatrix) : Json :=
  .object (matrix.listing.map fun (t, docs) => (t, .array (docs.map .string)))

/-- The text of a saved matrix. -/
def toText (matrix : IncidenceMatrix) : StoreFormat → List Char
  | .json => matrix.toJson.render
  | .lines => matrix.listing.flatMap fun (t, docs) => Sections.write t (docs.map String.toList)

/-- Read entries into a matrix; `reports` holds the reports so far, the latest first. -/
def loadEntries (path : String) (matrix : IncidenceMatrix) (reports : List LogRecord) :
    List Sections.Entry → Loaded IncidenceMatrix
  | [] => ⟨.ok matrix, reports.reverse⟩
  | entry :: rest =>
    match entry.term with
    | none =>
      loadEntries path matrix (loadWarning (Sections.orphanReport path entry) :: reports) rest
    | some t =>
      match matrix.add t (.ofList (Text.trim entry.line)) with
      | .ok matrix => loadEntries path matrix reports rest
      | .error e => ⟨.error (.cell e), reports.reverse⟩

/-- The values that a term's value lists: the items of an array, the characters of a string, the names
of an object. -/
def listed : Json → Except LoadError (List Json)
  | .array items => .ok items
  | .string s => .ok (s.toList.map fun c => .string (.ofList [c]))
  | .object members => .ok (members.map fun (name, _) => .string name)
  | value => .error (.noItems value.kindName)

/-- Add the pair of a term and a listed value. -/
def addListed (matrix : IncidenceMatrix) (t : String) : Json → Except LoadError IncidenceMatrix
  | .string doc => (matrix.add t doc).mapError .cell
  | .null => (matrix.add? (some t) none).mapError .cell
  | value =>
    if Text.isBlankText t then .error (.cell .blankTerm) else .error (.noText value.kindName)

/-- Read the members of the outer object. -/
def loadTerms (matrix : IncidenceMatrix) (members : List (String × Json)) :
    Except LoadError IncidenceMatrix :=
  members.foldlM (fun matrix (t, value) => do
    (← listed value).foldlM (fun matrix item => matrix.addListed t item) matrix) matrix

/-- The matrix of a JSON value. -/
def ofJson : Json → Except LoadError IncidenceMatrix
  | .object members => loadTerms .empty members
  | value => .error (.noMembers value.kindName)

/-- The matrix of a JSON file. -/
def ofJsonBytes (limits : NestingLimits) (bytes : List UInt8) : Except LoadError IncidenceMatrix := do
  let text ← (Encoding.decodeUtf8 bytes).mapError .encoding
  ofJson (← (Json.parse limits.json (Text.unifyBreaks text)).mapError .json)

/-- Read the bytes of a saved matrix. -/
def loadBytes (path : Path) (format : StoreFormat) (bytes : List UInt8) (limits : NestingLimits := {}) :
    Loaded IncidenceMatrix :=
  match format with
  | .json => ⟨ofJsonBytes limits bytes, []⟩
  | .lines =>
    let (lines, fault) := Encoding.readLines bytes
    let loaded := loadEntries path.text .empty [] (Sections.entries lines)
    match loaded.outcome, fault with
    | .ok _, some e => { loaded with outcome := .error (.encoding e) }
    | _, _ => loaded

/-- Load the matrix that is saved at a path. -/
def load (tree : FileTree) (path : Path) (limits : NestingLimits := {}) : Loaded IncidenceMatrix :=
  match savedBytes tree path with
  | .error e => ⟨.error e, []⟩
  | .ok bytes => loadBytes path (.ofPath path) bytes limits

end BooleanRetrieval.IncidenceMatrix
