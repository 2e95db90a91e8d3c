import BooleanRetrieval.Query.Eval
import BooleanRetrieval.Store.Registry
import BooleanRetrieval.Text.Term

/-!
# The incidence matrix

The matrix files, for each term, which documents have it. Terms and document ids are compared by case
folding; blank ones are refused. Filing a pair again changes nothing.
-/

set_option autoImplicit false

namespace BooleanRetrieval

open Text (foldCase isBlankText)

/-- The set documents by folded term, and the documents seen. -/
structure IncidenceMatrix where
  rows : OrderedMap DocSet
  registry : Registry

/-- Why a pair was not filed. -/
inductive CellError where
  | blankTerm
  | blankDocument
  deriving DecidableEq, Repr

/-- The text of a refused pair. -/
def CellError.message : CellError → String
  | blankTerm => "term must be a non-empty string"
  | blankDocument => "doc_id must be a non-empty string"

namespace IncidenceMatrix

/-- The matrix without entries. -/
def empty : IncidenceMatrix := ⟨.empty, .empty⟩

/-- The matrix in which a term is present in a document. -/
def set (matrix : IncidenceMatrix) (t doc : String) : IncidenceMatrix :=
  let registry := matrix.registry.register doc
  ⟨matrix.rows.upsert (foldCase t) fun old => (old.getD .empty).insert (registry.spelling doc),
    registry⟩

/-- The matrix in which a term is present in a document, when neither is blank or missing. -/
def add? (matrix : IncidenceMatrix) (t doc : Option String) : Except CellError IncidenceMatrix :=
  match t.filter (!isBlankText ·), doc.filter (!isBlankText ·) with
  | none, _ => .error .blankTerm
  | some _, none => .error .blankDocument
  | some t, some doc => .ok (matrix.set t doc)

/-- The matrix in which a term is present in a document, when neither is blank. -/
def add (matrix : IncidenceMatrix) (t doc : String) : Except CellError IncidenceMatrix :=
  matrix.add? (some t) (some doc)

/-- The documents that have a term. -/
def documentsForTerm (matrix : IncidenceMatrix) (t : String) : DocSet :=
  (matrix.rows.get? (foldCase t)).getD .empty

/-- All documents that the matrix has seen. -/
def allDocuments (matrix : IncidenceMatrix) : DocSet :=
  matrix.registry.documents

/-- The folded terms in the order in which they came. -/
def terms (matrix : IncidenceMatrix) : List String :=
  matrix.rows.keys

/-- Whether some document has a term. -/
def contains (matrix : IncidenceMatrix) (t : String) : Bool :=
  matrix.rows.contains (foldCase t)

/-- The number of terms. -/
def vocabularySize (matrix : IncidenceMatrix) : Nat :=
  matrix.rows.size

/-- The number of documents seen. -/
def documentCount (matrix : IncidenceMatrix) : Nat :=
  matrix.registry.size

/-- The number of cells that are set. -/
def nonZeroEntries (matrix : IncidenceMatrix) : Nat :=
  (matrix.rows.values.map DocSet.size).foldr (· + ·) 0

/-- The terms in increasing order, each with its documents in increasing order. -/
def listing (matrix : IncidenceMatrix) : List (String × List String) :=
  (matrix.terms.mergeSort fun s t => decide (s ≤ t)).map fun t =>
    (t, (matrix.documentsForTerm t).toList)

/-- The matrix as a collection to be asked. -/
def accessor (matrix : IncidenceMatrix) : Accessor :=
  ⟨matrix.documentsForTerm, matrix.allDocuments⟩

end IncidenceMatrix

end BooleanRetrieval
