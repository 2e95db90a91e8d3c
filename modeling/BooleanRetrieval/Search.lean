import BooleanRetrieval.Query.Machine
import BooleanRetrieval.Query.Parser

/-!
# Search

Searching reads a query and answers it on a collection.
-/

set_option autoImplicit false

namespace BooleanRetrieval

/-- Why a search has no result. -/
inductive SearchError where
  | query (error : ParseError)
  | evaluation (error : EvalError)
  deriving DecidableEq, Repr

/-- The text of a search error. -/
def SearchError.message : SearchError → String
  | query error => error.message
  | evaluation error => error.message

namespace Search

/-- Answer a tree that may be missing on a collection that may be missing. A missing tree is refused
when it is reached, a missing collection when it is asked. -/
def evaluate (accessor : Option Accessor) : Option Query → Answer
  | none => ⟨.error (.unsupported "None"), []⟩
  | some q =>
    match accessor with
    | some accessor => Machine.answer accessor q
    | none =>
      match q.firstLeaf with
      | .term t => ⟨.error (.noCollection (.term t)), []⟩
      | leaf => Machine.answer ⟨fun _ => .empty, .empty⟩ leaf

/-- Let a tree answer for itself; what is not a query cannot. -/
def evaluateNode (accessor : Option Accessor) : Option Query → Answer
  | none => ⟨.error (.notEvaluable "NoneType"), []⟩
  | some (.foreign _) => ⟨.error (.notEvaluable "str"), []⟩
  | some q => evaluate accessor q

/-- Answer a query; the tree and the collection must be there. -/
def execute (accessor : Option Accessor) : Option Query → Answer
  | none => ⟨.error .queryRequired, []⟩
  | some q =>
    match accessor with
    | none => ⟨.error .collectionRequired, []⟩
    | some accessor => Machine.answer accessor q

/-- Read a query, normalize its terms with the given function, and answer it on a collection. -/
def run (normalize : String → String) (accessor : Accessor) (query : String) :
    Except SearchError DocSet :=
  match Parser.parse normalize query with
  | .error e => .error (.query e)
  | .ok q => (execute (some accessor) (some q)).result.mapError .evaluation

end Search

end BooleanRetrieval
