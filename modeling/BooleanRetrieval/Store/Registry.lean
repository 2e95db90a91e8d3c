import BooleanRetrieval.DocSet
import BooleanRetrieval.Store.OrderedMap
import BooleanRetrieval.Text.LetterCase

/-!
# The documents of a store

Document ids that differ in letter case only name one document. A store reports a document under the
spelling it saw first.
-/

set_option autoImplicit false

namespace BooleanRetrieval

open Text (foldCase)

/-- The documents that a store has seen: the first spelling of each id, by its case folding. -/
structure Registry where
  spellings : OrderedMap String

namespace Registry

/-- No document has been seen. -/
def empty : Registry := ⟨.empty⟩

/-- The registry that has seen a document. -/
def register (r : Registry) (doc : String) : Registry :=
  ⟨r.spellings.insertIfNew (foldCase doc) doc⟩

/-- The spelling under which a document is known. -/
def spelling? (r : Registry) (doc : String) : Option String :=
  r.spellings.get? (foldCase doc)

/-- The spelling under which a document is known, or the given one if it has not been seen. -/
def spelling (r : Registry) (doc : String) : String :=
  (r.spelling? doc).getD doc

/-- All documents seen, under their first spellings. -/
def documents (r : Registry) : DocSet :=
  .ofList r.spellings.values

/-- The number of documents seen. -/
def size (r : Registry) : Nat :=
  r.spellings.size

end Registry

end BooleanRetrieval
