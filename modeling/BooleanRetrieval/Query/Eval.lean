import BooleanRetrieval.DocSet
import BooleanRetrieval.Query.Basic

/-!
# The answer to a query

What a query tree means on a collection of documents, and which questions it asks the collection in
which order. A conjunction does not look at its right operand when the left one has no documents, a
disjunction always looks at both, and a negation asks for all documents after its operand.
-/

set_option autoImplicit false

namespace BooleanRetrieval

/-- The read side of a collection: the documents of each term, and all documents. -/
structure Accessor where
  documentsForTerm : String → DocSet
  allDocuments : DocSet

/-- A question asked of a collection. -/
inductive Lookup where
  | term (t : String)
  | all
  deriving DecidableEq, Repr

/-- Why a query has no answer. -/
inductive EvalError where
  /-- Something that is not a query stands where a query should; its quoted form is given. -/
  | unsupported (quoted : String)
  /-- There is no collection to ask. -/
  | noCollection (lookup : Lookup)
  /-- Something that is not a query was asked to answer for itself. -/
  | notEvaluable (kind : String)
  /-- No query was given to the search service. -/
  | queryRequired
  /-- No collection was given to the search service. -/
  | collectionRequired
  deriving DecidableEq, Repr

/-- The text of an evaluation error. -/
def EvalError.message : EvalError → String
  | unsupported quoted => "Unsupported query node: " ++ quoted
  | noCollection (.term _) => "'NoneType' object has no attribute 'documents_for_term'"
  | noCollection .all => "'NoneType' object has no attribute 'all_document_ids'"
  | notEvaluable kind => "'" ++ kind ++ "' object has no attribute 'evaluate'"
  | queryRequired => "query_ast_root is required"
  | collectionRequired => "index_accessor is required"

/-- The result of an evaluation and the questions it asked, in order. -/
structure Answer where
  result : Except EvalError DocSet
  lookups : List Lookup

namespace Answer

/-- The answer that goes on with the documents of this one, or stops at its error. -/
def andThen (answer : Answer) (next : DocSet → Answer) : Answer :=
  match answer.result with
  | .error _ => answer
  | .ok documents =>
    let rest := next documents
    ⟨rest.result, answer.lookups ++ rest.lookups⟩

/-- The answer with its documents changed by a function. -/
def map (f : DocSet → DocSet) (answer : Answer) : Answer :=
  ⟨answer.result.map f, answer.lookups⟩

end Answer

/-- The answer to a query, by recursion on the tree. -/
def Query.answer (accessor : Accessor) : Query → Answer
  | .term t => ⟨.ok (accessor.documentsForTerm t), [.term t]⟩
  | .and left right =>
    (left.answer accessor).andThen fun documents =>
      if documents.isEmpty then ⟨.ok documents, []⟩
      else (right.answer accessor).map documents.inter
  | .or left right =>
    (left.answer accessor).andThen fun documents => (right.answer accessor).map documents.union
  | .not operand =>
    (operand.answer accessor).andThen fun documents =>
      ⟨.ok (accessor.allDocuments.diff documents), [.all]⟩
  | .foreign text => ⟨.error (.unsupported (Text.quoted text)), []⟩

end BooleanRetrieval
