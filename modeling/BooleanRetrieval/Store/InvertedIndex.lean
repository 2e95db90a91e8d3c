import BooleanRetrieval.Query.Eval
import BooleanRetrieval.Store.Registry

/-!
# The inverted index

The index files, for each term, how often it occurs in each document. Terms and document ids are
compared by case folding. Frequencies only ever grow.
-/

set_option autoImplicit false

namespace BooleanRetrieval

open Text (foldCase)

/-- How often a term occurs in a document. -/
structure Posting where
  document : String
  frequency : Nat
  deriving DecidableEq, Repr

/-- Frequencies by folded term and document, and the documents seen. -/
structure InvertedIndex where
  postings : OrderedMap (OrderedMap Nat)
  registry : Registry

/-- An occurrence count that is not positive was given. -/
inductive CountError where
  | notPositive (count : Int)
  deriving DecidableEq, Repr

/-- The text of a refused count. -/
def CountError.message : CountError → String
  | notPositive count => "count must be >= 1, got " ++ toString count

namespace InvertedIndex

/-- The index without postings. -/
def empty : InvertedIndex := ⟨.empty, .empty⟩

/-- The index with a positive number of further occurrences of a term in a document. -/
def addCount (index : InvertedIndex) (t doc : String) (count : Nat) : InvertedIndex :=
  let registry := index.registry.register doc
  ⟨index.postings.upsert (foldCase t) fun old =>
    (old.getD .empty).upsert (registry.spelling doc) fun frequency => frequency.getD 0 + count,
    registry⟩

/-- The index with further occurrences of a term in a document. -/
def add (index : InvertedIndex) (t doc : String) (count : Int := 1) :
    Except CountError InvertedIndex :=
  if count < 1 then .error (.notPositive count)
  else .ok (index.addCount t doc count.toNat)

/-- The documents and frequencies of a term in the order in which the documents came. -/
def postingsOf (index : InvertedIndex) (t : String) : List Posting :=
  ((index.postings.get? (foldCase t)).getD .empty).entries.map fun (doc, n) => ⟨doc, n⟩

/-- The postings of a term in the order of the document ids. -/
def getPostings (index : InvertedIndex) (t : String) : List Posting :=
  (index.postingsOf t).mergeSort fun p q => decide (p.document ≤ q.document)

/-- The documents that have a term. -/
def documentsForTerm (index : InvertedIndex) (t : String) : DocSet :=
  .ofList ((index.postingsOf t).map Posting.document)

/-- All documents that the index has seen. -/
def allDocuments (index : InvertedIndex) : DocSet :=
  index.registry.documents

/-- How often a term occurs in a document. -/
def frequency (index : InvertedIndex) (t doc : String) : Nat :=
  (((index.registry.spelling? doc).bind fun spelling =>
    (index.postings.get? (foldCase t)).bind fun frequencies => frequencies.get? spelling)).getD 0

/-- The folded terms in the order in which they came. -/
def terms (index : InvertedIndex) : List String :=
  index.postings.keys

/-- Whether a term has postings. -/
def contains (index : InvertedIndex) (t : String) : Bool :=
  index.postings.contains (foldCase t)

/-- The number of terms. -/
def vocabularySize (index : InvertedIndex) : Nat :=
  index.postings.size

/-- The number of documents seen. -/
def documentCount (index : InvertedIndex) : Nat :=
  index.registry.size

/-- The number of occurrences filed. -/
def totalTokenCount (index : InvertedIndex) : Nat :=
  let totals := index.postings.values.map fun frequencies => frequencies.values.foldr (· + ·) 0
  totals.foldr (· + ·) 0

/-- The number of pairs of a term and a document that has it. -/
def totalPostings (index : InvertedIndex) : Nat :=
  (index.postings.values.map OrderedMap.size).foldr (· + ·) 0

/-- The terms in increasing order, each with its postings. -/
def listing (index : InvertedIndex) : List (String × List Posting) :=
  (index.terms.mergeSort fun s t => decide (s ≤ t)).map fun t => (t, index.getPostings t)

/-- The index as a collection to be asked. -/
def accessor (index : InvertedIndex) : Accessor :=
  ⟨index.documentsForTerm, index.allDocuments⟩

end InvertedIndex

end BooleanRetrieval
