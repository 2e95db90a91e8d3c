import BooleanRetrieval.Search
import BooleanRetrieval.Proofs.Query.ParseOutcome
import BooleanRetrieval.Proofs.Query.StackMachine
import BooleanRetrieval.Proofs.Query.Truth
import BooleanRetrieval.Proofs.Store.Records

/-!
# What a search finds

A search on a collection that was filled by adds finds the documents of which the query is true. A raw
term of the query is true of a document if some add has its normalized form as a term of the document,
up to case folding. The adds are all that the collection is known by: whether they went to an index or
to a matrix makes no difference (`FilledBy`).
-/

set_option autoImplicit false

namespace BooleanRetrieval

/-! ## Filled collections -/

/-- A collection is the read side of a store that was empty before a list of adds, all of which
succeeded. -/
inductive FilledBy : List Occurrence → Accessor → Prop where
  | index {adds : List (Occurrence × Int)} {index : InvertedIndex}
      (h : InvertedIndex.empty.addAll adds = .ok index) :
      FilledBy (adds.map Prod.fst) index.accessor
  | matrix {adds : List Occurrence} {matrix : IncidenceMatrix}
      (h : IncidenceMatrix.empty.addAll adds = .ok matrix) : FilledBy adds matrix.accessor

namespace FilledBy

variable {adds : List Occurrence} {accessor : Accessor}

/-- A filled collection has the records of its adds. -/
theorem exists_records (h : FilledBy adds accessor) :
    ∃ registry : Registry, Records adds registry accessor.documentsForTerm ∧
      accessor.allDocuments = registry.documents := by
  cases h with
  | @index adds index h => exact ⟨index.registry, InvertedIndex.records_addAll h, rfl⟩
  | @matrix adds matrix h => exact ⟨matrix.registry, IncidenceMatrix.records_addAll h, rfl⟩

/-- The documents of a filled store are the first spellings of the documents that were added. -/
theorem mem_allDocuments (h : FilledBy adds accessor) (d : String) :
    d ∈ accessor.allDocuments ↔ firstSpelling adds d = some d := by
  obtain ⟨registry, hrecords, hall⟩ := h.exists_records
  rw [hall]
  exact hrecords.mem_documents d

/-- A term has the documents of its adds. -/
theorem mem_documentsForTerm (h : FilledBy adds accessor) (t d : String) :
    d ∈ accessor.documentsForTerm t ↔ d ∈ accessor.allDocuments ∧ Occurs adds t d := by
  obtain ⟨registry, hrecords, -⟩ := h.exists_records
  rw [h.mem_allDocuments]
  exact hrecords.documents t d

/-- A filled store finds documents among its own only. -/
theorem covered (h : FilledBy adds accessor) : accessor.Covered := by
  intro t d hd
  exact ((h.mem_documentsForTerm t d).mp hd).1

end FilledBy

/-! ## Searches -/

namespace Search

variable {normalize : String → String} {query : String} {accessor : Accessor}

/-- A search is the answer of the parsed query when neither the parser nor the evaluation fails. -/
theorem run_eq_ok {q : Query} {documents : DocSet} (hparse : Parser.parse normalize query = .ok q)
    (hanswer : (q.answer accessor).result = .ok documents) :
    run normalize accessor query = .ok documents := by
  unfold run
  rw [hparse]
  change (Machine.answer accessor q).result.mapError SearchError.evaluation = .ok documents
  rw [Machine.answer_eq, hanswer]
  rfl

/-- A search for a query with a tree, on a collection that was filled by adds, finds the documents of
the collection of which the query is true, read by its derivation: a raw term is true of a document
when some add is of its normalized form in the document, up to case folding. Documents are found under
their first spellings. -/
theorem run_finds_documents_where_query_holds {adds : List Occurrence}
    (hfilled : FilledBy adds accessor) (haccepted : ∃ q, Parser.parse normalize query = .ok q) :
    ∃ p : Phrase .disjunction, p.sentence = Token.scan query ∧
      ∃ found, run normalize accessor query = .ok found ∧
        (∀ d, d ∈ found ↔
          d ∈ accessor.allDocuments ∧ p.Holds fun raw => Occurs adds (normalize raw) d) ∧
        ∀ d ∈ found, firstSpelling adds d = some d := by
  obtain ⟨q, hparse⟩ := haccepted
  have houtcome := Parser.outcome_parse normalize query
  rw [hparse] at houtcome
  cases houtcome with
  | tree p htokens hterms =>
    obtain ⟨found, hanswer, hmem⟩ :=
      Query.exists_answer hfilled.covered (p.tree normalize) (p.proper_tree normalize)
    have hfound : ∀ d, d ∈ found ↔
        d ∈ accessor.allDocuments ∧ p.Holds fun raw => Occurs adds (normalize raw) d := by
      intro d
      rw [hmem d, p.holds_tree]
      refine and_congr_right fun hd => ?_
      -- of a known document, a term is true exactly if it occurs
      have hreading : (fun raw => d ∈ accessor.documentsForTerm (normalize raw)) =
          fun raw => Occurs adds (normalize raw) d := by
        funext raw
        rw [hfilled.mem_documentsForTerm]
        exact propext (and_iff_right hd)
      rw [hreading]
    refine ⟨p, htokens.symm, found, run_eq_ok hparse hanswer, hfound, fun d hd => ?_⟩
    exact (hfilled.mem_allDocuments d).mp ((hfound d).mp hd).1

/-- The documents with cats but no dogs in an index, whatever the case in which they were added. -/
theorem run_finds_documents_where_query_holds_index :
    let adds : List (Occurrence × Int) :=
      [(⟨"Cat", "Pets.txt"⟩, 1), (⟨"DOG", "pets.TXT"⟩, 2), (⟨"CAT", "home.txt"⟩, 1)]
    ∃ index, InvertedIndex.empty.addAll adds = .ok index ∧
      ∃ p : Phrase .disjunction, p.sentence = Token.scan "cat AND NOT (dog)" ∧
        ∃ found, run Text.normalize index.accessor "cat AND NOT (dog)" = .ok found ∧
          (∀ d, d ∈ found ↔ d ∈ index.accessor.allDocuments ∧
            p.Holds fun raw => Occurs (adds.map Prod.fst) (Text.normalize raw) d) ∧
          ∀ d ∈ found, firstSpelling (adds.map Prod.fst) d = some d := by
  intro adds
  have haccepted : ∃ q, Parser.parse Text.normalize "cat AND NOT (dog)" = .ok q :=
    ⟨.and (.term "cat") (.not (.term "dog")), by decide +kernel⟩
  refine ⟨_, rfl, ?_⟩
  exact run_finds_documents_where_query_holds (@FilledBy.index adds _ rfl) haccepted

end Search

end BooleanRetrieval
