import BooleanRetrieval.Proofs.Increasing
import BooleanRetrieval.Proofs.Store.Books
import BooleanRetrieval.Proofs.Text.Folding

/-!
# The index as a tally

Every answer of an index can be read off the calls that it accepted: how often a term occurs in a
document is the sum of their counts, and the numbers of the index count what was named in them, all up
to case folding (`Tally`). Refused calls leave no trace.
-/

set_option autoImplicit false

namespace BooleanRetrieval

open Text (foldCase foldCase_foldCase)

namespace InvertedIndex

/-! ## Listings -/

/-- The postings of a term come in the order of their documents. -/
theorem pairwise_getPostings (index : InvertedIndex) (t : String) :
    (index.getPostings t).Pairwise fun p q => p.document < q.document := by
  apply pairwise_lt_mergeSort
  rw [postingsOf, List.map_map]
  exact (index.frequencies t).nodup

/-- The documents of a term are the documents of its postings. -/
theorem mem_documentsForTerm_iff_getPostings {index : InvertedIndex} {t d : String} :
    d ∈ index.documentsForTerm t ↔ ∃ p ∈ index.getPostings t, p.document = d := by
  unfold documentsForTerm getPostings
  rw [DocSet.mem_ofList, List.mem_map]
  simp only [List.mem_mergeSort]

/-- The listing holds each term with its postings. -/
theorem mem_listing {index : InvertedIndex} {t : String} {postings : List Posting} :
    (t, postings) ∈ index.listing ↔ t ∈ index.terms ∧ postings = index.getPostings t := by
  unfold listing
  rw [List.mem_map]
  constructor
  · rintro ⟨u, hu, heq⟩
    obtain ⟨rfl, rfl⟩ := Prod.mk.inj heq
    exact ⟨List.mem_mergeSort.mp hu, rfl⟩
  · rintro ⟨ht, rfl⟩
    exact ⟨t, List.mem_mergeSort.mpr ht, rfl⟩

/-- The listing comes in the order of its terms. -/
theorem pairwise_keys_listing (index : InvertedIndex) :
    (index.listing.map Prod.fst).Pairwise (· < ·) := by
  have hkeys : index.listing.map Prod.fst = index.terms.mergeSort fun s t => decide (s ≤ t) := by
    unfold listing
    rw [List.map_map]
    exact List.map_id _
  rw [hkeys]
  apply pairwise_lt_mergeSort
  rw [List.map_id']
  exact index.postings.nodup

/-! ## The tally -/

/-- What an index answers after a list of adds, read off the adds alone. -/
structure Tally (adds : List CountedAdd) (index : InvertedIndex) : Prop where
  /-- A frequency is the sum of the counts of the adds for the term and the document. -/
  frequency : ∀ t d, (index.frequency t d : Int) = occurrenceCount adds t d
  /-- The postings of a term are its documents with a positive frequency, each under the spelling of
  the first add of the document, whatever the term of that add. -/
  getPostings : ∀ t p, p ∈ index.getPostings t ↔
    firstSpelling (adds.map Prod.fst) p.document = some p.document ∧
      p.frequency = index.frequency t p.document ∧ 0 < p.frequency
  /-- Postings stand in the strict order of their documents. -/
  increasing : ∀ t, (index.getPostings t).Pairwise fun p q => p.document < q.document
  documentsForTerm : ∀ t d,
    d ∈ index.documentsForTerm t ↔ ∃ p ∈ index.getPostings t, p.document = d
  allDocuments : ∀ d, d ∈ index.allDocuments ↔ ∃ t ∈ index.terms, d ∈ index.documentsForTerm t
  totalTokenCount : (index.totalTokenCount : Int) = (adds.map Prod.snd).sum
  totalPostings : index.totalPostings = (adds.map CountedAdd.pair).toFinset.card
  vocabularySize : index.vocabularySize = (adds.map CountedAdd.key).toFinset.card
  documentCount : index.documentCount = (adds.map CountedAdd.documentKey).toFinset.card
  /-- The terms are the folded ones of the adds, in the order of their first adds. -/
  terms : index.terms = (adds.map CountedAdd.key).eraseDups
  contains : ∀ t, index.contains t = true ↔ ∃ a ∈ adds, a.key = foldCase t
  /-- The terms of the listing stand in their strict order. -/
  listingIncreasing : (index.listing.map Prod.fst).Pairwise (· < ·)
  /-- The listing has every term with its postings. -/
  listing : ∀ t postings, (t, postings) ∈ index.listing ↔
    (∃ a ∈ adds, a.key = t) ∧ postings = index.getPostings t

namespace Books

variable {adds : List CountedAdd} {index : InvertedIndex}

/-- The terms of an index are the keys of its adds. -/
theorem mem_terms (h : Books adds index) {t : String} :
    t ∈ index.terms ↔ ∃ a ∈ adds, a.key = t := by
  rw [h.terms, List.mem_eraseDups, List.mem_map]

/-- All documents of an index are those of its terms. -/
theorem mem_allDocuments (h : Books adds index) {d : String} :
    d ∈ index.allDocuments ↔ ∃ t ∈ index.terms, d ∈ index.documentsForTerm t := by
  have hall : d ∈ index.allDocuments ↔ firstSpelling (adds.map Prod.fst) d = some d :=
    h.records.mem_documents d
  rw [hall]
  constructor
  · intro hd
    obtain ⟨o, ho, rfl⟩ := List.mem_map.mp (List.mem_of_find?_eq_some hd)
    obtain ⟨a, ha, rfl⟩ := List.mem_map.mp ho
    refine ⟨CountedAdd.key a, h.mem_terms.mpr ⟨a, ha, rfl⟩, (h.records.documents _ _).mpr ⟨hd, ?_⟩⟩
    exact ⟨a.1, ho, (foldCase_foldCase a.1.term).symm, rfl⟩
  · rintro ⟨t, -, hd⟩
    exact ((h.records.documents t d).mp hd).1

/-- The accessors of an index that keeps the books are those of the multiset of its adds. -/
theorem tally (h : Books adds index) (hpos : ∀ a ∈ adds, 1 ≤ a.2) : Tally adds index where
  frequency := h.frequency_eq
  getPostings t p := h.mem_getPostings_iff hpos
  increasing := index.pairwise_getPostings
  documentsForTerm t d := mem_documentsForTerm_iff_getPostings
  allDocuments d := h.mem_allDocuments
  totalTokenCount := h.tokens
  totalPostings := h.pairs
  vocabularySize := by
    have hdistinct : index.terms.Nodup := index.postings.nodup
    have hset : (adds.map CountedAdd.key).toFinset = index.terms.toFinset := by
      ext t
      rw [List.mem_toFinset, List.mem_toFinset, h.terms, List.mem_eraseDups]
    rw [hset, List.toFinset_card_of_nodup hdistinct]
    exact OrderedMap.size_eq_length_keys _
  documentCount := by
    have hset : (adds.map CountedAdd.documentKey).toFinset =
        index.registry.spellings.keys.toFinset := by
      ext d
      rw [List.mem_toFinset, List.mem_toFinset, h.documents, List.mem_eraseDups]
    have hdistinct : index.registry.spellings.keys.Nodup := index.registry.spellings.nodup
    rw [hset, List.toFinset_card_of_nodup hdistinct]
    exact OrderedMap.size_eq_length_keys _
  terms := h.terms
  contains t := by
    have hkey : index.contains t = true ↔ foldCase t ∈ index.terms := by
      unfold InvertedIndex.contains OrderedMap.contains
      rw [Option.isSome_iff_exists]
      exact OrderedMap.mem_keys_iff.symm
    rw [hkey, h.mem_terms]
  listingIncreasing := index.pairwise_keys_listing
  listing t postings := by rw [mem_listing, h.mem_terms]

end Books

/-- A call with a count below one is refused and changes nothing, and the answers of an index after
any run of calls, refused ones included, are the tally of the accepted calls. -/
theorem run_answers_with_tally (calls : List CountedAdd) :
    (∀ t doc count, count < 1 →
      (afterCalls calls).add t doc count = .error (.notPositive count) ∧
        afterCalls (calls ++ [(⟨t, doc⟩, count)]) = afterCalls calls) ∧
      Tally (accepted calls) (afterCalls calls) := by
  constructor
  · intro t doc count hcount
    have hrefused : (afterCalls calls).add t doc count = .error (.notPositive count) :=
      add_of_lt hcount
    refine ⟨hrefused, ?_⟩
    have hlast : afterCalls (calls ++ [(⟨t, doc⟩, count)]) =
        (afterCalls calls).call (⟨t, doc⟩, count) := by
      unfold afterCalls
      rw [List.foldl_append, List.foldl_cons, List.foldl_nil]
    rw [hlast, call, hrefused]
    rfl
  · obtain ⟨hbooks, hpos⟩ := books_addAll (addAll_accepted_empty calls)
    exact hbooks.tally hpos

/-- A document added twice in different case, with refused calls before and after. -/
theorem run_answers_with_tally_refusals :
    let calls : List CountedAdd :=
      [(⟨"dog", "Pets.txt"⟩, 0), (⟨"Cat", "pets.TXT"⟩, 2), (⟨"CAT", "Pets.txt"⟩, 3)]
    ((-1 : Int) < 1 ∧ (afterCalls calls).add "cat" "b.txt" (-1) = .error (.notPositive (-1)) ∧
      afterCalls (calls ++ [(⟨"cat", "b.txt"⟩, -1)]) = afterCalls calls) ∧
    Tally (accepted calls) (afterCalls calls) ∧
    (afterCalls calls).frequency "cAt" "PETS.TXT" = 5 ∧ (afterCalls calls).documentCount = 1 := by
  intro calls
  obtain ⟨hrefused, htally⟩ := run_answers_with_tally calls
  have hlt : (-1 : Int) < 1 := by decide
  refine ⟨⟨hlt, hrefused "cat" "b.txt" (-1) hlt⟩, htally, ?_, ?_⟩
  · decide +kernel
  · decide +kernel

end InvertedIndex

end BooleanRetrieval
