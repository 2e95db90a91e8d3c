import BooleanRetrieval.Proofs.Store.Refill
import BooleanRetrieval.Saved.Structures

/-!
# The order of adds

Calls that reach a store in another order leave a store that differs at most in the spellings of its
documents (`SameButSpelling`). What occurs where and how often does not depend on the order, and a
listing is sorted, so that nothing else of the order is left in it; only which spelling of a document
came first does. If no document is spelled in two ways (`SpelledAlike`), the first spellings are the
same, too (`sameNames_of_perm`), and so are the listings and the texts that are saved.
-/

set_option autoImplicit false

namespace BooleanRetrieval

open Text (foldCase)

/-! ## What a permutation keeps -/

/-- What occurs does not depend on the order of the adds. -/
theorem occurs_of_perm {adds adds' : List Occurrence} (h : adds.Perm adds') {t d : String} :
    Occurs adds' t d ↔ Occurs adds t d := by
  unfold Occurs
  simp only [h.mem_iff]

/-- The number of occurrences does not depend on the order of the adds. -/
theorem occurrenceCount_of_perm {adds adds' : List CountedAdd} (h : adds.Perm adds') (t d : String) :
    occurrenceCount adds' t d = occurrenceCount adds t d :=
  ((h.filter _).map Prod.snd).symm.sum_eq

/-- No two adds spell one document differently. -/
def SpelledAlike (adds : List Occurrence) : Prop :=
  ∀ a ∈ adds, ∀ b ∈ adds, foldCase a.document = foldCase b.document → a.document = b.document

instance (adds : List Occurrence) : Decidable (SpelledAlike adds) :=
  inferInstanceAs (Decidable (∀ a ∈ adds, ∀ b ∈ adds, _ → _))

/-- A document that all adds spell alike is known under that spelling, if there is an add for it. -/
theorem firstSpelling_eq_some_iff_of_alike {adds : List Occurrence} {d s : String}
    (halike : ∀ a ∈ adds, foldCase a.document = foldCase d → a.document = s) :
    firstSpelling adds d = some s ↔ ∃ a ∈ adds, foldCase a.document = foldCase d := by
  constructor
  · intro hs
    obtain ⟨a, ha, rfl⟩ := exists_mem_of_firstSpelling hs
    exact ⟨a, ha, foldCase_of_firstSpelling hs⟩
  · rintro ⟨a, ha, hfold⟩
    have hoccurs : Occurs adds a.term d := ⟨a, ha, rfl, hfold⟩
    obtain ⟨s', hs'⟩ := hoccurs.exists_firstSpelling
    obtain ⟨b, hb, rfl⟩ := exists_mem_of_firstSpelling hs'
    rw [hs', halike b hb (foldCase_of_firstSpelling hs')]

/-- Where no document is spelled in two ways, the order of the adds does not matter for the first
spellings. -/
theorem firstSpelling_of_perm {adds adds' : List Occurrence} (h : adds.Perm adds')
    (halike : SpelledAlike adds) (d : String) : firstSpelling adds' d = firstSpelling adds d := by
  cases hs : firstSpelling adds d with
  | none =>
    rw [firstSpelling, List.find?_eq_none] at hs ⊢
    intro s hmem
    exact hs s ((h.map Occurrence.document).mem_iff.mpr hmem)
  | some s =>
    obtain ⟨a, ha, rfl⟩ := exists_mem_of_firstSpelling hs
    have hfold : foldCase a.document = foldCase d := foldCase_of_firstSpelling hs
    have hsame : ∀ b ∈ adds', foldCase b.document = foldCase d → b.document = a.document :=
      fun b hb hb' => halike b (h.mem_iff.mpr hb) a ha (hb'.trans hfold.symm)
    exact (firstSpelling_eq_some_iff_of_alike hsame).mpr ⟨a, h.mem_iff.mp ha, hfold⟩

/-- Adds in another order name the same documents when each document is spelled alike everywhere. -/
theorem sameNames_of_perm {adds adds' : List CountedAdd} (h : adds.Perm adds')
    (halike : SpelledAlike (adds.map Prod.fst)) : SameNames adds adds' where
  spelling := firstSpelling_of_perm (h.map Prod.fst) halike
  occurs _ _ := occurs_of_perm (h.map Prod.fst)

/-! ## Indexes up to spelling -/

/-- A posting with its document folded. -/
def Posting.folded (p : Posting) : Posting :=
  ⟨foldCase p.document, p.frequency⟩

/-- Two indexes that differ at most in how their documents are spelled, and so in the order in which
the documents of a term are listed. -/
structure InvertedIndex.SameButSpelling (index index' : InvertedIndex) : Prop where
  terms : index.terms.Perm index'.terms
  frequency : ∀ t d, index.frequency t d = index'.frequency t d
  vocabularySize : index.vocabularySize = index'.vocabularySize
  documentCount : index.documentCount = index'.documentCount
  totalPostings : index.totalPostings = index'.totalPostings
  totalTokenCount : index.totalTokenCount = index'.totalTokenCount
  /-- The same terms are listed in the same order, each with the same postings up to case folding. -/
  listing : List.Forall₂
    (fun entry entry' => entry.1 = entry'.1 ∧
      (entry.2.map Posting.folded).Perm (entry'.2.map Posting.folded))
    index.listing index'.listing

/-- Two matrices that differ at most in how their documents are spelled, and so in the order in which
the documents of a term are listed. -/
structure IncidenceMatrix.SameButSpelling (matrix matrix' : IncidenceMatrix) : Prop where
  terms : matrix.terms.Perm matrix'.terms
  vocabularySize : matrix.vocabularySize = matrix'.vocabularySize
  documentCount : matrix.documentCount = matrix'.documentCount
  nonZeroEntries : matrix.nonZeroEntries = matrix'.nonZeroEntries
  /-- The same terms are listed in the same order, each with the same documents up to case folding. -/
  listing : List.Forall₂
    (fun entry entry' => entry.1 = entry'.1 ∧
      (entry.2.map foldCase).Perm (entry'.2.map foldCase))
    matrix.listing matrix'.listing

namespace InvertedIndex

namespace Books

variable {adds adds' : List CountedAdd} {index index' : InvertedIndex}

/-- The terms of an index do not depend on the order of the adds. -/
theorem mem_terms_of_perm (h : Books adds index) (h' : Books adds' index') (hperm : adds.Perm adds')
    {t : String} : t ∈ index'.terms ↔ t ∈ index.terms := by
  rw [h'.mem_terms, h.mem_terms]
  simp only [hperm.mem_iff]

/-- The folded postings of a term are the folded documents in which it occurs, each with the number of
its occurrences, whatever the first spellings are. -/
theorem mem_folded_iff (h : Books adds index) (hpos : ∀ a ∈ adds, 1 ≤ a.2) {t : String}
    {p : Posting} :
    p ∈ (index.getPostings t).map Posting.folded ↔
      ∃ d, foldCase d = p.document ∧ (p.frequency : Int) = occurrenceCount adds t d ∧
        0 < p.frequency := by
  rw [List.mem_map]
  constructor
  · rintro ⟨q, hq, rfl⟩
    obtain ⟨-, hfrequency, hpositive⟩ := (h.mem_getPostings_iff hpos).mp hq
    refine ⟨q.document, rfl, ?_, hpositive⟩
    rw [← h.frequency_eq, ← hfrequency]
    rfl
  · rintro ⟨d, hdocument, hcount, hpositive⟩
    have hoccurs : Occurs (adds.map Prod.fst) t d := by
      by_contra hnot
      rw [occurrenceCount_eq_zero hnot] at hcount
      omega
    obtain ⟨s, hs, -⟩ := h.exists_mem_documentsForTerm hoccurs
    have hfold : foldCase s = foldCase d := foldCase_of_firstSpelling hs
    have hfrequency := h.frequency_eq t s
    rw [occurrenceCount_congr rfl hfold, ← hcount] at hfrequency
    refine ⟨⟨s, p.frequency⟩, (h.mem_getPostings_iff hpos).mpr ⟨?_, ?_, hpositive⟩, ?_⟩
    · rw [firstSpelling_congr hfold, hs]
    · exact (Int.ofNat.inj hfrequency).symm
    · unfold Posting.folded
      rw [hfold, hdocument]

/-- The postings of a term stay distinct when their documents are folded. -/
theorem nodup_folded (h : Books adds index) (hpos : ∀ a ∈ adds, 1 ≤ a.2) (t : String) :
    ((index.getPostings t).map Posting.folded).Nodup := by
  rw [List.Nodup, List.pairwise_map]
  apply (index.pairwise_getPostings t).imp_of_mem
  intro p q hp hq hlt hsame
  rw [h.document_eq_of_foldCase_eq hpos hp hq (congrArg Posting.document hsame)] at hlt
  exact String.lt_irrefl _ hlt

/-- In another order of the adds a term has the same postings up to spelling. -/
theorem folded_perm (h : Books adds index) (hpos : ∀ a ∈ adds, 1 ≤ a.2) (h' : Books adds' index')
    (hpos' : ∀ a ∈ adds', 1 ≤ a.2) (hperm : adds.Perm adds') (t : String) :
    ((index.getPostings t).map Posting.folded).Perm
      ((index'.getPostings t).map Posting.folded) := by
  apply (List.perm_ext_iff_of_nodup (h.nodup_folded hpos t) (h'.nodup_folded hpos' t)).mpr
  intro p
  rw [h.mem_folded_iff hpos, h'.mem_folded_iff hpos']
  simp only [occurrenceCount_of_perm hperm]

/-- In another order of the adds the index is the same but for spelling. -/
theorem sameButSpelling (h : Books adds index) (hpos : ∀ a ∈ adds, 1 ≤ a.2)
    (h' : Books adds' index') (hpos' : ∀ a ∈ adds', 1 ≤ a.2) (hperm : adds.Perm adds') :
    index.SameButSpelling index' where
  terms := by
    apply (List.perm_ext_iff_of_nodup index.postings.nodup index'.postings.nodup).mpr
    intro t
    exact (mem_terms_of_perm h h' hperm).symm
  frequency t d := by
    have hcount := h.frequency_eq t d
    rw [← occurrenceCount_of_perm hperm, ← h'.frequency_eq] at hcount
    exact Int.ofNat.inj hcount
  vocabularySize := by
    rw [(h.tally hpos).vocabularySize, (h'.tally hpos').vocabularySize,
      List.toFinset_eq_of_perm _ _ (hperm.map _)]
  documentCount := by
    rw [(h.tally hpos).documentCount, (h'.tally hpos').documentCount,
      List.toFinset_eq_of_perm _ _ (hperm.map _)]
  totalPostings := by
    rw [h.pairs, h'.pairs, List.toFinset_eq_of_perm _ _ (hperm.map _)]
  totalTokenCount := by
    have htokens := h.tokens
    rw [(hperm.map Prod.snd).sum_eq, ← h'.tokens] at htokens
    exact Int.ofNat.inj htokens
  listing := by
    unfold InvertedIndex.listing
    rw [mergeSort_terms_eq fun t => mem_terms_of_perm h h' hperm]
    rw [List.forall₂_map_left_iff, List.forall₂_map_right_iff, List.forall₂_same]
    intro t _
    exact ⟨rfl, h.folded_perm hpos h' hpos' hperm t⟩

end Books

/-- Which calls are accepted does not depend on their order. -/
theorem accepted_perm {calls calls' : List CountedAdd} (h : calls.Perm calls') :
    (accepted calls).Perm (accepted calls') :=
  h.filter _

/-- Indexes with the same listing are saved as the same text. -/
theorem toText_of_listing_eq {index index' : InvertedIndex} (h : index.listing = index'.listing)
    (format : StoreFormat) : index.toText format = index'.toText format := by
  unfold toText toJson
  rw [h]

/-- The presences of indexes that differ in spelling only differ in spelling only. -/
theorem SameButSpelling.presence {index index' : InvertedIndex} (h : index.SameButSpelling index') :
    index.presence.SameButSpelling index'.presence where
  terms := by
    rw [terms_presence, terms_presence]
    exact h.terms
  vocabularySize := by
    have hsize : ∀ index : InvertedIndex, index.presence.vocabularySize = index.vocabularySize :=
      fun _ => OrderedMap.size_mapValues _ _
    rw [hsize, hsize, h.vocabularySize]
  documentCount := h.documentCount
  nonZeroEntries := by rw [nonZeroEntries_presence, nonZeroEntries_presence, h.totalPostings]
  listing := by
    have hdocuments : ∀ postings : List Posting, (postings.map Posting.document).map foldCase =
        (postings.map Posting.folded).map Posting.document := by
      intro postings
      rw [List.map_map, List.map_map]
      rfl
    rw [listing_presence, listing_presence, List.forall₂_map_left_iff, List.forall₂_map_right_iff]
    apply h.listing.imp
    rintro ⟨t, postings⟩ ⟨t', postings'⟩ ⟨hterm, hpostings⟩
    refine ⟨hterm, ?_⟩
    rw [hdocuments, hdocuments]
    exact hpostings.map Posting.document

end InvertedIndex

namespace IncidenceMatrix

/-- Which calls are accepted does not depend on their order. -/
theorem accepted_perm {calls calls' : List Occurrence} (h : calls.Perm calls') :
    (accepted calls).Perm (accepted calls') :=
  h.filter _

/-- Matrices with the same listing are saved as the same text. -/
theorem toText_of_listing_eq {matrix matrix' : IncidenceMatrix}
    (h : matrix.listing = matrix'.listing) (format : StoreFormat) :
    matrix.toText format = matrix'.toText format := by
  unfold toText toJson
  rw [h]

end IncidenceMatrix

/-! ## Calls in another order -/

/-- Calls that come to an index in another order leave one that differs at most in the spellings of
documents. If no two accepted calls spell a document differently, both indexes have the same listing
and are saved as the same text in either format. The same holds of a matrix. -/
theorem stores_forget_order_of_calls :
    (∀ calls calls' : List CountedAdd, calls.Perm calls' →
      (InvertedIndex.afterCalls calls).SameButSpelling (.afterCalls calls') ∧
        (SpelledAlike ((InvertedIndex.accepted calls).map Prod.fst) →
          (InvertedIndex.afterCalls calls).listing = (InvertedIndex.afterCalls calls').listing ∧
            ∀ format, (InvertedIndex.afterCalls calls).toText format =
              (InvertedIndex.afterCalls calls').toText format)) ∧
    ∀ calls calls' : List Occurrence, calls.Perm calls' →
      (IncidenceMatrix.afterCalls calls).SameButSpelling (.afterCalls calls') ∧
        (SpelledAlike (IncidenceMatrix.accepted calls) →
          (IncidenceMatrix.afterCalls calls).listing = (IncidenceMatrix.afterCalls calls').listing ∧
            ∀ format, (IncidenceMatrix.afterCalls calls).toText format =
              (IncidenceMatrix.afterCalls calls').toText format) := by
  constructor
  · intro calls calls' hcalls
    obtain ⟨h, hpos⟩ := InvertedIndex.books_addAll (InvertedIndex.addAll_accepted_empty calls)
    obtain ⟨h', hpos'⟩ := InvertedIndex.books_addAll (InvertedIndex.addAll_accepted_empty calls')
    have hperm := InvertedIndex.accepted_perm hcalls
    refine ⟨h.sameButSpelling hpos h' hpos' hperm, fun halike => ?_⟩
    have hrestores := h.restores_copy hpos h' hpos' (sameNames_of_perm hperm halike)
      (occurrenceCount_of_perm hperm)
    have hlisting := hrestores.listing.symm
    exact ⟨hlisting, InvertedIndex.toText_of_listing_eq hlisting⟩
  · intro calls calls' hcalls
    have hperm := IncidenceMatrix.accepted_perm hcalls
    have hperm' := hperm.map CountedAdd.once
    have h := IncidenceMatrix.books_counting calls
    have h' := IncidenceMatrix.books_counting calls'
    rw [IncidenceMatrix.afterCalls_eq_presence_counting,
      IncidenceMatrix.afterCalls_eq_presence_counting]
    have hsame := h.sameButSpelling CountedAdd.one_le_of_mem_once h' CountedAdd.one_le_of_mem_once
      hperm'
    refine ⟨hsame.presence, fun halike => ?_⟩
    rw [← CountedAdd.map_fst_once (IncidenceMatrix.accepted calls)] at halike
    have hlisting := (h.restores_presence h' (sameNames_of_perm hperm' halike)).listing.symm
    exact ⟨hlisting, IncidenceMatrix.toText_of_listing_eq hlisting⟩

/-- Calls with repeated pairs, terms in different case and a refused call, in two orders. In the same two
orders, but with a document in different case, each order lists the document as it came first. -/
theorem stores_forget_order_of_calls_swapped :
    let calls : List CountedAdd :=
      [(⟨"Cat", "b.txt"⟩, 2), (⟨"dog", "A.txt"⟩, 1), (⟨"CAT", "a.TXT"⟩, 0), (⟨"CAT", "b.txt"⟩, 3)]
    let calls' : List CountedAdd :=
      [(⟨"CAT", "b.txt"⟩, 3), (⟨"CAT", "a.TXT"⟩, 0), (⟨"dog", "A.txt"⟩, 1), (⟨"Cat", "b.txt"⟩, 2)]
    (calls.Perm calls' ∧ SpelledAlike ((InvertedIndex.accepted calls).map Prod.fst) ∧
      (InvertedIndex.afterCalls calls).SameButSpelling (.afterCalls calls') ∧
      (InvertedIndex.afterCalls calls).toText .lines =
        (InvertedIndex.afterCalls calls').toText .lines) ∧
    (calls.map Prod.fst).Perm (calls'.map Prod.fst) ∧
      (IncidenceMatrix.afterCalls (calls.map Prod.fst)).SameButSpelling
        (.afterCalls (calls'.map Prod.fst)) ∧
      (IncidenceMatrix.afterCalls (calls.map Prod.fst)).allDocuments.toList = ["A.txt", "b.txt"] ∧
      (IncidenceMatrix.afterCalls (calls'.map Prod.fst)).allDocuments.toList =
        ["a.TXT", "b.txt"] := by
  intro calls calls'
  obtain ⟨hindex, hmatrix⟩ := stores_forget_order_of_calls
  have hperm : calls.Perm calls' := by
    have hreverse : calls' = calls.reverse := rfl
    rw [hreverse]
    exact calls.reverse_perm.symm
  have halike : SpelledAlike ((InvertedIndex.accepted calls).map Prod.fst) := by decide +kernel
  obtain ⟨hsame, htexts⟩ := hindex calls calls' hperm
  have hperm' := hperm.map Prod.fst
  exact ⟨⟨hperm, halike, hsame, (htexts halike).2 .lines⟩, hperm', (hmatrix _ _ hperm').1,
    by decide +kernel, by decide +kernel⟩

end BooleanRetrieval
