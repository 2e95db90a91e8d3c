import BooleanRetrieval.Proofs.Store.Presence
import BooleanRetrieval.Proofs.Store.Tally

/-!
# Filling a store again from its listing

A store that is filled with what another one lists cannot be told from it, although it gets the pairs
in the order of the listing and not in the order in which the other one got them. Two stores cannot be
told apart if their adds have the same names (`SameNames`), and adds that name the pairs of the listing
have those of the adds that it came from (`NamesPairs`): listed terms are folded already, and listed
documents are first spellings already. For an index the counts must be right, too: the listing names
each pair once (`nodup_pairs_refill`), with the sum of its counts.
-/

set_option autoImplicit false

namespace BooleanRetrieval

open Text (foldCase foldCase_foldCase isBlankText isBlankText_foldCase_eq)

/-- Two indexes that no listing, no set of all documents and no search tells apart. -/
structure InvertedIndex.Restores (copy index : InvertedIndex) : Prop where
  listing : copy.listing = index.listing
  allDocuments : copy.allDocuments = index.allDocuments
  search : ∀ normalize query,
    Search.run normalize copy.accessor query = Search.run normalize index.accessor query

/-- Two matrices that no listing, no set of all documents and no search tells apart. -/
structure IncidenceMatrix.Restores (copy matrix : IncidenceMatrix) : Prop where
  listing : copy.listing = matrix.listing
  allDocuments : copy.allDocuments = matrix.allDocuments
  search : ∀ normalize query,
    Search.run normalize copy.accessor query = Search.run normalize matrix.accessor query

/-- The pairs of adds are those of an index: its terms, each with its documents. -/
def NamesPairs (adds : List CountedAdd) (index : InvertedIndex) : Prop :=
  ∀ t d, ⟨t, d⟩ ∈ adds.map Prod.fst ↔ t ∈ index.terms ∧ d ∈ index.documentsForTerm t

/-- Adds that leave the first spellings of others and name the same terms in the same documents, in
whatever order and with whatever counts. -/
structure SameNames (adds again : List CountedAdd) : Prop where
  spelling : ∀ d, firstSpelling (again.map Prod.fst) d = firstSpelling (adds.map Prod.fst) d
  occurs : ∀ t d, Occurs (again.map Prod.fst) t d ↔ Occurs (adds.map Prod.fst) t d

namespace InvertedIndex.Books

section

variable {adds : List CountedAdd} {index : InvertedIndex}

/-- The terms of an index are stored folded. -/
theorem foldCase_of_mem_terms (h : Books adds index) {t : String} (ht : t ∈ index.terms) :
    foldCase t = t := by
  obtain ⟨a, -, rfl⟩ := h.mem_terms.mp ht
  exact foldCase_foldCase a.1.term

/-- A document in which a term occurs is a document of the term under its first spelling. -/
theorem exists_mem_documentsForTerm (h : Books adds index) {t d : String}
    (hoccurs : Occurs (adds.map Prod.fst) t d) :
    ∃ s, firstSpelling (adds.map Prod.fst) d = some s ∧ s ∈ index.documentsForTerm t := by
  obtain ⟨s, hs⟩ := hoccurs.exists_firstSpelling
  have hfold : foldCase s = foldCase d := foldCase_of_firstSpelling hs
  obtain ⟨a, ha, hterm, hdocument⟩ := hoccurs
  refine ⟨s, hs, (h.records.documents t s).mpr ⟨?_, a, ha, hterm, hdocument.trans hfold.symm⟩⟩
  rw [firstSpelling_congr hfold, hs]

/-- A term that occurs is among the terms, folded. -/
theorem foldCase_mem_terms (h : Books adds index) {t d : String}
    (hoccurs : Occurs (adds.map Prod.fst) t d) : foldCase t ∈ index.terms := by
  obtain ⟨a, ha, hpair⟩ := occurs_iff_pair.mp hoccurs
  exact h.mem_terms.mpr ⟨a, ha, congrArg Prod.fst hpair⟩

/-- The terms of an index are the folded terms that occur in some document. -/
theorem mem_terms_iff (h : Books adds index) {t : String} :
    t ∈ index.terms ↔ foldCase t = t ∧ ∃ d, Occurs (adds.map Prod.fst) t d := by
  constructor
  · intro ht
    have hfold := h.foldCase_of_mem_terms ht
    obtain ⟨a, ha, hkey⟩ := h.mem_terms.mp ht
    refine ⟨hfold, a.1.document, a.1, List.mem_map_of_mem ha, ?_, rfl⟩
    rw [hfold]
    exact hkey
  · rintro ⟨hfold, d, hoccurs⟩
    rw [← hfold]
    exact h.foldCase_mem_terms hoccurs

/-- The documents of a term do not depend on its letter case. -/
theorem documentsForTerm_foldCase (index : InvertedIndex) (t : String) :
    index.documentsForTerm (foldCase t) = index.documentsForTerm t := by
  unfold documentsForTerm postingsOf
  rw [foldCase_foldCase]

end

/-! ## The same names -/

section

variable {adds again : List CountedAdd} {index copy : InvertedIndex}

/-- A copy has the terms of the index. -/
theorem mem_terms_copy (h : Books adds index) (hcopy : Books again copy)
    (hsame : SameNames adds again) {t : String} : t ∈ copy.terms ↔ t ∈ index.terms := by
  rw [hcopy.mem_terms_iff, h.mem_terms_iff]
  simp only [hsame.occurs]

/-- A copy has the documents of each term. -/
theorem documentsForTerm_copy (h : Books adds index) (hcopy : Books again copy)
    (hsame : SameNames adds again) (t : String) :
    copy.documentsForTerm t = index.documentsForTerm t := by
  apply DocSet.ext_mem
  intro d
  rw [hcopy.records.documents, h.records.documents, hsame.spelling, hsame.occurs]

/-- A copy has the documents of the index. -/
theorem allDocuments_copy (h : Books adds index) (hcopy : Books again copy)
    (hsame : SameNames adds again) : copy.allDocuments = index.allDocuments := by
  apply DocSet.ext_mem
  intro d
  have hd : d ∈ copy.allDocuments ↔ firstSpelling (again.map Prod.fst) d = some d :=
    hcopy.records.mem_documents d
  rw [hd, hsame.spelling]
  exact (h.records.mem_documents d).symm

/-- A copy answers as the index does. -/
theorem accessor_copy (h : Books adds index) (hcopy : Books again copy)
    (hsame : SameNames adds again) : copy.accessor = index.accessor := by
  unfold accessor
  rw [funext (documentsForTerm_copy h hcopy hsame), allDocuments_copy h hcopy hsame]

/-- Terms with the same members are listed in the same order. -/
theorem mergeSort_terms_eq (hterms : ∀ t, t ∈ copy.terms ↔ t ∈ index.terms) :
    (copy.terms.mergeSort fun s t => decide (s ≤ t)) =
      index.terms.mergeSort fun s t => decide (s ≤ t) := by
  have hsorted : ∀ index : InvertedIndex,
      (index.terms.mergeSort fun s t => decide (s ≤ t)).Pairwise (· < ·) := by
    intro index
    apply pairwise_lt_mergeSort
    rw [List.map_id']
    exact index.postings.nodup
  apply eq_of_increasing id (hsorted copy) (hsorted index)
  intro t
  rw [List.mem_mergeSort, List.mem_mergeSort]
  exact hterms t

/-- Where the counts are the same, too, the postings are. -/
theorem getPostings_copy (h : Books adds index) (hpos : ∀ a ∈ adds, 1 ≤ a.2)
    (hcopy : Books again copy) (hpos' : ∀ a ∈ again, 1 ≤ a.2) (hsame : SameNames adds again)
    (hcounts : ∀ t d, occurrenceCount again t d = occurrenceCount adds t d) (t : String) :
    copy.getPostings t = index.getPostings t := by
  have hmem : ∀ p, p ∈ copy.getPostings t ↔ p ∈ index.getPostings t := by
    intro p
    have hcopied := hcopy.frequency_eq t p.document
    have hkept := h.frequency_eq t p.document
    have hfrequency : copy.frequency t p.document = index.frequency t p.document := by
      rw [hcounts] at hcopied
      omega
    rw [hcopy.mem_getPostings_iff hpos', h.mem_getPostings_iff hpos, hsame.spelling, hfrequency]
  exact eq_of_increasing Posting.document (copy.pairwise_getPostings t)
    (index.pairwise_getPostings t) hmem

/-- An index whose adds name the same documents with the same counts restores the original. -/
theorem restores_copy (h : Books adds index) (hpos : ∀ a ∈ adds, 1 ≤ a.2)
    (hcopy : Books again copy) (hpos' : ∀ a ∈ again, 1 ≤ a.2) (hsame : SameNames adds again)
    (hcounts : ∀ t d, occurrenceCount again t d = occurrenceCount adds t d) :
    copy.Restores index where
  listing := by
    unfold InvertedIndex.listing
    rw [mergeSort_terms_eq fun t => mem_terms_copy h hcopy hsame]
    apply List.map_congr_left
    intro t _
    rw [getPostings_copy h hpos hcopy hpos' hsame hcounts]
  allDocuments := allDocuments_copy h hcopy hsame
  search normalize query := by rw [accessor_copy h hcopy hsame]

/-! ## The pairs of an index -/

/-- In a refill of the postings the pairs that occur are those of the index. -/
theorem occurs_copy (h : Books adds index) (hpairs : NamesPairs again index) {t d : String} :
    Occurs (again.map Prod.fst) t d ↔ Occurs (adds.map Prod.fst) t d := by
  constructor
  · rintro ⟨⟨u, s⟩, ho, hterm, hdocument⟩
    obtain ⟨-, hs⟩ := (hpairs u s).mp ho
    obtain ⟨-, a, ha, hterm', hdocument'⟩ := (h.records.documents u s).mp hs
    exact ⟨a, ha, hterm'.trans hterm, hdocument'.trans hdocument⟩
  · intro hoccurs
    obtain ⟨s, hs, hmem⟩ := h.exists_mem_documentsForTerm hoccurs
    rw [← documentsForTerm_foldCase] at hmem
    refine ⟨⟨foldCase t, s⟩, (hpairs _ _).mpr ⟨h.foldCase_mem_terms hoccurs, hmem⟩, ?_, ?_⟩
    · exact foldCase_foldCase t
    · exact foldCase_of_firstSpelling hs

/-- Listed documents are first spellings, so that they are the first spellings again. -/
theorem firstSpelling_copy (h : Books adds index) (hpairs : NamesPairs again index) (d : String) :
    firstSpelling (again.map Prod.fst) d = firstSpelling (adds.map Prod.fst) d := by
  cases hs : firstSpelling (again.map Prod.fst) d with
  | some s =>
    obtain ⟨⟨u, s'⟩, ho, rfl⟩ := exists_mem_of_firstSpelling hs
    obtain ⟨-, hmem⟩ := (hpairs u s').mp ho
    obtain ⟨hfirst, -⟩ := (h.records.documents u s').mp hmem
    rw [← firstSpelling_congr (foldCase_of_firstSpelling hs), hfirst]
  | none =>
    cases hd : firstSpelling (adds.map Prod.fst) d with
    | none => rfl
    | some s =>
      obtain ⟨o, ho, rfl⟩ := List.mem_map.mp (List.mem_of_find?_eq_some hd)
      have hoccurs : Occurs (adds.map Prod.fst) o.term d :=
        ⟨o, ho, rfl, foldCase_of_firstSpelling hd⟩
      obtain ⟨s, hs'⟩ := ((occurs_copy h hpairs).mpr hoccurs).exists_firstSpelling
      rw [hs] at hs'
      cases hs'

/-- Adds for the pairs of an index have the names of its adds. -/
theorem sameNames_of_namesPairs (h : Books adds index) (hpairs : NamesPairs again index) :
    SameNames adds again where
  spelling := firstSpelling_copy h hpairs
  occurs _ _ := occurs_copy h hpairs

end

end InvertedIndex.Books

/-! ## The listing of an index -/

namespace InvertedIndex

/-- The adds that make the postings of a term. -/
def addsFor (t : String) (postings : List Posting) : List CountedAdd :=
  postings.map fun p => (⟨t, p.document⟩, (p.frequency : Int))

/-- The adds that make the postings of a listing, in its order. -/
def addsOf (listing : List (String × List Posting)) : List CountedAdd :=
  listing.flatMap fun (t, postings) => addsFor t postings

/-- The adds that make the postings of an index again, in the order of its listing. -/
def refill (index : InvertedIndex) : List CountedAdd :=
  addsOf index.listing

/-- The refill of an index holds one counted add for each posting. -/
theorem mem_refill {index : InvertedIndex} {a : CountedAdd} :
    a ∈ index.refill ↔ a.1.term ∈ index.terms ∧
      ∃ p ∈ index.getPostings a.1.term, a.1.document = p.document ∧ a.2 = p.frequency := by
  unfold refill addsOf
  rw [List.mem_flatMap]
  constructor
  · rintro ⟨⟨t, postings⟩, hlisted, ha⟩
    obtain ⟨ht, rfl⟩ := mem_listing.mp hlisted
    obtain ⟨p, hp, rfl⟩ := List.mem_map.mp ha
    exact ⟨ht, p, hp, rfl, rfl⟩
  · rintro ⟨ht, p, hp, hdocument, hcount⟩
    refine ⟨(a.1.term, index.getPostings a.1.term), mem_listing.mpr ⟨ht, rfl⟩, ?_⟩
    exact List.mem_map.mpr ⟨p, hp, by rw [← hdocument, ← hcount]⟩

/-- The refill of an index names the pairs of the index. -/
theorem namesPairs_refill (index : InvertedIndex) : NamesPairs index.refill index := by
  intro t d
  rw [mem_documentsForTerm_iff_getPostings, List.mem_map]
  constructor
  · rintro ⟨a, ha, hpair⟩
    obtain ⟨ht, p, hp, hdocument, -⟩ := mem_refill.mp ha
    rw [hpair] at ht hp hdocument
    exact ⟨ht, p, hp, hdocument.symm⟩
  · rintro ⟨ht, p, hp, rfl⟩
    exact ⟨(⟨t, p.document⟩, p.frequency), mem_refill.mpr ⟨ht, p, hp, rfl, rfl⟩, rfl⟩

namespace Books

variable {adds : List CountedAdd} {index : InvertedIndex}

/-- The counts of a refill are at least one. -/
theorem one_le_of_mem_refill (h : Books adds index) (hpos : ∀ a ∈ adds, 1 ≤ a.2) {a : CountedAdd}
    (ha : a ∈ index.refill) : 1 ≤ a.2 := by
  obtain ⟨-, p, hp, -, hcount⟩ := mem_refill.mp ha
  obtain ⟨-, -, hpositive⟩ := (h.mem_getPostings_iff hpos).mp hp
  omega

/-- No two postings of an index spell one document differently. -/
theorem document_eq_of_foldCase_eq (h : Books adds index) (hpos : ∀ a ∈ adds, 1 ≤ a.2)
    {t u : String} {p q : Posting} (hp : p ∈ index.getPostings t) (hq : q ∈ index.getPostings u)
    (hfold : foldCase p.document = foldCase q.document) : p.document = q.document := by
  obtain ⟨hfirst, -⟩ := (h.mem_getPostings_iff hpos).mp hp
  obtain ⟨hfirst', -⟩ := (h.mem_getPostings_iff hpos).mp hq
  rw [firstSpelling_congr hfold, hfirst'] at hfirst
  exact (Option.some.inj hfirst).symm

/-- No two postings of an index are for the same term and document, however these are spelled. -/
theorem nodup_pairs_refill (h : Books adds index) (hpos : ∀ a ∈ adds, 1 ≤ a.2) :
    (index.refill.map CountedAdd.pair).Nodup := by
  unfold refill addsOf
  rw [List.Nodup, List.pairwise_map, List.pairwise_flatMap]
  constructor
  · rintro ⟨t, postings⟩ hlisted
    obtain ⟨-, rfl⟩ := mem_listing.mp hlisted
    unfold addsFor
    rw [List.pairwise_map]
    apply (index.pairwise_getPostings t).imp_of_mem
    intro p q hp hq hlt hsame
    rw [h.document_eq_of_foldCase_eq hpos hp hq (congrArg Prod.snd hsame)] at hlt
    exact String.lt_irrefl _ hlt
  · have hkeys := List.pairwise_map.mp index.pairwise_keys_listing
    apply hkeys.imp_of_mem
    rintro ⟨t, postings⟩ ⟨u, postings'⟩ ht hu hlt a ha b hb hsame
    obtain ⟨p, -, rfl⟩ := List.mem_map.mp ha
    obtain ⟨q, -, rfl⟩ := List.mem_map.mp hb
    have hfold : foldCase t = foldCase u := congrArg Prod.fst hsame
    rw [h.foldCase_of_mem_terms (mem_listing.mp ht).1,
      h.foldCase_of_mem_terms (mem_listing.mp hu).1] at hfold
    subst hfold
    exact String.lt_irrefl _ hlt

end Books

end InvertedIndex

/-- Among adds for distinct pairs, the count of an occurrence is that of its add. -/
theorem occurrenceCount_of_mem {adds : List CountedAdd} (hnodup : (adds.map CountedAdd.pair).Nodup)
    {a : CountedAdd} (ha : a ∈ adds) {t d : String} (hpair : a.pair = (foldCase t, foldCase d)) :
    occurrenceCount adds t d = a.2 := by
  have hsingle : adds.filter (fun b => b.pair = (foldCase t, foldCase d)) = [a] := by
    induction adds with
    | nil => exact absurd ha List.not_mem_nil
    | cons b adds ih =>
      obtain ⟨hnew, hrest⟩ := List.nodup_cons.mp hnodup
      rcases List.mem_cons.mp ha with rfl | ha
      · have hnone : adds.filter (fun b => b.pair = (foldCase t, foldCase d)) = [] := by
          apply List.filter_eq_nil_iff.mpr
          intro b hb hsame
          exact hnew (List.mem_map.mpr ⟨b, hb, by simpa [hpair] using hsame⟩)
        rw [List.filter_cons_of_pos (by simpa using hpair), hnone]
      · have hother : b.pair ≠ (foldCase t, foldCase d) := by
          intro hsame
          exact hnew (List.mem_map.mpr ⟨a, ha, hpair.trans hsame.symm⟩)
        rw [List.filter_cons_of_neg (by simpa using hother), ih hrest ha]
  unfold occurrenceCount
  rw [hsingle]
  exact List.sum_singleton

namespace InvertedIndex

/-- The listing of an index names each occurrence with the count that the adds give it. -/
theorem Books.occurrenceCount_refill {adds : List CountedAdd} {index : InvertedIndex}
    (h : Books adds index) (hpos : ∀ a ∈ adds, 1 ≤ a.2) (t d : String) :
    occurrenceCount index.refill t d = occurrenceCount adds t d := by
  by_cases hoccurs : Occurs (adds.map Prod.fst) t d
  · obtain ⟨a, ha, hpair⟩ := occurs_iff_pair.mp ((occurs_copy h index.namesPairs_refill).mpr hoccurs)
    obtain ⟨-, p, hp, hdocument, hcount⟩ := mem_refill.mp ha
    obtain ⟨-, hfrequency, -⟩ := (h.mem_getPostings_iff hpos).mp hp
    have hterm : foldCase a.1.term = foldCase t := congrArg Prod.fst hpair
    have hdocument' : foldCase a.1.document = foldCase d := congrArg Prod.snd hpair
    rw [occurrenceCount_of_mem (h.nodup_pairs_refill hpos) ha hpair, hcount, hfrequency,
      h.frequency_eq, ← hdocument, occurrenceCount_congr hterm hdocument']
  · have hnot : ¬ Occurs (index.refill.map Prod.fst) t d := fun hcopied =>
      hoccurs ((occurs_copy h index.namesPairs_refill).mp hcopied)
    rw [occurrenceCount_eq_zero hnot, occurrenceCount_eq_zero hoccurs]

/-- An index that is filled from the listing of another cannot be told from it. -/
theorem restores_refill (calls : List CountedAdd) :
    (afterCalls (afterCalls calls).refill).Restores (afterCalls calls) := by
  obtain ⟨hbooks, hpos⟩ := books_addAll (addAll_accepted_empty calls)
  have hpos' : ∀ a ∈ (afterCalls calls).refill, 1 ≤ a.2 := fun a => hbooks.one_le_of_mem_refill hpos
  have hcopy := books_afterCalls (afterCalls calls).refill
  rw [accepted_of_one_le hpos'] at hcopy
  exact hbooks.restores_copy hpos hcopy hpos'
    (hbooks.sameNames_of_namesPairs (afterCalls calls).namesPairs_refill)
    (hbooks.occurrenceCount_refill hpos)

/-! ## The listing of a matrix -/

/-- The presence of an index has its terms. -/
theorem terms_presence (index : InvertedIndex) : index.presence.terms = index.terms :=
  OrderedMap.keys_mapValues _ _

/-- The matrix of an index lists the documents of the postings that the index lists. -/
theorem listing_presence (index : InvertedIndex) :
    index.presence.listing = index.listing.map fun (t, postings) =>
      (t, postings.map Posting.document) := by
  unfold IncidenceMatrix.listing listing
  rw [terms_presence, List.map_map]
  apply List.map_congr_left
  intro t _
  have hincreasing : ((index.getPostings t).map Posting.document).Pairwise (· < ·) :=
    List.pairwise_map.mpr (index.pairwise_getPostings t)
  refine congrArg (Prod.mk t) ?_
  apply eq_of_increasing id (index.presence.documentsForTerm t).increasing hincreasing
  intro d
  rw [documentsForTerm_presence, List.mem_map]
  exact mem_documentsForTerm_iff_getPostings

/-- The presence of an index and of its copy cannot be told apart, whatever the counts. -/
theorem Books.restores_presence {adds again : List CountedAdd} {index copy : InvertedIndex}
    (h : Books adds index) (hcopy : Books again copy) (hsame : SameNames adds again) :
    copy.presence.Restores index.presence where
  listing := by
    unfold IncidenceMatrix.listing
    rw [terms_presence, terms_presence, mergeSort_terms_eq fun t => mem_terms_copy h hcopy hsame]
    apply List.map_congr_left
    intro t _
    rw [documentsForTerm_presence, documentsForTerm_presence, documentsForTerm_copy h hcopy hsame]
  allDocuments := allDocuments_copy h hcopy hsame
  search normalize query := by
    rw [accessor_presence, accessor_presence, accessor_copy h hcopy hsame]

end InvertedIndex

namespace IncidenceMatrix

/-- The pairs of a matrix in the order of its listing. -/
def refill (matrix : IncidenceMatrix) : List Occurrence :=
  matrix.listing.flatMap fun (t, docs) => docs.map fun d => ⟨t, d⟩

/-- The refill of a matrix holds one occurrence for each non-zero cell. -/
theorem mem_refill {matrix : IncidenceMatrix} {o : Occurrence} :
    o ∈ matrix.refill ↔ o.term ∈ matrix.terms ∧ o.document ∈ matrix.documentsForTerm o.term := by
  unfold refill listing
  rw [List.mem_flatMap]
  constructor
  · rintro ⟨⟨t, docs⟩, hlisted, ho⟩
    obtain ⟨u, hu, heq⟩ := List.mem_map.mp hlisted
    obtain ⟨rfl, rfl⟩ := Prod.mk.inj heq
    obtain ⟨d, hd, rfl⟩ := List.mem_map.mp ho
    exact ⟨List.mem_mergeSort.mp hu, hd⟩
  · rintro ⟨ht, hd⟩
    refine ⟨(o.term, (matrix.documentsForTerm o.term).toList), ?_, ?_⟩
    · exact List.mem_map.mpr ⟨o.term, List.mem_mergeSort.mpr ht, rfl⟩
    · exact List.mem_map.mpr ⟨o.document, hd, rfl⟩

/-- The index of which a run of calls leaves the presence. -/
def counting (calls : List Occurrence) : InvertedIndex :=
  .afterCalls ((accepted calls).map fun o => (o, 1))

/-- A matrix is the presence of the index that counts its accepted calls. -/
theorem afterCalls_eq_presence_counting (calls : List Occurrence) :
    afterCalls calls = (counting calls).presence :=
  afterCalls_eq_presence calls

/-- The counting index keeps the books of the accepted calls. -/
theorem books_counting (calls : List Occurrence) :
    InvertedIndex.Books ((accepted calls).map CountedAdd.once) (counting calls) :=
  InvertedIndex.books_once (accepted calls)

/-- An accepted call has neither a blank term nor a blank document. -/
theorem not_blank_of_mem_accepted {calls : List Occurrence} {o : Occurrence}
    (h : o ∈ accepted calls) : isBlankText o.term = false ∧ isBlankText o.document = false := by
  simpa using List.of_mem_filter h

/-- A matrix lists no blank term, since folding makes no text blank, and no blank document. -/
theorem not_blank_of_mem_refill {calls : List Occurrence} {o : Occurrence}
    (ho : o ∈ (afterCalls calls).refill) :
    isBlankText o.term = false ∧ isBlankText o.document = false := by
  have hbooks := books_counting calls
  rw [mem_refill, afterCalls_eq_presence_counting, InvertedIndex.documentsForTerm_presence,
    InvertedIndex.terms_presence] at ho
  obtain ⟨hterm, hdocument⟩ := ho
  constructor
  · obtain ⟨a, ha, hkey⟩ := hbooks.mem_terms.mp hterm
    obtain ⟨o', ho', rfl⟩ := List.mem_map.mp ha
    rw [← hkey]
    exact (isBlankText_foldCase_eq o'.term).trans (not_blank_of_mem_accepted ho').1
  · obtain ⟨hfirst, -⟩ := (hbooks.records.documents _ _).mp hdocument
    rw [CountedAdd.map_fst_once] at hfirst
    obtain ⟨o', ho', hspelling⟩ := exists_mem_of_firstSpelling hfirst
    rw [← hspelling]
    exact (not_blank_of_mem_accepted ho').2

/-- The refill of a matrix is accepted as a whole. -/
theorem accepted_refill (calls : List Occurrence) :
    accepted (afterCalls calls).refill = (afterCalls calls).refill := by
  apply List.filter_eq_self.mpr
  intro o ho
  obtain ⟨hterm, hdocument⟩ := not_blank_of_mem_refill ho
  simp [hterm, hdocument]

/-- A matrix that is filled from the listing of another cannot be told from it. -/
theorem restores_refill (calls : List Occurrence) :
    (afterCalls (afterCalls calls).refill).Restores (afterCalls calls) := by
  have hpairs : NamesPairs ((afterCalls calls).refill.map CountedAdd.once) (counting calls) := by
    intro t d
    have hmem : (⟨t, d⟩ : Occurrence) ∈ (afterCalls calls).refill ↔
        t ∈ (counting calls).terms ∧ d ∈ (counting calls).documentsForTerm t := by
      rw [mem_refill, afterCalls_eq_presence_counting, InvertedIndex.documentsForTerm_presence,
        InvertedIndex.terms_presence]
    rwa [CountedAdd.map_fst_once]
  have hcopy := books_counting (afterCalls calls).refill
  rw [accepted_refill] at hcopy
  have hbooks := books_counting calls
  have hrestores := hbooks.restores_presence hcopy (hbooks.sameNames_of_namesPairs hpairs)
  rwa [← afterCalls_eq_presence_counting, ← afterCalls_eq_presence_counting] at hrestores

end IncidenceMatrix

end BooleanRetrieval
