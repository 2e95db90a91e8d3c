import BooleanRetrieval.Console.Dialogue
import BooleanRetrieval.Proofs.Search.Provenance
import BooleanRetrieval.Proofs.Store.Refill

/-!
# The list of hits

The documents that a query has in a collection are shown in the order of the case foldings of their ids. A
list in a strict order is fixed by its members (`eq_of_increasing`), so that it makes no difference in which
order the documents come to be sorted, as long as no two of them have the same folding. That is what a
collection makes sure of: it knows a document under one spelling only (`FilledBy.injOn_foldCase`), and an
answer has only documents that the collection knows (`Query.mem_documents`).
-/

set_option autoImplicit false

namespace BooleanRetrieval

open Text (foldCase)

/-- A list goes through the members of a set: each stands in it once, in whatever order. -/
structure DocSet.ListedBy (documents : DocSet) (order : List String) : Prop where
  nodup : order.Nodup
  mem_iff : ∀ d, d ∈ order ↔ d ∈ documents

/-- A set is listed by its own list. -/
theorem DocSet.listedBy_toList (documents : DocSet) : documents.ListedBy documents.toList :=
  ⟨documents.nodup_toList, fun _ => Iff.rfl⟩

/-- Two lists that go through a set have the same length. -/
theorem DocSet.ListedBy.length_eq {documents : DocSet} {order : List String}
    (h : documents.ListedBy order) : order.length = documents.size :=
  ((List.perm_ext_iff_of_nodup h.nodup documents.nodup_toList).mpr h.mem_iff).length_eq

namespace Dialogue

/-- Documents sorted by the case foldings of their ids. Those with equal foldings would stay as they
came. -/
def sorted (order : List String) : List String :=
  order.mergeSort fun a b => decide (foldCase a ≤ foldCase b)

/-- The lines for a list of documents: how many there are, and a line for each. -/
def listing (clock : Clock) (label : String) (shown : List String) : List String :=
  let time := " (" ++ clock.queryMillis ++ " ms)"
  ["", "  Results from the " ++ label ++ ":"] ++
    if shown = [] then ["    No documents found" ++ time ++ "."]
    else
      ("    Found " ++ toString shown.length ++ " documents" ++ time ++ ":")
        :: shown.map ("      - " ++ ·)

/-- Sorting keeps a list of the members one. -/
theorem listedBy_sorted {documents : DocSet} {order : List String} (h : documents.ListedBy order) :
    documents.ListedBy (sorted order) := by
  have hperm := List.mergeSort_perm order fun a b => decide (foldCase a ≤ foldCase b)
  exact ⟨hperm.nodup_iff.mpr h.nodup, fun d => hperm.mem_iff.trans (h.mem_iff d)⟩

/-- What a set is shown as has the length of the set. -/
theorem hitLines_eq_listing (clock : Clock) (label : String) (documents : DocSet) :
    hitLines clock label documents = listing clock label (shownOrder documents) := by
  have hlength : (shownOrder documents).length = documents.size :=
    (listedBy_sorted documents.listedBy_toList).length_eq
  unfold hitLines listing
  dsimp only
  by_cases hempty : documents.isEmpty = true
  · have hnone : shownOrder documents = [] := by
      rw [← List.length_eq_zero_iff, hlength]
      exact List.length_eq_zero_iff.mpr (List.isEmpty_iff.mp hempty)
    rw [if_pos hempty, if_pos hnone]
  · have hsome : shownOrder documents ≠ [] := by
      intro hnil
      rw [hnil] at hlength
      exact hempty (List.isEmpty_iff.mpr (List.length_eq_zero_iff.mp hlength.symm))
    rw [if_neg hempty, if_neg hsome, hlength, List.append_assoc]
    rfl

/-- The documents of a set in which case foldings tell them apart are sorted into strict order. -/
theorem pairwise_sorted {documents : DocSet}
    (hinj : ∀ d ∈ documents, ∀ e ∈ documents, foldCase d = foldCase e → d = e) {order : List String}
    (h : documents.ListedBy order) : (sorted order).Pairwise fun d e => foldCase d < foldCase e := by
  apply pairwise_lt_mergeSort
  refine h.nodup.map_on fun d hd e he => ?_
  exact hinj d ((h.mem_iff d).mp hd) e ((h.mem_iff e).mp he)

/-- In whatever order such documents come, they are sorted into the same list. -/
theorem sorted_eq_shownOrder {documents : DocSet}
    (hinj : ∀ d ∈ documents, ∀ e ∈ documents, foldCase d = foldCase e → d = e) {order : List String}
    (h : documents.ListedBy order) : sorted order = shownOrder documents := by
  have hcanonical := documents.listedBy_toList
  refine eq_of_increasing foldCase (pairwise_sorted hinj h) (pairwise_sorted hinj hcanonical) fun d => ?_
  exact ((listedBy_sorted h).mem_iff d).trans ((listedBy_sorted hcanonical).mem_iff d).symm

/-- Whatever the history of a store, the documents that a query has in it are told apart by the case
foldings of their ids. So what is shown has each of them once, in the strict order of the foldings, and is
the same in whatever order the documents come; their number is that of the lines below it. -/
theorem hits_are_shown_once_in_order {accessor : Accessor} (h : accessor.Reachable) {q : Query}
    (hq : q.Proper) :
    ∃ found, (Search.execute (some accessor) (some q)).result = .ok found ∧
      (∀ d ∈ found, ∀ e ∈ found, foldCase d = foldCase e → d = e) ∧
      ∃ shown, found.ListedBy shown ∧ shown.Pairwise (fun d e => foldCase d < foldCase e) ∧
        (∀ order, found.ListedBy order → sorted order = shown) ∧
        ∀ clock label, answerLines clock q ⟨label, accessor⟩ = listing clock label shown := by
  obtain ⟨adds, hfilled⟩ := h.exists_filledBy
  have hresult : (Search.execute (some accessor) (some q)).result = .ok (q.documents accessor) := by
    change (Machine.answer accessor q).result = _
    rw [Machine.answer_eq, Query.result_eq_documents accessor hq]
  have hknown : ∀ d ∈ q.documents accessor, d ∈ accessor.allDocuments := fun d hd =>
    ((Query.mem_documents hfilled.covered q d).mp hd).1
  have hinj : ∀ d ∈ q.documents accessor, ∀ e ∈ q.documents accessor, foldCase d = foldCase e → d = e :=
    fun d hd e he => hfilled.injOn_foldCase (hknown d hd) (hknown e he)
  have hcanonical := (q.documents accessor).listedBy_toList
  refine ⟨q.documents accessor, hresult, hinj, shownOrder (q.documents accessor),
    listedBy_sorted hcanonical, pairwise_sorted hinj hcanonical,
    fun order => sorted_eq_shownOrder hinj, fun clock label => ?_⟩
  unfold answerLines
  rw [hresult]
  exact hitLines_eq_listing clock label _

/-- Two ids in two spellings each. What comes first by code points is shown last. -/
theorem hits_are_shown_once_in_order_spellings :
    let index := InvertedIndex.afterCalls
      [(⟨"cat", "b.txt"⟩, 1), (⟨"dog", "B.TXT"⟩, 2), (⟨"bird", "C.txt"⟩, 1), (⟨"cat", "C.TXT"⟩, 1)]
    let q : Query := .not (.and (.term "dog") (.term "bird"))
    index.accessor.Reachable ∧ q.Proper ∧
      ∃ found, (Search.execute (some index.accessor) (some q)).result = .ok found ∧
        found.toList = ["C.txt", "b.txt"] ∧
        answerLines ⟨"", "", "", "", "0.1"⟩ q ⟨"inverted index", index.accessor⟩ =
          ["", "  Results from the inverted index:", "    Found 2 documents (0.1 ms):",
            "      - b.txt", "      - C.txt"] := by
  intro index q
  have hreachable : index.accessor.Reachable := .index (InvertedIndex.reachable_afterCalls _)
  have hq : q.Proper := ⟨trivial, trivial⟩
  obtain ⟨found, hresult, -, shown, hlisted, hpairwise, -, hlines⟩ :=
    hits_are_shown_once_in_order hreachable hq
  have hfound : found.toList = ["C.txt", "b.txt"] := by
    have hanswer : (Search.execute (some index.accessor) (some q)).result.toOption.map DocSet.toList =
        some ["C.txt", "b.txt"] := by
      decide +kernel
    rw [hresult] at hanswer
    exact Option.some.inj hanswer
  have hshown : shown = ["b.txt", "C.txt"] := by
    refine eq_of_increasing foldCase hpairwise (by decide +kernel) fun d => ?_
    rw [hlisted.mem_iff, DocSet.mem_iff, hfound]
    simp [or_comm]
  refine ⟨hreachable, hq, found, hresult, hfound, ?_⟩
  rw [hlines, hshown]
  decide +kernel

end Dialogue

end BooleanRetrieval
