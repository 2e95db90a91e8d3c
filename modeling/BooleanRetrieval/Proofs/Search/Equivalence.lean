import BooleanRetrieval.Proofs.Search.Meaning
import BooleanRetrieval.Proofs.Store.Presence

/-!
# Equivalent queries

Two query trees are equivalent if they are as formulas over their terms. Trees with equal answers on all
collections that know the documents of their terms are exactly the equivalent ones: a document makes the
terms true that it has, and any truth of terms is that of the only document of some collection. Whatever
order a conjunction looks at its operands in, and whether it looks at both, makes no difference.
-/

set_option autoImplicit false

namespace BooleanRetrieval

namespace Query

/-- Whichever terms are true, both trees are true or neither is. -/
def Equivalent (q r : Query) : Prop :=
  ∀ isTrue : String → Prop, q.Holds isTrue ↔ r.Holds isTrue

section

variable (a b c : Query)

/-- De Morgan for a negated conjunction. -/
theorem equivalent_not_and : (not (and a b)).Equivalent (or (not a) (not b)) := by
  intro isTrue
  exact not_and_or

/-- De Morgan for a negated disjunction. -/
theorem equivalent_not_or : (not (or a b)).Equivalent (and (not a) (not b)) := by
  intro isTrue
  exact not_or

/-- Two negations cancel. -/
theorem equivalent_not_not : (not (not a)).Equivalent a := by
  intro isTrue
  exact not_not

/-- The order of the operands of a conjunction does not matter. -/
theorem equivalent_and_comm : (and a b).Equivalent (and b a) := by
  intro isTrue
  exact and_comm

/-- A conjunction distributes over a disjunction. -/
theorem equivalent_and_or : (and a (or b c)).Equivalent (or (and a b) (and a c)) := by
  intro isTrue
  exact and_or_left

/-- A disjunction distributes over a conjunction. -/
theorem equivalent_or_and : (or a (and b c)).Equivalent (and (or a b) (or a c)) := by
  intro isTrue
  exact or_and_left

end

/-- Equivalent trees have the same documents on a collection that knows the documents of its terms. -/
theorem Equivalent.documents_eq {q r : Query} (h : q.Equivalent r) {accessor : Accessor}
    (hcovered : accessor.Covered) : q.documents accessor = r.documents accessor := by
  apply DocSet.ext_mem
  intro d
  rw [mem_documents hcovered, mem_documents hcovered, h]

end Query

/-! ## One document -/

namespace Accessor

open Classical in
/-- The collection of one document, which has the terms that are true. -/
noncomputable def ofTruth (isTrue : String → Prop) : Accessor where
  documentsForTerm t := if isTrue t then .ofList [""] else .empty
  allDocuments := .ofList [""]

variable (isTrue : String → Prop)

/-- Under a truth assignment a term finds the one document there is exactly when the assignment makes the term
true. -/
theorem mem_documentsForTerm_ofTruth (t d : String) :
    d ∈ (ofTruth isTrue).documentsForTerm t ↔ d = "" ∧ isTrue t := by
  unfold ofTruth
  by_cases ht : isTrue t <;> simp [ht]

/-- The accessor of a truth assignment finds documents among its own only. -/
theorem covered_ofTruth : (ofTruth isTrue).Covered := by
  intro t d hd
  obtain ⟨rfl, -⟩ := (mem_documentsForTerm_ofTruth isTrue t d).mp hd
  exact DocSet.mem_ofList.mpr (List.mem_singleton_self _)

/-- The document answers a tree exactly if the tree is true. -/
theorem mem_documents_ofTruth (q : Query) :
    "" ∈ q.documents (ofTruth isTrue) ↔ q.Holds isTrue := by
  have hall : "" ∈ (ofTruth isTrue).allDocuments :=
    DocSet.mem_ofList.mpr (List.mem_singleton_self _)
  have hterms : (fun t => "" ∈ (ofTruth isTrue).documentsForTerm t) = isTrue := by
    funext t
    rw [mem_documentsForTerm_ofTruth]
    exact propext (and_iff_right rfl)
  rw [Query.mem_documents (covered_ofTruth isTrue), hterms]
  exact and_iff_right hall

end Accessor

/-! ## Stores after calls -/

/-- An index filled by calls finds documents among its own only. -/
theorem InvertedIndex.covered_afterCalls (calls : List CountedAdd) :
    (afterCalls calls).accessor.Covered :=
  (FilledBy.index (addAll_accepted_empty calls)).covered

/-- A matrix filled by calls finds documents among its own only. -/
theorem IncidenceMatrix.covered_afterCalls (calls : List Occurrence) :
    (afterCalls calls).accessor.Covered := by
  rw [afterCalls_eq_presence, InvertedIndex.accessor_presence]
  exact InvertedIndex.covered_afterCalls _

/-! ## Equal answers -/

/-- Two trees are equivalent exactly if they have the same answer on every collection that knows the
documents of its terms, as a store does after any calls; the answer is then among the known documents.
The laws of De Morgan, of double negation, of distribution and of the order of conjuncts are cases of
equivalent trees. -/
theorem equivalent_queries_have_equal_answers :
    (∀ q r : Query, q.Proper → r.Proper →
      (q.Equivalent r ↔ ∀ accessor : Accessor, accessor.Covered → ∃ documents,
        (Machine.answer accessor q).result = .ok documents ∧
          (Machine.answer accessor r).result = .ok documents ∧
          ∀ d ∈ documents, d ∈ accessor.allDocuments)) ∧
    (∀ calls, (InvertedIndex.afterCalls calls).accessor.Covered) ∧
    (∀ calls, (IncidenceMatrix.afterCalls calls).accessor.Covered) ∧
    ∀ a b c : Query,
      (Query.not (.and a b)).Equivalent (.or (.not a) (.not b)) ∧
        (Query.not (.or a b)).Equivalent (.and (.not a) (.not b)) ∧
        (Query.not (.not a)).Equivalent a ∧
        (Query.and a (.or b c)).Equivalent (.or (.and a b) (.and a c)) ∧
        (Query.or a (.and b c)).Equivalent (.and (.or a b) (.or a c)) ∧
        (Query.and a b).Equivalent (.and b a) := by
  refine ⟨fun q r hq hr => ⟨fun hequivalent accessor hcovered => ?_, fun hanswers isTrue => ?_⟩,
    InvertedIndex.covered_afterCalls, IncidenceMatrix.covered_afterCalls, fun a b c => ?_⟩
  · refine ⟨q.documents accessor, ?_, ?_, fun d hd => ?_⟩
    · rw [Machine.answer_eq, Query.result_eq_documents accessor hq]
    · rw [Machine.answer_eq, Query.result_eq_documents accessor hr,
        hequivalent.documents_eq hcovered]
    · exact ((Query.mem_documents hcovered q d).mp hd).1
  · -- the answers on the collection of one document tell the truth of the trees
    obtain ⟨documents, hanswer, hanswer', -⟩ := hanswers _ (Accessor.covered_ofTruth isTrue)
    rw [Machine.answer_eq, Query.result_eq_documents _ hq] at hanswer
    rw [Machine.answer_eq, Query.result_eq_documents _ hr] at hanswer'
    have hsame := Except.ok.inj (hanswer.trans hanswer'.symm)
    rw [← Accessor.mem_documents_ofTruth, ← Accessor.mem_documents_ofTruth, hsame]
  · exact ⟨Query.equivalent_not_and a b, Query.equivalent_not_or a b, Query.equivalent_not_not a,
      Query.equivalent_and_or a b c, Query.equivalent_or_and a b c, Query.equivalent_and_comm a b⟩

/-- Conjuncts change places. In one order the first has no documents, so that the second is not looked
at; in the other it has one. -/
theorem equivalent_queries_have_equal_answers_swapped :
    let index := InvertedIndex.afterCalls
      [(⟨"Cat", "Pets.txt"⟩, 1), (⟨"bird", "pets.TXT"⟩, 0), (⟨"dog", "home.txt"⟩, 2)]
    let q : Query := .and (.term "bird") (.not (.term "cat"))
    let r : Query := .and (.not (.term "cat")) (.term "bird")
    q.Proper ∧ r.Proper ∧ q.Equivalent r ∧ index.accessor.Covered ∧
      ∃ documents, (Machine.answer index.accessor q).result = .ok documents ∧
        (Machine.answer index.accessor r).result = .ok documents ∧
        ∀ d ∈ documents, d ∈ index.accessor.allDocuments := by
  intro index q r
  obtain ⟨hanswers, hcovered, -, hlaws⟩ := equivalent_queries_have_equal_answers
  have hq : q.Proper := ⟨trivial, trivial⟩
  have hr : r.Proper := ⟨trivial, trivial⟩
  have hequivalent : q.Equivalent r := (hlaws _ _ (.term "")).2.2.2.2.2
  have hindex : index.accessor.Covered := hcovered _
  exact ⟨hq, hr, hequivalent, hindex, (hanswers q r hq hr).mp hequivalent _ hindex⟩

end BooleanRetrieval
