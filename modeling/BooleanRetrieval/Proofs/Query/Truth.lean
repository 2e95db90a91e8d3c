import BooleanRetrieval.Query.Eval
import BooleanRetrieval.Proofs.Query.Grammar
import Mathlib.Tactic.Tauto

/-!
# Queries as formulas

A query tree is a formula over its terms. Its answer is what the operations on sets make of the
documents of its terms, although a conjunction may not look at its right operand
(`Query.result_eq_documents`). On a collection whose terms have known documents only, that is the set of
the known documents at which the formula is true, where a term is true at its documents
(`Query.mem_documents`). The tree of a phrase is true if the phrase is, read over its raw terms
(`Phrase.holds_tree`).
-/

set_option autoImplicit false

namespace BooleanRetrieval

namespace Query

/-- Whether a tree is true when the terms are that satisfy a predicate. -/
def Holds (isTrue : String → Prop) : Query → Prop
  | .term t => isTrue t
  | .and left right => left.Holds isTrue ∧ right.Holds isTrue
  | .or left right => left.Holds isTrue ∨ right.Holds isTrue
  | .not operand => ¬ operand.Holds isTrue
  | .foreign _ => False

/-- Nothing but queries stands in a tree. -/
def Proper : Query → Prop
  | .term _ => True
  | .and left right => left.Proper ∧ right.Proper
  | .or left right => left.Proper ∧ right.Proper
  | .not operand => operand.Proper
  | .foreign _ => False

/-- A conjunction joined from the left is true when each operand is. -/
theorem holds_foldl_and (isTrue : String → Prop) (qs : List Query) (left : Query) :
    (qs.foldl .and left).Holds isTrue ↔ left.Holds isTrue ∧ ∀ q ∈ qs, q.Holds isTrue := by
  induction qs generalizing left with
  | nil => simp
  | cons q qs ih => rw [List.foldl_cons, ih, Holds, List.forall_mem_cons, and_assoc]

/-- A disjunction joined from the left is true when one of the operands is. -/
theorem holds_foldl_or (isTrue : String → Prop) (qs : List Query) (left : Query) :
    (qs.foldl .or left).Holds isTrue ↔ left.Holds isTrue ∨ ∃ q ∈ qs, q.Holds isTrue := by
  induction qs generalizing left with
  | nil => simp
  | cons q qs ih =>
    rw [List.foldl_cons, ih, Holds, or_assoc]
    simp only [List.mem_cons, exists_eq_or_imp]

/-- Joining proper operands from the left gives a proper tree. -/
theorem proper_foldl {join : Query → Query → Query}
    (hjoin : ∀ left right, left.Proper → right.Proper → (join left right).Proper)
    {qs : List Query} {left : Query} (hleft : left.Proper) (hqs : ∀ q ∈ qs, q.Proper) :
    (qs.foldl join left).Proper := by
  induction qs generalizing left with
  | nil => exact hleft
  | cons q qs ih =>
    obtain ⟨hq, hqs⟩ := List.forall_mem_cons.mp hqs
    exact ih (hjoin left q hleft hq) hqs

end Query

/-- A collection knows all documents of its terms. -/
def Accessor.Covered (accessor : Accessor) : Prop :=
  ∀ t d, d ∈ accessor.documentsForTerm t → d ∈ accessor.allDocuments

/-! ## Answers without the short-circuit -/

/-- The documents of a tree whose conjunctions always look at both operands. -/
def Query.documents (accessor : Accessor) : Query → DocSet
  | .term t => accessor.documentsForTerm t
  | .and left right => (left.documents accessor).inter (right.documents accessor)
  | .or left right => (left.documents accessor).union (right.documents accessor)
  | .not operand => accessor.allDocuments.diff (operand.documents accessor)
  | .foreign _ => .empty

/-- A proper tree has an answer on every collection. Where a conjunction does not look at its right
operand, the right operand makes no difference. -/
theorem Query.result_eq_documents (accessor : Accessor) {q : Query} (hq : q.Proper) :
    (q.answer accessor).result = .ok (q.documents accessor) := by
  induction q with
  | term t => rfl
  | foreign text => exact hq.elim
  | not operand ih => rw [answer, Answer.andThen, ih hq, documents]
  | or left right ihl ihr =>
    simp [answer, Answer.andThen, Answer.map, ihl hq.1, ihr hq.2, Except.map, documents]
  | and left right ihl ihr =>
    by_cases hempty : (left.documents accessor).isEmpty = true
    · have hnone := DocSet.isEmpty_iff.mp hempty
      have hinter : (left.documents accessor).inter (right.documents accessor) =
          left.documents accessor :=
        DocSet.ext_mem fun d => by simp [hnone d]
      simp [answer, Answer.andThen, ihl hq.1, hempty, documents, hinter]
    · simp [answer, Answer.andThen, Answer.map, ihl hq.1, ihr hq.2, hempty, Except.map, documents]

/-- On a collection that knows the documents of its terms, a tree has the known documents at which it
is true. -/
theorem Query.mem_documents {accessor : Accessor} (hcovered : accessor.Covered) (q : Query)
    (d : String) :
    d ∈ q.documents accessor ↔
      d ∈ accessor.allDocuments ∧ q.Holds fun t => d ∈ accessor.documentsForTerm t := by
  induction q with
  | term t => exact ⟨fun hd => ⟨hcovered t d hd, hd⟩, And.right⟩
  | foreign text => simp [documents, Holds]
  | not operand ih =>
    rw [documents, DocSet.mem_diff, ih, Holds]
    tauto
  | or left right ihl ihr =>
    rw [documents, DocSet.mem_union, ihl, ihr, Holds]
    tauto
  | and left right ihl ihr =>
    rw [documents, DocSet.mem_inter, ihl, ihr, Holds]
    tauto

/-- The answer to a proper tree on a collection that knows the documents of its terms: the known
documents at which the tree is true. -/
theorem Query.exists_answer {accessor : Accessor} (hcovered : accessor.Covered) (q : Query)
    (hq : q.Proper) :
    ∃ documents, (q.answer accessor).result = .ok documents ∧
      ∀ d, d ∈ documents ↔
        d ∈ accessor.allDocuments ∧ q.Holds fun t => d ∈ accessor.documentsForTerm t :=
  ⟨q.documents accessor, result_eq_documents accessor hq, mem_documents hcovered q⟩

/-! ## The trees of phrases -/

/-- Whether what a phrase of a category stands for is true: of disjuncts one must be, of conjuncts
all. -/
def Category.TreeHolds (isTrue : String → Prop) : (c : Category) → c.Tree → Prop
  | .disjuncts, qs => ∃ q ∈ (qs : List Query), q.Holds isTrue
  | .conjuncts, qs => ∀ q ∈ (qs : List Query), q.Holds isTrue
  | .disjunction, q | .conjunction, q | .negation, q | .factor, q => Query.Holds isTrue q

/-- Whether what a phrase of a category stands for is proper. -/
def Category.TreeProper : (c : Category) → c.Tree → Prop
  | .disjuncts, qs | .conjuncts, qs => ∀ q ∈ (qs : List Query), q.Proper
  | .disjunction, q | .conjunction, q | .negation, q | .factor, q => Query.Proper q

namespace Phrase

/-- What a phrase stands for is true exactly if the phrase is, each raw term being as true as what it
normalizes to. -/
theorem treeHolds_tree (normalize : String → String) (isTrue : String → Prop) {c : Category}
    (p : Phrase c) :
    c.TreeHolds isTrue (p.tree normalize) ↔ p.Holds fun raw => isTrue (normalize raw) := by
  induction p with
  | disjunction first more ihf ihm =>
    exact (Query.holds_foldl_or _ _ _).trans (or_congr ihf ihm)
  | noDisjunct => simp [tree, Holds, Category.TreeHolds]
  | disjunct next more ihn ihm =>
    rw [Holds, ← ihn, ← ihm]
    simp [tree, Category.TreeHolds]
  | conjunction first more ihf ihm =>
    exact (Query.holds_foldl_and _ _ _).trans (and_congr ihf ihm)
  | noConjunct => simp [tree, Holds, Category.TreeHolds]
  | conjunct next more ihn ihm =>
    rw [Holds, ← ihn, ← ihm]
    simp [tree, Category.TreeHolds]
  | not operand ih => exact not_congr ih
  | plain body ih => exact ih
  | term raw => exact Iff.rfl
  | group body ih => exact ih

/-- What a phrase stands for is proper. -/
theorem treeProper_tree (normalize : String → String) {c : Category} (p : Phrase c) :
    c.TreeProper (p.tree normalize) := by
  induction p with
  | disjunction first more ihf ihm => exact Query.proper_foldl (fun _ _ => And.intro) ihf ihm
  | noDisjunct => simp [tree, Category.TreeProper]
  | disjunct next more ihn ihm => exact List.forall_mem_cons.mpr ⟨ihn, ihm⟩
  | conjunction first more ihf ihm => exact Query.proper_foldl (fun _ _ => And.intro) ihf ihm
  | noConjunct => simp [tree, Category.TreeProper]
  | conjunct next more ihn ihm => exact List.forall_mem_cons.mpr ⟨ihn, ihm⟩
  | not operand ih => exact ih
  | plain body ih => exact ih
  | term raw => exact trivial
  | group body ih => exact ih

/-- The tree of a query is true when the query is, with each raw term as true as the normalized one. -/
theorem holds_tree (normalize : String → String) (isTrue : String → Prop)
    (p : Phrase .disjunction) :
    Query.Holds isTrue (p.tree normalize) ↔ p.Holds fun raw => isTrue (normalize raw) :=
  p.treeHolds_tree normalize isTrue

/-- The tree of a query is proper. -/
theorem proper_tree (normalize : String → String) (p : Phrase .disjunction) :
    Query.Proper (p.tree normalize) :=
  p.treeProper_tree normalize

end Phrase

end BooleanRetrieval
