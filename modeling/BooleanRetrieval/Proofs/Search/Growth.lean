import BooleanRetrieval.Proofs.Query.StackMachine
import BooleanRetrieval.Proofs.Query.Truth
import BooleanRetrieval.Proofs.Store.Presence

/-!
# Answers that only grow

No call takes anything from a store: a document keeps the spelling it is known under, a term keeps its
documents and comes to stand behind the terms before it, and frequencies do not fall. That is seen on one
call (`InvertedIndex.grows_call`, `IncidenceMatrix.grows_call`), and so holds of any run of calls. The
answer to a query without negations then grows with the collection, although with more documents a
conjunction may look at an operand that it left out before (`Query.Positive.documents_grow`).
-/

set_option autoImplicit false

namespace BooleanRetrieval

open Text (foldCase isBlankText)

/-! ## Queries without negations -/

/-- All documents of a collection are documents of another, and so are those of each term. -/
structure Accessor.Grows (before after : Accessor) : Prop where
  documentsForTerm : ∀ t, ∀ d ∈ before.documentsForTerm t, d ∈ after.documentsForTerm t
  allDocuments : ∀ d ∈ before.allDocuments, d ∈ after.allDocuments

namespace Accessor.Grows

/-- An accessor grows from itself. -/
theorem refl (accessor : Accessor) : accessor.Grows accessor where
  documentsForTerm _ _ := id
  allDocuments _ := id

/-- Growing is transitive. -/
theorem trans {a b c : Accessor} (hab : a.Grows b) (hbc : b.Grows c) : a.Grows c where
  documentsForTerm t d := hbc.documentsForTerm t d ∘ hab.documentsForTerm t d
  allDocuments d := hbc.allDocuments d ∘ hab.allDocuments d

end Accessor.Grows

namespace Query

/-- Nothing but terms, conjunctions and disjunctions stands in a tree. -/
def Positive : Query → Prop
  | .term _ => True
  | .and left right => left.Positive ∧ right.Positive
  | .or left right => left.Positive ∧ right.Positive
  | .not _ => False
  | .foreign _ => False

namespace Positive

variable {q : Query}

/-- A query without a negation is a proper tree. -/
theorem proper (hq : q.Positive) : q.Proper := by
  induction q with
  | term t => trivial
  | and left right ihl ihr => exact ⟨ihl hq.1, ihr hq.2⟩
  | or left right ihl ihr => exact ⟨ihl hq.1, ihr hq.2⟩
  | not operand => exact hq.elim
  | foreign text => exact hq.elim

/-- A query without a negation keeps its answer when the accessor grows. A negation would lose documents, which
is why the query is positive. -/
theorem documents_grow (hq : q.Positive) {before after : Accessor} (h : before.Grows after) :
    ∀ d ∈ q.documents before, d ∈ q.documents after := by
  intro d
  induction q with
  | term t => exact h.documentsForTerm t d
  | and left right ihl ihr =>
    rw [documents, documents, DocSet.mem_inter, DocSet.mem_inter]
    exact And.imp (ihl hq.1) (ihr hq.2)
  | or left right ihl ihr =>
    rw [documents, documents, DocSet.mem_union, DocSet.mem_union]
    exact Or.imp (ihl hq.1) (ihr hq.2)
  | not operand => exact hq.elim
  | foreign text => exact hq.elim

/-- The answers on a collection and on one that it has grown to. -/
theorem answers_grow (hq : q.Positive) {before after : Accessor} (h : before.Grows after) :
    ∃ found found', (Machine.answer before q).result = .ok found ∧
      (Machine.answer after q).result = .ok found' ∧ ∀ d ∈ found, d ∈ found' := by
  rw [Machine.answer_eq, Machine.answer_eq]
  exact ⟨_, _, result_eq_documents before hq.proper, result_eq_documents after hq.proper,
    hq.documents_grow h⟩

end Positive

end Query

/-! ## The documents of a store -/

namespace Registry

/-- Every spelling of a registry is kept by another. -/
def Grows (before after : Registry) : Prop :=
  ∀ key s, before.spellings.get? key = some s → after.spellings.get? key = some s

/-- A document that is registered again, in whatever case, keeps its spelling. -/
theorem grows_register (r : Registry) (doc : String) : r.Grows (r.register doc) := by
  intro key s hs
  rw [register, OrderedMap.insertIfNew, OrderedMap.get?_upsert]
  by_cases hkey : key = foldCase doc
  · rw [if_pos hkey, ← hkey, hs]
    rfl
  · rwa [if_neg hkey]

/-- Growing is transitive. -/
theorem Grows.trans {a b c : Registry} (hab : a.Grows b) (hbc : b.Grows c) : a.Grows c :=
  fun key s hs => hbc key s (hab key s hs)

/-- A document of a registry is a document of every later one. -/
theorem Grows.mem_documents {before after : Registry} (h : before.Grows after) {d : String}
    (hd : d ∈ before.documents) : d ∈ after.documents := by
  obtain ⟨key, hkey⟩ := Registry.mem_documents.mp hd
  exact Registry.mem_documents.mpr ⟨key, h key d hkey⟩

end Registry

/-- Writing under a key keeps the keys in their places and adds the new one at the end. -/
theorem OrderedMap.keys_prefix_upsert {α : Type} (m : OrderedMap α) (key : String)
    (f : Option α → α) : m.keys <+: (m.upsert key f).keys := by
  rw [keys_upsert]
  split
  · exact List.prefix_refl _
  · exact List.prefix_append _ _

/-! ## The index -/

namespace InvertedIndex

/-- Nothing of an index is missing in another. -/
structure Grows (before after : InvertedIndex) : Prop where
  registry : before.registry.Grows after.registry
  accessor : before.accessor.Grows after.accessor
  /-- New terms stand behind the old ones. -/
  terms : before.terms <+: after.terms
  frequency : ∀ t d, before.frequency t d ≤ after.frequency t d

namespace Grows

/-- An index grows from itself. -/
theorem refl (index : InvertedIndex) : index.Grows index where
  registry _ _ := id
  accessor := .refl _
  terms := List.prefix_refl _
  frequency _ _ := Nat.le_refl _

/-- Growing is transitive. -/
theorem trans {a b c : InvertedIndex} (hab : a.Grows b) (hbc : b.Grows c) : a.Grows c where
  registry := hab.registry.trans hbc.registry
  accessor := hab.accessor.trans hbc.accessor
  terms := hab.terms.trans hbc.terms
  frequency t d := Nat.le_trans (hab.frequency t d) (hbc.frequency t d)

end Grows

/-- Adding a count lowers no stored frequency, whatever row and spelling are asked for. -/
theorem stored_le_addCount (index : InvertedIndex) (t doc : String) (count : Nat) (u s : String) :
    ((index.frequencies u).get? s).getD 0 ≤
      (((index.addCount t doc count).frequencies u).get? s).getD 0 := by
  rw [frequencies_addCount]
  by_cases hterm : foldCase u = foldCase t
  · have hsame : index.frequencies u = index.frequencies t := by rw [frequencies, hterm]; rfl
    rw [if_pos hterm, OrderedMap.get?_upsert, hsame]
    split
    · next hs =>
      -- the number stored under the spelling of the document, to which the count is added
      rw [hs, Option.getD_some]
      exact Nat.le_add_right _ _
    · exact Nat.le_refl _
  · rw [if_neg hterm]

/-- An accepted call makes the index grow. -/
theorem grows_addCount (index : InvertedIndex) (t doc : String) (count : Nat) :
    index.Grows (index.addCount t doc count) where
  registry := index.registry.grows_register doc
  accessor :=
    { documentsForTerm := fun u d hd =>
        (mem_documentsForTerm_addCount index t doc count u d).mpr (.inr hd)
      allDocuments := fun _ => (index.registry.grows_register doc).mem_documents }
  terms := OrderedMap.keys_prefix_upsert index.postings _ _
  frequency u d := by
    cases hs : index.registry.spelling? d with
    | none =>
      have hzero : index.frequency u d = 0 := by
        unfold frequency
        rw [hs]
        rfl
      rw [hzero]
      exact Nat.zero_le _
    | some s =>
      have hs' : (index.addCount t doc count).registry.spelling? d = some s :=
        index.registry.grows_register doc (foldCase d) s hs
      rw [frequency_of_spelling? hs, frequency_of_spelling? hs']
      exact index.stored_le_addCount t doc count u s

/-- A call makes the index grow, also one that is refused. -/
theorem grows_call (index : InvertedIndex) (a : CountedAdd) : index.Grows (index.call a) := by
  unfold call
  rcases Int.lt_or_le a.2 1 with ha | ha
  · rw [add_of_lt ha]
    exact .refl index
  · rw [add_of_le ha]
    exact index.grows_addCount _ _ _

/-- A sequence of calls makes the index grow. -/
theorem grows_calls (index : InvertedIndex) (calls : List CountedAdd) :
    index.Grows (calls.foldl call index) :=
  List.foldlRecOn calls call (.refl index) fun _ hgrown a _ => hgrown.trans (grows_call _ a)

end InvertedIndex

/-! ## The matrix -/

namespace IncidenceMatrix

/-- The matrix after a call whose term or document may be missing. A refused call leaves the matrix as
it is. -/
def call? (matrix : IncidenceMatrix) (cell : Option String × Option String) : IncidenceMatrix :=
  (matrix.add? cell.1 cell.2).toOption.getD matrix

/-- Nothing of a matrix is missing in another. -/
structure Grows (before after : IncidenceMatrix) : Prop where
  registry : before.registry.Grows after.registry
  accessor : before.accessor.Grows after.accessor
  /-- New terms stand behind the old ones. -/
  terms : before.terms <+: after.terms

namespace Grows

/-- A matrix grows from itself. -/
theorem refl (matrix : IncidenceMatrix) : matrix.Grows matrix where
  registry _ _ := id
  accessor := .refl _
  terms := List.prefix_refl _

/-- Growing is transitive. -/
theorem trans {a b c : IncidenceMatrix} (hab : a.Grows b) (hbc : b.Grows c) : a.Grows c where
  registry := hab.registry.trans hbc.registry
  accessor := hab.accessor.trans hbc.accessor
  terms := hab.terms.trans hbc.terms

end Grows

/-- Setting a cell makes the matrix grow. -/
theorem grows_set (matrix : IncidenceMatrix) (t doc : String) :
    matrix.Grows (matrix.set t doc) where
  registry := matrix.registry.grows_register doc
  accessor :=
    { documentsForTerm := fun u d hd => (mem_documentsForTerm_set matrix t doc u d).mpr (.inr hd)
      allDocuments := fun _ => (matrix.registry.grows_register doc).mem_documents }
  terms := OrderedMap.keys_prefix_upsert matrix.rows _ _

/-- A call makes the matrix grow, also one that is refused. -/
theorem grows_call? (matrix : IncidenceMatrix) (cell : Option String × Option String) :
    matrix.Grows (matrix.call? cell) := by
  unfold call? add?
  split
  · exact .refl matrix
  · exact .refl matrix
  · exact matrix.grows_set _ _

/-- A sequence of calls makes the matrix grow. -/
theorem grows_calls? (matrix : IncidenceMatrix) (cells : List (Option String × Option String)) :
    matrix.Grows (cells.foldl call? matrix) :=
  List.foldlRecOn cells call? (.refl matrix) fun _ hgrown cell _ =>
    hgrown.trans (grows_call? _ cell)

end IncidenceMatrix

/-! ## Growing answers -/

/-- Further calls on a store, refused ones included, take nothing from it. The answer to a query
without negations has all documents that it had, under the same spellings, and all documents, the terms
and, in an index, the frequencies only grow. -/
theorem calls_never_remove_an_answer {q : Query} (hq : q.Positive) :
    (∀ (index : InvertedIndex) (calls : List CountedAdd),
      let next := calls.foldl InvertedIndex.call index
      (∃ found found', (Machine.answer index.accessor q).result = .ok found ∧
        (Machine.answer next.accessor q).result = .ok found' ∧ ∀ d ∈ found, d ∈ found') ∧
      index.Grows next) ∧
    ∀ (matrix : IncidenceMatrix) (cells : List (Option String × Option String)),
      let next := cells.foldl IncidenceMatrix.call? matrix
      (∃ found found', (Machine.answer matrix.accessor q).result = .ok found ∧
        (Machine.answer next.accessor q).result = .ok found' ∧ ∀ d ∈ found, d ∈ found') ∧
      matrix.Grows next := by
  constructor
  · intro index calls next
    have hgrows : index.Grows next := index.grows_calls calls
    exact ⟨hq.answers_grow hgrows.accessor, hgrows⟩
  · intro matrix cells next
    have hgrows : matrix.Grows next := matrix.grows_calls? cells
    exact ⟨hq.answers_grow hgrows.accessor, hgrows⟩

/-- Documents come again in another case, a conjunction that had nothing on its left comes to look at its
right, and some calls are refused. -/
theorem calls_never_remove_an_answer_respelled :
    let q : Query := .or (.and (.term "bird") (.term "dog")) (.term "cat")
    let index := InvertedIndex.afterCalls [(⟨"Cat", "Pets.txt"⟩, 1), (⟨"dog", "home.txt"⟩, 2)]
    let calls : List CountedAdd :=
      [(⟨"CAT", "PETS.TXT"⟩, 3), (⟨"cat", "new.txt"⟩, 0), (⟨"bird", "Home.txt"⟩, 1)]
    let next := calls.foldl InvertedIndex.call index
    let matrix := IncidenceMatrix.afterCalls [⟨"Cat", "Pets.txt"⟩, ⟨"dog", "home.txt"⟩]
    let cells : List (Option String × Option String) :=
      [(some "CAT", some "PETS.TXT"), (none, some "new.txt"), (some "bird", some "Home.txt")]
    let next' := cells.foldl IncidenceMatrix.call? matrix
    q.Positive ∧
      ((∃ found found', (Machine.answer index.accessor q).result = .ok found ∧
        (Machine.answer next.accessor q).result = .ok found' ∧ ∀ d ∈ found, d ∈ found') ∧
        index.Grows next) ∧
      (∃ found found', (Machine.answer matrix.accessor q).result = .ok found ∧
        (Machine.answer next'.accessor q).result = .ok found' ∧ ∀ d ∈ found, d ∈ found') ∧
      matrix.Grows next' := by
  intro q index calls next matrix cells next'
  have hq : q.Positive := ⟨⟨trivial, trivial⟩, trivial⟩
  obtain ⟨hindex, hmatrix⟩ := calls_never_remove_an_answer hq
  exact ⟨hq, hindex index calls, hmatrix matrix cells⟩

end BooleanRetrieval
