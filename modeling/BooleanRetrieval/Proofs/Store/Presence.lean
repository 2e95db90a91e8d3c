import BooleanRetrieval.Proofs.Store.Books
import BooleanRetrieval.Search

/-!
# The matrix of an index

An index that forgets its frequencies is a matrix (`InvertedIndex.presence`), and adding to the index
and forgetting is the same as forgetting and setting the cell (`presence_addCount`). So an index and a
matrix that are filled with the same pairs stay image and original, whatever the pairs are, and give
the same answers (`agree_presence`).
-/

set_option autoImplicit false

namespace BooleanRetrieval

open Text (foldCase isBlankText)

namespace DocSet

/-- A set has as many members as a list of distinct documents that it was made of. -/
theorem size_ofList {ds : List String} (h : ds.Nodup) : (ofList ds).size = ds.length := by
  have hperm : (ofList ds).toList.Perm ds := by
    apply (List.perm_ext_iff_of_nodup (ofList ds).nodup_toList h).mpr
    intro d
    exact mem_ofList
  exact hperm.length_eq

end DocSet

namespace OrderedMap

variable {α β : Type}

/-- The map with all values changed by a function. -/
def mapValues (g : α → β) (m : OrderedMap α) : OrderedMap β where
  entries := m.entries.map fun entry => (entry.1, g entry.2)
  nodup := by
    rw [List.map_map]
    exact m.nodup

/-- Reading after a change of values is changing what is read. -/
theorem get?_mapValues (g : α → β) (m : OrderedMap α) (key : String) :
    (m.mapValues g).get? key = (m.get? key).map g := by
  obtain ⟨entries, hnodup⟩ := m
  unfold get? mapValues
  dsimp only
  clear hnodup
  induction entries with
  | nil => rfl
  | cons entry rest ih =>
    rw [List.map_cons, lookup_cons_ite, lookup_cons_ite, ih]
    split <;> rfl

/-- A change of values keeps the keys. -/
theorem keys_mapValues (g : α → β) (m : OrderedMap α) : (m.mapValues g).keys = m.keys := by
  unfold keys mapValues
  rw [List.map_map]
  rfl

/-- A change of values changes each value. -/
theorem values_mapValues (g : α → β) (m : OrderedMap α) :
    (m.mapValues g).values = m.values.map g := by
  unfold values mapValues
  rw [List.map_map, List.map_map]
  rfl

/-- A change of values keeps the size. -/
theorem size_mapValues (g : α → β) (m : OrderedMap α) : (m.mapValues g).size = m.size :=
  List.length_map _

/-- Changing all values commutes with an upsert whose new value does. -/
theorem mapValues_upsert {g : α → β} {f : Option α → α} {f' : Option β → β}
    (h : ∀ old, g (f old) = f' (old.map g)) (m : OrderedMap α) (key : String) :
    (m.upsert key f).mapValues g = (m.mapValues g).upsert key f' := by
  obtain ⟨entries, hnodup⟩ := m
  unfold mapValues upsert
  dsimp only
  congr 1
  clear hnodup
  induction entries with
  | nil => simp [upsertEntry, h]
  | cons entry rest ih =>
    obtain ⟨k, value⟩ := entry
    unfold upsertEntry
    by_cases hk : k = key
    · simp [hk, h]
    · simp [hk, ih]

end OrderedMap

/-! ## Forgetting frequencies -/

/-- The documents that have a frequency. -/
def presentIn (frequencies : OrderedMap Nat) : DocSet :=
  .ofList frequencies.keys

namespace InvertedIndex

/-- The matrix that an index makes when its frequencies are forgotten. -/
def presence (index : InvertedIndex) : IncidenceMatrix :=
  ⟨index.postings.mapValues presentIn, index.registry⟩

/-- Adding to an index sets a cell of its matrix. -/
theorem presence_addCount (index : InvertedIndex) (t doc : String) (count : Nat) :
    (index.addCount t doc count).presence = index.presence.set t doc := by
  unfold presence addCount IncidenceMatrix.set
  dsimp only
  congr 1
  apply OrderedMap.mapValues_upsert
  intro old
  have hold : ((old.map presentIn).getD .empty) = presentIn (old.getD .empty) := by
    cases old <;> rfl
  rw [hold]
  apply DocSet.ext_mem
  intro d
  unfold presentIn
  rw [DocSet.mem_ofList, DocSet.mem_insert, DocSet.mem_ofList, OrderedMap.mem_keys_upsert]

/-- The presence of an index has the documents of each term. -/
theorem documentsForTerm_presence (index : InvertedIndex) (t : String) :
    index.presence.documentsForTerm t = index.documentsForTerm t := by
  have hkeys : index.documentsForTerm t = presentIn (index.frequencies t) := by
    unfold documentsForTerm postingsOf
    rw [List.map_map]
    rfl
  unfold IncidenceMatrix.documentsForTerm presence
  rw [OrderedMap.get?_mapValues, hkeys]
  unfold frequencies
  cases index.postings.get? (foldCase t) <;> rfl

/-- The non-zero cells of the presence are the postings of the index. -/
theorem nonZeroEntries_presence (index : InvertedIndex) :
    index.presence.nonZeroEntries = index.totalPostings := by
  unfold IncidenceMatrix.nonZeroEntries totalPostings presence
  rw [OrderedMap.values_mapValues, List.map_map]
  have hsize : DocSet.size ∘ presentIn = OrderedMap.size := by
    funext frequencies
    have hlength := DocSet.size_ofList frequencies.nodup
    rw [List.length_map] at hlength
    exact hlength
  rw [hsize]

/-- The presence of an index answers as the index does. -/
theorem accessor_presence (index : InvertedIndex) : index.presence.accessor = index.accessor := by
  unfold IncidenceMatrix.accessor accessor
  rw [funext index.documentsForTerm_presence]
  rfl

end InvertedIndex

/-! ## Agreement -/

/-- An index and a matrix give the same answers. -/
structure Agree (index : InvertedIndex) (matrix : IncidenceMatrix) : Prop where
  terms : index.terms = matrix.terms
  /-- They have the same documents under the same spellings. -/
  allDocuments : index.allDocuments = matrix.allDocuments
  documentsForTerm : ∀ t, index.documentsForTerm t = matrix.documentsForTerm t
  vocabularySize : index.vocabularySize = matrix.vocabularySize
  documentCount : index.documentCount = matrix.documentCount
  cells : index.totalPostings = matrix.nonZeroEntries
  /-- A search has the same documents or the same error on both. -/
  search : ∀ normalize query,
    Search.run normalize index.accessor query = Search.run normalize matrix.accessor query

/-- An index agrees with the matrix that it makes. -/
theorem InvertedIndex.agree_presence (index : InvertedIndex) : Agree index index.presence where
  terms := (OrderedMap.keys_mapValues _ _).symm
  allDocuments := rfl
  documentsForTerm t := (index.documentsForTerm_presence t).symm
  vocabularySize := (OrderedMap.size_mapValues _ _).symm
  documentCount := rfl
  cells := index.nonZeroEntries_presence.symm
  search normalize query := by rw [index.accessor_presence]

/-! ## Runs of calls on the matrix -/

namespace IncidenceMatrix

/-- The matrix after a call. A refused call leaves the matrix as it is. -/
def call (matrix : IncidenceMatrix) (o : Occurrence) : IncidenceMatrix :=
  (matrix.add o.term o.document).toOption.getD matrix

/-- The matrix that was empty before a run of calls. -/
def afterCalls (calls : List Occurrence) : IncidenceMatrix :=
  calls.foldl call empty

/-- The calls of a run that are accepted. -/
def accepted (calls : List Occurrence) : List Occurrence :=
  calls.filter fun o => !isBlankText o.term && !isBlankText o.document

/-- What an add does: a blank term is refused before a blank document. -/
theorem add_eq (matrix : IncidenceMatrix) (t doc : String) :
    matrix.add t doc =
      if isBlankText t then .error .blankTerm
      else if isBlankText doc then .error .blankDocument
      else .ok (matrix.set t doc) := by
  unfold add add?
  cases ht : isBlankText t <;> cases hdoc : isBlankText doc <;> simp [Option.filter, ht, hdoc]

/-- An accepted call sets its cell. -/
theorem call_of_accepted {matrix : IncidenceMatrix} {o : Occurrence}
    (h : (!isBlankText o.term && !isBlankText o.document) = true) :
    matrix.call o = matrix.set o.term o.document := by
  simp only [Bool.and_eq_true, Bool.not_eq_true'] at h
  unfold call
  rw [add_eq, h.1, h.2]
  rfl

/-- A refused call leaves the matrix as it was. -/
theorem call_of_refused {matrix : IncidenceMatrix} {o : Occurrence}
    (h : ¬ (!isBlankText o.term && !isBlankText o.document) = true) : matrix.call o = matrix := by
  unfold call
  rw [add_eq]
  cases ht : isBlankText o.term
  · cases hdoc : isBlankText o.document
    · simp [ht, hdoc] at h
    · rfl
  · rfl

/-- A run of calls on a matrix is the image of the run of its accepted calls on an index. -/
theorem foldl_call_presence (calls : List Occurrence) (index : InvertedIndex) :
    calls.foldl call index.presence =
      (((accepted calls).map fun o => ((o, 1) : CountedAdd)).foldl InvertedIndex.call index).presence := by
  induction calls generalizing index with
  | nil => rfl
  | cons o calls ih =>
    rw [List.foldl_cons]
    by_cases ho : (!isBlankText o.term && !isBlankText o.document) = true
    · have haccepted : accepted (o :: calls) = o :: accepted calls := List.filter_cons_of_pos ho
      have hindex : index.call (o, 1) = index.addCount o.term o.document 1 := rfl
      rw [call_of_accepted ho, haccepted, List.map_cons, List.foldl_cons, hindex,
        ← InvertedIndex.presence_addCount index o.term o.document 1]
      exact ih _
    · have haccepted : accepted (o :: calls) = accepted calls := List.filter_cons_of_neg ho
      rw [call_of_refused ho, haccepted]
      exact ih index

/-- The matrix after a run of calls is the presence of the index that counts the accepted ones. -/
theorem afterCalls_eq_presence (calls : List Occurrence) :
    afterCalls calls = (InvertedIndex.afterCalls ((accepted calls).map fun o => (o, 1))).presence :=
  foldl_call_presence calls .empty

end IncidenceMatrix

end BooleanRetrieval
