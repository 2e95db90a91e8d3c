import BooleanRetrieval.Store.IncidenceMatrix
import BooleanRetrieval.Store.InvertedIndex

/-!
# What a store knows after adds

A store that was filled by adds answers from the list of the adds alone: it knows a document under the
spelling of its first add, and a term has the documents of its adds, where terms and ids are compared
by case folding (`Records`). One add keeps this (`Records.add`), in the index and in the matrix alike,
so that it holds after every list of adds that succeed.
-/

set_option autoImplicit false

namespace BooleanRetrieval

open Text (foldCase)

/-- A term and the id of a document it occurs in, as they are given to a store. -/
structure Occurrence where
  term : String
  document : String
  deriving DecidableEq, Repr

/-- The spelling of the first of the added documents whose id has the case folding of the given
one. -/
def firstSpelling (adds : List Occurrence) (doc : String) : Option String :=
  (adds.map Occurrence.document).find? fun spelling => foldCase spelling = foldCase doc

/-- Some add is of the given term in the given document, both compared by case folding. -/
def Occurs (adds : List Occurrence) (t doc : String) : Prop :=
  ∃ a ∈ adds, foldCase a.term = foldCase t ∧ foldCase a.document = foldCase doc

/-- The index after a list of adds, the first of which to be refused ends the adding. -/
def InvertedIndex.addAll (index : InvertedIndex) (adds : List (Occurrence × Int)) :
    Except CountError InvertedIndex :=
  adds.foldlM (fun index a => index.add a.1.term a.1.document a.2) index

/-- The matrix after a list of adds, the first of which to be refused ends the adding. -/
def IncidenceMatrix.addAll (matrix : IncidenceMatrix) (adds : List Occurrence) :
    Except CellError IncidenceMatrix :=
  adds.foldlM (fun matrix a => matrix.add a.term a.document) matrix

/-- What holds of a store and the adds so far, and is kept by every add that succeeds, holds after a
run of adds that all succeed. -/
theorem foldlM_induction {σ ε α : Type} {step : σ → α → Except ε σ} (Inv : List α → σ → Prop)
    (hstep : ∀ before store a next,
      Inv before store → step store a = .ok next → Inv (before ++ [a]) next)
    {before adds : List α} {store final : σ} (h : Inv before store)
    (hrun : adds.foldlM step store = .ok final) : Inv (before ++ adds) final := by
  induction adds generalizing before store with
  | nil =>
    obtain rfl := Except.ok.inj hrun
    rwa [List.append_nil]
  | cons a adds ih =>
    rw [List.foldlM_cons] at hrun
    cases hnext : step store a with
    | error e =>
      rw [hnext] at hrun
      cases hrun
    | ok next =>
      rw [hnext] at hrun
      rw [List.append_cons]
      exact ih (hstep before store a next h hnext) hrun

/-- A run of steps that all succeed and one more step that succeeds are a run. -/
theorem foldlM_concat {σ ε α : Type} {step : σ → α → Except ε σ} {l : List α} {s before after : σ} {a : α}
    (hrun : l.foldlM step s = .ok before) (hstep : step before a = .ok after) :
    (l ++ [a]).foldlM step s = .ok after := by
  rw [List.foldlM_append, hrun]
  simp only [bind, Except.bind, List.foldlM_cons, List.foldlM_nil, hstep]
  rfl

/-- One more accepted add at the end of a sequence of adds. -/
theorem InvertedIndex.addAll_concat {index before after : InvertedIndex} {adds : List (Occurrence × Int)}
    (hadds : index.addAll adds = .ok before) (a : Occurrence × Int)
    (hadd : before.add a.1.term a.1.document a.2 = .ok after) :
    index.addAll (adds ++ [a]) = .ok after :=
  foldlM_concat hadds hadd

/-- One more accepted add at the end of a sequence of adds. -/
theorem IncidenceMatrix.addAll_concat {matrix before after : IncidenceMatrix} {adds : List Occurrence}
    (hadds : matrix.addAll adds = .ok before) (a : Occurrence)
    (hadd : before.add a.term a.document = .ok after) : matrix.addAll (adds ++ [a]) = .ok after :=
  foldlM_concat hadds hadd

/-! ## First spellings -/

/-- The first spelling of a document is a spelling of that document. -/
theorem foldCase_of_firstSpelling {adds : List Occurrence} {doc spelling : String}
    (h : firstSpelling adds doc = some spelling) : foldCase spelling = foldCase doc := by
  simpa using List.find?_some h

/-- A first spelling is that of some add. -/
theorem exists_mem_of_firstSpelling {adds : List Occurrence} {doc spelling : String}
    (h : firstSpelling adds doc = some spelling) : ∃ a ∈ adds, a.document = spelling :=
  List.mem_map.mp (List.mem_of_find?_eq_some h)

/-- The first spelling depends on the folded name only. -/
theorem firstSpelling_congr {adds : List Occurrence} {doc doc' : String}
    (h : foldCase doc = foldCase doc') : firstSpelling adds doc = firstSpelling adds doc' := by
  unfold firstSpelling
  rw [h]

/-- A later add gives a first spelling only to a document that had none. -/
theorem firstSpelling_append (adds : List Occurrence) (a : Occurrence) (doc : String) :
    firstSpelling (adds ++ [a]) doc = (firstSpelling adds doc).or
      (if foldCase a.document = foldCase doc then some a.document else none) := by
  unfold firstSpelling
  rw [List.map_append, List.find?_append]
  congr 1
  by_cases h : foldCase a.document = foldCase doc <;> simp [h]

/-- A document in which a term occurs has a first spelling. -/
theorem Occurs.exists_firstSpelling {adds : List Occurrence} {t doc : String}
    (h : Occurs adds t doc) : ∃ spelling, firstSpelling adds doc = some spelling := by
  obtain ⟨a, ha, -, hdoc⟩ := h
  refine Option.isSome_iff_exists.mp (List.find?_isSome.mpr ?_)
  exact ⟨a.document, List.mem_map_of_mem ha, by simpa using hdoc⟩

/-- What occurs after one more add is what occurred and the pair of the add. -/
theorem occurs_append {adds : List Occurrence} {a : Occurrence} {t doc : String} :
    Occurs (adds ++ [a]) t doc ↔
      Occurs adds t doc ∨ foldCase a.term = foldCase t ∧ foldCase a.document = foldCase doc := by
  simp [Occurs, or_and_right, exists_or]

namespace Registry

/-- Registering a document gives a spelling to its own folded name and to no other. -/
theorem spelling?_register (r : Registry) (doc d : String) :
    (r.register doc).spelling? d =
      if foldCase d = foldCase doc then some (r.spelling doc) else r.spelling? d :=
  OrderedMap.get?_upsert _ _ _ _

/-- Registering a document does not change the spelling it gets. -/
theorem spelling_register (r : Registry) (doc : String) :
    (r.register doc).spelling doc = r.spelling doc := by
  rw [spelling, spelling?_register, if_pos rfl]
  rfl

/-- The documents of a registry are the spellings it holds. -/
theorem mem_documents {r : Registry} {d : String} :
    d ∈ r.documents ↔ ∃ key, r.spellings.get? key = some d :=
  DocSet.mem_ofList.trans OrderedMap.mem_values_iff

end Registry

/-! ## Records -/

/-- A registry and the documents of each term are as a list of adds left them. -/
structure Records (adds : List Occurrence) (registry : Registry)
    (documentsForTerm : String → DocSet) : Prop where
  /-- A document is known under its first spelling. -/
  spelling : ∀ d, registry.spelling? d = firstSpelling adds d
  /-- A spelling is kept under its case folding. -/
  keyed : ∀ key s, registry.spellings.get? key = some s → key = foldCase s
  /-- A term has the documents it occurs in. -/
  documents : ∀ t d, d ∈ documentsForTerm t ↔ firstSpelling adds d = some d ∧ Occurs adds t d

namespace Records

variable {adds : List Occurrence} {registry : Registry} {documentsForTerm : String → DocSet}

/-- A store is empty before any add. -/
theorem nil (h : ∀ t d, d ∉ documentsForTerm t) : Records [] .empty documentsForTerm where
  spelling _ := rfl
  keyed key s hs := by cases hs
  documents t d := by simp [h t d, firstSpelling]

/-- All documents of a store are those that were added, under their first spellings. -/
theorem mem_documents (h : Records adds registry documentsForTerm) (d : String) :
    d ∈ registry.documents ↔ firstSpelling adds d = some d := by
  rw [Registry.mem_documents, ← h.spelling]
  constructor
  · rintro ⟨key, hkey⟩
    rw [Registry.spelling?, ← h.keyed key d hkey, hkey]
  · intro hd
    exact ⟨foldCase d, hd⟩

/-- The spelling a document gets is its first one, or the name itself when it is new. -/
theorem spelling_eq (h : Records adds registry documentsForTerm) (doc : String) :
    registry.spelling doc = (firstSpelling adds doc).getD doc := by
  rw [Registry.spelling, h.spelling]

/-- The spelling a document gets is a spelling of that document. -/
theorem foldCase_spelling (h : Records adds registry documentsForTerm) (doc : String) :
    foldCase (registry.spelling doc) = foldCase doc := by
  rw [h.spelling_eq]
  cases hs : firstSpelling adds doc with
  | none => rfl
  | some s => exact foldCase_of_firstSpelling hs

/-- One add keeps the records: the document is registered, and the term gets it under the spelling by
which it is now known. -/
theorem add (h : Records adds registry documentsForTerm) (a : Occurrence)
    {documentsForTerm' : String → DocSet}
    (hdocuments : ∀ t d, d ∈ documentsForTerm' t ↔
      foldCase t = foldCase a.term ∧ d = registry.spelling a.document ∨ d ∈ documentsForTerm t) :
    Records (adds ++ [a]) (registry.register a.document) documentsForTerm' where
  spelling d := by
    rw [Registry.spelling?_register, firstSpelling_append, h.spelling_eq, h.spelling]
    by_cases hd : foldCase d = foldCase a.document
    · rw [if_pos hd, if_pos hd.symm, firstSpelling_congr hd]
      cases firstSpelling adds a.document <;> rfl
    · rw [if_neg hd, if_neg (Ne.symm hd), Option.or_none]
  keyed key s hs := by
    rw [Registry.register, OrderedMap.insertIfNew, OrderedMap.get?_upsert] at hs
    split at hs
    · next hkey =>
      rw [hkey, ← h.foldCase_spelling a.document, ← Option.some.inj hs]
      rfl
    · exact h.keyed key s hs
  documents t d := by
    rw [hdocuments, h.documents, firstSpelling_append, occurs_append, h.spelling_eq]
    by_cases hd : foldCase a.document = foldCase d
    · rw [if_pos hd, firstSpelling_congr hd]
      cases hs : firstSpelling adds d with
      | none =>
        have hnot : ¬ Occurs adds t d := fun hoccurs => by
          obtain ⟨s, hs'⟩ := hoccurs.exists_firstSpelling
          rw [hs] at hs'
          cases hs'
        simp [hnot, hd, eq_comm, and_comm]
      | some s =>
        simp only [Option.getD_some, Option.some_or, Option.some.injEq, hd, and_true]
        constructor
        · rintro (⟨hterm, rfl⟩ | ⟨rfl, hoccurs⟩)
          · exact ⟨rfl, .inr hterm.symm⟩
          · exact ⟨rfl, .inl hoccurs⟩
        · rintro ⟨rfl, hoccurs | hterm⟩
          · exact .inr ⟨rfl, hoccurs⟩
          · exact .inl ⟨hterm.symm, rfl⟩
    · -- the added document is another one, whatever the spelling
      have hne : d ≠ (firstSpelling adds a.document).getD a.document := by
        rintro rfl
        rw [← h.spelling_eq] at hd
        exact hd (h.foldCase_spelling a.document).symm
      simp [hd, hne]

end Records

/-! ## The index -/

namespace InvertedIndex

/-- The documents of a term are the keys of its row. -/
theorem mem_documentsForTerm {index : InvertedIndex} {t d : String} :
    d ∈ index.documentsForTerm t ↔
      d ∈ ((index.postings.get? (foldCase t)).getD .empty).keys := by
  rw [documentsForTerm, DocSet.mem_ofList, postingsOf, List.map_map]
  exact Iff.rfl

/-- Adding a count adds the spelling of its document to its own term and to no other. -/
theorem mem_documentsForTerm_addCount (index : InvertedIndex) (t doc : String) (count : Nat)
    (u d : String) :
    d ∈ (index.addCount t doc count).documentsForTerm u ↔
      foldCase u = foldCase t ∧ d = index.registry.spelling doc ∨ d ∈ index.documentsForTerm u := by
  rw [mem_documentsForTerm, mem_documentsForTerm, addCount]
  dsimp only
  rw [OrderedMap.get?_upsert, Registry.spelling_register]
  by_cases hu : foldCase u = foldCase t
  · rw [if_pos hu, Option.getD_some, OrderedMap.mem_keys_upsert, hu]
    simp
  · rw [if_neg hu]
    simp [hu]

/-- An accepted call is the unchecked addition of its count. -/
theorem eq_addCount_of_add {index index' : InvertedIndex} {t doc : String} {count : Int}
    (h : index.add t doc count = .ok index') : index' = index.addCount t doc count.toNat := by
  unfold add at h
  split at h
  · cases h
  · exact (Except.ok.inj h).symm

/-- An index that was empty before a run of adds has the records of the adds. -/
theorem records_addAll {adds : List (Occurrence × Int)} {index : InvertedIndex}
    (h : empty.addAll adds = .ok index) :
    Records (adds.map Prod.fst) index.registry index.documentsForTerm := by
  have hempty : Records (List.map Prod.fst ([] : List (Occurrence × Int))) empty.registry
      empty.documentsForTerm :=
    .nil fun _ _ => List.not_mem_nil
  refine foldlM_induction
    (fun (adds : List (Occurrence × Int)) (index : InvertedIndex) =>
      Records (adds.map Prod.fst) index.registry index.documentsForTerm)
    (fun before index a next hrecords hnext => ?_) hempty h
  rw [eq_addCount_of_add hnext, List.map_append]
  exact hrecords.add a.1 (mem_documentsForTerm_addCount index a.1.term a.1.document _)

end InvertedIndex

/-! ## The matrix -/

namespace IncidenceMatrix

/-- Setting a cell adds the spelling of its document to its own term and to no other. -/
theorem mem_documentsForTerm_set (matrix : IncidenceMatrix) (t doc u d : String) :
    d ∈ (matrix.set t doc).documentsForTerm u ↔
      foldCase u = foldCase t ∧ d = matrix.registry.spelling doc ∨
        d ∈ matrix.documentsForTerm u := by
  rw [documentsForTerm, documentsForTerm, set]
  dsimp only
  rw [OrderedMap.get?_upsert, Registry.spelling_register]
  by_cases hu : foldCase u = foldCase t
  · rw [if_pos hu, Option.getD_some, DocSet.mem_insert, hu]
    simp
  · rw [if_neg hu]
    simp [hu]

/-- An accepted call sets its cell. -/
theorem eq_set_of_add {matrix matrix' : IncidenceMatrix} {t doc : String}
    (h : matrix.add t doc = .ok matrix') : matrix' = matrix.set t doc := by
  unfold add add? at h
  cases ht : Text.isBlankText t <;> cases hdoc : Text.isBlankText doc <;>
    simp only [Option.filter, ht, hdoc, Bool.not_true, Bool.not_false, if_true, if_false,
      Bool.false_eq_true] at h
  · exact (Except.ok.inj h).symm
  all_goals cases h

/-- A matrix that was empty before a run of adds has the records of the adds. -/
theorem records_addAll {adds : List Occurrence} {matrix : IncidenceMatrix}
    (h : empty.addAll adds = .ok matrix) :
    Records adds matrix.registry matrix.documentsForTerm := by
  have hempty : Records [] empty.registry empty.documentsForTerm :=
    .nil fun _ _ => List.not_mem_nil
  refine foldlM_induction
    (fun adds (matrix : IncidenceMatrix) =>
      Records adds matrix.registry matrix.documentsForTerm)
    (fun before matrix a next hrecords hnext => ?_) hempty h
  rw [eq_set_of_add hnext]
  exact hrecords.add a (mem_documentsForTerm_set matrix a.term a.document)

end IncidenceMatrix

end BooleanRetrieval
