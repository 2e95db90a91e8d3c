import BooleanRetrieval.Proofs.Build.Course
import BooleanRetrieval.Proofs.Runs
import Mathlib.Logic.Relation

/-!
# Workers that fill both stores

Several workers read one file each and file every word in the index first and then in the matrix. No
lock is held between the two, so that the turns of the workers mix in any order (`Crew.Step`), and a
build with one worker is one of these mixings (`Builder.run_takeFiles`). Whatever the order, nothing is
lost or filed twice (`Crew.Ledger`): when all workers are done, both stores have had the same
occurrences, except that the matrix refuses those of documents with blank names. A pool with fewer
workers than files only allows fewer mixings.
-/

set_option autoImplicit false

namespace BooleanRetrieval

open Relation (ReflTransGen)
open Text (isBlankText)

/-! ## Workers and their turns -/

/-- What a worker does with a term: it files it in one of the stores. -/
inductive Turn where
  | index (t : String)
  | matrix (t : String)
  deriving DecidableEq, Repr

namespace Turn

/-- The term of a turn. -/
def term : Turn → String
  | index t => t
  | matrix t => t

/-- The term that a turn files in the index. -/
def index? : Turn → Option String
  | index t => some t
  | matrix _ => none

/-- The term that a turn files in the matrix. -/
def matrix? : Turn → Option String
  | index _ => none
  | matrix t => some t

end Turn

/-- A worker with the document that it reads and what is still to be done, in its order. -/
structure Worker where
  document : String
  turns : List Turn
  deriving DecidableEq, Repr

namespace Worker

/-- The worker that starts on a file. It files each surviving word in the index and then in the
matrix. -/
def ofFile (normalize : String → String) (file : ReadFile) : Worker :=
  ⟨file.document, (file.survivors normalize).flatMap fun w =>
    [.index (normalize w), .matrix (normalize w)]⟩

/-- What a worker has still to file in a store, given the terms that its turns file there. -/
def left (filed? : Turn → Option String) (worker : Worker) : List Occurrence :=
  (worker.turns.filterMap filed?).map fun t => ⟨t, worker.document⟩

/-- A word whose term is not blank makes a turn on each store. -/
theorem ofFile_cons (normalize : String → String) (path w : String) (words : List String) :
    ofFile normalize ⟨path, w :: words⟩ =
      if isBlankText (normalize w) then ofFile normalize ⟨path, words⟩
      else ⟨documentId path,
        .index (normalize w) :: .matrix (normalize w) :: (ofFile normalize ⟨path, words⟩).turns⟩ := by
  unfold ofFile ReadFile.survivors
  by_cases h : isBlankText (normalize w) = true <;> simp [h, ReadFile.document]

/-- The worker of a file has no turn for a blank term. -/
theorem not_blank_of_mem_ofFile {normalize : String → String} {file : ReadFile} {turn : Turn}
    (h : turn ∈ (ofFile normalize file).turns) : isBlankText turn.term = false := by
  obtain ⟨w, hw, hturn⟩ := List.mem_flatMap.mp h
  have hterm : isBlankText (normalize w) = false := by simpa using (List.mem_filter.mp hw).2
  rcases List.mem_pair.mp hturn with rfl | rfl <;> exact hterm

/-- A turn that files a term in the store is the first of what is left. -/
theorem left_cons_some {filed? : Turn → Option String} {turn : Turn} {t : String}
    (h : filed? turn = some t) (document : String) (rest : List Turn) :
    left filed? ⟨document, turn :: rest⟩ = [⟨t, document⟩] ++ left filed? ⟨document, rest⟩ := by
  unfold left
  rw [List.filterMap_cons_some h]
  rfl

/-- A turn that files nothing in a store leaves what is still to be filed there. -/
theorem left_cons_none {filed? : Turn → Option String} {turn : Turn} (h : filed? turn = none)
    (document : String) (rest : List Turn) :
    left filed? ⟨document, turn :: rest⟩ = left filed? ⟨document, rest⟩ := by
  unfold left
  rw [List.filterMap_cons_none h]

/-- A worker files nothing of other documents than its own. -/
theorem count_left_eq_zero (filed? : Turn → Option String) (worker : Worker) {o : Occurrence}
    (h : o.document ≠ worker.document) : (worker.left filed?).count o = 0 := by
  apply List.count_eq_zero.mpr
  intro ho
  obtain ⟨t, -, rfl⟩ := List.mem_map.mp ho
  exact h rfl

/-- A store that every word goes into once is still to get all occurrences in a file. -/
theorem left_ofFile {filed? : Turn → Option String}
    (h : ∀ t, [Turn.index t, .matrix t].filterMap filed? = [t]) (normalize : String → String)
    (file : ReadFile) : (ofFile normalize file).left filed? = file.occurrences normalize := by
  unfold left ofFile ReadFile.occurrences
  dsimp only
  rw [List.filterMap_flatMap]
  simp only [h]
  rw [← List.map_eq_flatMap, List.map_map]
  rfl

end Worker

/-- The stores and the workers that fill them. -/
structure Crew where
  index : InvertedIndex
  matrix : IncidenceMatrix
  workers : List Worker

namespace Crew

/-- What all workers have still to file in a store. -/
def left (filed? : Turn → Option String) (crew : Crew) : List Occurrence :=
  crew.workers.flatMap (Worker.left filed?)

/-- The crew before its first turn, with one worker for each file. -/
def start (normalize : String → String) (files : List ReadFile) : Crew :=
  ⟨.empty, .empty, files.map (Worker.ofFile normalize)⟩

/-- Some worker takes its next turn. An add is a single turn, since a document has its spelling as soon as
it is registered, and the order in which its postings then come leaves no trace. A worker whose occurrence
the matrix refuses gives up its file. -/
inductive Step : Crew → Crew → Prop
  | index (before after : List Worker) {index : InvertedIndex} {matrix : IncidenceMatrix}
      {document t : String} {rest : List Turn} :
      Step ⟨index, matrix, before ++ ⟨document, .index t :: rest⟩ :: after⟩
        ⟨index.addCount t document 1, matrix, before ++ ⟨document, rest⟩ :: after⟩
  | matrix (before after : List Worker) {index : InvertedIndex} {matrix filled : IncidenceMatrix}
      {document t : String} {rest : List Turn} (h : matrix.add t document = .ok filled) :
      Step ⟨index, matrix, before ++ ⟨document, .matrix t :: rest⟩ :: after⟩
        ⟨index, filled, before ++ ⟨document, rest⟩ :: after⟩
  | refused (before after : List Worker) {index : InvertedIndex} {matrix : IncidenceMatrix}
      {document t : String} {rest : List Turn} {e : CellError} (h : matrix.add t document = .error e) :
      Step ⟨index, matrix, before ++ ⟨document, .matrix t :: rest⟩ :: after⟩
        ⟨index, matrix, before ++ ⟨document, []⟩ :: after⟩

/-- All workers are done. -/
def Finished (crew : Crew) : Prop :=
  ∀ worker ∈ crew.workers, worker.turns = []

instance (crew : Crew) : Decidable crew.Finished :=
  inferInstanceAs (Decidable (∀ worker ∈ crew.workers, _))

/-! ## The ledger -/

/-- What there is to file, what was filed in each store, and what workers have still to do. -/
structure Ledger (total indexed matrixed : List Occurrence) (crew : Crew) : Prop where
  index : InvertedIndex.empty.addAll (indexed.map CountedAdd.once) = .ok crew.index
  matrix : IncidenceMatrix.empty.addAll matrixed = .ok crew.matrix
  terms : ∀ worker ∈ crew.workers, ∀ turn ∈ worker.turns, isBlankText turn.term = false
  notBlank : ∀ o ∈ matrixed, isBlankText o.document = false
  /-- Nothing is filed in the index that is not there to be filed. -/
  indexedLe : ∀ o, indexed.count o + (crew.left Turn.index?).count o ≤ total.count o
  /-- Only of documents with blank names are occurrences given up. -/
  indexedEq : ∀ o, isBlankText o.document = false →
    indexed.count o + (crew.left Turn.index?).count o = total.count o
  matrixedEq : ∀ o, isBlankText o.document = false →
    matrixed.count o + (crew.left Turn.matrix?).count o = total.count o

/-- One more occurrence in the index is one more add. -/
theorem addAll_index_append {indexed : List Occurrence} {index : InvertedIndex}
    (h : InvertedIndex.empty.addAll (indexed.map CountedAdd.once) = .ok index) (o : Occurrence) :
    InvertedIndex.empty.addAll ((indexed ++ [o]).map CountedAdd.once) =
      .ok (index.addCount o.term o.document 1) := by
  rw [List.map_append]
  exact InvertedIndex.addAll_concat h (CountedAdd.once o) rfl

/-- At the start everything is still to be filed. -/
theorem left_start (filed? : Turn → Option String)
    (h : ∀ t, [Turn.index t, .matrix t].filterMap filed? = [t]) (normalize : String → String)
    (files : List ReadFile) :
    (start normalize files).left filed? = files.flatMap (ReadFile.occurrences normalize) := by
  unfold start left
  rw [List.flatMap_map]
  exact List.flatMap_congr fun file _ => Worker.left_ofFile h normalize file

/-- The ledger holds at the start. -/
theorem ledger_start (normalize : String → String) (files : List ReadFile) :
    Ledger (files.flatMap (ReadFile.occurrences normalize)) [] [] (start normalize files) := by
  have hindex := left_start Turn.index? (fun _ => rfl) normalize files
  have hmatrix := left_start Turn.matrix? (fun _ => rfl) normalize files
  constructor
  case index => rfl
  case matrix => rfl
  case terms =>
    intro worker hworker turn hturn
    obtain ⟨file, -, rfl⟩ := List.mem_map.mp hworker
    exact Worker.not_blank_of_mem_ofFile hturn
  case notBlank => simp
  case indexedLe => simp [hindex]
  case indexedEq => simp [hindex]
  case matrixedEq => simp [hmatrix]

/-- What is left with a crew is what is left with one of its workers and with those on either side. -/
theorem count_left (filed? : Turn → Option String) (index : InvertedIndex) (matrix : IncidenceMatrix)
    (before after : List Worker) (worker : Worker) (o : Occurrence) :
    (left filed? ⟨index, matrix, before ++ worker :: after⟩).count o =
      (before.flatMap (Worker.left filed?)).count o +
        ((worker.left filed?).count o + (after.flatMap (Worker.left filed?)).count o) := by
  unfold left
  rw [List.flatMap_append, List.count_append, List.flatMap_cons, List.count_append]

/-- One worker changes, and the ledger stays balanced, if what is filed more and what the worker has
less to do make up for each other. -/
theorem Ledger.exchange {total indexed matrixed indexed' matrixed' : List Occurrence}
    {index index' : InvertedIndex} {matrix matrix' : IncidenceMatrix} {before after : List Worker}
    {worker worker' : Worker}
    (h : Ledger total indexed matrixed ⟨index, matrix, before ++ worker :: after⟩)
    (hindex : InvertedIndex.empty.addAll (indexed'.map CountedAdd.once) = .ok index')
    (hmatrix : IncidenceMatrix.empty.addAll matrixed' = .ok matrix')
    (hturns : ∀ turn ∈ worker'.turns, turn ∈ worker.turns)
    (hnotBlank : ∀ o ∈ matrixed', isBlankText o.document = false)
    (hle : ∀ o, indexed'.count o + (worker'.left Turn.index?).count o ≤
      indexed.count o + (worker.left Turn.index?).count o)
    (heq : ∀ o, isBlankText o.document = false →
      indexed'.count o + (worker'.left Turn.index?).count o =
        indexed.count o + (worker.left Turn.index?).count o ∧
      matrixed'.count o + (worker'.left Turn.matrix?).count o =
        matrixed.count o + (worker.left Turn.matrix?).count o) :
    Ledger total indexed' matrixed' ⟨index', matrix', before ++ worker' :: after⟩ where
  index := hindex
  matrix := hmatrix
  terms other hother turn hturn := by
    rcases List.mem_append.mp hother with hmem | hmem
    · exact h.terms other (List.mem_append_left _ hmem) turn hturn
    · rcases List.mem_cons.mp hmem with rfl | hmem
      · exact h.terms worker (List.mem_append_right _ List.mem_cons_self) turn (hturns turn hturn)
      · exact h.terms other (List.mem_append_right _ (List.mem_cons_of_mem _ hmem)) turn hturn
  notBlank := hnotBlank
  indexedLe o := by
    have hbalance := h.indexedLe o
    have hworker := hle o
    rw [count_left] at hbalance ⊢
    omega
  indexedEq o ho := by
    have hbalance := h.indexedEq o ho
    have hworker := (heq o ho).1
    rw [count_left] at hbalance ⊢
    omega
  matrixedEq o ho := by
    have hbalance := h.matrixedEq o ho
    have hworker := (heq o ho).2
    rw [count_left] at hbalance ⊢
    omega

/-- A turn is entered in the ledger: what was still to be filed has been filed, or is of a document
with a blank name. -/
theorem Ledger.step {total indexed matrixed : List Occurrence} {crew next : Crew}
    (h : Ledger total indexed matrixed crew) (hstep : Step crew next) :
    ∃ indexed' matrixed', Ledger total indexed' matrixed' next := by
  cases hstep with
  | @index before after index matrix document t rest =>
    have hterm : Turn.index? (.index t) = some t := rfl
    have hfiled : ∀ o, (indexed ++ [Occurrence.mk t document]).count o +
        (Worker.left Turn.index? ⟨document, rest⟩).count o =
        indexed.count o + (Worker.left Turn.index? ⟨document, .index t :: rest⟩).count o := by
      intro o
      rw [Worker.left_cons_some hterm, List.count_append, List.count_append]
      omega
    have hkept := Worker.left_cons_none (rfl : Turn.matrix? (.index t) = none) document rest
    exact ⟨indexed ++ [⟨t, document⟩], matrixed,
      h.exchange (addAll_index_append h.index ⟨t, document⟩) h.matrix
        (fun _ => List.mem_cons_of_mem _) h.notBlank (fun o => (hfiled o).le)
        fun o _ => ⟨hfiled o, by rw [hkept]⟩⟩
  | @matrix before after index matrix filled document t rest hadd =>
    -- the matrix has taken the pair, so the document is not blank
    have hdocument : isBlankText document = false := by
      cases hblank : isBlankText document with
      | false => rfl
      | true =>
        rw [IncidenceMatrix.add_eq, hblank] at hadd
        split at hadd <;> cases hadd
    have hterm : Turn.matrix? (.matrix t) = some t := rfl
    have hfiled : ∀ o, (matrixed ++ [Occurrence.mk t document]).count o +
        (Worker.left Turn.matrix? ⟨document, rest⟩).count o =
        matrixed.count o + (Worker.left Turn.matrix? ⟨document, .matrix t :: rest⟩).count o := by
      intro o
      rw [Worker.left_cons_some hterm, List.count_append, List.count_append]
      omega
    have hkept := Worker.left_cons_none (rfl : Turn.index? (.matrix t) = none) document rest
    refine ⟨indexed, matrixed ++ [⟨t, document⟩],
      h.exchange h.index (IncidenceMatrix.addAll_concat h.matrix ⟨t, document⟩ hadd)
        (fun _ => List.mem_cons_of_mem _) ?_
        (fun o => by rw [hkept]) fun o _ => ⟨by rw [hkept], hfiled o⟩⟩
    intro o ho
    rcases List.mem_append.mp ho with ho | ho
    · exact h.notBlank o ho
    · rwa [List.mem_singleton.mp ho]
  | @refused before after index matrix document t rest e hadd =>
    have hmem : ⟨document, .matrix t :: rest⟩ ∈ before ++ ⟨document, .matrix t :: rest⟩ :: after :=
      List.mem_append_right before List.mem_cons_self
    -- the terms of turns are not blank, so it is the document that is refused
    have hdocument : isBlankText document = true := by
      have ht : isBlankText t = false := h.terms _ hmem (.matrix t) List.mem_cons_self
      cases hblank : isBlankText document with
      | true => rfl
      | false =>
        rw [IncidenceMatrix.add_eq, ht, hblank] at hadd
        cases hadd
    have hnone : ∀ filed?, Worker.left filed? ⟨document, []⟩ = [] := fun _ => rfl
    refine ⟨indexed, matrixed, h.exchange h.index h.matrix
      (fun _ hturn => absurd hturn List.not_mem_nil) h.notBlank ?_ ?_⟩
    · intro o
      rw [hnone, List.count_nil]
      exact Nat.le_add_right _ _
    · -- what is given up is of the document of the worker, which is blank
      intro o ho
      have hne : o.document ≠ document := by
        rintro rfl
        rw [ho] at hdocument
        cases hdocument
      have hgivenUp :=
        fun filed? => Worker.count_left_eq_zero filed? ⟨document, .matrix t :: rest⟩ hne
      rw [hgivenUp, hgivenUp, hnone, hnone]
      exact ⟨rfl, rfl⟩

/-- Every crew that comes of a run has a ledger. -/
theorem exists_ledger {normalize : String → String} {files : List ReadFile} {crew : Crew}
    (hrun : ReflTransGen Step (start normalize files) crew) :
    ∃ indexed matrixed,
      Ledger (files.flatMap (ReadFile.occurrences normalize)) indexed matrixed crew := by
  induction hrun with
  | refl => exact ⟨[], [], ledger_start normalize files⟩
  | tail _ hstep ih =>
    obtain ⟨indexed, matrixed, h⟩ := ih
    exact h.step hstep

/-! ## One more worker -/

/-- A crew with one more worker. -/
def join (crew : Crew) (worker : Worker) : Crew :=
  { crew with workers := crew.workers ++ [worker] }

/-- Workers can take their turns also when there is one more of them. -/
theorem Step.join {crew next : Crew} (h : Step crew next) (worker : Worker) :
    Step (crew.join worker) (next.join worker) := by
  unfold Crew.join
  cases h with
  | index before after =>
    simp only [List.append_assoc, List.cons_append]
    exact .index before _
  | matrix before after hadd =>
    simp only [List.append_assoc, List.cons_append]
    exact .matrix before _ hadd
  | refused before after hadd =>
    simp only [List.append_assoc, List.cons_append]
    exact .refused before _ hadd

/-- A run goes on in the same way beside one more worker. -/
theorem run_join {crew next : Crew} (h : ReflTransGen Step crew next) (worker : Worker) :
    ReflTransGen Step (crew.join worker) (next.join worker) :=
  h.lift (join · worker) fun _ _ hstep => hstep.join worker

/-! ## When all is done -/

/-- Both lists hold what there was to file, except that documents with blank names may be missing, and
are missing from the second list. -/
structure Filed (total indexed matrixed : List Occurrence) : Prop where
  subset : ∀ o ∈ indexed, o ∈ total
  notBlank : ∀ o ∈ matrixed, isBlankText o.document = false
  mem_indexed : ∀ o, isBlankText o.document = false → (o ∈ indexed ↔ o ∈ total)
  mem_matrixed : ∀ o, isBlankText o.document = false → (o ∈ matrixed ↔ o ∈ total)

/-- When all is done nothing is left to be filed. -/
theorem Finished.left_eq_nil {crew : Crew} (h : crew.Finished) (filed? : Turn → Option String) :
    crew.left filed? = [] := by
  apply List.flatMap_eq_nil_iff.mpr
  intro worker hworker
  unfold Worker.left
  rw [h worker hworker]
  rfl

/-- When all is done the ledger holds what there was to file. -/
theorem Ledger.filed {total indexed matrixed : List Occurrence} {crew : Crew}
    (h : Ledger total indexed matrixed crew) (hfinished : crew.Finished) :
    Filed total indexed matrixed := by
  have hle := h.indexedLe
  have heq := h.indexedEq
  have heq' := h.matrixedEq
  simp only [hfinished.left_eq_nil, List.count_nil, Nat.add_zero] at hle heq heq'
  constructor
  case subset =>
    intro o ho
    exact List.count_pos_iff.mp ((List.count_pos_iff.mpr ho).trans_le (hle o))
  case notBlank => exact h.notBlank
  case mem_indexed =>
    intro o ho
    rw [← List.count_pos_iff, heq o ho, List.count_pos_iff]
  case mem_matrixed =>
    intro o ho
    rw [← List.count_pos_iff, heq' o ho, List.count_pos_iff]

/-- The index has had one add for each occurrence of the first list. -/
theorem Ledger.index_eq {total indexed matrixed : List Occurrence} {crew : Crew}
    (h : Ledger total indexed matrixed crew) :
    crew.index = .afterCalls (indexed.map CountedAdd.once) :=
  (foldl_eq_of_foldlM (fun index a next hadd => by rw [InvertedIndex.call, hadd]; rfl) h.index).symm

/-- The matrix has had one add for each occurrence of the second list. -/
theorem Ledger.matrix_eq {total indexed matrixed : List Occurrence} {crew : Crew}
    (h : Ledger total indexed matrixed crew) : crew.matrix = .afterCalls matrixed :=
  (foldl_eq_of_foldlM (fun matrix a next hadd => by rw [IncidenceMatrix.call, hadd]; rfl) h.matrix).symm

/-- In the end, the matrix has had no more adds than the index. -/
theorem Ledger.length_le {total indexed matrixed : List Occurrence} {crew : Crew}
    (h : Ledger total indexed matrixed crew) (hfinished : crew.Finished) :
    matrixed.length ≤ indexed.length := by
  have hsubperm : matrixed.Subperm indexed := by
    rw [List.subperm_ext_iff]
    intro o ho
    have hnotBlank := h.notBlank o ho
    have hindexed := h.indexedEq o hnotBlank
    have hmatrixed := h.matrixedEq o hnotBlank
    simp only [hfinished.left_eq_nil, List.count_nil, Nat.add_zero] at hindexed hmatrixed
    omega
  exact hsubperm.length_le

end Crew

/-! ## One worker -/

namespace Builder

open Crew (Step)

variable {builder : Builder}

/-- The turns that a word gives to the worker of its file: none if it cannot be normalized, and then no later
word gives any. -/
theorem ofFile_wordsOf (builder : Builder) (path w : String) (events : List ReadEvent)
    (error : Option ReadError) :
    Worker.ofFile builder.termOf ⟨path, builder.wordsOf ⟨.word w :: events, error⟩⟩ =
      match builder.normalize w with
      | .error _ => ⟨documentId path, []⟩
      | .ok t =>
        let rest := Worker.ofFile builder.termOf ⟨path, builder.wordsOf ⟨events, error⟩⟩
        if isBlankText t then rest else ⟨documentId path, .index t :: .matrix t :: rest.turns⟩ := by
  unfold wordsOf
  rw [Reading.words_word, List.takeWhile_cons]
  cases hnormalize : builder.normalize w with
  | error complaint =>
    have hcomplaint : builder.complaint? w = some complaint := by rw [complaint?, hnormalize]
    rw [hcomplaint]
    rfl
  | ok t =>
    rw [complaint?_of_normalize hnormalize, Option.isNone_none, if_pos rfl, Worker.ofFile_cons,
      termOf_of_normalize hnormalize]

/-- Taking in a file word by word is a run of its worker, unless it is found that the build is cancelled. -/
theorem run_takeEvents (builder : Builder) (path : String) (before after : List Worker)
    (reading : Reading) (index : InvertedIndex) (matrix : IncidenceMatrix) :
    let result := builder.takeEvents (documentId path) ⟨⟨index, some matrix⟩, false⟩ reading.events
    result.1.cancelled = true ∨ ∃ index' matrix', result.1 = ⟨⟨index', some matrix'⟩, false⟩ ∧
      result.2 ≠ some .cancelled ∧
      ReflTransGen Step
        ⟨index, matrix, before ++ Worker.ofFile builder.termOf ⟨path, builder.wordsOf reading⟩ :: after⟩
        ⟨index', matrix', before ++ ⟨documentId path, []⟩ :: after⟩ := by
  obtain ⟨events, error⟩ := reading
  dsimp only
  induction events generalizing index matrix with
  | nil => exact .inr ⟨index, matrix, rfl, by simp [takeEvents], .refl⟩
  | cons event events ih =>
    cases event with
    | cancel =>
      refine .inl ?_
      rw [takeEvents, takeEvents_cancelled]
    | word w =>
      rw [takeEvents, if_neg Bool.false_ne_true, ofFile_wordsOf, takeWord]
      dsimp only
      cases builder.normalize w with
      | error complaint => exact .inr ⟨index, matrix, rfl, by simp, .refl⟩
      | ok t =>
        dsimp only
        by_cases hterm : isBlankText t = true
        · rw [if_pos hterm, if_pos hterm]
          exact ih index matrix
        · -- a term with letters takes two turns, of which the second may be refused
          rw [if_neg hterm, if_neg hterm, Stores.add]
          dsimp only
          cases hadd : matrix.add t (documentId path) with
          | ok filled =>
            rcases ih (index.addCount t (documentId path) 1) filled with
              hcancelled | ⟨index', matrix', htake, hstop, hrun⟩
            · exact .inl hcancelled
            · exact .inr ⟨index', matrix', htake, hstop,
                .head (.index before after) (.head (.matrix before after hadd) hrun)⟩
          | error e =>
            exact .inr ⟨_, matrix, rfl, by simp,
              .head (.index before after) (.head (.refused before after hadd) .refl)⟩

/-- Taking in a file is a run of the worker on the words that are read from it. -/
theorem run_takeFile (builder : Builder) (tree : FileTree) (path : String)
    (before after : List Worker) (index : InvertedIndex) (matrix : IncidenceMatrix) :
    let result := builder.takeFile tree ⟨⟨index, some matrix⟩, false⟩ path
    result.1.cancelled = true ∨ ∃ index' matrix' outcome,
      result = (⟨⟨index', some matrix'⟩, false⟩, some outcome) ∧
      ReflTransGen Step
        ⟨index, matrix,
          before ++ Worker.ofFile builder.termOf ⟨path, builder.wordsOfFile tree path⟩ :: after⟩
        ⟨index', matrix', before ++ ⟨documentId path, []⟩ :: after⟩ := by
  dsimp only
  unfold takeFile wordsOfFile
  rw [if_neg Bool.false_ne_true]
  cases Reader.forFile builder.readers path with
  | none => exact .inr ⟨index, matrix, _, rfl, .refl⟩
  | some reader =>
    dsimp only
    cases tree.readText path with
    | error e => exact .inr ⟨index, matrix, _, rfl, .refl⟩
    | ok bytes =>
      have hevents := run_takeEvents builder path before after (reader.read bytes) index matrix
      dsimp only at hevents ⊢
      rcases htake : builder.takeEvents (documentId path) ⟨⟨index, some matrix⟩, false⟩
        (reader.read bytes).events with ⟨intake, stop⟩
      rw [htake] at hevents
      rcases hevents with hcancelled | ⟨index', matrix', rfl, hstop, hrun⟩
      · left
        cases stop with
        | none => exact hcancelled
        | some stop => cases stop <;> exact hcancelled
      · right
        match stop, hstop with
        | some .cancelled, hstop => exact absurd rfl hstop
        | some (.refused failure), _ => exact ⟨index', matrix', _, rfl, hrun⟩
        | none, _ => exact ⟨index', matrix', _, rfl, hrun⟩

/-- Taking in files one after the other is a run in which each worker begins when the one before it is
done, unless it is found that the build is cancelled. -/
theorem run_takeFiles (builder : Builder) (treeAfter : List LogRecord → FileTree)
    (paths : List String) (index : InvertedIndex) (matrix : IncidenceMatrix) (report : BuildReport)
    (log : List LogRecord) :
    let s := builder.takeFiles treeAfter ⟨⟨⟨index, some matrix⟩, false⟩, report, log⟩ paths
    s.intake.cancelled = true ∨
    ∃ (files : List ReadFile) (index' : InvertedIndex) (matrix' : IncidenceMatrix),
      files.map ReadFile.path = paths ∧ s.intake = ⟨⟨index', some matrix'⟩, false⟩ ∧
      ∀ before, ReflTransGen Step
        ⟨index, matrix, before ++ files.map (Worker.ofFile builder.termOf)⟩
        ⟨index', matrix', before ++ files.map fun file => ⟨file.document, []⟩⟩ := by
  dsimp only
  induction paths generalizing index matrix report log with
  | nil => exact .inr ⟨[], index, matrix, rfl, rfl, fun _ => .refl⟩
  | cons path paths ih =>
    let file : ReadFile := ⟨path, builder.wordsOfFile (treeAfter log) path⟩
    have hfile := run_takeFile builder (treeAfter log) path
    rw [takeFiles]
    -- the stores do not depend on the other workers, so they are first read off without them
    rcases hfile [] [] index matrix with hcancelled | ⟨index₁, matrix₁, outcome, htake, -⟩
    · left
      rcases htake : builder.takeFile (treeAfter log) ⟨⟨index, some matrix⟩, false⟩ path with
        ⟨⟨stores, cancelled⟩, outcome⟩
      rw [htake] at hcancelled
      obtain rfl : cancelled = true := hcancelled
      cases outcome with
      | none => rfl
      | some outcome => dsimp only; rw [takeFiles_cancelled]
    · rw [htake]
      rcases ih index₁ matrix₁ (report.record path outcome) (log ++ outcome.records path) with
        hcancelled | ⟨files, index', matrix', hpaths, hintake, hrun⟩
      · exact .inl hcancelled
      · refine .inr ⟨file :: files, index', matrix', by rw [List.map_cons, hpaths], hintake,
          fun before => ?_⟩
        rcases hfile before (files.map (Worker.ofFile builder.termOf)) index matrix with
          hcancelled | ⟨index₂, matrix₂, outcome', htake', hrun'⟩
        · rw [htake] at hcancelled
          cases hcancelled
        · rw [htake] at htake'
          cases htake'
          -- the worker of this file is done and stays, done, before those of the files to come
          have hothers := hrun (before ++ [⟨file.document, []⟩])
          rw [List.append_assoc, List.append_assoc] at hothers
          exact hrun'.trans hothers

end Builder

end BooleanRetrieval
