import BooleanRetrieval.Proofs.Build.Pool
import BooleanRetrieval.Proofs.Search.Meaning
import BooleanRetrieval.Proofs.Saved.Shape

/-!
# Where stores come from

A store is built, by one worker or by several, or loaded from a saved file, and it may get further adds
(`Reachable`). Whatever its history and whatever the files held, it is what a list of adds makes of an
empty store, all of which succeed (`Filled`): an add extends the list, and building and loading only ever
add. So the collection that is searched knows each document under one spelling
(`FilledBy.injOn_foldCase`).
-/

set_option autoImplicit false

namespace BooleanRetrieval

open Relation (ReflTransGen)
open Text (foldCase)

/-- What every accepted step keeps is kept by a run in which all are accepted. -/
theorem foldlM_keeps {σ ε α : Type} {P : σ → Prop} {step : σ → α → Except ε σ}
    (hstep : ∀ s a next, P s → step s a = .ok next → P next) {l : List α} {s final : σ} (h : P s)
    (hrun : l.foldlM step s = .ok final) : P final :=
  @foldlM_induction σ ε α step (fun _ s => P s) (fun _ s a next => hstep s a next) [] l s final h hrun

/-! ## The index -/

namespace InvertedIndex

/-- The indexes that can be come by. -/
inductive Reachable : InvertedIndex → Prop
  | empty : Reachable .empty
  | added {index next : InvertedIndex} {t doc : String} {count : Int} (h : Reachable index)
      (hadd : index.add t doc count = .ok next) : Reachable next
  | loaded {index : InvertedIndex} {tree : FileTree} {path : Path} {limits : NestingLimits}
      (hload : (load tree path limits).outcome = .ok index) : Reachable index
  | built {builder : Builder} {treeAfter : List LogRecord → FileTree} {paths : List String}
      {cancelled : Bool} {workers : Nat} {schedule : List Nat} {built : Built}
      (hbuild : builder.build treeAfter paths cancelled workers schedule = .ok built) :
      Reachable built.stores.index
  | shared {normalize : String → String} {files : List ReadFile} {crew : Crew}
      (hrun : ReflTransGen Crew.Step (.start normalize files) crew) : Reachable crew.index

/-- What the calls of a run leave behind is reachable. -/
theorem reachable_afterCalls (calls : List CountedAdd) : (afterCalls calls).Reachable := by
  refine List.foldlRecOn calls call .empty fun index hindex a _ => ?_
  unfold call
  cases hadd : index.add a.1.term a.1.document a.2 with
  | ok next => exact hindex.added hadd
  | error e => exact hindex

/-- The index is what some adds make of an empty one. -/
def Filled (index : InvertedIndex) : Prop :=
  ∃ adds : List CountedAdd, empty.addAll adds = .ok index

/-- An accepted call keeps the index filled. -/
theorem Filled.add {index next : InvertedIndex} {t doc : String} {count : Int} (h : index.Filled)
    (hadd : index.add t doc count = .ok next) : next.Filled := by
  obtain ⟨adds, hadds⟩ := h
  exact ⟨_, addAll_concat hadds (⟨t, doc⟩, count) hadd⟩

/-- Adding a count of at least one keeps the index filled. -/
theorem Filled.addCount {index : InvertedIndex} (h : index.Filled) (t doc : String) {n : Nat}
    (hn : 1 ≤ n) : (index.addCount t doc n).Filled := by
  have hadd : index.add t doc n = .ok (index.addCount t doc n) := add_of_le (Int.ofNat_le.mpr hn)
  exact h.add hadd

/-! ### Loading -/

/-- The frequency of a posting line is at least one. -/
theorem one_le_of_meaning {path t doc : String} {entry : Sections.Entry} {n : Nat}
    (h : meaning path entry = .posting t doc n) : 1 ≤ n := by
  unfold meaning at h
  split at h
  · cases h
  · dsimp only at h
    split at h
    · cases h
    · split at h
      · cases h
      · split at h
        · cases h
          exact Nat.le_add_left 1 _
        · cases h

/-- Loading the entries of a text file keeps the index filled. -/
theorem Filled.loadEntries {s : Loading} (h : s.index.Filled) (path : String)
    (entries : List Sections.Entry) : (loadEntries path s entries).1.index.Filled := by
  induction entries generalizing s with
  | nil => exact h
  | cons entry entries ih =>
    rw [InvertedIndex.loadEntries]
    split
    · next t doc n hmeaning => exact ih (h.addCount t doc (one_le_of_meaning hmeaning))
    · exact ih h
    · exact h

/-- A frequency accepted from a JSON file is at least one. -/
theorem one_le_of_frequencyOf? {value : Json} {n : Nat} (h : frequencyOf? value = some n) : 1 ≤ n := by
  unfold frequencyOf? at h
  split at h
  · split at h
    · obtain rfl := Option.some.inj h
      omega
    · cases h
  · obtain rfl := Option.some.inj h
    exact Nat.le_refl 1
  · cases h

/-- Loading the postings of one term keeps the index filled. -/
theorem Filled.loadPostings {s : Loading} (h : s.index.Filled) (shown : Nat) (path t : String)
    (members : List (String × Json)) : (loadPostings shown path t s members).1.index.Filled := by
  induction members generalizing s with
  | nil => exact h
  | cons member members ih =>
    rw [InvertedIndex.loadPostings]
    split
    · next n hn => exact ih (h.addCount t member.1 (one_le_of_frequencyOf? hn))
    · split
      · exact h
      · exact ih h

/-- Loading the terms of a JSON file keeps the index filled. -/
theorem Filled.loadTerms {s : Loading} (h : s.index.Filled) (shown : Nat) (path : String)
    (members : List (String × Json)) : (loadTerms shown path s members).1.index.Filled := by
  induction members generalizing s with
  | nil => exact h
  | cons member members ih =>
    rw [InvertedIndex.loadTerms.eq_def]
    split
    · exact h
    · next t entries rest heq =>
      cases heq
      have hentries := h.loadPostings shown path t entries
      split
      · next hread =>
        rw [hread] at hentries
        exact ih hentries
      · next hread =>
        rw [hread] at hentries
        exact hentries
    · exact h

/-- A loading that closes with an index closes with the one it has built. -/
theorem index_eq_of_close {s : Loading} {error : Option LoadError} {index : InvertedIndex}
    (h : (s.close error).outcome = .ok index) : index = s.index := by
  cases error with
  | none => exact (Except.ok.inj h).symm
  | some e => cases h

/-- The empty index is filled, by no adds. -/
theorem filled_empty : empty.Filled :=
  ⟨[], rfl⟩

/-- An index that is loaded is filled, whatever the file holds. -/
theorem filled_of_load {tree : FileTree} {path : Path} {limits : NestingLimits} {index : InvertedIndex}
    (h : (load tree path limits).outcome = .ok index) : index.Filled := by
  unfold load at h
  split at h
  · cases h
  · next bytes _ =>
    unfold loadBytes at h
    cases hformat : StoreFormat.ofPath path with
    | lines =>
      rw [hformat] at h
      rw [index_eq_of_close h]
      exact Filled.loadEntries filled_empty path.text _
    | json =>
      rw [hformat] at h
      dsimp only at h
      split at h
      · cases h
      · split at h
        · cases h
        · rw [index_eq_of_close h]
          exact Filled.loadTerms filled_empty limits.shown path.text _
        · cases h

end InvertedIndex

/-! ## The matrix -/

namespace IncidenceMatrix

/-- The matrices that can be come by. -/
inductive Reachable : IncidenceMatrix → Prop
  | empty : Reachable .empty
  | added {matrix next : IncidenceMatrix} {t doc : String} (h : Reachable matrix)
      (hadd : matrix.add t doc = .ok next) : Reachable next
  | loaded {matrix : IncidenceMatrix} {tree : FileTree} {path : Path} {limits : NestingLimits}
      (hload : (load tree path limits).outcome = .ok matrix) : Reachable matrix
  | built {matrix : IncidenceMatrix} {builder : Builder} {treeAfter : List LogRecord → FileTree}
      {paths : List String} {cancelled : Bool} {workers : Nat} {schedule : List Nat} {built : Built}
      (hbuild : builder.build treeAfter paths cancelled workers schedule = .ok built)
      (hmatrix : built.stores.matrix = some matrix) : Reachable matrix
  | shared {normalize : String → String} {files : List ReadFile} {crew : Crew}
      (hrun : ReflTransGen Crew.Step (.start normalize files) crew) : Reachable crew.matrix

/-- The matrix is what some adds make of an empty one. -/
def Filled (matrix : IncidenceMatrix) : Prop :=
  ∃ adds : List Occurrence, empty.addAll adds = .ok matrix

/-- The empty matrix is filled, by no adds. -/
theorem filled_empty : empty.Filled :=
  ⟨[], rfl⟩

/-- An accepted call keeps the matrix filled. -/
theorem Filled.add {matrix next : IncidenceMatrix} {t doc : String} (h : matrix.Filled)
    (hadd : matrix.add t doc = .ok next) : next.Filled := by
  obtain ⟨adds, hadds⟩ := h
  exact ⟨_, addAll_concat hadds ⟨t, doc⟩ hadd⟩

/-- A call that is refused leaves no trace. -/
theorem Filled.call {matrix : IncidenceMatrix} (h : matrix.Filled) (o : Occurrence) :
    (matrix.call o).Filled := by
  unfold IncidenceMatrix.call
  cases hadd : matrix.add o.term o.document with
  | ok filled => exact h.add hadd
  | error e => exact h

/-! ### Loading -/

/-- Loading the entries of a text file keeps the matrix filled. -/
theorem Filled.loadEntries {matrix loaded : IncidenceMatrix} (h : matrix.Filled) {path : String}
    {reports : List LogRecord} {entries : List Sections.Entry}
    (hload : (loadEntries path matrix reports entries).outcome = .ok loaded) : loaded.Filled := by
  induction entries generalizing matrix reports with
  | nil =>
    obtain rfl := Except.ok.inj hload
    exact h
  | cons entry entries ih =>
    rw [IncidenceMatrix.loadEntries] at hload
    split at hload
    · exact ih h hload
    · split at hload
      · next next hadd => exact ih (h.add hadd) hload
      · cases hload

/-- Only texts are filed. -/
theorem add_of_addListed {matrix next : IncidenceMatrix} {t : String} {item : Json}
    (h : matrix.addListed t item = .ok next) : ∃ doc, matrix.add t doc = .ok next := by
  cases item with
  | string doc =>
    refine ⟨doc, ?_⟩
    change (matrix.add t doc).mapError LoadError.cell = .ok next at h
    cases hadd : matrix.add t doc with
    | ok filled =>
      rw [hadd] at h
      obtain rfl := Except.ok.inj h
      rfl
    | error e =>
      rw [hadd] at h
      cases h
  | null =>
    cases ht : Text.isBlankText t <;> simp [addListed, add?, Option.filter, ht, Except.mapError] at h
  | bool | int | real | nan | infinity | array | object =>
    cases ht : Text.isBlankText t <;> simp [addListed, ht] at h

/-- Adding the documents of one member keeps the matrix filled. -/
theorem Filled.addMember {matrix next : IncidenceMatrix} (h : matrix.Filled) {member : String × Json}
    (hadd : matrix.addMember member = .ok next) : next.Filled := by
  unfold IncidenceMatrix.addMember at hadd
  cases hlisted : listed member.2 with
  | error e =>
    rw [hlisted] at hadd
    cases hadd
  | ok items =>
    rw [hlisted] at hadd
    refine foldlM_keeps (fun matrix item next hmatrix hitem => ?_) h hadd
    obtain ⟨doc, hdoc⟩ := add_of_addListed hitem
    exact hmatrix.add hdoc

/-- Loading the members of a JSON file keeps the matrix filled. -/
theorem Filled.loadTerms {matrix loaded : IncidenceMatrix} (h : matrix.Filled)
    {members : List (String × Json)} (hload : matrix.loadTerms members = .ok loaded) : loaded.Filled :=
  @foldlM_keeps _ _ _ Filled IncidenceMatrix.addMember
    (fun _ _ _ hmatrix hadd => hmatrix.addMember hadd) _ _ _ h hload

/-- A matrix read from a JSON file is filled by some adds. -/
theorem filled_of_ofJsonBytes {limits : NestingLimits} {bytes : List UInt8} {matrix : IncidenceMatrix}
    (h : ofJsonBytes limits bytes = .ok matrix) : matrix.Filled := by
  unfold ofJsonBytes at h
  cases htext : Encoding.decodeUtf8 bytes with
  | error e =>
    rw [htext] at h
    cases h
  | ok text =>
    rw [htext] at h
    cases hvalue : Json.parse limits.json (Text.unifyBreaks text) with
    | error e =>
      simp only [Except.mapError, bind, Except.bind, hvalue] at h
      cases h
    | ok value =>
      simp only [Except.mapError, bind, Except.bind, hvalue] at h
      unfold ofJson at h
      split at h
      · exact filled_empty.loadTerms h
      · cases h

/-- A matrix that is loaded is filled, whatever the file holds. -/
theorem filled_of_load {tree : FileTree} {path : Path} {limits : NestingLimits}
    {matrix : IncidenceMatrix} (h : (load tree path limits).outcome = .ok matrix) : matrix.Filled := by
  unfold load at h
  split at h
  · cases h
  · next bytes _ =>
    unfold loadBytes at h
    cases hformat : StoreFormat.ofPath path with
    | json =>
      rw [hformat] at h
      exact filled_of_ofJsonBytes h
    | lines =>
      rw [hformat] at h
      dsimp only at h
      split at h
      · cases h
      · exact filled_empty.loadEntries h

end IncidenceMatrix

/-! ## Builds -/

namespace Stores

/-- Each of the stores is filled. -/
def Filled (stores : Stores) : Prop :=
  stores.index.Filled ∧ ∀ matrix, stores.matrix = some matrix → matrix.Filled

/-- The stores a build starts from are filled. -/
theorem filled_empty (withMatrix : Bool) : (empty withMatrix).Filled := by
  refine ⟨InvertedIndex.filled_empty, fun matrix hmatrix => ?_⟩
  cases withMatrix with
  | false => cases hmatrix
  | true =>
    obtain rfl := Option.some.inj hmatrix
    exact IncidenceMatrix.filled_empty

/-- One occurrence of a build keeps both stores filled. -/
theorem Filled.fill {stores : Stores} (h : stores.Filled) (o : Occurrence) : (stores.fill o).Filled := by
  refine ⟨h.1.addCount o.term o.document (Nat.le_refl 1), fun matrix hmatrix => ?_⟩
  obtain ⟨matrix, hsome, rfl⟩ := Option.map_eq_some_iff.mp hmatrix
  exact (h.2 matrix hsome).call o

end Stores

namespace Builder

variable {builder : Builder} {treeAfter : List LogRecord → FileTree}

/-- A turn adds to the index or to the matrix, or it leaves the stores alone. -/
theorem Turns.filled {path : String} {s s' : BuildState} {stage stage' : Stage}
    (h : builder.Turns path s stage s' stage') (hs : s.intake.stores.Filled) :
    s'.intake.stores.Filled := by
  cases h with
  | index => exact ⟨hs.1.addCount _ _ (Nat.le_refl 1), hs.2⟩
  | matrix hsome hadd =>
    refine ⟨hs.1, fun matrix hmatrix => ?_⟩
    obtain rfl := Option.some.inj hmatrix
    exact (hs.2 _ hsome).add hadd
  | finish | cancel | halt | complain | skip | pass | refused | report | rest => exact hs

/-- The stores of every build that returns are filled. -/
theorem filled_of_build {paths : List String} {cancelled : Bool} {workers : Nat} {schedule : List Nat}
    {built : Built} (hbuild : builder.build treeAfter paths cancelled workers schedule = .ok built) :
    built.stores.Filled := by
  obtain rfl := cancelled_of_build hbuild
  obtain ⟨-, hstores, -⟩ := of_build_pooled_eq_ok hbuild
  rw [hstores]
  refine endState_induction (P := fun s => s.intake.stores.Filled) ?_ ?_
  · have hintake := takeFiles_intake_of_visits (Stores.hasMatrix_empty builder.withMatrix) treeAfter
      .empty [opening paths.length workers] paths
    unfold startState
    rw [show _ = _ from hintake]
    exact List.foldlRecOn _ _ (Stores.filled_empty _) fun stores hstores o _ => hstores.fill o
  · have hturn : builder.KeptByTurns fun s _ _ => s.intake.stores.Filled := by
      intro s before task after waiting h
      obtain ⟨s', stage, htake, hturn⟩ := builder.takeTurn_cases s task
      rw [htake]
      exact hturn.filled h
    have hbegin : builder.KeptByBeginnings treeAfter fun s _ _ => s.intake.stores.Filled := by
      intro s begun path waiting h
      obtain ⟨log, stage, hbegin, -⟩ := builder.beginTask_cases (treeAfter s.log) s path
      rw [hbegin]
      exact h
    exact takePooled_induction hturn hbegin workers schedule (Stores.filled_empty _)

end Builder

/-- An index is filled, however it was come by. -/
theorem InvertedIndex.Reachable.filled {index : InvertedIndex} (h : index.Reachable) :
    index.Filled := by
  induction h with
  | empty => exact filled_empty
  | added _ hadd ih => exact ih.add hadd
  | loaded hload => exact filled_of_load hload
  | built hbuild => exact (Builder.filled_of_build hbuild).1
  | shared hrun =>
    obtain ⟨indexed, matrixed, hledger⟩ := Crew.exists_ledger hrun
    exact ⟨_, hledger.index⟩

/-- A matrix is filled, however it was come by. -/
theorem IncidenceMatrix.Reachable.filled {matrix : IncidenceMatrix} (h : matrix.Reachable) :
    matrix.Filled := by
  induction h with
  | empty => exact filled_empty
  | added _ hadd ih => exact ih.add hadd
  | loaded hload => exact filled_of_load hload
  | built hbuild hmatrix => exact (Builder.filled_of_build hbuild).2 _ hmatrix
  | shared hrun =>
    obtain ⟨indexed, matrixed, hledger⟩ := Crew.exists_ledger hrun
    exact ⟨_, hledger.matrix⟩

/-! ## Collections -/

/-- The collections that can be searched: the read sides of the stores that can be come by. -/
inductive Accessor.Reachable : Accessor → Prop
  | index {index : InvertedIndex} (h : index.Reachable) : Reachable index.accessor
  | matrix {matrix : IncidenceMatrix} (h : matrix.Reachable) : Reachable matrix.accessor

/-- Every reachable accessor is filled by some sequence of adds, so what holds of filled stores holds of every
store a program can reach. -/
theorem Accessor.Reachable.exists_filledBy {accessor : Accessor} (h : accessor.Reachable) :
    ∃ adds, FilledBy adds accessor := by
  cases h with
  | index h =>
    obtain ⟨adds, hadds⟩ := h.filled
    exact ⟨_, .index hadds⟩
  | matrix h =>
    obtain ⟨adds, hadds⟩ := h.filled
    exact ⟨_, .matrix hadds⟩

/-- Documents of a filled collection are told apart by the case foldings of their ids. -/
theorem FilledBy.injOn_foldCase {adds : List Occurrence} {accessor : Accessor}
    (h : FilledBy adds accessor) {d e : String} (hd : d ∈ accessor.allDocuments)
    (he : e ∈ accessor.allDocuments) (hfold : foldCase d = foldCase e) : d = e := by
  have hfirst := (h.mem_allDocuments d).mp hd
  rw [firstSpelling_congr hfold, (h.mem_allDocuments e).mp he] at hfirst
  exact (Option.some.inj hfirst).symm

end BooleanRetrieval
