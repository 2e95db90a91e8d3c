import BooleanRetrieval.Build
import BooleanRetrieval.Proofs.Document.ReadableNames
import BooleanRetrieval.Proofs.Runs
import BooleanRetrieval.Proofs.Store.Presence

/-!
# Both stores of a build

A build files every word in both stores or in none, as long as no document with a blank id is read. So
its matrix is at all times the image of its index (`Mirrored`), also when a file fails behind some of
its words, and both stores give the same answers (`stores_give_equal_answers`).
-/

set_option autoImplicit false

namespace BooleanRetrieval

open Text (isBlankText)

/-- The matrix of the stores is the image of their index. -/
def Stores.Mirrored (stores : Stores) : Prop :=
  stores.matrix = some stores.index.presence

namespace Stores.Mirrored

variable {stores : Stores}

/-- A term that is not blank goes into both stores of a document whose id is not blank. -/
theorem add (h : stores.Mirrored) {t doc : String} (ht : isBlankText t = false)
    (hdoc : isBlankText doc = false) :
    (stores.add t doc).1.Mirrored := by
  have hadd : stores.index.presence.add t doc = .ok (stores.index.presence.set t doc) := by
    rw [IncidenceMatrix.add_eq, ht, hdoc]
    rfl
  unfold Stores.add
  rw [h]
  dsimp only
  rw [hadd, ← InvertedIndex.presence_addCount stores.index t doc 1]
  rfl

/-- A word of a document whose id is not blank goes into both stores or, if it cannot be normalized, into
none. -/
theorem takeWord (h : stores.Mirrored) (builder : Builder) {doc : String}
    (hdoc : isBlankText doc = false) (word : String) :
    (builder.takeWord doc stores word).1.Mirrored := by
  unfold Builder.takeWord
  split
  · exact h
  · split
    · exact h
    · next hterm => exact h.add (Bool.eq_false_iff.mpr hterm) hdoc

end Stores.Mirrored

namespace Builder

variable {builder : Builder} {intake : Intake}

/-- What happens while a document is read keeps the stores mirrored, wherever it stops. -/
theorem mirrored_takeEvents (h : intake.stores.Mirrored) {doc : String}
    (hdoc : isBlankText doc = false) (events : List ReadEvent) :
    (builder.takeEvents doc intake events).1.stores.Mirrored := by
  induction events generalizing intake with
  | nil => exact h
  | cons event events ih =>
    cases event with
    | cancel => exact ih h
    | word w =>
      unfold takeEvents
      split
      · exact h
      · have hstores := h.takeWord builder hdoc w
        split
        · next stores hword =>
          rw [hword] at hstores
          exact ih hstores
        · next stores failure hword =>
          rw [hword] at hstores
          exact hstores

/-- A file of a build whose readable files have ids that are not blank keeps the stores mirrored. -/
theorem mirrored_takeFile (h : intake.stores.Mirrored) (tree : FileTree) {path : String}
    (hpath : (Reader.forFile builder.readers path).isSome → isBlankText (documentId path) = false) :
    (builder.takeFile tree intake path).1.stores.Mirrored := by
  unfold takeFile
  split
  · exact h
  · split
    · exact h
    · next reader hreader =>
      have hdoc : isBlankText (documentId path) = false := hpath (by rw [hreader]; rfl)
      split
      · exact h
      · next bytes _ =>
        have hevents : (builder.takeEvents (documentId path) intake
            (reader.read bytes).events).1.stores.Mirrored := mirrored_takeEvents h hdoc _
        dsimp only
        split
        · next hstop =>
          rw [hstop] at hevents
          exact hevents
        · next hstop =>
          rw [hstop] at hevents
          exact hevents
        · next hstop =>
          rw [hstop] at hevents
          exact hevents

/-- Files taken in one after another keep the stores alike, when no document of theirs has a blank id. -/
theorem mirrored_takeFiles {s : BuildState} (h : s.intake.stores.Mirrored)
    (treeAfter : List LogRecord → FileTree) {paths : List String}
    (hpaths : ∀ path ∈ paths,
      (Reader.forFile builder.readers path).isSome → isBlankText (documentId path) = false) :
    (builder.takeFiles treeAfter s paths).intake.stores.Mirrored := by
  induction paths generalizing s with
  | nil => exact h
  | cons path paths ih =>
    obtain ⟨hpath, hpaths⟩ := List.forall_mem_cons.mp hpaths
    have hfile := mirrored_takeFile h (treeAfter s.log) hpath
    unfold takeFiles
    split
    · next intake hstop =>
      rw [hstop] at hfile
      exact hfile
    · next intake outcome hstop =>
      rw [hstop] at hfile
      exact ih hfile hpaths

/-- The stores of a build by one worker that returns are mirrored. -/
theorem mirrored_build {treeAfter : List LogRecord → FileTree} {paths : List String}
    {cancelled : Bool} {built : Built} (hmatrix : builder.withMatrix = true)
    (hpaths : ∀ path ∈ paths,
      (Reader.forFile builder.readers path).isSome → isBlankText (documentId path) = false)
    (hbuild : builder.build treeAfter paths cancelled 1 = .ok built) :
    built.stores.Mirrored := by
  have hempty : (Stores.empty builder.withMatrix).Mirrored := by
    rw [hmatrix]
    rfl
  have hfiles := @mirrored_takeFiles builder
    ⟨⟨.empty builder.withMatrix, cancelled⟩, .empty, [opening paths.length 1]⟩ hempty treeAfter paths
    hpaths
  unfold build at hbuild
  dsimp only at hbuild
  rw [if_pos rfl] at hbuild
  split at hbuild
  · cases hbuild
  · obtain rfl := Except.ok.inj hbuild
    exact hfiles

/-- An index and a matrix give the same answers after any run of pairs, of which the index skips those
that the matrix refuses for a blank term or id, and after every build that returns in which no readable
file has a blank id, as none has for the usual readers. -/
theorem stores_give_equal_answers :
    (∀ (matrix : IncidenceMatrix) (t doc : String),
      ((∃ e, matrix.add t doc = .error e) ↔ isBlankText t = true ∨ isBlankText doc = true) ∧
        (isBlankText t = true ∨ isBlankText doc = true → matrix.call ⟨t, doc⟩ = matrix)) ∧
    (∀ calls : List Occurrence,
      Agree (InvertedIndex.afterCalls ((IncidenceMatrix.accepted calls).map fun o => (o, 1)))
        (IncidenceMatrix.afterCalls calls)) ∧
    (∀ (builder : Builder) (treeAfter : List LogRecord → FileTree) (paths : List String)
      (cancelled : Bool) (built : Built), builder.withMatrix = true →
      (∀ path ∈ paths,
        (Reader.forFile builder.readers path).isSome → isBlankText (documentId path) = false) →
      builder.build treeAfter paths cancelled 1 = .ok built →
      ∃ matrix, built.stores.matrix = some matrix ∧ Agree built.stores.index matrix) ∧
    ∀ path, (Reader.forFile Reader.defaults path).isSome → isBlankText (documentId path) = false := by
  refine ⟨?_, ?_, ?_, ?_⟩
  · intro matrix t doc
    constructor
    · rw [IncidenceMatrix.add_eq]
      cases isBlankText t <;> cases isBlankText doc <;> simp
    · intro hblank
      apply IncidenceMatrix.call_of_refused
      rcases hblank with hblank | hblank <;> simp [hblank]
  · intro calls
    rw [IncidenceMatrix.afterCalls_eq_presence]
    exact InvertedIndex.agree_presence _
  · intro builder treeAfter paths cancelled built hmatrix hpaths hbuild
    exact ⟨_, mirrored_build hmatrix hpaths hbuild, InvertedIndex.agree_presence _⟩
  · intro path hreader
    obtain ⟨reader, hreader⟩ := Option.isSome_iff_exists.mp hreader
    exact documentId_not_blank hreader

/-- A build whose only file fails behind two words, which both stores keep. -/
theorem stores_give_equal_answers_failing_file :
    let torn : Reader := ⟨.other "torn", [".txt"], fun _ => .failing ["Cat", "dog"] (.custom "torn")⟩
    let tree : FileTree := { entries := [(["a.txt"], .file [])] }
    ∃ built, (Builder.mk [torn] .ok true).build (fun _ => tree) ["a.txt"] false 1 = .ok built ∧
      (built.report.failedCount, built.stores.index.totalTokenCount) = (1, 2) ∧
      ∃ matrix, built.stores.matrix = some matrix ∧ Agree built.stores.index matrix := by
  intro torn tree
  have hnames : ∀ path ∈ ["a.txt"],
      (Reader.forFile [torn] path).isSome → isBlankText (documentId path) = false := by
    decide +kernel
  obtain ⟨built, hbuild, hnumbers⟩ : ∃ built,
      (Builder.mk [torn] .ok true).build (fun _ => tree) ["a.txt"] false 1 = .ok built ∧
        (built.report.failedCount, built.stores.index.totalTokenCount) = (1, 2) :=
    exists_eq_ok_of_toOption (by decide +kernel)
  exact ⟨built, hbuild, hnumbers, stores_give_equal_answers.2.2.1 (Builder.mk [torn] .ok true)
    (fun _ => tree) ["a.txt"] false built rfl hnames hbuild⟩

end Builder

end BooleanRetrieval
