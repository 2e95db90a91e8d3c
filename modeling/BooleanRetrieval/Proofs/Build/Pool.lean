import BooleanRetrieval.Proofs.Build.Cancellation
import BooleanRetrieval.Proofs.Build.Crew

/-!
# Builds by a pool of workers

A pool changes by turns and by the beginnings of files, in whichever order its schedule has them, and goes
on until no file waits and each one that was begun is closed (`takePooled_closed`). So what every turn and
every beginning keep holds of its end (`takePooled_induction`). One such thing is that the pool so far is a
run of a crew with one worker for each file that was begun (`RunsAs`). Hence every build that returns, by
however many workers and in whatever order of their turns, is such a run (`exists_run`).
-/

set_option autoImplicit false

namespace BooleanRetrieval

open Relation (ReflTransGen)
open Text (isBlankText)

namespace Builder

open Crew (Step)

variable {builder : Builder} {treeAfter : List LogRecord → FileTree}

/-! ## Turns and beginnings -/

/-- The turns with the file at a path: what each makes of the build and of the stage of the file. -/
inductive Turns (builder : Builder) (path : String) : BuildState → Stage → BuildState → Stage → Prop
  | finish {s : BuildState} {error : Option ReadError} :
      Turns builder path s (.reading none ⟨[], error⟩)
        { s with log := s.log ++ (Reading.mk [] error).outcome.records path }
        (.ended (Reading.mk [] error).outcome)
  | cancel {s : BuildState} {rest : List ReadEvent} {error : Option ReadError} :
      Turns builder path s (.reading none ⟨.cancel :: rest, error⟩)
        { s with intake := { s.intake with cancelled := true } } (.reading none ⟨rest, error⟩)
  /-- The build is found to be cancelled before a word. -/
  | halt {s : BuildState} {w : String} {rest : List ReadEvent} {error : Option ReadError}
      (h : s.intake.cancelled = true) :
      Turns builder path s (.reading none ⟨.word w :: rest, error⟩) s .closed
  /-- A word cannot be normalized. -/
  | complain {s : BuildState} {w : String} {rest : List ReadEvent} {error : Option ReadError}
      {complaint : Complaint} (h : builder.normalize w = .error complaint) :
      Turns builder path s (.reading none ⟨.word w :: rest, error⟩)
        { s with log := s.log ++ (FileOutcome.failed (.normalizing complaint)).records path }
        (.ended (.failed (.normalizing complaint)))
  | skip {s : BuildState} {w t : String} {rest : List ReadEvent} {error : Option ReadError}
      (h : builder.normalize w = .ok t) (hblank : isBlankText t = true) :
      Turns builder path s (.reading none ⟨.word w :: rest, error⟩) s (.reading none ⟨rest, error⟩)
  | index {s : BuildState} {w t : String} {rest : List ReadEvent} {error : Option ReadError}
      (h : builder.normalize w = .ok t) (hblank : isBlankText t = false) :
      Turns builder path s (.reading none ⟨.word w :: rest, error⟩)
        { s with intake := { s.intake with stores :=
          ⟨s.intake.stores.index.addCount t (documentId path) 1, s.intake.stores.matrix⟩ } }
        (.reading (s.intake.stores.matrix.map fun _ => t) ⟨rest, error⟩)
  | pass {s : BuildState} {t : String} {rest : Reading} (h : s.intake.stores.matrix = none) :
      Turns builder path s (.reading (some t) rest) s (.reading none rest)
  | matrix {s : BuildState} {t : String} {rest : Reading} {matrix filled : IncidenceMatrix}
      (h : s.intake.stores.matrix = some matrix) (hadd : matrix.add t (documentId path) = .ok filled) :
      Turns builder path s (.reading (some t) rest)
        { s with intake := { s.intake with stores := ⟨s.intake.stores.index, some filled⟩ } }
        (.reading none rest)
  | refused {s : BuildState} {t : String} {rest : Reading} {matrix : IncidenceMatrix} {e : CellError}
      (h : s.intake.stores.matrix = some matrix) (hadd : matrix.add t (documentId path) = .error e) :
      Turns builder path s (.reading (some t) rest)
        { s with log := s.log ++ (FileOutcome.failed (.cell e)).records path } (.ended (.failed (.cell e)))
  | report {s : BuildState} {outcome : FileOutcome} :
      Turns builder path s (.ended outcome) { s with report := s.report.record path outcome } .closed
  | rest {s : BuildState} : Turns builder path s .closed s .closed

/-- What a turn can do. -/
theorem takeTurn_cases (builder : Builder) (s : BuildState) (task : Task) :
    ∃ s' stage, builder.takeTurn s task = (s', ⟨task.path, stage⟩) ∧
      builder.Turns task.path s task.stage s' stage := by
  obtain ⟨path, stage⟩ := task
  cases stage with
  | ended outcome => exact ⟨_, _, rfl, .report⟩
  | closed => exact ⟨_, _, rfl, .rest⟩
  | reading pending rest =>
    cases pending with
    | some t =>
      unfold takeTurn fileCell
      dsimp only
      cases hmatrix : s.intake.stores.matrix with
      | none => exact ⟨_, _, rfl, .pass hmatrix⟩
      | some matrix =>
        dsimp only
        cases hadd : matrix.add t (documentId path) with
        | error e => exact ⟨_, _, rfl, .refused hmatrix hadd⟩
        | ok filled => exact ⟨_, _, rfl, .matrix hmatrix hadd⟩
    | none =>
      obtain ⟨events, error⟩ := rest
      match events with
      | [] => exact ⟨_, _, rfl, .finish⟩
      | .cancel :: events => exact ⟨_, _, rfl, .cancel⟩
      | .word w :: events =>
        unfold takeTurn
        dsimp only
        rw [readNext]
        cases hcancelled : s.intake.cancelled with
        | true => exact ⟨_, _, rfl, .halt hcancelled⟩
        | false =>
          rw [if_neg Bool.false_ne_true]
          cases hnormalize : builder.normalize w with
          | error complaint => exact ⟨_, _, rfl, .complain hnormalize⟩
          | ok t =>
            dsimp only
            cases hblank : isBlankText t with
            | true => exact ⟨_, _, rfl, .skip hnormalize hblank⟩
            | false => exact ⟨_, _, rfl, .index hnormalize hblank⟩

/-- A file that is begun is read, or it has ended at once, or it is closed since the build is cancelled. The
stores and the report are left alone. -/
theorem beginTask_cases (builder : Builder) (tree : FileTree) (s : BuildState) (path : String) :
    ∃ log stage, builder.beginTask tree s path = ({ s with log := log }, ⟨path, stage⟩) ∧
      (s.intake.cancelled = true ∧ stage = .closed ∨ (∃ outcome, stage = .ended outcome) ∨
        ∃ reader ∈ builder.readers, ∃ bytes, stage = .reading none (reader.read bytes)) := by
  unfold beginTask
  cases hcancelled : s.intake.cancelled with
  | true => exact ⟨s.log, _, rfl, .inl ⟨rfl, rfl⟩⟩
  | false =>
    rw [if_neg Bool.false_ne_true]
    cases hreader : Reader.forFile builder.readers path with
    | none => exact ⟨_, _, rfl, .inr (.inl ⟨_, rfl⟩)⟩
    | some reader =>
      dsimp only
      cases tree.readText path with
      | error e => exact ⟨_, _, rfl, .inr (.inl ⟨_, rfl⟩)⟩
      | ok bytes =>
        have hmem : reader ∈ builder.readers := List.mem_of_find?_eq_some hreader
        exact ⟨s.log, _, rfl, .inr (.inr ⟨reader, hmem, bytes, rfl⟩)⟩

/-! ## The end of a pool -/

section

variable (pending : Option String) (t : String) (rest : Reading) (outcome : FileOutcome)

/-- A file of which no term waits has two turns for each event and two to end. -/
@[simp] theorem turnsLeft_none : (Stage.reading none rest).turnsLeft = 2 * rest.events.length + 2 := rfl

/-- A term that waits for the matrix takes one turn more. -/
@[simp] theorem turnsLeft_some : (Stage.reading (some t) rest).turnsLeft = 2 * rest.events.length + 3 := rfl

/-- An ended file has a turn left to be closed. -/
@[simp] theorem turnsLeft_ended : (Stage.ended outcome).turnsLeft = 1 := rfl

/-- A closed file has no turn left. -/
@[simp] theorem turnsLeft_closed : Stage.closed.turnsLeft = 0 := rfl

/-- A file that is read has a bounded number of turns left, whether a term waits or not. -/
theorem turnsLeft_reading_le :
    (Stage.reading pending rest).turnsLeft ≤ 2 * rest.events.length + 3 := by
  cases pending <;> simp

/-- A file that is read has a turn left. -/
theorem turnsLeft_pos : 0 < (Stage.reading pending rest).turnsLeft := by
  cases pending <;> simp

end

/-- Every turn leaves fewer of them. -/
theorem turnsLeft_takeTurn (builder : Builder) (s : BuildState) (task : Task) :
    (builder.takeTurn s task).2.stage.turnsLeft ≤ task.stage.turnsLeft - 1 := by
  obtain ⟨path, stage⟩ := task
  obtain ⟨s', stage', htake, hturn⟩ := builder.takeTurn_cases s ⟨path, stage⟩
  rw [htake]
  cases hturn with
  | index =>
    refine (turnsLeft_reading_le _ _).trans ?_
    simp only [turnsLeft_none, List.length_cons]
    omega
  | finish | cancel | halt | complain | skip | pass | matrix | refused | report | rest =>
    simp only [turnsLeft_none, turnsLeft_some, turnsLeft_ended, turnsLeft_closed, List.length_cons]
    omega

/-- A file is closed when all its turns are taken. -/
theorem closed_takeTurns (builder : Builder) {n : Nat} {s : BuildState} {task : Task}
    (h : task.stage.turnsLeft ≤ n) : (builder.takeTurns n s task).2.stage = .closed := by
  induction n generalizing s task with
  | zero =>
    obtain ⟨path, stage⟩ := task
    cases stage with
    | closed => rfl
    | ended outcome => cases h
    | reading pending rest => exact absurd h (Nat.not_le.mpr (turnsLeft_pos pending rest))
  | succ n ih =>
    have hless := turnsLeft_takeTurn builder s task
    exact @ih (builder.takeTurn s task).1 (builder.takeTurn s task).2 (by omega)

/-- Finishing the files that were begun closes each of them. -/
theorem closed_finishTasks (builder : Builder) (s : BuildState) (begun : List Task) :
    ∀ task ∈ (builder.finishTasks s begun).2, task.stage = .closed := by
  induction begun generalizing s with
  | nil => exact fun task htask => absurd htask List.not_mem_nil
  | cons first begun ih =>
    rw [finishTasks]
    exact List.forall_mem_cons.mpr ⟨closed_takeTurns builder (Nat.le_refl _), ih _⟩

/-- Finishing the files that wait closes each of them. -/
theorem closed_finishWaiting (builder : Builder) (treeAfter : List LogRecord → FileTree)
    (s : BuildState) (waiting : List String) :
    ∀ task ∈ (builder.finishWaiting treeAfter s waiting).2, task.stage = .closed := by
  induction waiting generalizing s with
  | nil => exact fun task htask => absurd htask List.not_mem_nil
  | cons path waiting ih =>
    rw [finishWaiting]
    exact List.forall_mem_cons.mpr ⟨closed_takeTurns builder (Nat.le_refl _), ih _⟩

/-- In the end all files are closed. -/
theorem takePooled_closed (builder : Builder) (treeAfter : List LogRecord → FileTree) (workers : Nat)
    (schedule : List Nat) (s : BuildState) (paths : List String) :
    ∀ task ∈ (builder.takePooled treeAfter workers schedule s paths).begun, task.stage = .closed := by
  unfold takePooled
  exact List.forall_mem_append.mpr ⟨closed_finishTasks builder _ _, closed_finishWaiting builder _ _ _⟩

/-! ## Induction over pools -/

section

variable {P : BuildState → List Task → List String → Prop}

/-- What a turn of any file keeps. -/
def KeptByTurns (builder : Builder) (P : BuildState → List Task → List String → Prop) : Prop :=
  ∀ s before task after waiting, P s (before ++ task :: after) waiting →
    P (builder.takeTurn s task).1 (before ++ (builder.takeTurn s task).2 :: after) waiting

/-- What the beginning of any file keeps. -/
def KeptByBeginnings (builder : Builder) (treeAfter : List LogRecord → FileTree)
    (P : BuildState → List Task → List String → Prop) : Prop :=
  ∀ s begun path waiting, P s begun (path :: waiting) →
    P (builder.beginTask (treeAfter s.log) s path).1
      (begun ++ [(builder.beginTask (treeAfter s.log) s path).2]) waiting

/-- What every turn keeps is kept by any number of turns with one file. -/
theorem keeps_takeTurns (hturn : builder.KeptByTurns P) {before after : List Task}
    {waiting : List String} (n : Nat) {s : BuildState} {task : Task}
    (h : P s (before ++ task :: after) waiting) :
    P (builder.takeTurns n s task).1 (before ++ (builder.takeTurns n s task).2 :: after) waiting := by
  induction n generalizing s task with
  | zero => exact h
  | succ n ih => exact ih (hturn s before task after waiting h)

/-- What every turn and every beginning keep is kept by a step of a pool. -/
theorem keeps_stepPool (hturn : builder.KeptByTurns P) (hbegin : builder.KeptByBeginnings treeAfter P)
    (workers : Nat) (pool : Pool) (choice : Nat) (h : P pool.state pool.begun pool.waiting) :
    let next := builder.stepPool treeAfter workers pool choice
    P next.state next.begun next.waiting := by
  obtain ⟨s, begun, waiting⟩ := pool
  dsimp only at h ⊢
  unfold stepPool
  split
  · next task htask =>
    obtain ⟨hlt, rfl⟩ := List.getElem?_eq_some_iff.mp htask
    dsimp only
    rw [List.set_eq_take_append_cons_drop, if_pos hlt]
    apply hturn
    rw [← List.drop_eq_getElem_cons hlt, List.take_append_drop]
    exact h
  · dsimp only
    split
    · exact h
    · split
      · exact hbegin _ _ _ _ h
      · exact h

/-- What every turn keeps is kept when the files that were begun are finished. -/
theorem keeps_finishTasks (hturn : builder.KeptByTurns P) {before begun : List Task}
    {waiting : List String} {s : BuildState} (h : P s (before ++ begun) waiting) :
    P (builder.finishTasks s begun).1 (before ++ (builder.finishTasks s begun).2) waiting := by
  induction begun generalizing before s with
  | nil => exact h
  | cons task begun ih =>
    rw [finishTasks]
    have hclosed := keeps_takeTurns hturn task.stage.turnsLeft h
    rw [List.append_cons] at hclosed ⊢
    exact ih hclosed

/-- What every turn and every beginning keep is kept when the files that wait are finished. -/
theorem keeps_finishWaiting (hturn : builder.KeptByTurns P)
    (hbegin : builder.KeptByBeginnings treeAfter P) {begun : List Task} {waiting : List String}
    {s : BuildState} (h : P s begun waiting) :
    P (builder.finishWaiting treeAfter s waiting).1
      (begun ++ (builder.finishWaiting treeAfter s waiting).2) [] := by
  induction waiting generalizing begun s with
  | nil =>
    rw [finishWaiting, List.append_nil]
    exact h
  | cons path waiting ih =>
    rw [finishWaiting]
    have hclosed := keeps_takeTurns hturn
      (builder.beginTask (treeAfter s.log) s path).2.stage.turnsLeft (hbegin s begun path waiting h)
    rw [List.append_cons]
    exact ih hclosed

/-- What holds before the first file is begun, and what every turn and every beginning keep, holds in the
end, whatever the schedule. -/
theorem takePooled_induction (hturn : builder.KeptByTurns P)
    (hbegin : builder.KeptByBeginnings treeAfter P) (workers : Nat) (schedule : List Nat)
    {s : BuildState} {paths : List String} (h : P s [] paths) :
    let pool := builder.takePooled treeAfter workers schedule s paths
    P pool.state pool.begun [] := by
  have hscheduled : ∀ pool : Pool, P pool.state pool.begun pool.waiting →
      P (schedule.foldl (builder.stepPool treeAfter workers) pool).state
        (schedule.foldl (builder.stepPool treeAfter workers) pool).begun
        (schedule.foldl (builder.stepPool treeAfter workers) pool).waiting := by
    induction schedule with
    | nil => exact fun pool hpool => hpool
    | cons choice schedule ih =>
      exact fun pool hpool => ih _ (keeps_stepPool hturn hbegin workers pool choice hpool)
  exact keeps_finishWaiting hturn hbegin
    (@keeps_finishTasks builder P hturn [] _ _ _ (hscheduled ⟨s, [], paths⟩ h))

end

/-- Every path is that of a file that was begun or of one that waits. -/
theorem map_path_takePooled (builder : Builder) (treeAfter : List LogRecord → FileTree) (workers : Nat)
    (schedule : List Nat) (s : BuildState) (paths : List String) :
    (builder.takePooled treeAfter workers schedule s paths).begun.map Task.path = paths := by
  have hturn : builder.KeptByTurns fun _ begun waiting => begun.map Task.path ++ waiting = paths := by
    intro s before task after waiting h
    obtain ⟨s', stage, htake, -⟩ := builder.takeTurn_cases s task
    rw [htake]
    simpa using h
  have hbegin : builder.KeptByBeginnings treeAfter
      fun _ begun waiting => begun.map Task.path ++ waiting = paths := by
    intro s begun path waiting h
    obtain ⟨log, stage, htake, -⟩ := builder.beginTask_cases (treeAfter s.log) s path
    rw [htake]
    simpa using h
  simpa using takePooled_induction hturn hbegin workers schedule (s := s) rfl

/-! ## Pools as crews -/

/-- The worker of a crew that has to do what there is still to do with a file. -/
def workerAt (builder : Builder) (path : String) : Stage → Worker
  | .reading pending rest =>
    ⟨documentId path, (pending.map Turn.matrix).toList ++
      (Worker.ofFile builder.termOf ⟨path, builder.wordsOf rest⟩).turns⟩
  | .ended _ | .closed => ⟨documentId path, []⟩

/-- What a pool has done so far is a run of a crew that has a worker for each file that was begun. -/
def RunsAs (builder : Builder) (s : BuildState) (begun : List Task) : Prop :=
  ∃ files matrix, s.intake.stores.matrix = some matrix ∧
    files.map ReadFile.path = begun.map Task.path ∧
    ReflTransGen Step (Crew.start builder.termOf files)
      ⟨s.intake.stores.index, matrix, begun.map fun task => builder.workerAt task.path task.stage⟩

variable {path : String} {s s' : BuildState} {stage stage' : Stage}

/-- No turn takes a cancellation back. -/
theorem Turns.cancelled (h : builder.Turns path s stage s' stage') (hs : s.intake.cancelled = true) :
    s'.intake.cancelled = true := by
  cases h with
  | cancel => rfl
  | finish | halt | complain | skip | index | pass | matrix | refused | report | rest => exact hs

/-- A turn of a pool is a turn of the worker or nothing that the stores see, unless the build is
cancelled. -/
theorem Turns.run (h : builder.Turns path s stage s' stage') (hs : s'.intake.cancelled = false)
    {matrix : IncidenceMatrix} (hmatrix : s.intake.stores.matrix = some matrix) (before after : List Worker) :
    ∃ matrix', s'.intake.stores.matrix = some matrix' ∧
      ReflTransGen Step
        ⟨s.intake.stores.index, matrix, before ++ builder.workerAt path stage :: after⟩
        ⟨s'.intake.stores.index, matrix', before ++ builder.workerAt path stage' :: after⟩ := by
  cases h with
  | finish => exact ⟨matrix, hmatrix, .refl⟩
  | cancel => cases hs
  | halt hcancelled =>
    rw [hcancelled] at hs
    cases hs
  | complain hnormalize =>
    refine ⟨matrix, hmatrix, ?_⟩
    simp only [workerAt, ofFile_wordsOf, hnormalize]
    exact .refl
  | skip hnormalize hblank =>
    refine ⟨matrix, hmatrix, ?_⟩
    simp only [workerAt, ofFile_wordsOf, hnormalize, hblank, if_true]
    exact .refl
  | index hnormalize hblank =>
    refine ⟨matrix, hmatrix, ?_⟩
    simp only [workerAt, ofFile_wordsOf, hnormalize, hblank, hmatrix]
    exact .single (.index before after)
  | pass hnone =>
    -- only stores without a matrix have this turn
    rw [hnone] at hmatrix
    cases hmatrix
  | matrix hsome hadd =>
    obtain rfl := Option.some.inj (hsome.symm.trans hmatrix)
    exact ⟨_, rfl, .single (.matrix before after hadd)⟩
  | refused hsome hadd =>
    obtain rfl := Option.some.inj (hsome.symm.trans hmatrix)
    exact ⟨_, hmatrix, .single (.refused before after hadd)⟩
  | report => exact ⟨matrix, hmatrix, .refl⟩
  | rest => exact ⟨matrix, hmatrix, .refl⟩

/-- A turn keeps a pool a run of a crew. -/
theorem keptByTurns_runsAs (builder : Builder) :
    builder.KeptByTurns fun s begun _ => s.intake.cancelled = true ∨ builder.RunsAs s begun := by
  intro s before task after waiting h
  obtain ⟨s', stage, htake, hturn⟩ := builder.takeTurn_cases s task
  rw [htake]
  dsimp only
  cases hcancelled : s'.intake.cancelled with
  | true => exact .inl rfl
  | false =>
    rcases h with hs | ⟨files, matrix, hmatrix, hpaths, hrun⟩
    · rw [hturn.cancelled hs] at hcancelled
      cases hcancelled
    · rw [List.map_append, List.map_cons] at hrun
      obtain ⟨matrix', hmatrix', hstep⟩ := hturn.run hcancelled hmatrix
        (before.map fun task => builder.workerAt task.path task.stage)
        (after.map fun task => builder.workerAt task.path task.stage)
      refine .inr ⟨files, matrix', hmatrix', by rw [hpaths]; simp, ?_⟩
      rw [List.map_append, List.map_cons]
      exact hrun.trans hstep

/-- A file that is begun keeps a pool a run of a crew, which gets a worker for it. -/
theorem keptByBeginnings_runsAs (builder : Builder) (treeAfter : List LogRecord → FileTree) :
    builder.KeptByBeginnings treeAfter
      fun s begun _ => s.intake.cancelled = true ∨ builder.RunsAs s begun := by
  intro s begun path waiting h
  obtain ⟨log, stage, hbegin, hstage⟩ := builder.beginTask_cases (treeAfter s.log) s path
  rw [hbegin]
  rcases h with hcancelled | ⟨files, matrix, hmatrix, hpaths, hrun⟩
  · exact .inl hcancelled
  right
  -- what is read from the new file is what its worker has to do
  have hfile : ∃ file : ReadFile, file.path = path ∧
      builder.workerAt path stage = Worker.ofFile builder.termOf file := by
    rcases hstage with ⟨-, rfl⟩ | ⟨outcome, rfl⟩ | ⟨reader, -, bytes, rfl⟩
    · exact ⟨⟨path, []⟩, rfl, rfl⟩
    · exact ⟨⟨path, []⟩, rfl, rfl⟩
    · exact ⟨⟨path, builder.wordsOf (reader.read bytes)⟩, rfl, rfl⟩
  obtain ⟨file, hpath, hworker⟩ := hfile
  refine ⟨files ++ [file], matrix, hmatrix, by simp [hpaths, hpath], ?_⟩
  have hjoined := Crew.run_join hrun (Worker.ofFile builder.termOf file)
  simp only [Crew.join, Crew.start, ← hworker] at hjoined
  simpa [Crew.start, hworker] using hjoined

/-! ## Builds -/

variable {paths : List String} {cancelled : Bool} {workers : Nat} {schedule : List Nat} {built : Built}

/-- A build before its first file. -/
def startState (builder : Builder) (paths : List String) (cancelled : Bool) (workers : Nat) : BuildState :=
  ⟨⟨.empty builder.withMatrix, cancelled⟩, .empty, [opening paths.length workers]⟩

/-- Where a build ends. -/
def endState (builder : Builder) (treeAfter : List LogRecord → FileTree) (paths : List String)
    (cancelled : Bool) (workers : Nat) (schedule : List Nat) : BuildState :=
  if workers = 1 then builder.takeFiles treeAfter (builder.startState paths cancelled workers) paths
  else (builder.takePooled treeAfter workers schedule (builder.startState paths cancelled workers) paths).state

/-- A build has a result exactly if it is not cancelled in the end. -/
theorem build_eq (builder : Builder) (treeAfter : List LogRecord → FileTree) (paths : List String)
    (cancelled : Bool) (workers : Nat) (schedule : List Nat) :
    let s := builder.endState treeAfter paths cancelled workers schedule
    builder.build treeAfter paths cancelled workers schedule =
      if s.intake.cancelled then .error (.cancelled s.log)
      else .ok ⟨s.intake.stores, s.report, s.log ++ [⟨.info, buildLogger, s.report.summary⟩]⟩ := rfl

/-- A build that has no result was cancelled. -/
theorem exists_of_build_error {e : BuildError}
    (h : builder.build treeAfter paths cancelled workers schedule = .error e) :
    ∃ records, e = .cancelled records := by
  rw [build_eq] at h
  split at h
  · exact ⟨_, (Except.error.inj h).symm⟩
  · cases h

/-- What holds where one worker ends and where a pool ends holds where a build ends. -/
theorem endState_induction {P : BuildState → Prop}
    (hone : P (builder.takeFiles treeAfter (builder.startState paths cancelled workers) paths))
    (hpool : P (builder.takePooled treeAfter workers schedule
      (builder.startState paths cancelled workers) paths).state) :
    P (builder.endState treeAfter paths cancelled workers schedule) := by
  unfold endState
  split
  · exact hone
  · exact hpool

/-- What a build that returns has come to. -/
theorem of_build_pooled_eq_ok
    (hbuild : builder.build treeAfter paths cancelled workers schedule = .ok built) :
    let s := builder.endState treeAfter paths cancelled workers schedule
    s.intake.cancelled = false ∧ built.stores = s.intake.stores ∧ built.report = s.report := by
  rw [build_eq] at hbuild
  dsimp only at hbuild ⊢
  split at hbuild
  · cases hbuild
  · next hnot =>
    obtain rfl := Except.ok.inj hbuild
    exact ⟨Bool.eq_false_iff.mpr hnot, rfl, rfl⟩

/-- A build that is cancelled beforehand does not return. -/
theorem cancelled_of_build
    (hbuild : builder.build treeAfter paths cancelled workers schedule = .ok built) :
    cancelled = false := by
  obtain ⟨hquiet, -⟩ := of_build_pooled_eq_ok hbuild
  cases cancelled with
  | false => rfl
  | true =>
    have hset : (builder.endState treeAfter paths true workers schedule).intake.cancelled = true := by
      refine endState_induction (P := fun s => s.intake.cancelled = true) ?_ ?_
      · unfold startState
        rw [takeFiles_cancelled]
      · have hturn : builder.KeptByTurns fun s _ _ => s.intake.cancelled = true := by
          intro s before task after waiting h
          obtain ⟨s', stage, htake, hturn⟩ := builder.takeTurn_cases s task
          rw [htake]
          exact hturn.cancelled h
        have hbegin : builder.KeptByBeginnings treeAfter fun s _ _ => s.intake.cancelled = true := by
          intro s begun path waiting h
          obtain ⟨log, stage, hbegin, -⟩ := builder.beginTask_cases (treeAfter s.log) s path
          rw [hbegin]
          exact h
        exact takePooled_induction hturn hbegin workers schedule rfl
    rw [hset] at hquiet
    cases hquiet

/-- The stores of a build that returns, by one worker or by several in whatever order they have their turns,
are those of a run of a crew on its files, in which all workers are done. -/
theorem exists_run (hmatrix : builder.withMatrix = true)
    (hbuild : builder.build treeAfter paths cancelled workers schedule = .ok built) :
    ∃ files crew, files.map ReadFile.path = paths ∧
      ReflTransGen Step (Crew.start builder.termOf files) crew ∧ crew.Finished ∧
      built.stores = ⟨crew.index, some crew.matrix⟩ := by
  obtain rfl := cancelled_of_build hbuild
  obtain ⟨hquiet, hstores, -⟩ := of_build_pooled_eq_ok hbuild
  have hempty : Stores.empty builder.withMatrix = ⟨.empty, some .empty⟩ := by
    rw [hmatrix]
    rfl
  rw [hstores]
  revert hquiet
  refine endState_induction (P := fun s => s.intake.cancelled = false → ∃ files crew,
    files.map ReadFile.path = paths ∧ ReflTransGen Step (Crew.start builder.termOf files) crew ∧
      crew.Finished ∧ s.intake.stores = ⟨crew.index, some crew.matrix⟩) ?_ ?_ <;> intro hquiet
  -- one worker reads each file to its end before it begins the next
  · unfold startState at hquiet ⊢
    rw [hempty] at hquiet ⊢
    rcases run_takeFiles builder treeAfter paths .empty .empty .empty [opening paths.length workers] with
      hcancelled | ⟨files, index, matrix, hpaths, hintake, hrun⟩
    · rw [hcancelled] at hquiet
      cases hquiet
    · refine ⟨files, _, hpaths, hrun [], fun worker hworker => ?_, by rw [hintake]⟩
      obtain ⟨file, -, rfl⟩ := List.mem_map.mp hworker
      rfl
  -- several workers are a crew throughout, and a pool that has ended has closed all its tasks
  · have hstart : builder.RunsAs (builder.startState paths false workers) [] :=
      ⟨[], .empty, by rw [startState, hempty], rfl, by rw [startState, hempty]; exact .refl⟩
    rcases takePooled_induction (keptByTurns_runsAs builder) (keptByBeginnings_runsAs builder treeAfter)
      workers schedule (.inr hstart) with hcancelled | ⟨files, matrix, hsome, hpaths, hrun⟩
    · rw [hcancelled] at hquiet
      cases hquiet
    · rw [map_path_takePooled] at hpaths
      refine ⟨files, _, hpaths, hrun, fun worker hworker => ?_, by rw [← hsome]⟩
      obtain ⟨task, htask, rfl⟩ := List.mem_map.mp hworker
      rw [takePooled_closed builder treeAfter workers schedule _ paths task htask]
      rfl

/-- The index of a build that returns has had one add for each of some occurrences. So has its matrix, which
has had no more of them. -/
theorem exists_filed (hmatrix : builder.withMatrix = true)
    (hbuild : builder.build treeAfter paths cancelled workers schedule = .ok built) :
    ∃ indexed matrixed : List Occurrence,
      built.stores.index = .afterCalls (indexed.map CountedAdd.once) ∧
      built.stores.matrix = some (.afterCalls matrixed) ∧ matrixed.length ≤ indexed.length := by
  obtain ⟨files, crew, -, hrun, hfinished, hstores⟩ := exists_run hmatrix hbuild
  obtain ⟨indexed, matrixed, hledger⟩ := Crew.exists_ledger hrun
  refine ⟨indexed, matrixed, ?_, ?_, hledger.length_le hfinished⟩
  · rw [hstores, hledger.index_eq]
  · rw [hstores, hledger.matrix_eq]

/-! ## The length of a report -/

/-- How often a file may still be reported. -/
def unreported : Stage → Nat
  | .closed => 0
  | .reading _ _ | .ended _ => 1

/-- A turn that reports a file is the last one with it. -/
theorem Turns.length_indexed_le (h : builder.Turns path s stage s' stage') :
    s'.report.indexed.length + unreported stage' ≤ s.report.indexed.length + unreported stage := by
  cases h with
  | report => exact length_indexed_record_le s.report path _
  | finish | cancel | halt | complain | skip | index | pass | matrix | refused | rest =>
    simp [unreported]

/-- A build reports each file at most once as indexed. -/
theorem length_indexed_le (hbuild : builder.build treeAfter paths cancelled workers schedule = .ok built) :
    built.report.indexed.length ≤ paths.length := by
  obtain ⟨-, -, hreport⟩ := of_build_pooled_eq_ok hbuild
  rw [hreport]
  refine endState_induction (P := fun s => s.report.indexed.length ≤ paths.length) ?_ ?_
  · refine (length_indexed_takeFiles treeAfter _ paths).trans ?_
    simp [startState, BuildReport.empty]
  · have hturn : builder.KeptByTurns fun s begun waiting => s.report.indexed.length +
        (begun.map fun task => unreported task.stage).sum + waiting.length ≤ paths.length := by
      intro s before task after waiting h
      obtain ⟨s', stage, htake, hturn⟩ := builder.takeTurn_cases s task
      have hstep := hturn.length_indexed_le
      rw [htake]
      simp only [List.map_append, List.map_cons, List.sum_append, List.sum_cons] at h ⊢
      omega
    have hbegin : builder.KeptByBeginnings treeAfter fun s begun waiting => s.report.indexed.length +
        (begun.map fun task => unreported task.stage).sum + waiting.length ≤ paths.length := by
      intro s begun path waiting h
      obtain ⟨log, stage, hbegin, -⟩ := builder.beginTask_cases (treeAfter s.log) s path
      have hone : unreported stage ≤ 1 := by cases stage <;> simp [unreported]
      rw [hbegin]
      simp only [List.map_append, List.map_singleton, List.sum_append, List.sum_singleton,
        List.length_cons] at h ⊢
      omega
    have hstart : (builder.startState paths cancelled workers).report.indexed.length +
        ([].map fun task : Task => unreported task.stage).sum + paths.length ≤ paths.length := by
      simp [startState, BuildReport.empty]
    have hend := takePooled_induction hturn hbegin workers schedule hstart
    dsimp only at hend
    omega

/-! ## Builds that return -/

/-- What is reached of a reading is part of it. -/
theorem mem_of_mem_reached {doc : String} {event : ReadEvent} {events : List ReadEvent}
    (h : event ∈ builder.reached doc events) : event ∈ events := by
  induction events with
  | nil => exact h
  | cons first events ih =>
    rw [List.mem_cons]
    cases first with
    | cancel => exact (List.mem_cons.mp h).imp_right ih
    | word w =>
      rw [reached] at h
      refine (List.mem_cons.mp h).imp_right fun hrest => ?_
      split at hrest
      · cases hrest
      · exact ih hrest

/-- A visit does not cancel when no reader does. -/
theorem cancel_notMem_visit (hquiet : builder.Uncancelled) (tree : FileTree) (path : String) :
    ReadEvent.cancel ∉ (builder.visit tree path).events := by
  unfold visit
  cases hreader : Reader.forFile builder.readers path with
  | none => exact List.not_mem_nil
  | some reader =>
    dsimp only
    cases tree.readText path with
    | error e => exact List.not_mem_nil
    | ok bytes =>
      exact fun h => hquiet reader (List.mem_of_find?_eq_some hreader) bytes (mem_of_mem_reached h)

/-- No event that is still to be taken cancels the build. -/
def QuietStage : Stage → Prop
  | .reading _ rest => ReadEvent.cancel ∉ rest.events
  | .ended _ | .closed => True

/-- Only a cancellation cancels, and a turn leaves fewer events. -/
theorem Turns.quiet (h : builder.Turns path s stage s' stage') (hs : s.intake.cancelled = false)
    (hstage : QuietStage stage) : s'.intake.cancelled = false ∧ QuietStage stage' := by
  cases h with
  | cancel => exact absurd List.mem_cons_self hstage
  | skip | index => exact ⟨hs, List.not_mem_of_not_mem_cons hstage⟩
  | pass | matrix => exact ⟨hs, hstage⟩
  | finish | halt | complain | refused | report | rest => exact ⟨hs, trivial⟩

/-- Without a cancellation, beforehand or by a reader, every build returns. -/
theorem exists_built (hquiet : builder.Uncancelled) (treeAfter : List LogRecord → FileTree)
    (paths : List String) (workers : Nat) (schedule : List Nat) :
    ∃ built, builder.build treeAfter paths false workers schedule = .ok built := by
  have hend : (builder.endState treeAfter paths false workers schedule).intake.cancelled = false := by
    refine endState_induction (P := fun s => s.intake.cancelled = false) ?_ ?_
    · have hintake := takeFiles_intake_of_visits (Stores.hasMatrix_empty builder.withMatrix) treeAfter
        .empty [opening paths.length workers] paths
      unfold startState
      rw [show _ = _ from hintake]
      dsimp only
      rw [Bool.not_eq_false', all_isQuiet_happenings_iff]
      rintro ⟨v, hv, hcancel⟩
      obtain ⟨log, path, -, rfl⟩ := exists_of_mem_visits hv
      exact cancel_notMem_visit hquiet _ path hcancel
    · have hturn : builder.KeptByTurns fun s begun _ =>
          s.intake.cancelled = false ∧ ∀ task ∈ begun, QuietStage task.stage := by
        rintro s before task after waiting ⟨hs, hbegun⟩
        obtain ⟨s', stage, htake, hturn⟩ := builder.takeTurn_cases s task
        simp only [List.forall_mem_append, List.forall_mem_cons] at hbegun
        obtain ⟨hbefore, htask, hafter⟩ := hbegun
        obtain ⟨hs', hstage⟩ := hturn.quiet hs htask
        rw [htake]
        simp only [List.forall_mem_append, List.forall_mem_cons]
        exact ⟨hs', hbefore, hstage, hafter⟩
      have hbegin : builder.KeptByBeginnings treeAfter fun s begun _ =>
          s.intake.cancelled = false ∧ ∀ task ∈ begun, QuietStage task.stage := by
        rintro s begun path waiting ⟨hs, hbegun⟩
        obtain ⟨log, stage, hbegin, hstage⟩ := builder.beginTask_cases (treeAfter s.log) s path
        rw [hbegin]
        simp only [List.forall_mem_append, List.forall_mem_singleton]
        refine ⟨hs, hbegun, ?_⟩
        rcases hstage with ⟨-, rfl⟩ | ⟨outcome, rfl⟩ | ⟨reader, hreader, bytes, rfl⟩
        · trivial
        · trivial
        · exact hquiet reader hreader bytes
      exact (takePooled_induction hturn hbegin workers schedule
        ⟨rfl, fun task htask => absurd htask List.not_mem_nil⟩).1
  exact ⟨_, (build_eq ..).trans (if_neg (Bool.eq_false_iff.mp hend))⟩

end Builder

end BooleanRetrieval
