import BooleanRetrieval.Build.Intake

/-!
# A pool of workers

Several workers take in one file each at a time. A word is filed in the index first and then in the matrix,
and between any two of these turns other workers may have theirs. In which order the turns are taken cannot
be known beforehand: a schedule tells it. A file that has ended is reported in a turn of its own, so that the
order of a report is not that of the files either.
-/

set_option autoImplicit false

namespace BooleanRetrieval

/-- How far a worker is with a file. -/
inductive Stage where
  /-- It reads. A pending term has come into the index and comes into the matrix next. -/
  | reading (pending : Option String) (rest : Reading)
  /-- The file has ended, and is to be reported. -/
  | ended (outcome : FileOutcome)
  /-- The file has been reported, or the build was found to be cancelled. -/
  | closed
  deriving DecidableEq, Repr

namespace Stage

/-- Whether a worker is busy with the file. -/
def isReading : Stage → Bool
  | reading _ _ => true
  | _ => false

/-- How many turns there are still to be at most. -/
def turnsLeft : Stage → Nat
  | reading pending rest => 2 * rest.events.length + (if pending.isSome then 1 else 0) + 2
  | ended _ => 1
  | closed => 0

end Stage

/-- A file that a worker has begun. -/
structure Task where
  path : String
  stage : Stage
  deriving DecidableEq, Repr

/-- A build by a pool of workers: the files that were begun, in their order, and those that wait. -/
structure Pool where
  state : BuildState
  begun : List Task
  waiting : List String

namespace Builder

/-- A file has ended, and this is logged. -/
def endTask (s : BuildState) (path : String) (outcome : FileOutcome) : BuildState × Task :=
  ({ s with log := s.log ++ outcome.records path }, ⟨path, .ended outcome⟩)

/-- Begin a file. -/
def beginTask (builder : Builder) (tree : FileTree) (s : BuildState) (path : String) :
    BuildState × Task :=
  if s.intake.cancelled then (s, ⟨path, .closed⟩)
  else
    match Reader.forFile builder.readers path with
    | none => endTask s path .skipped
    | some reader =>
      match tree.readText path with
      | .error e => endTask s path (.failed (.file e))
      | .ok bytes => (s, ⟨path, .reading none (reader.read bytes)⟩)

/-- Take the next event of a reading, whose words come into the index here. -/
def readNext (builder : Builder) (s : BuildState) (path : String) (error : Option ReadError) :
    List ReadEvent → BuildState × Task
  | [] => endTask s path (Reading.mk [] error).outcome
  | .cancel :: rest =>
    ({ s with intake := { s.intake with cancelled := true } }, ⟨path, .reading none ⟨rest, error⟩⟩)
  | .word w :: rest =>
    if s.intake.cancelled then (s, ⟨path, .closed⟩)
    else
      match builder.normalize w with
      | .error complaint => endTask s path (.failed (.normalizing complaint))
      | .ok t =>
        if Text.isBlankText t then (s, ⟨path, .reading none ⟨rest, error⟩⟩)
        else
          let stores := s.intake.stores
          let filled := { stores with index := stores.index.addCount t (documentId path) 1 }
          ({ s with intake := { s.intake with stores := filled } },
            ⟨path, .reading (stores.matrix.map fun _ => t) ⟨rest, error⟩⟩)

/-- File a pending term in the matrix. -/
def fileCell (s : BuildState) (path t : String) (rest : Reading) : BuildState × Task :=
  match s.intake.stores.matrix with
  | none => (s, ⟨path, .reading none rest⟩)
  | some matrix =>
    match matrix.add t (documentId path) with
    | .error e => endTask s path (.failed (.cell e))
    | .ok filled =>
      let stores := { s.intake.stores with matrix := some filled }
      ({ s with intake := { s.intake with stores := stores } }, ⟨path, .reading none rest⟩)

/-- A worker takes its next turn. -/
def takeTurn (builder : Builder) (s : BuildState) (task : Task) : BuildState × Task :=
  match task.stage with
  | .reading none rest => builder.readNext s task.path rest.error rest.events
  | .reading (some t) rest => fileCell s task.path t rest
  | .ended outcome => ({ s with report := s.report.record task.path outcome }, ⟨task.path, .closed⟩)
  | .closed => (s, task)

/-- Take a number of turns with one file. -/
def takeTurns (builder : Builder) : Nat → BuildState → Task → BuildState × Task
  | 0, s, task => (s, task)
  | n + 1, s, task =>
    let (s, task) := builder.takeTurn s task
    builder.takeTurns n s task

/-- A step of a pool that a schedule chooses: a turn with the file of that number or, if there is none yet,
the beginning of the next one, if one of the workers is free. -/
def stepPool (builder : Builder) (treeAfter : List LogRecord → FileTree) (workers : Nat) (pool : Pool)
    (choice : Nat) : Pool :=
  match pool.begun[choice]? with
  | some task =>
    let (s, task) := builder.takeTurn pool.state task
    { pool with state := s, begun := pool.begun.set choice task }
  | none =>
    match pool.waiting with
    | [] => pool
    | path :: rest =>
      if (pool.begun.filter (·.stage.isReading)).length < workers then
        let (s, task) := builder.beginTask (treeAfter pool.state.log) pool.state path
        ⟨s, pool.begun ++ [task], rest⟩
      else pool

/-- Take the turns that are left of the files that were begun. -/
def finishTasks (builder : Builder) (s : BuildState) : List Task → BuildState × List Task
  | [] => (s, [])
  | task :: rest =>
    let (s, task) := builder.takeTurns task.stage.turnsLeft s task
    let (s, rest) := builder.finishTasks s rest
    (s, task :: rest)

/-- Begin and finish the files that wait, one after the other. -/
def finishWaiting (builder : Builder) (treeAfter : List LogRecord → FileTree) (s : BuildState) :
    List String → BuildState × List Task
  | [] => (s, [])
  | path :: rest =>
    let (s, task) := builder.beginTask (treeAfter s.log) s path
    let (s, task) := builder.takeTurns task.stage.turnsLeft s task
    let (s, rest) := builder.finishWaiting treeAfter s rest
    (s, task :: rest)

/-- Take in files with a pool of workers. What the schedule leaves undone is done in the order of the
files. -/
def takePooled (builder : Builder) (treeAfter : List LogRecord → FileTree) (workers : Nat)
    (schedule : List Nat) (s : BuildState) (paths : List String) : Pool :=
  let pool := schedule.foldl (builder.stepPool treeAfter workers) ⟨s, [], paths⟩
  let (s, begun) := builder.finishTasks pool.state pool.begun
  let (s, rest) := builder.finishWaiting treeAfter s pool.waiting
  ⟨s, begun ++ rest, []⟩

end Builder

end BooleanRetrieval
