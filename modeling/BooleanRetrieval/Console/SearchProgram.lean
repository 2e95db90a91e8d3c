import BooleanRetrieval.CommandLine.Arguments
import BooleanRetrieval.Console.Session
import BooleanRetrieval.Files.Discovery
import BooleanRetrieval.Saved.Structures

/-!
# The search program

The program loads both stores from saved files, or builds them from a directory without saving them,
and then asks for queries.
-/

set_option autoImplicit false

namespace BooleanRetrieval

/-- Whether a saved store that cannot be read for this reason is reported to the user. A store of the
wrong shape is not foreseen, nor one that nests too deeply. -/
def LoadError.isForeseen : LoadError → Bool
  | .noMembers _ | .noItems _ | .noText _ | .nesting _ => false
  | .json ⟨.nesting _, _, _, _⟩ => false
  | _ => true

namespace SearchProgram

/-- The ending of a program that has no stores to search. -/
def giveUp (reason : String) : Ending :=
  .message ("Could not load the index: " ++ reason)

/-- The ending of a program for which a saved store cannot be read. -/
def loadEnding (e : LoadError) : Ending :=
  if e.isForeseen then giveUp e.message else .broken (.load e)

/-- Load both stores. -/
def load (env : Environment) (a : SearchArguments) (s : Session) : Session × Continuation :=
  let index := InvertedIndex.load s.tree a.index env.limits
  let s := s.logAll env.clock index.log
  match index.outcome with
  | .error e => (s, .stop (loadEnding e))
  | .ok index =>
    let matrix := IncidenceMatrix.load s.tree a.matrix env.limits
    let s := s.logAll env.clock matrix.log
    match matrix.outcome with
    | .error e => (s, .stop (loadEnding e))
    | .ok matrix => (s, .ask (Stores.mk index (some matrix)).collections .finished)

/-- Build both stores from the files of a directory. -/
def build (env : Environment) (a : SearchArguments) (texts : Path) (s : Session) :
    Session × Continuation :=
  let cancelled (s : Session) : Session × Continuation :=
    (s.sayAll (interruptLines ++ ["Build cancelled."]), .stop (.code cancelledStatus))
  match s.tree.discover texts 0 false with
  | .error e => (s, .stop (giveUp e.message))
  | .ok paths =>
    let s := s.logAll env.clock (discoveryLog s.tree texts false)
    if env.interrupted then cancelled s
    else
      match workerCount none a.singleThreaded env.processors with
      | .error e => (s, .stop (giveUp e.message))
      | .ok workers =>
        match Builder.standard.build (s.treeAfter env.clock) (paths.map Path.text) false workers
            env.schedule with
        | .error (.cancelled records) => cancelled (s.logAll env.clock records)
        | .error e => (s, .stop (giveUp e.message))
        | .ok built =>
          let s := s.logAll env.clock built.log
          let failed := built.report.failedCount
          let s :=
            if failed = 0 then s
            else s.say ("Warning: " ++ toString failed ++ " files could not be indexed.")
          (s, .ask built.stores.collections .finished)

/-- Start the program with the words of its command line. -/
def start (env : Environment) (line : List String) (s : Session) : Session × Continuation :=
  match SearchArguments.read line with
  | .error stop => (s, .stop (.ofStop stop))
  | .ok a =>
    match s.setUpLogging (if a.verbose then .debug else .warning) none with
    | .error e => (s, .stop (giveUp e.message))
    | .ok s =>
      match a.texts with
      | some texts => build env a texts s
      | none => load env a s

end SearchProgram

end BooleanRetrieval
