import BooleanRetrieval.Console.BuildProgram
import BooleanRetrieval.Console.Dialogue
import BooleanRetrieval.Console.SearchProgram
import Std.Time.Format

/-!
# The command line

The first word chooses the program: `build` or `search`. The files that the program works on are read
from the disk, the program runs, and the files that it changed are written back before it asks for
queries. Durations are shown as zero, since no clock is read between the steps of a program.
-/

set_option autoImplicit false

namespace BooleanRetrieval

namespace Disk

/-- The path of a place on the disk. -/
def pathOf (place : Place) :=
  System.mkFilePath ("" :: if place.isEmpty then [""] else place)

/-- Add what stands at a place on the disk to a tree. Of a directory everything below it is added if
that is asked for. -/
partial def load (below : Bool) (tree : FileTree) (place : Place) : IO FileTree := do
  let path := pathOf place
  if ← path.isDir then
    let mut loaded := if place.isEmpty then tree else tree.put place .directory
    if below then
      for entry in ← path.readDir do
        loaded ← load below loaded (place ++ [entry.fileName])
    return loaded
  else if ← path.pathExists then
    return tree.put place (.file (← IO.FS.readBinFile path).toList)
  else return tree

/-- The tree of the current directory and of the files that paths name. -/
def read (paths : List Path) : IO FileTree := do
  let current := Path.ofString (← IO.currentDir).toString
  let home := current.parts
  let tree ← (current.places []).foldlM (load false) { FileTree.empty with home := home }
  paths.foldlM (fun tree path => do
    let places := path.places home
    let tree ← places.dropLast.foldlM (load false) tree
    load true tree (places.getLast?.getD [])) tree

/-- Write what is new in a tree. -/
def write (old new : FileTree) : IO Unit :=
  new.entries.forM fun (place, node) => do
    let path := pathOf place
    if old.node? place ≠ some node then
      match node with
      | .directory => IO.FS.createDirAll path
      | .file bytes => IO.FS.writeBinFile path ⟨bytes.toArray⟩

end Disk

namespace Console

/-- Show what a session has written. -/
def flush (s : Session) : IO Session := do
  s.written.reverse.forM fun (channel, text) => do
    let stream ← match channel with
      | .results => IO.getStdout
      | .records => IO.getStderr
    stream.putStr text
    stream.flush
  return { s with written := [] }

/-- Lead the dialogue with the user at the console, and tell how it ends. -/
partial def converse (env : Environment) (collections : List Collection) (ending : Ending) (s : Session) :
    IO Ending := do
  let s ← flush (s.write .results Dialogue.prompt)
  let line ← (← IO.getStdin).getLine
  if line.isEmpty then
    discard (flush (s.say ""))
    return ending
  else if Dialogue.isFarewell (Dialogue.trimmed line) then return ending
  else
    match Dialogue.answer env collections s (Dialogue.trimmed line) with
    | .ok s => converse env collections ending s
    | .error e => return .broken (.nesting e)

/-- The status of a program that ends, after what is left to say about it. -/
def close (summary : String) : Ending → IO UInt32
  | .finished => return 0
  | .code status => return UInt32.ofNat status
  | .message text => do
    IO.eprintln text
    return 1
  | .help => do
    IO.println ("usage: " ++ summary)
    return 0
  | .misused e => do
    IO.eprintln ("usage: " ++ summary ++ "\nerror: " ++ e.message)
    return 2
  | .broken fault => do
    IO.eprintln fault.message
    return 1

/-- The clock readings for a program that starts now. -/
def clock : IO Clock := do
  return ⟨(← Std.Time.DateTime.now).format "uuuu-MM-dd HH:mm:ss", "0.00", "0.000", "0", "0.0"⟩

/-- Run a program on the files that its paths name. -/
def run (start : Environment → List String → Session → Session × Continuation)
    (summary : String) (paths : List Path) (line : List String) : IO UInt32 := do
  let env : Environment := ⟨← clock, 1, false, [], {}⟩
  let tree ← Disk.read paths
  let (s, next) := start env line (.start tree)
  let s ← flush s
  Disk.write tree s.tree
  match next with
  | .stop ending => close summary ending
  | .ask collections ending =>
    close summary (← converse env collections ending (s.sayAll Dialogue.greeting))

/-- The paths that arguments name, if they can be read. -/
def pathsOf {α : Type} (paths : α → List Path) : Except CommandStop α → List Path
  | .ok arguments => paths arguments
  | .error _ => []

/-- Run the build program. -/
def runBuild (line : List String) : IO UInt32 :=
  run BuildProgram.start ("build " ++ BuildArguments.usage.summary)
    (pathsOf BuildArguments.paths (BuildArguments.read line)) line

/-- Run the search program. -/
def runSearch (line : List String) : IO UInt32 :=
  run SearchProgram.start ("search " ++ SearchArguments.usage.summary)
    (pathsOf SearchArguments.paths (SearchArguments.read line)) line

end Console

end BooleanRetrieval

/-- Run the program that the first word names. -/
def main (words : List String) : IO UInt32 :=
  match words with
  | "build" :: line => BooleanRetrieval.Console.runBuild line
  | "search" :: line => BooleanRetrieval.Console.runSearch line
  | _ => do
    IO.eprintln "usage: build ... | search ..."
    return 2
