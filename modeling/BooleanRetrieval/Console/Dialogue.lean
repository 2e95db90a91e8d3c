import BooleanRetrieval.Console.Session
import BooleanRetrieval.Search

/-!
# The search dialogue

The user types one query a line. Each is answered from every collection, and a query that cannot be
read is reported. An empty line, the word `exit` and the end of the input end the dialogue.
-/

set_option autoImplicit false

namespace BooleanRetrieval

namespace Dialogue

/-- The line that ends the dialogue, in any letter case. -/
def exitCommand : String := "exit"

/-- What the user is told first. -/
def greeting : List String :=
  ["Enter a boolean query, e.g. 'word1 AND (word2 OR NOT word3)'.",
    "Operators: AND, OR, NOT. Parentheses are supported.",
    "Type '" ++ exitCommand ++ "' or an empty line to quit."]

/-- What asks for a query. -/
def prompt : String := "\nquery> "

/-- Documents in the order in which they are shown: by their case foldings. -/
def shownOrder (documents : DocSet) : List String :=
  documents.toList.mergeSort fun a b => decide (Text.foldCase a ≤ Text.foldCase b)

/-- The lines that show the documents found in a collection. -/
def hitLines (clock : Clock) (label : String) (documents : DocSet) : List String :=
  let heading := ["", "  Results from the " ++ label ++ ":"]
  let time := " (" ++ clock.queryMillis ++ " ms)"
  if documents.isEmpty then heading ++ ["    No documents found" ++ time ++ "."]
  else
    heading ++ ["    Found " ++ toString documents.size ++ " documents" ++ time ++ ":"]
      ++ (shownOrder documents).map ("      - " ++ ·)

/-- The lines that answer a query from a collection. -/
def answerLines (clock : Clock) (query : Query) (collection : Collection) : List String :=
  match (Search.execute (some collection.accessor) (some query)).result with
  | .ok documents => hitLines clock collection.label documents
  | .error e => ["", "  " ++ e.message]

/-- A line without the blank characters around it. -/
def trimmed (line : String) : String :=
  String.ofList (Text.trim line.toList)

/-- Whether a trimmed line ends the dialogue. -/
def isFarewell (line : String) : Bool :=
  line.isEmpty || Text.toLower line = exitCommand

/-- What is logged about a query that was read and written as a text. -/
def parsedRecord (text : String) : LogRecord :=
  ⟨.debug, "boolindex.search_cli", "Parsed query: " ++ text⟩

/-- Log a query that was read. It is only written as a text if this is shown. -/
def logParsed (env : Environment) (s : Session) (query : Query) : Except NestingError Session :=
  if s.logging.shows (parsedRecord "") then
    (query.render env.limits.query).map fun text => s.log env.clock (parsedRecord text)
  else .ok s

/-- Answer a trimmed line. -/
def answer (env : Environment) (collections : List Collection) (s : Session) (line : String) :
    Except NestingError Session :=
  match Parser.parse Text.normalize line with
  | .error e => .ok (s.say ("  Could not parse query: " ++ e.message))
  | .ok query =>
    (logParsed env s query).map fun s =>
      s.sayAll (collections.flatMap (answerLines env.clock query))

/-- Lead the dialogue over the lines that the user types. Where they end, the cursor is put on a new
line. A query that cannot be written ends the dialogue. -/
def run (env : Environment) (collections : List Collection) (s : Session) :
    List String → Session × Option NestingError
  | [] => ((s.write .results prompt).say "", none)
  | line :: rest =>
    let s := s.write .results prompt
    let line := trimmed line
    if isFarewell line then (s, none)
    else
      match answer env collections s line with
      | .ok s => run env collections s rest
      | .error e => (s, some e)

end Dialogue

/-- Carry on a session to its ending, with the lines that the user types. -/
def Continuation.resume (env : Environment) (s : Session) (lines : List String) :
    Continuation → Session × Ending
  | .stop ending => (s, ending)
  | .ask collections ending =>
    match Dialogue.run env collections (s.sayAll Dialogue.greeting) lines with
    | (s, none) => (s, ending)
    | (s, some e) => (s, .broken (.nesting e))

end BooleanRetrieval
