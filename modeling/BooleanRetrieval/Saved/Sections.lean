import BooleanRetrieval.Text.Blank

/-!
# Sections

The line format of saved stores groups lines under terms. A line in brackets is the header of a term,
the lines below it are the entries of that term, and blank lines mean nothing.
-/

set_option autoImplicit false

namespace BooleanRetrieval.Sections

open Text (allBlank)

/-- What a line is. -/
inductive LineKind where
  | blank
  | header (t : List Char)
  | entry
  deriving DecidableEq, Repr

/-- The term of a header line: what stands between an opening bracket at the beginning and a closing
bracket at the end. -/
def headerTerm? (line : List Char) : Option (List Char) :=
  match line with
  | '[' :: rest => if rest.getLast? = some ']' then some rest.dropLast else none
  | _ => none

/-- What a line is. -/
def lineKind (line : List Char) : LineKind :=
  if allBlank line then .blank
  else
    match headerTerm? line with
    | some t => .header t
    | none => .entry

/-- An entry: its term, if a header stands above it, its line, and the number of the line counted from
one. -/
structure Entry where
  term : Option String
  line : List Char
  number : Nat
  deriving DecidableEq, Repr

/-- The entries of lines, of which the first has the given number and stands below the given term. -/
def entriesFrom (term : Option String) (number : Nat) : List (List Char) → List Entry
  | [] => []
  | line :: rest =>
    match lineKind line with
    | .blank => entriesFrom term (number + 1) rest
    | .header t => entriesFrom (some (.ofList t)) (number + 1) rest
    | .entry => ⟨term, line, number⟩ :: entriesFrom term (number + 1) rest

/-- The entries of the lines of a file. -/
def entries (lines : List (List Char)) : List Entry :=
  entriesFrom none 1 lines

/-- The text of a section. -/
def write (term : String) (lines : List (List Char)) : List Char :=
  '[' :: (term.toList ++ ']' :: '\n' :: lines.flatMap (· ++ ['\n']))

/-- The report of an entry that stands above all headers. -/
def orphanReport (path : String) (entry : Entry) : String :=
  path ++ ":" ++ toString entry.number ++ ": document entry before any term, skipped"

end BooleanRetrieval.Sections
