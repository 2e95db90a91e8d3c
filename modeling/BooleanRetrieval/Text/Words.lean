import BooleanRetrieval.Text.Composed
import BooleanRetrieval.Text.WordCharacter

/-!
# Words

The words of a text are the maximal runs of word characters of its composed form.
-/

set_option autoImplicit false

namespace BooleanRetrieval.Text

/-- The maximal runs of characters that satisfy `p`, in order. `run` holds the characters of the
run being read and `runs` the finished runs, both with the latest first. -/
def collectRuns (p : Char → Bool) (run : List Char) (runs : List (List Char)) :
    List Char → List (List Char)
  | [] => (if run.isEmpty then runs else run.reverse :: runs).reverse
  | c :: rest =>
    if p c then collectRuns p (c :: run) runs rest
    else if run.isEmpty then collectRuns p [] runs rest
    else collectRuns p [] (run.reverse :: runs) rest

/-- The words of a text as lists of characters. -/
def wordRuns (cs : List Char) : List (List Char) :=
  collectRuns isWordCharacter [] [] (composed cs)

/-- The words of a text. -/
def words (text : String) : List String :=
  (wordRuns text.toList).map String.ofList

end BooleanRetrieval.Text
