import BooleanRetrieval.Text.CaseMap
import BooleanRetrieval.Text.Cased

/-!
# Case of a text

Lower case, upper case and case folding of a whole text. Only lower case looks at neighbours: a
capital sigma becomes a final sigma behind a cased character when no cased character follows.
-/

set_option autoImplicit false

namespace BooleanRetrieval.Text

/-- The Greek capital letter sigma. -/
def capitalSigma : Char := '\u03A3'

/-- The Greek small letter final sigma. -/
def finalSigma : Char := '\u03C2'

/-- Whether the next character that is not case-ignorable is cased. -/
def casedFollows (rest : List Char) : Bool :=
  (rest.dropWhile isCaseIgnorable).head?.any isCased

/-- The lower case of the rest of a text. `casedBefore` tells whether the last character that is not
case-ignorable is cased; `done` holds the lower case of what was read, the latest first. -/
def lowerRest (casedBefore : Bool) (done : List Char) : List Char → List Char
  | [] => done.reverse
  | c :: rest =>
    let image :=
      if c = capitalSigma && casedBefore && !casedFollows rest then [finalSigma] else lowerChar c
    let casedBefore := if isCaseIgnorable c then casedBefore else isCased c
    lowerRest casedBefore (image.reverse ++ done) rest

/-- The lower case of a text. -/
def lower (cs : List Char) : List Char :=
  lowerRest false [] cs

/-- The upper case of a text. -/
def upper (cs : List Char) : List Char :=
  cs.flatMap upperChar

/-- The case folding of a text, by which two spellings are compared without regard to case. -/
def fold (cs : List Char) : List Char :=
  cs.flatMap foldChar

/-- The lower case of a string. -/
def toLower (text : String) : String :=
  .ofList (lower text.toList)

/-- The upper case of a string. -/
def toUpper (text : String) : String :=
  .ofList (upper text.toList)

/-- The case folding of a string. -/
def foldCase (text : String) : String :=
  .ofList (fold text.toList)

end BooleanRetrieval.Text
