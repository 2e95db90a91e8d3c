import BooleanRetrieval.Text.Blank
import BooleanRetrieval.Text.Composed
import BooleanRetrieval.Text.Letter
import BooleanRetrieval.Text.LetterCase

/-!
# Terms

A term is what a word is filed under: the letters of its composed form in lower case. A word without
letters has the empty term and is not filed at all.
-/

set_option autoImplicit false

namespace BooleanRetrieval.Text

/-- The letters of a text, composed and in lower case. -/
def normalizeChars (cs : List Char) : List Char :=
  if allBlank cs then [] else lower ((composed cs).filter isLetter)

/-- The term of a word. -/
def normalize (word : String) : String :=
  .ofList (normalizeChars word.toList)

/-- Whether a string is empty or has blank characters only. -/
def isBlankText (text : String) : Bool :=
  allBlank text.toList

end BooleanRetrieval.Text
