import BooleanRetrieval.Text.Blank
import BooleanRetrieval.Text.DecimalDigit

/-!
# Whole numbers as text

A whole number is written with decimal digits of any script, a sign in front if need be, and single
underscores between digits. Blank characters around it do not count, except for the information
separators U+001C to U+001F, which are not allowed.
-/

set_option autoImplicit false

namespace BooleanRetrieval.Text

/-- Whether a character may stand around a number. -/
def isNumberBlank (c : Char) : Bool :=
  isBlank c && !('\x1c' ≤ c && c ≤ '\x1f')

/-- The most digits that a number may have. -/
def maxNumberDigits : Nat := 4300

/-- The digits of a number without the underscores, which stand singly between digits. -/
def ungrouped? : List Char → Option (List Char)
  | [] => none
  | [c] => if c = '_' then none else some [c]
  | '_' :: _ => none
  | c :: '_' :: rest => (ungrouped? rest).map (c :: ·)
  | c :: rest => (ungrouped? rest).map (c :: ·)

/-- The number that digits with underscores write. -/
def unsigned? (cs : List Char) : Option Nat :=
  (ungrouped? cs).bind fun digits =>
    if digits.length ≤ maxNumberDigits then decimalValue? digits else none

/-- The whole number that a text writes. -/
def wholeNumber? (text : String) : Option Int :=
  let inner := ((text.toList.dropWhile isNumberBlank).reverse.dropWhile isNumberBlank).reverse
  match inner with
  | '-' :: digits => (unsigned? digits).map fun n => -(n : Int)
  | '+' :: digits => (unsigned? digits).map fun n => (n : Int)
  | digits => (unsigned? digits).map fun n => (n : Int)

end BooleanRetrieval.Text
