/-!
# Numbers that can be written

A whole number is written with its decimal digits, unless there are more of them than a text may have.
-/

set_option autoImplicit false

namespace BooleanRetrieval

/-- A number has more digits than may be written. -/
structure TooManyDigits where
  deriving DecidableEq, Repr

/-- The text of the refusal to write a number. -/
def TooManyDigits.message (_ : TooManyDigits) : String :=
  "Exceeds the limit (4300 digits) for integer string conversion; "
    ++ "use sys.set_int_max_str_digits() to increase the limit"

/-- The least number with too many digits to be written. -/
def writableBound : Nat := Nat.pow 10 4300

/-- The decimal digits of a number. -/
def numeral (n : Nat) : Except TooManyDigits String :=
  if n < writableBound then .ok (toString n) else .error {}

end BooleanRetrieval
