import BooleanRetrieval.Decimal.Shortest

/-!
# Numbers with a fixed count of places

A quotient is stored as a binary fraction, and that is written with two places, rounded to the nearest;
a fraction halfway between two such numbers goes to the one with the even last digit.
-/

set_option autoImplicit false

namespace BooleanRetrieval

/-- A whole number of hundredths as text. -/
def hundredthsText (n : Nat) : String :=
  let cents := toString (n % 100)
  toString (n / 100) ++ "." ++ (if cents.length < 2 then "0" ++ cents else cents)

/-- A binary fraction with two places. -/
def Binary.twoPlaces : Binary → String
  | .zero => hundredthsText 0
  | .finite mantissa exponent =>
    let (num, den) := scaled 2 mantissa exponent
    hundredthsText (roundQuotient (num * 100) den)
  -- only of numbers with more than a thousand binary digits, which no size has
  | .infinite => "inf"

/-- The quotient of two numbers with two places. -/
def twoPlaces (num den : Nat) : String :=
  (Binary.ofQuotient num den).twoPlaces

end BooleanRetrieval
