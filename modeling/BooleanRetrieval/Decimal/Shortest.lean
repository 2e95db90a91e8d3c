/-!
# Shortest decimal text of a binary fraction

A decimal number is stored as the nearest binary fraction with 53 significant bits. It is written
with the fewest digits that still denote that fraction, and of those digits the nearest to it. All of
this is integer arithmetic: a fraction is `mantissa · 2 ^ exponent`.
-/

set_option autoImplicit false

namespace BooleanRetrieval

/-- A decimal number as it is written: a sign, the digits as one number, and a power of ten. -/
structure Decimal where
  negative : Bool
  digits : Nat
  exponent : Int
  deriving DecidableEq, Repr

/-- A number with 53 significant bits, without its sign. -/
inductive Binary where
  | zero
  | finite (mantissa : Nat) (exponent : Int)
  | infinite
  deriving DecidableEq, Repr

/-- A quotient rounded to the nearest whole number, ties to even. -/
def roundQuotient (num den : Nat) : Nat :=
  let floor := num / den
  let rest := 2 * (num % den)
  if rest < den then floor
  else if den < rest then floor + 1
  else if floor % 2 = 0 then floor else floor + 1

/-- The two numbers whose quotient is a number times a power of a base. -/
def scaled (base : Nat) (n : Nat) (power : Int) : Nat × Nat :=
  if 0 ≤ power then (n * base.pow power.toNat, 1) else (n, base.pow (-power).toNat)

namespace Binary

/-- The least exponent of a fraction. -/
def leastExponent : Int := -1074

/-- The greatest exponent of a fraction. -/
def greatestExponent : Int := 971

/-- The nearest fraction to a positive quotient, ties to the even mantissa. -/
def ofQuotient (num den : Nat) : Binary :=
  let estimate : Int := (num.log2 : Int) - (den.log2 : Int) - 52
  let at53 (e : Int) : Nat × Nat :=
    if 0 ≤ e then (num, den * Nat.pow 2 e.toNat) else (num * Nat.pow 2 (-e).toNat, den)
  let (n, d) := at53 estimate
  let exponent := max leastExponent (if n / d < Nat.pow 2 52 then estimate - 1 else estimate)
  let (n, d) := at53 exponent
  let mantissa := roundQuotient n d
  let (mantissa, exponent) :=
    if mantissa = Nat.pow 2 53 then (Nat.pow 2 52, exponent + 1) else (mantissa, exponent)
  if mantissa = 0 then zero
  else if greatestExponent < exponent then infinite
  else finite mantissa exponent

/-- The fraction that a decimal number is stored as. Numbers far outside the range are decided by
their size alone. -/
def ofDecimal (d : Decimal) : Binary :=
  let magnitude : Int := ((Nat.toDigits 10 d.digits).length : Int) + d.exponent
  if d.digits = 0 || magnitude < -330 then zero
  else if 310 < magnitude then infinite
  else
    let (num, den) := scaled 10 d.digits d.exponent
    ofQuotient num den

/-- A decimal place: a whole number of units of a power of ten. -/
structure Place where
  units : Nat
  power : Int

/-- The interval of numbers stored as a fraction, and the fraction itself, as numerators over one
denominator; its ends belong to it when the mantissa is even. -/
structure Interval where
  low : Nat
  value : Nat
  high : Nat
  den : Nat
  closed : Bool

/-- The interval of the numbers stored as a fraction. Below a power of two the fractions lie twice as
dense, so the interval is shorter on that side. -/
def interval (mantissa : Nat) (exponent : Int) : Interval :=
  let dense := mantissa = Nat.pow 2 52 && leastExponent < exponent
  let (unit, den) := scaled 2 1 (exponent - 2)
  ⟨(4 * mantissa - if dense then 1 else 2) * unit, 4 * mantissa * unit, (4 * mantissa + 2) * unit,
    den, mantissa % 2 = 0⟩

/-- Whether a place lies in an interval. -/
def Interval.holds (i : Interval) (p : Place) : Bool :=
  let (num, den) := scaled 10 p.units p.power
  let n := num * i.den
  if i.closed then i.low * den ≤ n && n ≤ i.high * den else i.low * den < n && n < i.high * den

/-- The nearest place in an interval among the two neighbours of its value on the grid of a power of
ten; of two equally near the one with the even last digit. -/
def Interval.neighbour? (i : Interval) (power : Int) : Option Place :=
  let (num, den) :=
    if 0 ≤ power then (i.value, i.den * Nat.pow 10 power.toNat)
    else (i.value * Nat.pow 10 (-power).toNat, i.den)
  let below : Place := ⟨num / den, power⟩
  let above : Place := ⟨num / den + 1, power⟩
  let rest := 2 * (num % den)
  let belowNearer := rest < den || (rest = den && below.units % 2 = 0)
  let (first, second) := if belowNearer then (below, above) else (above, below)
  if i.holds first then some first else if i.holds second then some second else none

/-- The power of ten of the leading digit of a quotient, found downwards from an upper bound. -/
def leadingPower (num den : Nat) : Nat → Int → Int
  | 0, power => power
  | fuel + 1, power =>
    let (n, d) :=
      if 0 ≤ power then (num, den * Nat.pow 10 power.toNat)
      else (num * Nat.pow 10 (-power).toNat, den)
    if d ≤ n then power else leadingPower num den fuel (power - 1)

/-- The first grid, from coarse to fine, on which a place lies in the interval. -/
def Interval.shortest (i : Interval) (leading : Int) : Nat → Place
  | 0 => ⟨i.value / i.den, 0⟩
  | fuel + 1 =>
    let digits : Nat := 17 - fuel
    match i.neighbour? (leading + 1 - digits) with
    | some place => place
    | none => i.shortest leading fuel

/-- The shortest place of a fraction. -/
def shortest (mantissa : Nat) (exponent : Int) : Place :=
  let i := interval mantissa exponent
  i.shortest (leadingPower i.value i.den 700 309) 17

/-- How a number is laid out: digits with trailing zeros dropped, positional when the point falls
among or near them, otherwise with an exponent of at least two digits. -/
def Place.text (p : Place) : String :=
  let all := Nat.toDigits 10 p.units
  let digits := (all.reverse.dropWhile (· = '0')).reverse
  let point : Int := (all.length : Int) + p.power
  if -4 < point && point ≤ 16 then
    if point ≤ 0 then
      "0." ++ .ofList (List.replicate (-point).toNat '0' ++ digits)
    else
      let count := point.toNat
      let whole := digits.take count ++ List.replicate (count - digits.length) '0'
      let fraction := digits.drop count
      .ofList (whole ++ '.' :: if fraction.isEmpty then ['0'] else fraction)
  else
    let exponent := point - 1
    let written := toString exponent.natAbs
    let mark := (if exponent < 0 then "e-" else "e+") ++ (if written.length < 2 then "0" else "")
    match digits with
    | [] => "0.0"
    | [d] => .ofList [d] ++ mark ++ written
    | d :: rest => .ofList (d :: '.' :: rest) ++ mark ++ written

end Binary

/-- The shortest text that denotes the stored form of a decimal number. -/
def Decimal.text (d : Decimal) : String :=
  let magnitude := match Binary.ofDecimal d with
    | .zero => "0.0"
    | .infinite => "inf"
    | .finite mantissa exponent => (Binary.shortest mantissa exponent).text
  if d.negative then "-" ++ magnitude else magnitude

end BooleanRetrieval
