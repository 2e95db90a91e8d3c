import BooleanRetrieval.Json.Reader
import BooleanRetrieval.Markup.Strict.Basic

/-!
# References of strict markup

An ampersand refers to a character by its number or to a text by its name. Only five names are known
without a declaration. What is no reference breaks a rule and stands for nothing.
-/

set_option autoImplicit false

namespace BooleanRetrieval.Markup.Strict

/-- What a reference stands for. -/
inductive Reference where
  | number (n : Nat)
  | name (name : String)
  | nothing
  deriving DecidableEq, Repr

/-- The names that are known without a declaration. -/
def knownNames : List (String × Char) :=
  [("lt", '<'), ("gt", '>'), ("amp", '&'), ("quot", '"'), ("apos", '\x27')]

/-- The number of no character. -/
def outOfBounds : Nat := 0x110000

/-- The number that digits of a base write, cut off where it is out of bounds. -/
def boundedNumber (base : Nat) (digits : List Char) : Nat :=
  digits.foldl (fun n c => min (n * base + (Json.hexValue? c).getD 0) outOfBounds) 0

/-- Read a number up to a semicolon. Any other end breaks a rule and makes it zero. -/
def scanNumber (base : Nat) (isDigit : Char → Bool) (cs : List Char) : Scanned Reference :=
  match cs.dropWhile isDigit with
  | ';' :: rest =>
    let n := boundedNumber base (cs.takeWhile isDigit)
    ⟨.number n, isAllowed n, rest⟩
  | rest => ⟨.number 0, false, rest⟩

/-- Read a reference behind its ampersand. -/
def scanReference (cs : List Char) : Scanned Reference :=
  match cs with
  | '#' :: 'x' :: rest => scanNumber 16 (fun c => (Json.hexValue? c).isSome) rest
  | '#' :: rest => scanNumber 10 Char.isDigit rest
  | cs =>
    match takeName? cs with
    | some (name, ';' :: rest) => ⟨.name (.ofList name), true, rest⟩
    | some (_, rest) => ⟨.nothing, false, rest⟩
    | none => ⟨.nothing, false, cs⟩

/-- The text of a number. Zero stands for nothing, and a number that is out of bounds or of no character
for the replacement character. -/
def numberText (n : Nat) : List Char :=
  if n = 0 then []
  else if n < outOfBounds && !(0xD800 ≤ n && n ≤ 0xDFFF) then [Char.ofNat n]
  else ['\uFFFD']

end BooleanRetrieval.Markup.Strict
