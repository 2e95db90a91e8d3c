import BooleanRetrieval.Encoding.SingleByte
import BooleanRetrieval.Json.Reader
import BooleanRetrieval.Markup.Entity

/-!
# Character references

In hypertext an ampersand begins a reference to a character by its number or by a name. What is no
reference stands for itself.
-/

set_option autoImplicit false

namespace BooleanRetrieval.Markup

/-- The number that digits of a base write. -/
def baseNumber (base : Nat) (digits : List Char) : Nat :=
  digits.foldl (fun n c => n * base + (Json.hexValue? c).getD 0) 0

/-- A number behind the number sign of a reference, and what follows its digits: in base 16 behind an
x, else in base 10. -/
def takeReferenceNumber (cs : List Char) : Option (Nat × List Char) :=
  let (base, isDigit, body) : Nat × (Char → Bool) × List Char :=
    match cs with
    | x :: rest =>
      if x = 'x' || x = 'X' then (16, fun c => (Json.hexValue? c).isSome, rest)
      else (10, Char.isDigit, cs)
    | [] => (10, Char.isDigit, [])
  let digits := body.takeWhile isDigit
  if digits.isEmpty then none else some (baseNumber base digits, body.dropWhile isDigit)

/-- What is left behind a semicolon, if one stands there. -/
def dropSemicolon : List Char → List Char
  | ';' :: rest => rest
  | cs => cs

/-- The character of a number in hypertext. Numbers of no character give the replacement character;
those of the second control block mean the code page 1252. -/
def hypertextChar (n : Nat) : Char :=
  if n = 0 || 0x10FFFF < n || (0xD800 ≤ n && n ≤ 0xDFFF) then '\uFFFD'
  else if 0x80 ≤ n && n ≤ 0x9F then
    (Encoding.SingleByte.windows1252.char? (UInt8.ofNat n)).getD (Char.ofNat n)
  else Char.ofNat n

/-- The longest beginning of a name that needs no semicolon, among those of at most the given length,
and the length of that beginning. -/
def shortEntity? (name : List Char) : Nat → Option (List Char × Nat)
  | 0 => none
  | length + 1 =>
    let start := String.ofList (name.take (length + 1))
    if length < name.length && shortEntities.contains start then
      (entity? start).map fun cs => (cs, length + 1)
    else shortEntity? name length

/-- The characters of the reference behind an ampersand in hypertext, and what follows it. -/
def hypertextReference? (cs : List Char) : Option (List Char × List Char) :=
  match cs with
  | '#' :: rest =>
    (takeReferenceNumber rest).map fun (n, rest) => ([hypertextChar n], dropSemicolon rest)
  | cs =>
    let name := cs.takeWhile Char.isAlphanum
    let rest := cs.drop name.length
    let full := if rest.head? = some ';' then entity? (.ofList name) else none
    match full with
    | some text => some (text, rest.drop 1)
    | none => (shortEntity? name 6).map fun (text, length) => (text, cs.drop length)

/-- The text of hypertext with its references resolved. `done` holds the characters so far, the latest
first, and the number bounds how many steps are made. -/
def resolveHypertext : Nat → List Char → List Char → List Char
  | 0, done, cs => done.reverse ++ cs
  | _ + 1, done, [] => done.reverse
  | fuel + 1, done, '&' :: rest =>
    match hypertextReference? rest with
    | some (text, rest) => resolveHypertext fuel (text.reverse ++ done) rest
    | none => resolveHypertext fuel ('&' :: done) rest
  | fuel + 1, done, c :: rest => resolveHypertext fuel (c :: done) rest

/-- The text of hypertext with its references resolved. -/
def hypertextText (cs : List Char) : List Char :=
  resolveHypertext cs.length [] cs

end BooleanRetrieval.Markup
