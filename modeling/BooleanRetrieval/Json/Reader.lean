import BooleanRetrieval.Json.Value
import BooleanRetrieval.Store.OrderedMap

/-!
# Reading JSON

A reader takes characters from the front of a text and returns a value with the characters it left.
A fault is placed by the number of characters left where it was noticed, which the last step turns into
a line and a column.
-/

set_option autoImplicit false

namespace BooleanRetrieval.Json

/-- What is wrong with a JSON text. -/
inductive Fault where
  | expectingValue
  | expectingName
  | expectingComma
  | expectingColon
  | extraData
  | byteOrderMark
  | unterminatedString
  | invalidControl
  | invalidEscape
  | invalidUnicodeEscape
  /-- A whole number has more digits than numbers may have. -/
  | tooManyDigits (count : Nat)
  /-- Arrays and objects nest too deeply, the last of them an array or an object. -/
  | nesting (isArray : Bool)
  deriving DecidableEq, Repr

/-- The description of a fault. -/
def Fault.description : Fault → String
  | expectingValue => "Expecting value"
  | expectingName => "Expecting property name enclosed in double quotes"
  | expectingComma => "Expecting ',' delimiter"
  | expectingColon => "Expecting ':' delimiter"
  | extraData => "Extra data"
  | byteOrderMark => "Unexpected UTF-8 BOM (decode using utf-8-sig)"
  | unterminatedString => "Unterminated string starting at"
  | invalidControl => "Invalid control character at"
  | invalidEscape => "Invalid \\escape"
  | invalidUnicodeEscape => "Invalid \\uXXXX escape"
  | tooManyDigits count =>
    "Exceeds the limit (4300 digits) for integer string conversion: value has " ++ toString count
      ++ " digits; use sys.set_int_max_str_digits() to increase the limit"
  | nesting isArray =>
    "maximum recursion depth exceeded while decoding a JSON " ++ (if isArray then "array" else "object")
      ++ " from a unicode string"

/-- A fault and the number of characters left where it was noticed. -/
structure Failure where
  fault : Fault
  left : Nat
  deriving DecidableEq, Repr

/-- A fault at the beginning of what is left. -/
def failAt {α : Type} (fault : Fault) (rest : List Char) : Except Failure α :=
  .error ⟨fault, rest.length⟩

/-- The blank characters between the parts of a JSON text. -/
def isSpace (c : Char) : Bool :=
  c = ' ' || c = '\t' || c = '\n' || c = '\r'

/-- What is left behind leading blank characters. -/
def skipSpace (cs : List Char) : List Char :=
  cs.dropWhile isSpace

/-- The value of a hexadecimal digit. -/
def hexValue? (c : Char) : Option Nat :=
  if '0' ≤ c && c ≤ '9' then some (c.toNat - 48)
  else if 'a' ≤ c && c ≤ 'f' then some (c.toNat - 87)
  else if 'A' ≤ c && c ≤ 'F' then some (c.toNat - 55)
  else none

/-- The number that hexadecimal digits write. -/
def hexNumber? (cs : List Char) : Option Nat :=
  cs.foldl (fun acc c => do return (← acc) * 16 + (← hexValue? c)) (some 0)

/-- The character that a letter stands for behind a backslash. -/
def escaped? : Char → Option Char
  | '"' => some '"'
  | '\\' => some '\\'
  | '/' => some '/'
  | 'b' => some '\x08'
  | 'f' => some '\x0c'
  | 'n' => some '\n'
  | 'r' => some '\r'
  | 't' => some '\t'
  | _ => none

/-- Whether a code unit is the first half of a pair. -/
def isHighHalf (n : Nat) : Bool :=
  0xD800 ≤ n && n ≤ 0xDBFF

/-- Whether a code unit is the second half of a pair. -/
def isLowHalf (n : Nat) : Bool :=
  0xDC00 ≤ n && n ≤ 0xDFFF

/-- The character of a code unit. A half without its partner is no character, and one of the last characters for
private use stands for it, another one for each half. -/
def unitChar (n : Nat) : Char :=
  if isHighHalf n || isLowHalf n then Char.ofNat (0x10F800 + (n - 0xD800)) else Char.ofNat n

/-- The character of a pair of halves. -/
def pairChar (high low : Nat) : Char :=
  Char.ofNat (0x10000 + (high - 0xD800) * 0x400 + (low - 0xDC00))

/-- Read the rest of a string. `done` holds the characters so far, the latest first. -/
def readString (done : List Char) : List Char → Except Failure (String × List Char)
  | [] => failAt .unterminatedString []
  | '"' :: rest => .ok (.ofList done.reverse, rest)
  | ['\\'] => failAt .unterminatedString []
  | '\\' :: 'u' :: a :: b :: c :: d :: e :: rest =>
    match hexNumber? [a, b, c, d] with
    | none => .error ⟨.invalidUnicodeEscape, rest.length + 6⟩
    | some unit =>
      match e, rest with
      | '\\', 'u' :: a' :: b' :: c' :: d' :: e' :: rest' =>
        if isHighHalf unit then
          match hexNumber? [a', b', c', d'] with
          | none => .error ⟨.invalidUnicodeEscape, rest'.length + 6⟩
          | some unit' =>
            if isLowHalf unit' then readString (pairChar unit unit' :: done) (e' :: rest')
            else readString (unitChar unit :: done) ('\\' :: 'u' :: a' :: b' :: c' :: d' :: e' :: rest')
        else readString (unitChar unit :: done) ('\\' :: 'u' :: a' :: b' :: c' :: d' :: e' :: rest')
      | e, rest => readString (unitChar unit :: done) (e :: rest)
  | '\\' :: 'u' :: rest => .error ⟨.invalidUnicodeEscape, rest.length + 1⟩
  | '\\' :: c :: rest =>
    match escaped? c with
    | some c => readString (c :: done) rest
    | none => .error ⟨.invalidEscape, rest.length + 2⟩
  | c :: rest =>
    if c < ' ' then .error ⟨.invalidControl, rest.length + 1⟩
    else readString (c :: done) rest

/-- Read a string at its opening quotation mark, where an unterminated one is placed. -/
def readQuoted (cs : List Char) : Except Failure (String × List Char) :=
  (readString [] cs.tail).mapError fun failure =>
    if failure.fault = .unterminatedString then ⟨failure.fault, cs.length⟩ else failure

/-- The most digits that a whole number may have. -/
def maxDigits : Nat := 4300

/-- The fraction at the beginning of a text: its digits, if a point with a digit behind it stands
there. -/
def readFraction (cs : List Char) : List Char × List Char :=
  match cs with
  | '.' :: rest =>
    let digits := rest.takeWhile Char.isDigit
    if digits.isEmpty then ([], cs) else (digits, rest.dropWhile Char.isDigit)
  | cs => ([], cs)

/-- The power of ten at the beginning of a text, if a complete one stands there. -/
def readPower (cs : List Char) : Option Int × List Char :=
  match cs with
  | e :: rest =>
    if e = 'e' || e = 'E' then
      let (negative, body) := match rest with
        | '-' :: body => (true, body)
        | '+' :: body => (false, body)
        | body => (false, body)
      let digits := body.takeWhile Char.isDigit
      if digits.isEmpty then (none, cs)
      else
        let n : Int := (Nat.ofDigitChars 10 digits 0 : Nat)
        (some (if negative then -n else n), body.dropWhile Char.isDigit)
    else (none, cs)
  | [] => (none, cs)

/-- Read a number behind its sign. `start` is what was left at the sign. -/
def readMagnitude (negative : Bool) (start cs : List Char) : Except Failure (Json × List Char) :=
  let whole := match cs with
    | '0' :: _ => ['0']
    | cs => cs.takeWhile Char.isDigit
  if whole.isEmpty then failAt .expectingValue start
  else
    let afterWhole := cs.drop whole.length
    let (fraction, afterFraction) := readFraction afterWhole
    let (power, rest) := readPower afterFraction
    if fraction.isEmpty && power.isNone then
      if maxDigits < whole.length then failAt (.tooManyDigits whole.length) start
      else
        let n : Int := (Nat.ofDigitChars 10 whole 0 : Nat)
        .ok (.int (if negative then -n else n), rest)
    else
      let digits := Nat.ofDigitChars 10 (whole ++ fraction) 0
      .ok (.real ⟨negative, digits, power.getD 0 - fraction.length⟩, rest)

/-- What is left behind a word at the beginning of a text. -/
def dropWord? (word : String) (cs : List Char) : Option (List Char) :=
  if word.toList.isPrefixOf cs then some (cs.drop word.length) else none

/-- The words that are values by themselves. -/
def constants : List (String × Json) :=
  [("null", .null), ("true", .bool true), ("false", .bool false), ("NaN", .nan),
   ("Infinity", .infinity false), ("-Infinity", .infinity true)]

/-- Read a constant or a number. -/
def readScalar (cs : List Char) : Except Failure (Json × List Char) :=
  match constants.findSome? fun (word, value) => (dropWord? word cs).map fun rest => (value, rest) with
  | some read => .ok read
  | none =>
    match cs with
    | '-' :: rest => readMagnitude true cs rest
    | cs => readMagnitude false cs cs

/-- The value of a finished object: a repeated name keeps its first place and its last value. -/
def objectOf (members : List (String × Json)) : Json :=
  .object (members.foldl (fun (m : OrderedMap Json) (name, value) => m.insert name value) .empty).entries

mutual

/-- Read a value in as many arrays and objects as `depth` tells, of which `limit` may nest. The last number
bounds how many values and separators are read. -/
def readValue (limit depth : Nat) : Nat → List Char → Except Failure (Json × List Char)
  | 0, cs => failAt .expectingValue cs
  | fuel + 1, cs =>
    match cs with
    | '"' :: _ => do
      let (s, rest) ← readQuoted cs
      .ok (.string s, rest)
    | '[' :: rest =>
      if limit ≤ depth then failAt (.nesting true) cs
      else
        match skipSpace rest with
        | ']' :: rest => .ok (.array [], rest)
        | rest => readItems limit (depth + 1) fuel [] rest
    | '\x7b' :: rest =>
      if limit ≤ depth then failAt (.nesting false) cs
      else
        match skipSpace rest with
        | '\x7d' :: rest => .ok (.object [], rest)
        | rest => readMembers limit (depth + 1) fuel [] rest
    | cs => readScalar cs

/-- Read the items of an array up to its closing bracket. `done` holds the items so far, the latest
first. -/
def readItems (limit depth : Nat) : Nat → List Json → List Char → Except Failure (Json × List Char)
  | 0, _, cs => failAt .expectingValue cs
  | fuel + 1, done, cs =>
    match readValue limit depth fuel cs with
    | .error e => .error e
    | .ok (item, rest) =>
      match skipSpace rest with
      | ']' :: rest => .ok (.array (item :: done).reverse, rest)
      | ',' :: rest => readItems limit depth fuel (item :: done) (skipSpace rest)
      | rest => failAt .expectingComma rest

/-- Read the members of an object up to its closing brace. `done` holds the members so far, the latest
first. -/
def readMembers (limit depth : Nat) :
    Nat → List (String × Json) → List Char → Except Failure (Json × List Char)
  | 0, _, cs => failAt .expectingValue cs
  | fuel + 1, done, cs =>
    match cs with
    | '"' :: _ =>
      match readQuoted cs with
      | .error e => .error e
      | .ok (name, rest) =>
        match skipSpace rest with
        | ':' :: rest =>
          match readValue limit depth fuel (skipSpace rest) with
          | .error e => .error e
          | .ok (value, rest) =>
            match skipSpace rest with
            | '\x7d' :: rest => .ok (objectOf ((name, value) :: done).reverse, rest)
            | ',' :: rest => readMembers limit depth fuel ((name, value) :: done) (skipSpace rest)
            | rest => failAt .expectingComma rest
        | rest => failAt .expectingColon rest
    | cs => failAt .expectingName cs

end

/-- Read a whole text in which so many arrays and objects may nest. -/
def readText (limit : Nat) (cs : List Char) : Except Failure Json :=
  match cs with
  | '\uFEFF' :: _ => failAt .byteOrderMark cs
  | cs =>
    match readValue limit 0 (2 * cs.length + 2) (skipSpace cs) with
    | .error e => .error e
    | .ok (value, rest) =>
      match skipSpace rest with
      | [] => .ok value
      | rest => failAt .extraData rest

/-- A fault with its place in the text: characters before it, line and column counted from one. -/
structure Error where
  fault : Fault
  offset : Nat
  line : Nat
  column : Nat
  deriving DecidableEq, Repr

/-- The text of an error. A number with too many digits has no place in its message. -/
def Error.message (e : Error) : String :=
  match e.fault with
  | .tooManyDigits _ | .nesting _ => e.fault.description
  | fault =>
    fault.description ++ ": line " ++ toString e.line ++ " column " ++ toString e.column ++ " (char "
      ++ toString e.offset ++ ")"

/-- The place of a fault in a text. -/
def locate (text : List Char) (failure : Failure) : Error :=
  let offset := text.length - failure.left
  let before := text.take offset
  ⟨failure.fault, offset, before.count '\n' + 1,
    (before.reverse.takeWhile (· ≠ '\n')).length + 1⟩

/-- The value of a JSON text in which so many arrays and objects may nest. -/
def parse (limit : Nat) (text : List Char) : Except Error Json :=
  (readText limit text).mapError (locate text)

end BooleanRetrieval.Json
