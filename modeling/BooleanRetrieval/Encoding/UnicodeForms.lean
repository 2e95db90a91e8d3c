import BooleanRetrieval.Encoding.Stepwise

/-!
# Further forms of Unicode

Unicode text in units of two or four bytes, and in seven bits.
-/

set_option autoImplicit false

namespace BooleanRetrieval.Encoding

/-- The number that bytes write. -/
def unitNumber (bigEndian : Bool) (bytes : List UInt8) : Nat :=
  (if bigEndian then bytes else bytes.reverse).foldl (fun n b => n * 256 + b.toNat) 0

/-- Whether a number is the first half of a pair of units. -/
def isHighHalf (n : Nat) : Bool := 0xD800 ≤ n && n ≤ 0xDBFF

/-- Whether a number is the second half of a pair of units. -/
def isLowHalf (n : Nat) : Bool := 0xDC00 ≤ n && n ≤ 0xDFFF

/-- The character of a pair of units. -/
def pairedChar (high low : Nat) : Char :=
  Char.ofNat (0x10000 + (high - 0xD800) * 0x400 + (low - 0xDC00))

/-- UTF-16. Half of a pair alone stands for nothing. -/
def utf16 (bigEndian : Bool) : Stepper :=
  .stateless fun bytes =>
    let unit (skip : Nat) : Nat := unitNumber bigEndian ((bytes.drop skip).take 2)
    if bytes.length < 2 then .short
    else if isLowHalf (unit 0) then .fault 2
    else if isHighHalf (unit 0) then
      if bytes.length < 4 then .short
      else if isLowHalf (unit 2) then .char (pairedChar (unit 0) (unit 2)) 4 ()
      else .fault 4
    else .char (Char.ofNat (unit 0)) 2 ()

/-- Units of two bytes without pairs. -/
def ucs2 (bigEndian : Bool) : Stepper :=
  .stateless fun bytes =>
    let n := unitNumber bigEndian (bytes.take 2)
    if bytes.length < 2 then .short
    else if isHighHalf n || isLowHalf n then .fault 2
    else .char (Char.ofNat n) 2 ()

/-- UTF-32. -/
def utf32 (bigEndian : Bool) : Stepper :=
  .stateless fun bytes =>
    let n := unitNumber bigEndian (bytes.take 4)
    if bytes.length < 4 then .short
    else if 0x10FFFF < n || isHighHalf n || isLowHalf n then .fault 4
    else .char (Char.ofNat n) 4 ()

/-- The number of six bits that a character stands for inside a shifted part of UTF-7. -/
def sixBits? (b : UInt8) : Option Nat :=
  let n := b.toNat
  if 0x41 ≤ n && n ≤ 0x5A then some (n - 0x41)
  else if 0x61 ≤ n && n ≤ 0x7A then some (n - 0x61 + 26)
  else if 0x30 ≤ n && n ≤ 0x39 then some (n - 0x30 + 52)
  else if n = 0x2B then some 62
  else if n = 0x2F then some 63
  else none

/-- The ASCII characters that stand for themselves in UTF-7. -/
def isDirect (b : UInt8) : Bool :=
  b = 9 || b = 10 || b = 13 || (0x20 ≤ b && b ≤ 0x7D && b ≠ 0x5C && b ≠ 0x2B)

/-- The state of UTF-7: outside of shifted parts, or inside one with the bits that are left over, as a
number and how many they are, and the first half of a pair. -/
inductive Utf7State where
  | direct
  | shifted (bits count : Nat) (high : Option Nat)
  deriving DecidableEq, Repr

/-- What a byte inside a shifted part of UTF-7 stands for. -/
def utf7Shifted (bits count : Nat) (high : Option Nat) (b : UInt8) : DecodeStep Utf7State :=
  match sixBits? b with
  | some six =>
    let bits := bits * 64 + six
    let count := count + 6
    if count < 16 then .skip 1 (.shifted bits count high)
    else
      let spare := count - 16
      let unit := bits / Nat.pow 2 spare
      let left := bits % Nat.pow 2 spare
      match high with
      | some half =>
        if isLowHalf unit then .char (pairedChar half unit) 1 (.shifted left spare none) else .fault 1
      | none =>
        if isHighHalf unit then .skip 1 (.shifted left spare (some unit))
        else if isLowHalf unit then .fault 1
        else .char (Char.ofNat unit) 1 (.shifted left spare none)
  | none =>
    if high.isSome || 6 ≤ count || bits ≠ 0 then .fault 1
    else if b = 0x2D then .skip 1 .direct
    else .skip 0 .direct

/-- What the bytes of UTF-7 stand for: between a plus sign and a minus sign, six bits each. -/
def utf7Next (state : Utf7State) (bytes : List UInt8) : DecodeStep Utf7State :=
  match bytes with
  | [] => .short
  | b :: rest =>
    match state with
    | .shifted bits count high => utf7Shifted bits count high b
    | .direct =>
      if b = 0x2B then
        match rest with
        | [] => .short
        | c :: _ =>
          if c = 0x2D then .char '+' 2 .direct
          else if (sixBits? c).isSome then .skip 1 (.shifted 0 0 none)
          else .fault 2
      else if isDirect b then .char (Char.ofNat b.toNat) 1 .direct
      else .fault 1

/-- UTF-7. -/
def utf7 : Stepper := ⟨Utf7State, .direct, utf7Next⟩

end BooleanRetrieval.Encoding
