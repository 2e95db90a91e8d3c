import BooleanRetrieval.Encoding.SingleByte
import BooleanRetrieval.Encoding.Utf8

/-!
# Decoding step by step

An encoding of characters in several bytes is given by what the bytes at the beginning of a text stand
for, in a state that earlier bytes may have changed. A decoded text tells for each character where its
bytes end, so that one knows which characters have arrived with a number of bytes.
-/

set_option autoImplicit false

namespace BooleanRetrieval.Encoding

/-- What the bytes at the beginning of a text stand for, with the number of these bytes and the state
behind them. -/
inductive DecodeStep (State : Type) where
  | char (c : Char) (size : Nat) (state : State)
  | skip (size : Nat) (state : State)
  /-- The bytes end too early to tell. -/
  | short
  /-- So many bytes show that they stand for nothing. -/
  | fault (size : Nat)

/-- An encoding that is decoded step by step. -/
structure Stepper where
  State : Type
  start : State
  next : State → List UInt8 → DecodeStep State

/-- A character of a decoded text, or nothing for bytes that stand for none, and the number of bytes up to
its end. -/
structure DecodedChar where
  char? : Option Char
  stop : Nat
  deriving DecidableEq, Repr

/-- A decoded text. Where decoding has stopped early, `fault` is the number of bytes that show why. -/
structure Decoded where
  chars : List DecodedChar
  fault : Option Nat
  deriving DecidableEq, Repr

/-- Decode from a position on. `done` holds the characters so far, the latest first, and the number bounds
how many steps there are. -/
def Stepper.decodeFrom (d : Stepper) :
    Nat → d.State → Nat → List DecodedChar → List UInt8 → Decoded
  | 0, _, _, done, _ => ⟨done.reverse, none⟩
  | fuel + 1, state, position, done, bytes =>
    match d.next state bytes with
    | .char c size state =>
      let position := position + size
      d.decodeFrom fuel state position (⟨some c, position⟩ :: done) (bytes.drop size)
    | .skip size state => d.decodeFrom fuel state (position + size) done (bytes.drop size)
    | .short => ⟨done.reverse, none⟩
    | .fault size => ⟨done.reverse, some (position + size)⟩

/-- Decode bytes. -/
def Stepper.decode (d : Stepper) (bytes : List UInt8) : Decoded :=
  d.decodeFrom (2 * bytes.length + 1) d.start 0 [] bytes

/-- The encoding that is given by what the bytes at the beginning of a text stand for in any state. -/
def Stepper.stateless (next : List UInt8 → DecodeStep Unit) : Stepper :=
  ⟨Unit, (), fun _ => next⟩

/-- An encoding of single bytes. -/
def Stepper.singleByte (encoding : SingleByte) : Stepper :=
  .stateless fun bytes =>
    match bytes with
    | [] => .short
    | b :: _ =>
      match encoding.char? b with
      | some c => .char c 1 ()
      | none => .fault 1

/-- An encoding of single bytes and pairs: the character of a byte that stands alone, whether a byte is
the first of two, and the character of two bytes. -/
def Stepper.doubleByte (single : UInt8 → Option Char) (isLead : UInt8 → Bool)
    (double : UInt8 → UInt8 → Option Char) : Stepper :=
  .stateless fun bytes =>
    match bytes with
    | [] => .short
    | b :: rest =>
      match single b with
      | some c => .char c 1 ()
      | none =>
        if isLead b then
          match rest with
          | [] => .short
          | t :: _ =>
            match double b t with
            | some c => .char c 2 ()
            | none => .fault 2
        else .fault 1

/-- The ASCII character of a byte. -/
def asciiChar? (b : UInt8) : Option Char :=
  if b < 0x80 then some (Char.ofNat b.toNat) else none

/-- Characters in rows and cells, both counted from zero. A point marks an empty cell. -/
structure Plane where
  rows : List String

/-- The character in a cell. -/
def Plane.char? (p : Plane) (row cell : Nat) : Option Char :=
  match (p.rows.getD row "").toList[cell]? with
  | some c => if c = '.' then none else some c
  | none => none

/-- The characters of pieces of UTF-8 from a position on. -/
def utf8Decoded (position : Nat) : List Utf8Piece → List DecodedChar
  | [] => []
  | piece :: rest =>
    let position := position + piece.size
    match piece with
    | .char c => ⟨some c, position⟩ :: utf8Decoded position rest
    | .fault _ _ => ⟨none, position⟩ :: utf8Decoded position rest

end BooleanRetrieval.Encoding
