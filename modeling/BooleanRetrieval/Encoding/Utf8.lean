/-!
# UTF-8

Bytes are read one at a time. A sequence in progress knows the range of its next byte, so an
ill-formed one is noticed at the first byte that rules it out; that byte is then read afresh. Every
ill-formed stretch is therefore as long as possible and still a beginning of some character, and no
byte that stands for itself is ever part of one.
-/

set_option autoImplicit false

namespace BooleanRetrieval.Encoding

/-- Why a stretch of bytes is no character. -/
inductive Utf8Fault where
  | invalidStart
  | invalidContinuation
  | endOfData
  deriving DecidableEq, Repr

/-- The text of a fault. -/
def Utf8Fault.message : Utf8Fault → String
  | invalidStart => "invalid start byte"
  | invalidContinuation => "invalid continuation byte"
  | endOfData => "unexpected end of data"

/-- What a stretch of bytes stands for. -/
inductive Utf8Piece where
  | char (c : Char)
  | fault (reason : Utf8Fault) (bytes : List UInt8)
  deriving DecidableEq, Repr

/-- The number of bytes of a piece. -/
def Utf8Piece.size : Utf8Piece → Nat
  | char c => c.utf8Size
  | fault _ bytes => bytes.length

/-- A sequence in progress: its bytes so far with the latest first, the number that its bytes write
so far, how many bytes are missing, and the range of the next one. -/
structure Utf8Sequence where
  bytes : List UInt8
  value : Nat
  missing : Nat
  low : UInt8
  high : UInt8

/-- The sequence that a byte begins, if it begins one of several bytes. -/
def Utf8Sequence.start? (b : UInt8) : Option Utf8Sequence :=
  let n := b.toNat
  if 0xC2 ≤ n && n ≤ 0xDF then some ⟨[b], n - 0xC0, 1, 0x80, 0xBF⟩
  else if n = 0xE0 then some ⟨[b], 0, 2, 0xA0, 0xBF⟩
  else if n = 0xED then some ⟨[b], 0xD, 2, 0x80, 0x9F⟩
  else if 0xE1 ≤ n && n ≤ 0xEF then some ⟨[b], n - 0xE0, 2, 0x80, 0xBF⟩
  else if n = 0xF0 then some ⟨[b], 0, 3, 0x90, 0xBF⟩
  else if n = 0xF4 then some ⟨[b], 4, 3, 0x80, 0x8F⟩
  else if 0xF1 ≤ n && n ≤ 0xF3 then some ⟨[b], n - 0xF0, 3, 0x80, 0xBF⟩
  else none

/-- A decoder between two bytes: the pieces so far with the latest first, and the sequence in
progress. -/
structure Utf8Decoder where
  pieces : List Utf8Piece
  sequence : Option Utf8Sequence

namespace Utf8Decoder

/-- Nothing has been read. -/
def empty : Utf8Decoder := ⟨[], none⟩

/-- Read a byte that begins a character. -/
def begin (pieces : List Utf8Piece) (b : UInt8) : Utf8Decoder :=
  if b < 0x80 then ⟨.char (Char.ofNat b.toNat) :: pieces, none⟩
  else
    match Utf8Sequence.start? b with
    | some sequence => ⟨pieces, some sequence⟩
    | none => ⟨.fault .invalidStart [b] :: pieces, none⟩

/-- Read one more byte. -/
def push (d : Utf8Decoder) (b : UInt8) : Utf8Decoder :=
  match d.sequence with
  | none => begin d.pieces b
  | some s =>
    if s.low ≤ b && b ≤ s.high then
      let value := s.value * 64 + (b.toNat - 0x80)
      if s.missing ≤ 1 then ⟨.char (Char.ofNat value) :: d.pieces, none⟩
      else ⟨d.pieces, some ⟨b :: s.bytes, value, s.missing - 1, 0x80, 0xBF⟩⟩
    else begin (.fault .invalidContinuation s.bytes.reverse :: d.pieces) b

/-- The pieces read, when no byte follows. -/
def close (d : Utf8Decoder) : List Utf8Piece :=
  match d.sequence with
  | none => d.pieces.reverse
  | some s => (.fault .endOfData s.bytes.reverse :: d.pieces).reverse

end Utf8Decoder

/-- The characters and ill-formed stretches of a sequence of bytes, in order. -/
def utf8Pieces (bytes : List UInt8) : List Utf8Piece :=
  (bytes.foldl Utf8Decoder.push .empty).close

/-- A stretch that is no character: where it begins, its bytes, and why. -/
structure Utf8Error where
  position : Nat
  bytes : List UInt8
  reason : Utf8Fault
  deriving DecidableEq, Repr

/-- The digit of a value below 16. -/
def hexDigit (n : Nat) : Char :=
  Nat.digitChar n

/-- The text of a decoding error. -/
def Utf8Error.message (e : Utf8Error) : String :=
  let stretch := match e.bytes with
    | [b] =>
      let n := b.toNat
      "byte 0x" ++ .ofList [hexDigit (n / 16), hexDigit (n % 16)] ++ " in position "
        ++ toString e.position
    | bytes =>
      "bytes in position " ++ toString e.position ++ "-" ++ toString (e.position + bytes.length - 1)
  "'utf-8' codec can't decode " ++ stretch ++ ": " ++ e.reason.message

/-- The characters of pieces that start at a position, when all of them are characters. `done` holds
the characters so far, the latest first. -/
def utf8Strict (position : Nat) (done : List Char) :
    List Utf8Piece → Except Utf8Error (List Char)
  | [] => .ok done.reverse
  | .char c :: rest => utf8Strict (position + c.utf8Size) (c :: done) rest
  | .fault reason bytes :: _ => .error ⟨position, bytes, reason⟩

/-- The text that bytes write in UTF-8. -/
def decodeUtf8 (bytes : List UInt8) : Except Utf8Error (List Char) :=
  utf8Strict 0 [] (utf8Pieces bytes)

/-- The replacement character. -/
def replacement : Char := '\uFFFD'

/-- The text that bytes write in UTF-8, with a replacement character for each ill-formed stretch. -/
def decodeUtf8Replacing (bytes : List UInt8) : List Char :=
  (utf8Pieces bytes).map fun piece =>
    match piece with
    | .char c => c
    | .fault _ _ => replacement

/-- The bytes that write a character in UTF-8. -/
def utf8Bytes (c : Char) : List UInt8 :=
  String.utf8EncodeChar c

/-- The bytes that write a text in UTF-8. -/
def encodeUtf8 (cs : List Char) : List UInt8 :=
  cs.flatMap utf8Bytes

/-- The bytes of the byte order mark. -/
def utf8Mark : List UInt8 := [0xEF, 0xBB, 0xBF]

/-- The bytes behind a leading byte order mark, or all bytes if there is none. -/
def dropUtf8Mark (bytes : List UInt8) : List UInt8 :=
  if utf8Mark.isPrefixOf bytes then bytes.drop utf8Mark.length else bytes

end BooleanRetrieval.Encoding
