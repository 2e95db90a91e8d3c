import BooleanRetrieval.Encoding.Utf8
import BooleanRetrieval.Text.Lines

/-!
# Text files read in chunks

A text file that is read line by line is decoded chunk by chunk. A character that a chunk leaves
unfinished is read with the next chunk. When a chunk cannot be decoded, the lines that were complete
before it have been seen already, and the place of the fault is counted from the bytes that were
decoded together.
-/

set_option autoImplicit false

namespace BooleanRetrieval.Encoding

/-- The number of bytes that are decoded together. -/
def chunkSize : Nat := 8192

/-- The consecutive stretches of a list, of the given positive length but for the last. The first
number bounds how many there are. -/
def chunksOf (size : Nat) : Nat → List UInt8 → List (List UInt8)
  | 0, _ => []
  | fuel + 1, bytes =>
    if bytes.isEmpty then [] else bytes.take size :: chunksOf size fuel (bytes.drop size)

/-- Whether bytes at the end of a chunk may still become a character, or look so until the next byte
is read: two bytes that begin a surrogate are also held back. -/
def heldBack : List Utf8Piece → Option (List UInt8)
  | [.fault .endOfData bytes] => some bytes
  | [.fault .invalidContinuation [0xED], .fault .invalidStart [b]] =>
    if 0xA0 ≤ b && b ≤ 0xBF then some [0xED, b] else none
  | _ => none

/-- The characters before the first stretch that is no character, and the pieces from there on.
`done` holds the characters so far, the latest first. -/
def spanChars (done : List Char) : List Utf8Piece → List Char × List Utf8Piece
  | .char c :: rest => spanChars (c :: done) rest
  | pieces => (done.reverse, pieces)

/-- The texts of the chunks that can be decoded, and the fault that ended them. `left` holds the bytes
that the last chunk held back, and `texts` the texts so far, the latest first. -/
def decodeChunks (left : List UInt8) (texts : List (List Char)) :
    List (List UInt8) → List (List Char) × Option Utf8Error
  | [] =>
    match utf8Strict 0 [] (utf8Pieces left) with
    | .ok _ => (texts.reverse, none)
    | .error e => (texts.reverse, some e)
  | chunk :: rest =>
    let data := left ++ chunk
    let (text, pieces) := spanChars [] (utf8Pieces data)
    if pieces.isEmpty then decodeChunks [] (text :: texts) rest
    else
      match heldBack pieces with
      | some left => decodeChunks left (text :: texts) rest
      | none =>
        match decodeUtf8 data with
        | .ok text => decodeChunks [] (text :: texts) rest
        | .error e => (texts.reverse, some e)

/-- The lines that were finished before a fault: of the text decoded so far only lines with a break
count, and a carriage return at its end may be half of a break and does not finish one. -/
def finishedLines (text : List Char) : List (List Char) :=
  let text := if text.getLast? = some '\r' then text.dropLast else text
  ((Text.fileLines text).filter (! ·.ending.isEmpty)).map Text.Line.content

/-- The lines of a text file without their breaks, and the fault that ended them. -/
def readLines (bytes : List UInt8) : List (List Char) × Option Utf8Error :=
  match decodeUtf8 bytes with
  | .ok text => ((Text.fileLines text).map Text.Line.content, none)
  | .error _ =>
    let (texts, fault) := decodeChunks [] [] (chunksOf chunkSize bytes.length bytes)
    (finishedLines texts.flatten, fault)

end BooleanRetrieval.Encoding
