import BooleanRetrieval.Encoding.Chunks
import BooleanRetrieval.Markup.Charset
import BooleanRetrieval.Markup.Strict.Basic
import BooleanRetrieval.Markup.Tag

/-!
# The text of a document

A document tells its encoding by a byte order mark or by a declaration near its beginning: in the first
line of strict markup, in a `meta` tag of hypertext. A document that tells none, or one that is not
known, is in UTF-8. Hypertext is decoded as a whole, strict markup in blocks; bytes that stand for nothing
make all of hypertext unreadable, and of strict markup the block in which they show. Only in UTF-8 they
are replaced.
-/

set_option autoImplicit false

namespace BooleanRetrieval.Markup

/-- The encoding that a byte order mark tells, and the bytes behind the mark. -/
def splitMark? (bytes : List UInt8) : Option (Charset × List UInt8) :=
  match bytes with
  | 0xEF :: 0xBB :: 0xBF :: rest => some (.utf8, rest)
  | 0xFE :: 0xFF :: a :: b :: rest =>
    if a = 0 && b = 0 then none else some (.utf16 true, a :: b :: rest)
  | 0xFF :: 0xFE :: a :: b :: rest =>
    if a = 0 && b = 0 then some (.utf32 false, rest) else some (.utf16 false, a :: b :: rest)
  | 0 :: 0 :: 0xFE :: 0xFF :: rest => some (.utf32 true, rest)
  | _ => none

/-- What follows the last place where a word stands, in any case. -/
def dropThroughLast (word : List Char) (found : Option (List Char)) :
    List Char → Option (List Char)
  | [] => found
  | c :: rest =>
    let here := ((c :: rest).take word.length).map Char.toLower = word
    dropThroughLast word (if here then some ((c :: rest).drop word.length) else found) rest

/-- The encoding that the declaration in the first line of strict markup names. -/
def strictDeclaration? (cs : List Char) : Option String :=
  match cs.dropWhile isMarkupSpace with
  | '<' :: '?' :: rest =>
    let line := rest.takeWhile (· ≠ '\n')
    match dropThroughLast "encoding=".toList none line with
    | some (quote :: value) =>
      let name := value.takeWhile fun c => c ≠ '"' && c ≠ '\x27'
      let after := value.drop name.length
      if (quote = '"' || quote = '\x27') && (dropThrough ['?', '>'] after).isSome && !name.isEmpty then
        some (.ofList name)
      else none
    | _ => none
  | _ => none

/-- The encoding that a `meta` tag names, given what stands behind the word `meta`. -/
def metaCharset? (cs : List Char) : Option String :=
  let tag := cs.takeWhile (· ≠ '>')
  match dropThroughLast "charset".toList none (tag.drop 1) with
  | some rest =>
    match rest.dropWhile isMarkupSpace with
    | '=' :: rest =>
      let value := rest.dropWhile isMarkupSpace
      let value := if value.head?.any fun c => c = '"' || c = '\x27' then value.drop 1 else value
      let name := value.takeWhile fun c => !" /;\x27\">".toList.contains c
      if name.isEmpty then none else some (.ofList name)
    | _ => none
  | none => none

/-- The encoding that the first `meta` tag with an encoding names. -/
def hypertextDeclaration? : List Char → Option String
  | [] => none
  | '<' :: rest =>
    let rest' := rest.dropWhile isMarkupSpace
    if (rest'.take 4).map Char.toLower = "meta".toList then
      (metaCharset? (rest'.drop 4)).orElse fun _ => hypertextDeclaration? rest
    else hypertextDeclaration? rest
  | _ :: rest => hypertextDeclaration? rest

/-- The encoding that a document declares near its beginning. -/
def declaredCharset? (hypertext : Bool) (bytes : List UInt8) : Option Charset :=
  let start (count : Nat) : List Char := Encoding.SingleByte.latin1.decodeReplacing (bytes.take count)
  let name := (strictDeclaration? (start 1024)).orElse fun _ =>
    if hypertext then hypertextDeclaration? (start (max 2048 (bytes.length / 20))) else none
  name.bind Charset.ofName?

/-- The encoding of a document, and its bytes without a byte order mark. -/
def documentCharset (hypertext : Bool) (bytes : List UInt8) : Charset × List UInt8 :=
  (splitMark? bytes).getD ((declaredCharset? hypertext bytes).getD .utf8, bytes)

/-- The text of a hypertext document. -/
def hypertextDocument (bytes : List UInt8) : List Char :=
  let (charset, bytes) := documentCharset true bytes
  let text := charset.decode bytes
  if text.fault.isSome then [] else text.chars.map fun c => c.char?.getD '\uFFFD'

/-- The number of bytes of a block of strict markup. -/
def blockSize : Nat := 512

/-- The characters that arrive with each block of bytes, and whether all of them arrive. A carriage return
at the end of a block arrives with the next one. `position` is the number of bytes before. -/
def arrivals (fault : Option Nat) (position : Nat) (chars : List Encoding.DecodedChar) :
    List (List UInt8) → List (List Char) × Bool
  | [] => ([], true)
  | block :: rest =>
    let stop := position + block.length
    if fault.any (· ≤ stop) then ([], false)
    else
      let arrived := if block.getLast? = some 0x0D then stop - 1 else stop
      let (here, later) := chars.span (·.stop ≤ arrived)
      let (parts, complete) := arrivals fault stop later rest
      (here.map (fun c => c.char?.getD Strict.undecodable) :: parts, complete)

/-- The parts in which the text of a strict document arrives, and whether it arrives to its end. -/
def strictDocument (bytes : List UInt8) : List (List Char) × Bool :=
  let (charset, bytes) := documentCharset false bytes
  let text := charset.decode bytes
  arrivals text.fault 0 text.chars (Encoding.chunksOf blockSize bytes.length bytes)

end BooleanRetrieval.Markup
