import BooleanRetrieval.Encoding.SingleByte
import BooleanRetrieval.Encoding.Utf8

/-!
# Encodings of text files

A text file is read in a preferred encoding. Where that does not fit the bytes, the Cyrillic code page
1251 is tried, which covers old Russian texts; where that does not fit either, the preferred encoding
is used once more with replacement characters for the bytes it cannot read. So every file of a known
encoding is read.
-/

set_option autoImplicit false

namespace BooleanRetrieval

/-- An encoding of text files. -/
inductive Encoding where
  | utf8
  /-- UTF-8 with an optional byte order mark, which is not part of the text. -/
  | utf8Marked
  | windows1251
  | ascii
  | latin1
  deriving DecidableEq, Repr

namespace Encoding

/-- The encodings by their own names. -/
def ownNames : List (String × Encoding) :=
  [("utf_8_sig", utf8Marked), ("utf_8", utf8), ("cp1251", windows1251), ("ascii", ascii),
   ("latin_1", latin1)]

/-- The encodings by their other names. -/
def otherNames : List (String × Encoding) :=
  [("utf8", utf8), ("utf", utf8), ("u8", utf8), ("cp65001", utf8), ("utf8_ucs2", utf8),
   ("utf8_ucs4", utf8),
   ("windows_1251", windows1251), ("1251", windows1251),
   ("us_ascii", ascii), ("us", ascii), ("646", ascii), ("cp367", ascii), ("ibm367", ascii),
   ("csascii", ascii), ("iso646_us", ascii), ("iso_ir_6", ascii), ("ansi_x3.4_1968", ascii),
   ("ansi_x3_4_1968", ascii), ("ansi_x3.4_1986", ascii), ("iso_646.irv_1991", ascii),
   ("latin1", latin1), ("latin", latin1), ("l1", latin1), ("iso_8859_1", latin1),
   ("iso8859_1", latin1), ("iso8859", latin1), ("8859", latin1), ("cp819", latin1),
   ("ibm819", latin1), ("csisolatin1", latin1), ("iso_ir_100", latin1),
   ("iso_8859_1_1987", latin1)]

/-- A name in lower case in which each run of other characters than letters, digits and points is one
low line, and none stands at the ends. -/
def normalizeName (name : String) : String :=
  let spaced := name.toList.map fun c => if c.isAlphanum || c = '.' then c.toLower else ' '
  "_".intercalate (((String.ofList spaced).splitOn " ").filter (! ·.isEmpty))

/-- The encoding of a name. Only in the other names a point may stand for a low line. -/
def ofName? (name : String) : Option Encoding :=
  let name := normalizeName name
  let pointless := String.ofList (name.toList.map fun c => if c = '.' then '_' else c)
  ((otherNames.lookup name).orElse fun _ => otherNames.lookup pointless).orElse fun _ =>
    ownNames.lookup name

/-- The text that bytes write in an encoding, when all of them fit it. -/
def decode? : Encoding → List UInt8 → Option (List Char)
  | utf8, bytes => (decodeUtf8 bytes).toOption
  | utf8Marked, bytes => (decodeUtf8 (dropUtf8Mark bytes)).toOption
  | windows1251, bytes => SingleByte.windows1251.decode? bytes
  | ascii, bytes => SingleByte.ascii.decode? bytes
  | latin1, bytes => SingleByte.latin1.decode? bytes

/-- The text that bytes write in an encoding, with replacement characters where they do not fit. -/
def decodeReplacing : Encoding → List UInt8 → List Char
  | utf8, bytes => decodeUtf8Replacing bytes
  | utf8Marked, bytes => decodeUtf8Replacing (dropUtf8Mark bytes)
  | windows1251, bytes => SingleByte.windows1251.decodeReplacing bytes
  | ascii, bytes => SingleByte.ascii.decodeReplacing bytes
  | latin1, bytes => SingleByte.latin1.decodeReplacing bytes

/-- The text of a file in a preferred encoding. -/
def decodeText (preferred : Encoding) (bytes : List UInt8) : List Char :=
  match preferred.decode? bytes with
  | some text => text
  | none => (windows1251.decode? bytes).getD (preferred.decodeReplacing bytes)

end Encoding

/-- A name that no encoding has. -/
structure UnknownEncoding where
  name : String
  deriving DecidableEq, Repr

/-- The text of the refusal of a name. -/
def UnknownEncoding.message (e : UnknownEncoding) : String :=
  "unknown encoding: " ++ e.name

/-- The text of a file in the encoding of a name. An empty file has the empty text, and the name is
not looked up for it. -/
def Encoding.readText (name : String) (bytes : List UInt8) :
    Except UnknownEncoding (List Char) :=
  if bytes.isEmpty then .ok []
  else
    match ofName? name with
    | some preferred => .ok (decodeText preferred bytes)
    | none => .error ⟨name⟩

end BooleanRetrieval
