import BooleanRetrieval.Archive.Crc
import BooleanRetrieval.Archive.Inflate
import BooleanRetrieval.Encoding.SingleByte
import BooleanRetrieval.Encoding.Utf8
import BooleanRetrieval.Text.Quoted

/-!
# Zip archives

An archive ends with a record that tells where its directory lies; the directory lists the members in
order. Bytes before the archive and a comment behind the end record are allowed for. Of a large archive
a wider record in front of the end record has the numbers.
-/

set_option autoImplicit false

namespace BooleanRetrieval.Archive

/-- Why a member cannot be read. -/
inductive ZipError where
  | severalDisks
  | badDirectoryOffset
  | truncatedDirectory
  | badDirectoryEntry
  /-- A member needs a version of the format, here ten times it, that is not known. -/
  | unknownVersion (tenfold : Nat)
  /-- A name is not written in UTF-8 although it should be. -/
  | badName (error : Encoding.Utf8Error)
  /-- A field of further data is longer than the data. -/
  | badField (tag size : Nat)
  /-- A large number is announced and missing. -/
  | missingNumber (name : String)
  /-- A member begins before the archive does. -/
  | negativeOffset (offset : Int)
  /-- A member begins so far behind the archive that its place is no offset. -/
  | endlessOffset
  | truncatedHeader
  | badHeader
  | patched
  | stronglyEncrypted
  | nameMismatch (directoryName : String) (headerName : List UInt8)
  | overlap (name : String)
  | encrypted (name : String)
  | unknownMethod
  /-- The file ends within a member. -/
  | endOfFile
  | badChecksum (name : String)
  /-- A member does not begin as its method of compression wants. -/
  | badStream
  | corrupt (fault : InflateFault)
  deriving DecidableEq, Repr

/-- The text of an archive error. -/
def ZipError.message : ZipError → String
  | severalDisks => "zipfiles that span multiple disks are not supported"
  | badDirectoryOffset => "Bad offset for central directory"
  | truncatedDirectory => "Truncated central directory"
  | badDirectoryEntry => "Bad magic number for central directory"
  | unknownVersion tenfold =>
    "zip file version " ++ toString (tenfold / 10) ++ "." ++ toString (tenfold % 10)
  | badName error => error.message
  | badField tag size =>
    "Corrupt extra field " ++ .ofList (Text.hex 4 tag) ++ " (size=" ++ toString size ++ ")"
  | missingNumber name => "Corrupt zip64 extra field. " ++ name ++ " not found."
  | negativeOffset offset => "negative seek value " ++ toString offset
  | endlessOffset => "Python int too large to convert to C ssize_t"
  | truncatedHeader => "Truncated file header"
  | badHeader => "Bad magic number for file header"
  | patched => "compressed patched data (flag bit 5)"
  | stronglyEncrypted => "strong encryption (flag bit 6)"
  | nameMismatch directoryName headerName =>
    "File name in directory " ++ Text.quoted directoryName ++ " and header "
      ++ Text.quotedBytes headerName ++ " differ."
  | overlap name => "Overlapped entries: " ++ Text.quoted name ++ " (possible zip bomb)"
  | encrypted name =>
    "File " ++ Text.quoted name ++ " is encrypted, password required for extraction"
  | unknownMethod => "That compression method is not supported"
  | endOfFile => ""
  | badChecksum name => "Bad CRC-32 for file " ++ Text.quoted name
  | badStream => "Invalid data stream"
  | corrupt fault => "Error -3 while decompressing data: " ++ fault.message

/-- The name of the kind of an archive error. -/
def ZipError.kind : ZipError → String
  | badName _ => "UnicodeDecodeError"
  | negativeOffset _ => "ValueError"
  | endlessOffset => "OverflowError"
  | unknownVersion _ | patched | stronglyEncrypted | unknownMethod => "NotImplementedError"
  | encrypted _ => "RuntimeError"
  | endOfFile => "EOFError"
  | badStream => "OSError"
  | corrupt _ => "error"
  | _ => "BadZipFile"

/-- The number that bytes write, the lowest byte first. -/
def littleEndian (bytes : List UInt8) : Nat :=
  bytes.foldr (fun b n => n * 256 + b.toNat) 0

/-- The number in the bytes from an offset. -/
def numberAt (bytes : List UInt8) (offset width : Nat) : Nat :=
  littleEndian ((bytes.drop offset).take width)

/-- The size of the end record. -/
def endRecordSize : Nat := 22

/-- The most bytes that a comment behind the end record may have. -/
def maxComment : Nat := 65536

/-- The mark at the beginning of the end record. -/
def endMark : List UInt8 := [0x50, 0x4B, 5, 6]

/-- The mark at the beginning of the wide end record. -/
def wideMark : List UInt8 := [0x50, 0x4B, 6, 6]

/-- The mark at the beginning of the record between the wide end record and the end record. -/
def locatorMark : List UInt8 := [0x50, 0x4B, 6, 7]

/-- The size of the wide end record. -/
def wideSize : Nat := 56

/-- The size of the record between the wide end record and the end record. -/
def locatorSize : Nat := 20

/-- The mark at the beginning of a directory entry. -/
def entryMark : List UInt8 := [0x50, 0x4B, 1, 2]

/-- The mark at the beginning of a member's header. -/
def headerMark : List UInt8 := [0x50, 0x4B, 3, 4]

/-- The offset of the last place in bytes where a mark stands. -/
def lastOffsetOf (mark : List UInt8) (offset : Nat) (found : Option Nat) :
    List UInt8 → Option Nat
  | [] => found
  | b :: rest =>
    lastOffsetOf mark (offset + 1) (if mark.isPrefixOf (b :: rest) then some offset else found) rest

/-- Where the end record of an archive stands, if the bytes are an archive. -/
def endOffset? (bytes : List UInt8) : Option Nat :=
  let size := bytes.length
  let plain := bytes.drop (size - endRecordSize)
  if plain.length = endRecordSize && endMark.isPrefixOf plain && numberAt plain 20 2 = 0 then
    some (size - endRecordSize)
  else
    let start := size - maxComment - endRecordSize
    match lastOffsetOf endMark start none (bytes.drop start) with
    | some offset => if offset + endRecordSize ≤ size then some offset else none
    | none => none

/-- What the end of an archive tells about its directory. -/
structure EndRecord where
  /-- The size of the directory. -/
  size : Nat
  /-- Where the directory begins, counted from the beginning of the archive. -/
  offset : Nat
  /-- Where the directory ends, counted from the first byte; a wide end record may not leave room. -/
  stop : Int

/-- What the end record at an offset tells. The wide end record has the say if it stands in front, and
a record that points to it. -/
def endRecordAt (bytes : List UInt8) (offset : Nat) : Except ZipError EndRecord :=
  let record := bytes.drop offset
  let narrow : EndRecord := ⟨numberAt record 12 4, numberAt record 16 4, offset⟩
  let locator := (bytes.drop (offset - locatorSize)).take locatorSize
  if locator.length = locatorSize && locatorMark.isPrefixOf locator then
    if numberAt locator 4 4 ≠ 0 || 1 < numberAt locator 16 4 then .error .severalDisks
    else
      let wide := (bytes.drop (offset - locatorSize - wideSize)).take wideSize
      if wide.length = wideSize && wideMark.isPrefixOf wide then
        .ok ⟨numberAt wide 40 8, numberAt wide 48 8, (offset : Int) - (locatorSize + wideSize : Nat)⟩
      else .ok narrow
  else .ok narrow

/-- What the end of an archive tells, if the bytes are an archive. -/
def endRecord? (bytes : List UInt8) : Except ZipError (Option EndRecord) :=
  match endOffset? bytes with
  | none => .ok none
  | some offset => (endRecordAt bytes offset).map some

/-- A member as the directory lists it. -/
structure Member where
  /-- The name as it is written, which may go on behind a null character. -/
  fullName : String
  /-- Single bits that tell how the member is written. -/
  flags : Nat
  method : Nat
  checksum : UInt32
  compressedSize : Nat
  size : Nat
  headerOffset : Int

/-- The name of a member. -/
def Member.name (m : Member) : String :=
  .ofList (m.fullName.toList.takeWhile (· ≠ '\x00'))

/-- The name that bytes write, by the flags that stand with it. -/
def memberName (flags : Nat) (bytes : List UInt8) : Except ZipError String :=
  if flags.testBit 11 then
    ((Encoding.decodeUtf8 bytes).mapError .badName).map String.ofList
  else .ok (.ofList (Encoding.SingleByte.ibm437.decodeReplacing bytes))

/-- The number that announces a large number in a field of further data. -/
def largeNumber : Nat := 0xFFFFFFFF

/-- The number that announces another large number after a large one. -/
def largestNumber : Nat := 0xFFFFFFFFFFFFFFFF

/-- The next number of a field of large numbers. -/
def takeLarge (name : String) (data : List UInt8) : Except ZipError (Nat × List UInt8) :=
  if data.length < 8 then .error (.missingNumber name)
  else .ok (numberAt data 0 8, data.drop 8)

/-- The member with the announced large numbers of a field. -/
def Member.widen (m : Member) (data : List UInt8) : Except ZipError Member := do
  let (size, data) ←
    if m.size = largeNumber || m.size = largestNumber then takeLarge "File size" data else .ok (m.size, data)
  let (compressedSize, data) ←
    if m.compressedSize = largeNumber then takeLarge "Compress size" data
    else .ok (m.compressedSize, data)
  let headerOffset ←
    if m.headerOffset = largeNumber then
      (takeLarge "Header offset" data).map fun (n, _) => (n : Int)
    else .ok m.headerOffset
  .ok { m with size, compressedSize, headerOffset }

/-- The member with what the fields of its further data say. The first number bounds how many fields
there are. -/
def Member.readFields (m : Member) : Nat → List UInt8 → Except ZipError Member
  | 0, _ => .ok m
  | fuel + 1, data =>
    if data.length < 4 then .ok m
    else
      let tag := numberAt data 0 2
      let size := numberAt data 2 2
      if data.length < size + 4 then .error (.badField tag size)
      else do
        let m ← if tag = 1 then m.widen ((data.drop 4).take size) else .ok m
        m.readFields fuel (data.drop (size + 4))

/-- The fixed size of a directory entry. -/
def entrySize : Nat := 46

/-- The greatest known version of the format, ten times it. -/
def maxVersion : Nat := 63

/-- Refuse a version, given ten times it, that is not known. -/
def checkVersion (tenfold : Nat) : Except ZipError Unit :=
  if maxVersion < tenfold then .error (.unknownVersion tenfold) else .ok ()

/-- The member of the directory entry that bytes begin with. `shift` is the number of bytes before the
archive. -/
def Member.ofEntry (shift : Int) (bytes : List UInt8) : Except ZipError Member := do
  let nameSize := numberAt bytes 28 2
  let flags := numberAt bytes 8 2
  let fullName ← memberName flags ((bytes.drop entrySize).take nameSize)
  let extra := (bytes.drop (entrySize + nameSize)).take (numberAt bytes 30 2)
  checkVersion (numberAt bytes 6 1)
  let m ← Member.readFields
    { fullName
      flags
      method := numberAt bytes 10 2
      checksum := UInt32.ofNat (numberAt bytes 16 4)
      compressedSize := numberAt bytes 20 4
      size := numberAt bytes 24 4
      headerOffset := numberAt bytes 42 4 } (extra.length + 1) extra
  .ok { m with headerOffset := m.headerOffset + shift }

/-- The members of a directory. The first number bounds how many there are. -/
def members (shift : Int) : Nat → List UInt8 → Except ZipError (List Member)
  | 0, _ => .ok []
  | fuel + 1, bytes =>
    if bytes.isEmpty then .ok []
    else if bytes.length < entrySize then .error .truncatedDirectory
    else if !entryMark.isPrefixOf bytes then .error .badDirectoryEntry
    else do
      let member ← Member.ofEntry shift bytes
      let size :=
        entrySize + numberAt bytes 28 2 + numberAt bytes 30 2 + numberAt bytes 32 2
      let rest ← members shift fuel (bytes.drop size)
      .ok (member :: rest)

/-- The directory of an archive: where it begins, and its members. -/
structure Directory where
  start : Nat
  members : List Member

/-- The directory that the end of an archive tells of. -/
def directory (bytes : List UInt8) (record : EndRecord) : Except ZipError Directory := do
  let start := record.stop - record.size
  if start < 0 then .error .badDirectoryOffset
  else
    let data := (bytes.drop start.toNat).take record.size
    .ok ⟨start.toNat, ← members (start - record.offset) (data.length + 1) data⟩

/-- The member that a name stands for: the last one of that name, with its place. -/
def Directory.find? (d : Directory) (name : String) : Option (Member × Nat) :=
  d.members.zipIdx.reverse.find? fun (m, _) => m.name = name

/-- Where the member at a place must end: where the next one begins, or the directory. Of several that
begin at one offset, all but the first have no room. -/
def Directory.limit (d : Directory) (m : Member) (place : Nat) : Int :=
  if (d.members.take place).any (·.headerOffset = m.headerOffset) then m.headerOffset
  else
    ((d.members.map Member.headerOffset).filter (m.headerOffset < ·)).min?.getD d.start

/-- The size of a member's header. -/
def headerSize : Nat := 30

/-- One more than the greatest offset. -/
def offsetBound : Int := 0x8000000000000000

/-- Refuse a place that is no offset. -/
def checkOffset (offset : Int) : Except ZipError Unit :=
  if offset < -offsetBound || offsetBound ≤ offset then .error .endlessOffset
  else if offset < 0 then .error (.negativeOffset offset)
  else .ok ()

/-- Refuse a member by its flags if it is written in a way that is not known. -/
def checkFlags (flags : Nat) : Except ZipError Unit :=
  if flags.testBit 5 then .error .patched
  else if flags.testBit 6 then .error .stronglyEncrypted
  else .ok ()

/-- Refuse a member whose content cannot be unpacked at all. -/
def checkMethod (m : Member) : Except ZipError Unit :=
  if m.flags.testBit 0 then .error (.encrypted m.name)
  else if [0, 8, 12, 14].contains m.method then .ok ()
  else .error .unknownMethod

/-- The bytes of a member behind its header as they are stored. -/
def packed (bytes : List UInt8) (d : Directory) (m : Member) (place : Nat) :
    Except ZipError (List UInt8) := do
  checkOffset m.headerOffset
  let header := bytes.drop m.headerOffset.toNat
  if header.length < headerSize then .error .truncatedHeader
  else if !headerMark.isPrefixOf header then .error .badHeader
  else
    checkFlags m.flags
    let rawName := (header.drop headerSize).take (numberAt header 26 2)
    let behindName := header.drop (headerSize + rawName.length)
    let behindExtra := behindName.drop (numberAt header 28 2)
    if (← memberName (numberAt header 6 2) rawName) ≠ m.fullName then
      .error (.nameMismatch m.fullName rawName)
    else if d.limit m place < (bytes.length - behindExtra.length : Nat) + m.compressedSize then
      .error (.overlap m.fullName)
    else
      checkMethod m
      .ok (behindExtra.take m.compressedSize)

/-- The bytes that stored bytes stand for by a method of compression, and whether they end there even
if more bytes were stored. Of two rarer methods only what tells that there is nothing to unpack is
known: a first mark is missing, or the description of the method is longer than all bytes. -/
def unpack (method : Nat) (stored : List UInt8) : Except ZipError (List UInt8 × Bool) :=
  match method with
  | 0 => .ok (stored, false)
  | 8 =>
    match inflate stored with
    | (out, none) => .ok (out, true)
    | (out, some .endOfData) => .ok (out, false)
    | (_, some fault) => .error (.corrupt fault)
  | 14 => if stored.length ≤ 4 + numberAt stored 2 2 then .ok ([], false) else .error .badStream
  | _ => if stored.isEmpty then .ok ([], false) else .error .badStream

/-- The content of the member at a place of a directory. Compressed bytes that end too early still
have a content, which the checksum decides about. -/
def content (bytes : List UInt8) (d : Directory) (m : Member) (place : Nat) :
    Except ZipError (List UInt8) := do
  let stored ← packed bytes d m place
  if stored.isEmpty && 0 < m.compressedSize then .error .endOfFile
  else
    let (unpacked, ended) ← unpack m.method stored
    if stored.length < m.compressedSize && !ended && unpacked.length < m.size then .error .endOfFile
    else
      let content := unpacked.take m.size
      if crc32 content = m.checksum then .ok content else .error (.badChecksum m.name)

end BooleanRetrieval.Archive
