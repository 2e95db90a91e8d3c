import BooleanRetrieval.Archive.Zip
import BooleanRetrieval.Document.Csv
import BooleanRetrieval.Encoding.Basic
import BooleanRetrieval.Markup.DocumentText
import BooleanRetrieval.Markup.Hypertext
import BooleanRetrieval.Markup.Strict
import BooleanRetrieval.Text.LetterCase
import BooleanRetrieval.Text.Words

/-!
# Readers of documents

A reader handles the files whose names have certain endings, and takes the words of a file from its
bytes in the order of the text. Reading may stop early: the words before that point are still words of
the document. While a document is read, the build it is read for may be cancelled.
-/

set_option autoImplicit false

namespace BooleanRetrieval

/-- A failure of a reader or of a normalizer, in its own words, which may be none. A cancellation of the build
is no failure: it is an event of the reading. -/
structure Complaint where
  message : String
  /-- The name of the kind of the failure. -/
  kind : String := "ValueError"
  noCancellation : kind ≠ "BuildCancelled" := by decide
  deriving DecidableEq, Repr

/-- Words alone are a complaint of the usual kind. -/
instance : Coe String Complaint := ⟨fun message => { message }⟩

/-- Why reading a document stopped. -/
inductive ReadError where
  /-- A field of a table is too long. -/
  | fieldTooLong
  /-- An archive has no book. -/
  | noBook
  | archive (error : Archive.ZipError)
  | encoding (error : UnknownEncoding)
  /-- A reason that a reader gives in its own words. -/
  | custom (complaint : Complaint)
  deriving DecidableEq, Repr

/-- The text of a reading error. -/
def ReadError.message : ReadError → String
  | fieldTooLong => "field larger than field limit (" ++ toString Csv.fieldLimit ++ ")"
  | noBook => "Archive contains no .fb2 document"
  | archive error => error.message
  | encoding error => error.message
  | custom complaint => complaint.message

/-- The name of the kind of a reading error. -/
def ReadError.kind : ReadError → String
  | fieldTooLong => "Error"
  | noBook => "ValueError"
  | archive error => error.kind
  | encoding _ => "LookupError"
  | custom complaint => complaint.kind

/-- What happens while a document is read. -/
inductive ReadEvent where
  | word (w : String)
  /-- The build is cancelled from outside. -/
  | cancel
  deriving DecidableEq, Repr

/-- What reading a document gives: its words and what happened between them, and why it stopped if it
did not reach the end. -/
structure Reading where
  events : List ReadEvent
  error : Option ReadError
  deriving DecidableEq, Repr

namespace Reading

/-- A complete reading of words. -/
def ofWords (words : List String) : Reading :=
  ⟨words.map .word, none⟩

/-- A reading that stops behind words. -/
def failing (words : List String) (error : ReadError) : Reading :=
  ⟨words.map .word, some error⟩

/-- The words of a reading. -/
def words (r : Reading) : List String :=
  r.events.filterMap fun event =>
    match event with
    | .word w => some w
    | .cancel => none

end Reading

/-- The kinds of readers. -/
inductive ReaderKind where
  | text
  | csv (column : Nat)
  | fictionBook
  | hypertext
  | other (name : String)
  deriving DecidableEq, Repr

/-- A reader: which endings of file names it handles, and how it reads bytes. -/
structure Reader where
  kind : ReaderKind
  suffixes : List String
  read : List UInt8 → Reading

/-- Why there is no such reader. -/
inductive ReaderError where
  | negativeColumn
  deriving DecidableEq, Repr

/-- The text of the refusal of a reader. -/
def ReaderError.message : ReaderError → String
  | negativeColumn => "Column index cannot be negative."

namespace Reader

/-- Whether a reader handles a file. Letter case does not count. -/
def handles (r : Reader) (path : String) : Bool :=
  let lowered := (Text.toLower path).toList
  r.suffixes.any fun suffix => suffix.toList.isSuffixOf lowered

/-- The preferred encoding of text files and tables. -/
def defaultEncoding : String := "utf-8-sig"

/-- Read bytes as text in a named encoding. -/
def readDecoded (encoding : String) (read : List Char → Reading) (bytes : List UInt8) : Reading :=
  match Encoding.readText encoding bytes with
  | .ok text => read text
  | .error e => .failing [] (.encoding e)

/-- The words of a character list. -/
def wordsOf (cs : List Char) : List String :=
  (Text.wordRuns cs).map String.ofList

/-- The words of the lines of a text. -/
def lineWords (text : List Char) : List String :=
  (Text.textLines text).flatMap wordsOf

/-- The words in a column of a table, whose columns are counted from zero. -/
def columnWords (column : Nat) (records : List (List (List Char))) : List String :=
  records.flatMap fun record => ((record[column]?).map wordsOf).getD []

/-- A reader of plain text. -/
def text (encoding : String) : Reader :=
  ⟨.text, [".txt"], readDecoded encoding fun cs => .ofWords (lineWords cs)⟩

/-- A reader of a column of tables. -/
def csv (column : Nat) (encoding : String) : Reader :=
  ⟨.csv column, [".csv"], readDecoded encoding fun cs =>
    let table := Csv.parse cs
    ⟨(columnWords column table.records).map .word,
      if table.overflow then some .fieldTooLong else none⟩⟩

/-- A reader of a column of tables, given the column as any whole number. -/
def csv? (column : Int) (encoding : String) : Except ReaderError Reader :=
  if column < 0 then .error .negativeColumn else .ok (csv column.toNat encoding)

/-- The ending of the names of books. -/
def bookSuffix : List Char := ".fb2".toList

/-- The bytes of the first book of an archive, given what its end tells. Of several members with its
name the last one is taken. -/
def archivedBook (bytes : List UInt8) (record : Archive.EndRecord) : Except ReadError (List UInt8) :=
  match Archive.directory bytes record with
  | .error e => .error (.archive e)
  | .ok directory =>
    let isBook (m : Archive.Member) : Bool := bookSuffix.isSuffixOf (Text.lower m.name.toList)
    match (directory.members.find? isBook).bind fun m => directory.find? m.name with
    | none => .error .noBook
    | some (m, place) => (Archive.content bytes directory m place).mapError .archive

/-- The bytes of a book: the first book of an archive, or all bytes if they are no archive. -/
def bookBytes (bytes : List UInt8) : Except ReadError (List UInt8) :=
  match Archive.endRecord? bytes with
  | .error e => .error (.archive e)
  | .ok none => .ok bytes
  | .ok (some record) => archivedBook bytes record

/-- The words of a book. -/
def bookWords (bytes : List UInt8) : List String :=
  let (parts, complete) := Markup.strictDocument bytes
  (Markup.trimmedPieces (Markup.strictPieces parts complete)).flatMap wordsOf

/-- A reader of books in the FictionBook format, plain or in an archive. -/
def fictionBook : Reader :=
  ⟨.fictionBook, [".fb2", ".fb2.zip"], fun bytes =>
    match bookBytes bytes with
    | .ok book => .ofWords (bookWords book)
    | .error e => .failing [] e⟩

/-- A reader of hypertext. -/
def hypertext : Reader :=
  ⟨.hypertext, [".html", ".htm"], fun bytes =>
    .ofWords (wordsOf (Markup.visibleText (Markup.hypertextDocument bytes)))⟩

/-- The readers of a build that names none. Tables are read in their second column. -/
def defaults : List Reader :=
  [text defaultEncoding, csv 1 defaultEncoding, fictionBook, hypertext]

/-- The first reader that handles a file. -/
def forFile (readers : List Reader) (path : String) : Option Reader :=
  readers.find? (·.handles path)

end Reader

end BooleanRetrieval
