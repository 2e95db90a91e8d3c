import BooleanRetrieval.Text.Lines

/-!
# Comma-separated values

A table has a record for each line. Fields are separated by commas. A field that begins with a
quotation mark runs to the next single mark; inside it a doubled mark stands for one mark, and commas
and line breaks are ordinary characters. Characters behind the closing mark belong to the field.
-/

set_option autoImplicit false

namespace BooleanRetrieval.Csv

/-- What the reader of a table is given: a character or the end of a line, behind its break. -/
inductive Symbol where
  | char (c : Char)
  | endOfLine
  deriving DecidableEq, Repr

/-- Where the reader of a table stands. -/
inductive State where
  | startRecord
  | startField
  | inField
  | inQuotes
  | quoteInQuotes
  | afterBreak
  deriving DecidableEq, Repr

/-- The most characters that a field may have. -/
def fieldLimit : Nat := 131072

/-- A reader in the middle of a table. Characters, fields and records are kept with the latest first;
`size` counts the characters of the field. -/
structure Reading where
  state : State
  field : List Char
  size : Nat
  fields : List (List Char)
  records : List (List (List Char))
  overflow : Bool

namespace Reading

/-- Nothing has been read. -/
def empty : Reading := ⟨.startRecord, [], 0, [], [], false⟩

/-- Finish the field. -/
def closeField (r : Reading) : Reading :=
  { r with field := [], size := 0, fields := r.field.reverse :: r.fields }

/-- Finish the record. -/
def closeRecord (r : Reading) : Reading :=
  { r with fields := [], records := r.fields.reverse :: r.records }

/-- Go on in another state. -/
def enter (r : Reading) (state : State) : Reading :=
  { r with state := state }

/-- Add a character to the field, if it has room. -/
def addChar (r : Reading) (c : Char) : Reading :=
  if fieldLimit ≤ r.size then { r with overflow := true }
  else { r with field := c :: r.field, size := r.size + 1 }

/-- Read a character at the beginning of a field. -/
def beginField (r : Reading) (c : Char) : Reading :=
  if Text.isFileBreak c then r.closeField.enter .afterBreak
  else if c = '"' then r.enter .inQuotes
  else if c = ',' then r.closeField.enter .startField
  else (r.addChar c).enter .inField

/-- Read a character. -/
def pushChar (r : Reading) (c : Char) : Reading :=
  match r.state with
  | .startRecord => if Text.isFileBreak c then r.enter .afterBreak else r.beginField c
  | .startField => r.beginField c
  | .inField =>
    if Text.isFileBreak c then r.closeField.enter .afterBreak
    else if c = ',' then r.closeField.enter .startField
    else r.addChar c
  | .inQuotes => if c = '"' then r.enter .quoteInQuotes else r.addChar c
  | .quoteInQuotes =>
    if c = '"' then (r.addChar c).enter .inQuotes
    else if c = ',' then r.closeField.enter .startField
    else if Text.isFileBreak c then r.closeField.enter .afterBreak
    else (r.addChar c).enter .inField
  | .afterBreak => r

/-- Read the end of a line. Inside quotation marks the record goes on. -/
def pushEnd (r : Reading) : Reading :=
  match r.state with
  | .inQuotes => r
  | .startRecord | .afterBreak => r.closeRecord.enter .startRecord
  | .startField | .inField | .quoteInQuotes => r.closeField.closeRecord.enter .startRecord

/-- Read a symbol. Nothing is read behind a field that is too long. -/
def push (r : Reading) (s : Symbol) : Reading :=
  if r.overflow then r
  else
    match s with
    | .char c => r.pushChar c
    | .endOfLine => r.pushEnd

/-- The records read when no line follows: a record within quotation marks ends here. -/
def close (r : Reading) : List (List (List Char)) :=
  if !r.overflow && r.state = .inQuotes then r.closeField.closeRecord.records.reverse
  else r.records.reverse

end Reading

/-- The symbols of a text. -/
def symbols (text : List Char) : List Symbol :=
  (Text.fileLines text).flatMap fun line =>
    (line.content ++ line.ending).map .char ++ [.endOfLine]

/-- The records of a table. -/
structure Table where
  records : List (List (List Char))
  /-- A field behind the records is longer than fields may be. -/
  overflow : Bool

/-- The table that a text writes. -/
def parse (text : List Char) : Table :=
  let r := (symbols text).foldl Reading.push .empty
  ⟨r.close, r.overflow⟩

end BooleanRetrieval.Csv
