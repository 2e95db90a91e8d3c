import BooleanRetrieval.Encoding.Chunks
import BooleanRetrieval.Json.Writer
import BooleanRetrieval.Saved.Format
import BooleanRetrieval.Saved.Sections
import BooleanRetrieval.Store.InvertedIndex
import BooleanRetrieval.Text.DecimalDigit

/-!
# The saved index

As JSON an index is an object of objects: frequencies by document by term. As lines it has a section
for each term with a line `document=frequency` for each posting. Entries that make no posting are
reported and left out.
-/

set_option autoImplicit false

namespace BooleanRetrieval.InvertedIndex

/-- The index as a JSON value. -/
def toJson (index : InvertedIndex) : Json :=
  .object (index.listing.map fun (t, postings) =>
    (t, .object (postings.map fun p => (p.document, .int p.frequency))))

/-- The line of a posting. -/
def postingLine (p : Posting) : Except WriteError (List Char) := do
  .ok (p.document.toList ++ '=' :: (← writeFrequency p.frequency))

/-- The text of a section of the index. -/
def sectionText (t : String) (postings : List Posting) : Except WriteError (List Char) := do
  .ok (Sections.write t (← postings.mapM postingLine))

/-- The text of a saved index. -/
def toText (index : InvertedIndex) : StoreFormat → Except WriteError (List Char)
  | .json =>
    if index.listing.all fun (_, postings) => postings.all (·.frequency < writableBound) then
      .ok index.toJson.render
    else .error (.tooManyDigits {})
  | .lines => do
    .ok (← index.listing.mapM fun (t, postings) => sectionText t postings).flatten

/-- An index being loaded and the reports so far, the latest first. -/
structure Loading where
  index : InvertedIndex
  reports : List LogRecord

namespace Loading

/-- Nothing has been read. -/
def empty : Loading := ⟨.empty, []⟩

/-- Report an entry that is left out. -/
def skip (s : Loading) (message : String) : Loading :=
  { s with reports := loadWarning message :: s.reports }

/-- Add a posting. -/
def add (s : Loading) (t doc : String) (n : Nat) : Loading :=
  { s with index := s.index.addCount t doc n }

/-- The result of a finished reading. -/
def close (s : Loading) (error : Option LoadError) : Loaded InvertedIndex :=
  match error with
  | none => ⟨.ok s.index, s.reports.reverse⟩
  | some e => ⟨.error e, s.reports.reverse⟩

end Loading

/-- The document and the digits of a posting line: what stands before the last equals sign, and the
decimal digits behind it to the end of the line. -/
def splitPosting? (line : List Char) : Option (List Char × List Char) :=
  let digits := (line.reverse.takeWhile (· ≠ '=')).reverse
  if digits.isEmpty || digits.length = line.length then none
  else if digits.all fun c => (Text.digitValue? c).isSome then
    some (line.take (line.length - digits.length - 1), digits)
  else none

/-- What an entry of the line format means. -/
inductive EntryMeaning where
  | posting (t doc : String) (n : Nat)
  | skipped (report : String)
  | tooManyDigits (count : Nat)
  deriving DecidableEq, Repr

/-- What an entry of a file means. -/
def meaning (path : String) (entry : Sections.Entry) : EntryMeaning :=
  match entry.term with
  | none => .skipped (Sections.orphanReport path entry)
  | some t =>
    let malformed := .skipped (path ++ ":" ++ toString entry.number
      ++ ": malformed posting for term '" ++ t ++ "', skipped")
    match splitPosting? entry.line with
    | none => malformed
    | some (doc, digits) =>
      if Json.maxDigits < digits.length then .tooManyDigits digits.length
      else
        match Text.decimalValue? digits with
        | some (n + 1) => .posting t (.ofList doc) (n + 1)
        | _ => malformed

/-- Read entries into an index. -/
def loadEntries (path : String) (s : Loading) :
    List Sections.Entry → Loading × Option LoadError
  | [] => (s, none)
  | entry :: rest =>
    match meaning path entry with
    | .posting t doc n => loadEntries path (s.add t doc n) rest
    | .skipped report => loadEntries path (s.skip report) rest
    | .tooManyDigits count => (s, some (.tooManyDigits count))

/-- The frequency that a JSON value denotes: a positive whole number, or truth for one. -/
def frequencyOf? : Json → Option Nat
  | .int n => if 1 ≤ n then some n.toNat else none
  | .bool true => some 1
  | _ => none

/-- Read the members of a term's object, of which so many levels are shown where they are no frequencies. -/
def loadPostings (shown : Nat) (path t : String) (s : Loading) :
    List (String × Json) → Loading × Option LoadError
  | [] => (s, none)
  | (doc, value) :: rest =>
    match frequencyOf? value with
    | some n => loadPostings shown path t (s.add t doc n) rest
    | none =>
      match value.describeWithin shown with
      | .error e => (s, some (.nesting e))
      | .ok text =>
        loadPostings shown path t (s.skip (path ++ ": bad frequency " ++ text ++ " for '" ++ t
          ++ "' in '" ++ doc ++ "', skipped")) rest

/-- Read the members of the outer object. -/
def loadTerms (shown : Nat) (path : String) (s : Loading) :
    List (String × Json) → Loading × Option LoadError
  | [] => (s, none)
  | (t, .object members) :: rest =>
    match loadPostings shown path t s members with
    | (s, none) => loadTerms shown path s rest
    | (s, some e) => (s, some e)
  | (_, value) :: _ => (s, some (.noMembers value.kindName))

/-- Read the bytes of a saved index. -/
def loadBytes (path : Path) (format : StoreFormat) (bytes : List UInt8) (limits : NestingLimits := {}) :
    Loaded InvertedIndex :=
  match format with
  | .lines =>
    let (lines, fault) := Encoding.readLines bytes
    let (s, error) := loadEntries path.text .empty (Sections.entries lines)
    s.close (error.orElse fun _ => fault.map .encoding)
  | .json =>
    match Encoding.decodeUtf8 bytes with
    | .error e => Loading.empty.close (some (.encoding e))
    | .ok text =>
      match Json.parse limits.json (Text.unifyBreaks text) with
      | .error e => Loading.empty.close (some (.json e))
      | .ok (.object members) =>
        let (s, error) := loadTerms limits.shown path.text .empty members
        s.close error
      | .ok value => Loading.empty.close (some (.noMembers value.kindName))

/-- Load the index that is saved at a path. -/
def load (tree : FileTree) (path : Path) (limits : NestingLimits := {}) : Loaded InvertedIndex :=
  match savedBytes tree path with
  | .error e => ⟨.error e, []⟩
  | .ok bytes => loadBytes path (.ofPath path) bytes limits

end BooleanRetrieval.InvertedIndex
