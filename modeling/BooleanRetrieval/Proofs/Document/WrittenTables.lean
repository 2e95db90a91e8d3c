import BooleanRetrieval.Proofs.Document.TextReading
import BooleanRetrieval.Proofs.Encoding.Utf8

/-!
# Reading tables back

A table is written with every cell between quotation marks, marks inside a cell doubled, and each row on
lines of its own (`Csv.written`). It is read back cell by cell, whatever the cells hold (`parse_written`):
within quotation marks the end of a line makes no difference (`foldl_push_cons`), so that the line breaks
of a cell stay in the cell, and behind the closing mark of the last cell a line break ends the row. So a
reader of a column finds the words of its cells (`csv_reads_quoted_cells`).
-/

set_option autoImplicit false

namespace BooleanRetrieval

namespace Csv

/-! ## Writing -/

/-- How a row of a written table ends. -/
inductive RowEnding where
  | lineFeed
  | returnAndFeed
  deriving DecidableEq, Repr

/-- The line break that ends a row. -/
def RowEnding.chars : RowEnding → List Char
  | lineFeed => ['\n']
  | returnAndFeed => ['\r', '\n']

/-- A row of a table to be written. -/
structure Row where
  cells : List String
  ending : RowEnding
  deriving DecidableEq, Repr

/-- A cell with its quotation marks doubled. -/
def escaped (cell : List Char) : List Char :=
  cell.flatMap fun c => if c = '"' then ['"', '"'] else [c]

/-- A cell between quotation marks. -/
def quotedCell (cell : List Char) : List Char :=
  '"' :: (escaped cell ++ ['"'])

/-- The text of a row: its cells with commas between them, and the break behind them. -/
def Row.text (row : Row) : List Char :=
  List.intercalate [','] (row.cells.map fun cell => quotedCell cell.toList) ++ row.ending.chars

/-- The text of a table. -/
def written (rows : List Row) : List Char :=
  rows.flatMap Row.text

/-! ## The symbols of a text -/

/-- The symbols of a line. -/
def lineSymbols (line : Text.Line) : List Symbol :=
  (line.content ++ line.ending).map .char ++ [.endOfLine]

/-- The symbols of the rest of a text. A line under way still ends if nothing follows. -/
def symbolsFrom (underWay : Bool) : List Char → List Symbol
  | [] => if underWay then [.endOfLine] else []
  | '\r' :: '\n' :: rest => .char '\r' :: .char '\n' :: .endOfLine :: symbolsFrom false rest
  | c :: rest =>
    if Text.isFileBreak c then .char c :: .endOfLine :: symbolsFrom false rest
    else .char c :: symbolsFrom true rest

/-- The lines collected so far and those of the rest have the symbols of both. A line under way goes on with the
rest. -/
theorem flatMap_lineSymbols_collectLines (line : List Char) (lines : List Text.Line)
    (cs : List Char) :
    (Text.collectLines Text.isFileBreak line lines cs).flatMap lineSymbols =
      lines.reverse.flatMap lineSymbols ++
        (line.reverse.map .char ++ symbolsFrom (!line.isEmpty) cs) := by
  fun_induction Text.collectLines Text.isFileBreak line lines cs with
  | case1 line lines =>
    cases line with
    | nil => simp [symbolsFrom]
    | cons c line => simp [symbolsFrom, lineSymbols]
  | case2 line lines rest hbreak ih =>
    rw [ih]
    simp [symbolsFrom, lineSymbols]
  | case3 line lines rest hbreak ih => exact absurd rfl hbreak
  | case4 line lines c rest hpair hbreak ih =>
    rw [ih, symbolsFrom.eq_3 _ _ _ hpair, if_pos hbreak]
    simp [lineSymbols]
  | case5 line lines c rest hpair hbreak ih =>
    rw [ih, symbolsFrom.eq_3 _ _ _ hpair, if_neg hbreak]
    simp

/-- The symbols of a text are those of its lines. -/
theorem symbols_eq (text : List Char) : symbols text = symbolsFrom false text :=
  flatMap_lineSymbols_collectLines [] [] text

/-- Whether a line is under way matters only where nothing follows. -/
theorem symbolsFrom_of_ne_nil {cs : List Char} (h : cs ≠ []) (underWay underWay' : Bool) :
    symbolsFrom underWay cs = symbolsFrom underWay' cs := by
  fun_cases symbolsFrom underWay cs with
  | case1 => exact absurd rfl h
  | case2 => exact absurd rfl h
  | case3 rest => rfl
  | case4 c rest hpair hbreak => rw [symbolsFrom.eq_3 _ _ _ hpair, if_pos hbreak]
  | case5 c rest hpair hbreak => rw [symbolsFrom.eq_3 _ _ _ hpair, if_neg hbreak]

/-! ## Reading a cell -/

/-- A character is read for itself if more follows, and if it breaks a line only within quotation marks,
where the end of a line makes no difference. -/
theorem foldl_push_cons {r : Reading} {c : Char} {rest : List Char} (hrest : rest ≠ [])
    (hbreak : Text.isFileBreak c = true → (r.push (.char c)).state = .inQuotes) (underWay : Bool) :
    (symbolsFrom underWay (c :: rest)).foldl Reading.push r =
      (symbolsFrom true rest).foldl Reading.push (r.push (.char c)) := by
  by_cases hpair : ∃ rest', c = '\r' ∧ rest = '\n' :: rest'
  · -- the two characters are one break, which ends behind the second
    obtain ⟨rest', rfl, rfl⟩ := hpair
    rfl
  · rw [symbolsFrom.eq_3 _ _ _ fun rest' hc hrest' => hpair ⟨rest', hc, hrest'⟩]
    by_cases hc : Text.isFileBreak c = true
    · have hend : (r.push (.char c)).push .endOfLine = r.push (.char c) := by
        have hstate := hbreak hc
        generalize r.push (.char c) = s at hstate
        unfold Reading.push Reading.pushEnd
        rw [hstate]
        simp
      rw [if_pos hc, List.foldl_cons, List.foldl_cons, hend, symbolsFrom_of_ne_nil hrest false true]
    · rw [if_neg hc, List.foldl_cons]

section

variable {field : List Char} {size : Nat} {fields : List (List Char)}
  {records : List (List (List Char))} {rest : List Char}

/-- Between quotation marks a character is taken in. -/
theorem push_inQuotes {c : Char} (hc : c ≠ '"') (hsize : size < fieldLimit) :
    Reading.push ⟨.inQuotes, field, size, fields, records, false⟩ (.char c) =
      ⟨.inQuotes, c :: field, size + 1, fields, records, false⟩ := by
  simp [Reading.push, Reading.pushChar, Reading.addChar, hc, Nat.not_le.mpr hsize]

/-- A doubled quotation mark is taken in as one. -/
theorem push_secondMark (hsize : size < fieldLimit) :
    Reading.push ⟨.quoteInQuotes, field, size, fields, records, false⟩ (.char '"') =
      ⟨.inQuotes, '"' :: field, size + 1, fields, records, false⟩ := by
  simp [Reading.push, Reading.pushChar, Reading.addChar, Reading.enter, Nat.not_le.mpr hsize]

/-- An escaped cell is read as it was, with its line breaks, up to the closing mark. -/
theorem foldl_push_escaped {cell : List Char} (hsize : size + cell.length ≤ fieldLimit)
    (hrest : rest ≠ []) (underWay : Bool) :
    (symbolsFrom underWay (escaped cell ++ '"' :: rest)).foldl Reading.push
        ⟨.inQuotes, field, size, fields, records, false⟩ =
      (symbolsFrom true rest).foldl Reading.push
        ⟨.quoteInQuotes, cell.reverse ++ field, size + cell.length, fields, records, false⟩ := by
  have hmark : ∀ r : Reading, Text.isFileBreak '"' = true → (r.push (.char '"')).state = .inQuotes :=
    fun _ h => absurd h (by decide)
  induction cell generalizing field size underWay with
  | nil => exact foldl_push_cons hrest (hmark _) underWay
  | cons c cell ih =>
    rw [List.length_cons] at hsize
    have hroom : size < fieldLimit := by omega
    have hleft : size + 1 + cell.length ≤ fieldLimit := by omega
    have hcons : escaped (c :: cell) = (if c = '"' then ['"', '"'] else [c]) ++ escaped cell :=
      List.flatMap_cons
    have hmore : escaped cell ++ '"' :: rest ≠ [] := List.append_ne_nil_of_right_ne_nil _ (by simp)
    have hread : (symbolsFrom underWay (escaped (c :: cell) ++ '"' :: rest)).foldl Reading.push
        ⟨.inQuotes, field, size, fields, records, false⟩ =
          (symbolsFrom true (escaped cell ++ '"' :: rest)).foldl Reading.push
            ⟨.inQuotes, c :: field, size + 1, fields, records, false⟩ := by
      rw [hcons]
      by_cases hc : c = '"'
      · subst hc
        refine (foldl_push_cons (List.cons_ne_nil _ _) (hmark _) underWay).trans ?_
        refine (foldl_push_cons hmore (hmark _) true).trans ?_
        rw [← push_secondMark hroom]
        rfl
      · rw [if_neg hc]
        refine (foldl_push_cons hmore (fun _ => ?_) underWay).trans ?_ <;> rw [push_inQuotes hc hroom]
    rw [hread, ih hleft]
    simp [Nat.add_assoc, Nat.add_comm 1]

/-- A comma behind a quoted cell ends the field. -/
theorem push_comma :
    Reading.push ⟨.quoteInQuotes, field, size, fields, records, false⟩ (.char ',') =
      ⟨.startField, [], 0, field.reverse :: fields, records, false⟩ := rfl

/-- Where a field of a record begins. -/
def State.BeginsField (state : State) : Prop :=
  state = .startRecord ∨ state = .startField

/-- A quoted cell is read where a field begins. -/
theorem foldl_push_quotedCell {state : State} (hstate : state.BeginsField) {cell : List Char}
    (hsize : cell.length ≤ fieldLimit) (hrest : rest ≠ []) (underWay : Bool) :
    (symbolsFrom underWay (quotedCell cell ++ rest)).foldl Reading.push
        ⟨state, [], 0, fields, records, false⟩ =
      (symbolsFrom true rest).foldl Reading.push
        ⟨.quoteInQuotes, cell.reverse, cell.length, fields, records, false⟩ := by
  have hmore : escaped cell ++ '"' :: rest ≠ [] := List.append_ne_nil_of_right_ne_nil _ (by simp)
  have htext : quotedCell cell ++ rest = '"' :: (escaped cell ++ '"' :: rest) := by
    simp [quotedCell]
  have hopen : Reading.push ⟨state, [], 0, fields, records, false⟩ (.char '"') =
      ⟨.inQuotes, [], 0, fields, records, false⟩ := by
    rcases hstate with rfl | rfl <;> rfl
  rw [htext, foldl_push_cons hmore (fun h => absurd h (by decide)), hopen,
    foldl_push_escaped (by omega) hrest, List.append_nil, Nat.zero_add]

/-! ## Reading a row -/

/-- Behind the closing mark of a cell, the break ends the row. -/
theorem foldl_push_ending (ending : RowEnding) (underWay : Bool) :
    (symbolsFrom underWay (ending.chars ++ rest)).foldl Reading.push
        ⟨.quoteInQuotes, field, size, fields, records, false⟩ =
      (symbolsFrom false rest).foldl Reading.push
        ⟨.startRecord, [], 0, [], (field.reverse :: fields).reverse :: records, false⟩ := by
  cases ending <;> rfl

/-- A row without cells is an empty line. -/
theorem foldl_push_emptyLine (ending : RowEnding) (underWay : Bool) :
    (symbolsFrom underWay (ending.chars ++ rest)).foldl Reading.push
        ⟨.startRecord, [], 0, [], records, false⟩ =
      (symbolsFrom false rest).foldl Reading.push ⟨.startRecord, [], 0, [], [] :: records, false⟩ := by
  cases ending <;> rfl

/-- Quoted cells are read up to the break that ends their row. -/
theorem foldl_push_cells {state : State} (hstate : state.BeginsField) {cell : List Char}
    {cells : List (List Char)} (hsize : ∀ c ∈ cell :: cells, c.length ≤ fieldLimit)
    (ending : RowEnding) (underWay : Bool) :
    (symbolsFrom underWay (List.intercalate [','] ((cell :: cells).map quotedCell) ++
        (ending.chars ++ rest))).foldl Reading.push ⟨state, [], 0, fields, records, false⟩ =
      (symbolsFrom false rest).foldl Reading.push
        ⟨.startRecord, [], 0, [], (fields.reverse ++ cell :: cells) :: records, false⟩ := by
  induction cells generalizing state cell fields underWay with
  | nil =>
    have hcell := List.forall_mem_singleton.mp hsize
    have hbreak : ending.chars ++ rest ≠ [] := by cases ending <;> exact List.cons_ne_nil _ _
    rw [List.map_singleton, List.intercalate_singleton, foldl_push_quotedCell hstate hcell hbreak,
      foldl_push_ending]
    simp
  | cons next cells ih =>
    obtain ⟨hcell, hcells⟩ := List.forall_mem_cons.mp hsize
    have hmore : List.intercalate [','] ((next :: cells).map quotedCell) ++
        (ending.chars ++ rest) ≠ [] := by
      cases ending <;> simp [RowEnding.chars]
    have htext : List.intercalate [','] ((cell :: next :: cells).map quotedCell) ++
        (ending.chars ++ rest) = quotedCell cell ++
          ',' :: (List.intercalate [','] ((next :: cells).map quotedCell) ++ (ending.chars ++ rest)) := by
      simp [List.intercalate_cons_cons]
    rw [htext, foldl_push_quotedCell hstate hcell (List.cons_ne_nil _ _),
      foldl_push_cons hmore (fun h => absurd h (by decide)), push_comma, ih (.inr rfl) hcells]
    simp

/-! ## Reading a table -/

/-- The cells of a row as lists of characters. -/
def Row.record (row : Row) : List (List Char) :=
  row.cells.map String.toList

/-- A row is read as a record. -/
theorem foldl_push_row {row : Row} (hsize : ∀ cell ∈ row.cells, cell.length ≤ fieldLimit) :
    (symbolsFrom false (row.text ++ rest)).foldl Reading.push
        ⟨.startRecord, [], 0, [], records, false⟩ =
      (symbolsFrom false rest).foldl Reading.push
        ⟨.startRecord, [], 0, [], row.record :: records, false⟩ := by
  obtain ⟨cells, ending⟩ := row
  have hsize' : ∀ c ∈ cells.map String.toList, c.length ≤ fieldLimit := by
    refine List.forall_mem_map.mpr fun cell hcell => ?_
    rw [String.length_toList]
    exact hsize cell hcell
  have htext : Row.text ⟨cells, ending⟩ ++ rest =
      List.intercalate [','] ((cells.map String.toList).map quotedCell) ++ (ending.chars ++ rest) := by
    rw [Row.text, List.append_assoc, List.map_map]
    rfl
  rw [htext]
  cases cells with
  | nil => exact foldl_push_emptyLine ending false
  | cons cell cells => exact foldl_push_cells (.inl rfl) hsize' ending false

/-- Rows are read as their records. -/
theorem foldl_push_written {rows : List Row}
    (hsize : ∀ row ∈ rows, ∀ cell ∈ row.cells, cell.length ≤ fieldLimit) :
    (symbolsFrom false (written rows)).foldl Reading.push ⟨.startRecord, [], 0, [], records, false⟩ =
      ⟨.startRecord, [], 0, [], (rows.map Row.record).reverse ++ records, false⟩ := by
  induction rows generalizing records with
  | nil => rfl
  | cons row rows ih =>
    obtain ⟨hrow, hrows⟩ := List.forall_mem_cons.mp hsize
    have htext : written (row :: rows) = row.text ++ written rows := List.flatMap_cons
    rw [htext, foldl_push_row hrow, ih hrows, List.map_cons, List.reverse_cons, List.append_assoc,
      List.singleton_append]

/-- A written table is read back, cell by cell. -/
theorem parse_written {rows : List Row}
    (hsize : ∀ row ∈ rows, ∀ cell ∈ row.cells, cell.length ≤ fieldLimit) :
    parse (written rows) = ⟨rows.map Row.record, false⟩ := by
  unfold parse Reading.empty
  rw [symbols_eq, foldl_push_written hsize, List.append_nil]
  exact congrArg (Table.mk · false) (List.reverse_reverse _)

end

/-- A written table begins with a quotation mark or with the break of an empty line. -/
theorem head?_written (rows : List Row) : ∀ c ∈ (written rows).head?, c ∈ ['"', '\n', '\r'] := by
  cases rows with
  | nil => simp [written]
  | cons row rows =>
    obtain ⟨cells, ending⟩ := row
    cases cells with
    | nil => cases ending <;> simp [written, Row.text, RowEnding.chars]
    | cons cell cells =>
      have hfirst : (written (⟨cell :: cells, ending⟩ :: rows)).head? = some '"' := by
        cases cells <;> simp [written, Row.text, quotedCell, List.intercalate_cons_cons]
      simp [hfirst]

end Csv

/-! ## The file of a table -/

/-- A file that does not begin with a byte order mark has the text that was encoded. -/
theorem Encoding.decodeText_encodeUtf8 {cs : List Char} (h : ∀ c ∈ cs.head?, c ∈ ['"', '\n', '\r']) :
    utf8Marked.decodeText (encodeUtf8 cs) = cs := by
  have hmark : dropUtf8Mark (encodeUtf8 cs) = encodeUtf8 cs := by
    cases cs with
    | nil => rfl
    | cons c cs =>
      have hcons : encodeUtf8 (c :: cs) = utf8Bytes c ++ encodeUtf8 cs := List.flatMap_cons
      have hnot : utf8Mark.isPrefixOf (utf8Bytes c ++ encodeUtf8 cs) = false := by
        have hc := h c rfl
        simp only [List.mem_cons, List.not_mem_nil, or_false] at hc
        rcases hc with rfl | rfl | rfl <;> rfl
      unfold dropUtf8Mark
      rw [hcons, hnot, if_neg Bool.false_ne_true]
  unfold decodeText
  simp only [decode?, hmark, decodeUtf8_encodeUtf8, Except.toOption]

namespace Reader

/-- The words of a column are those of its cells; a row that is too short has none. -/
theorem columnWords_map_record (column : Nat) (rows : List Csv.Row) :
    columnWords column (rows.map Csv.Row.record) =
      (rows.filterMap fun row => row.cells[column]?).flatMap Text.words := by
  unfold columnWords
  induction rows with
  | nil => rfl
  | cons row rows ih =>
    have hcell : row.record[column]? = row.cells[column]?.map String.toList := List.getElem?_map
    rw [List.map_cons, List.flatMap_cons, ih, List.filterMap_cons, hcell]
    cases row.cells[column]? with
    | none => rfl
    | some cell =>
      dsimp only
      rw [List.flatMap_cons]
      rfl

/-- There is a reader for every column that is counted from zero. In a written table it finds the words
of the cells of its column, in the order of the rows, and it reads the table to the end: a row that is too
short has no cell there, and nothing that stands in a cell ends it. -/
theorem csv_reads_quoted_cells (column : Nat) {rows : List Csv.Row}
    (hsize : ∀ row ∈ rows, ∀ cell ∈ row.cells, cell.length ≤ Csv.fieldLimit) :
    ∃ reader, csv? column defaultEncoding = .ok reader ∧
      reader.read (Encoding.encodeUtf8 (Csv.written rows)) =
        .ofWords ((rows.filterMap fun row => row.cells[column]?).flatMap Text.words) := by
  have hreader : csv? column defaultEncoding = .ok (csv column defaultEncoding) :=
    if_neg (Int.not_lt.mpr (Int.natCast_nonneg column))
  refine ⟨_, hreader, ?_⟩
  unfold csv readDecoded
  dsimp only
  rw [Encoding.readText_defaultEncoding, Encoding.decodeText_encodeUtf8 (Csv.head?_written rows)]
  dsimp only
  rw [Csv.parse_written hsize, columnWords_map_record]
  rfl

/-- Cells with commas, quotation marks and line breaks, one of them between two rows that do not have the
column. -/
theorem csv_reads_quoted_cells_breaks :
    let rows : List Csv.Row :=
      [⟨["x", "cat,\"dog\"\r\nbird\r"], .returnAndFeed⟩, ⟨["y\n\""], .lineFeed⟩,
        ⟨["", "\nowl", "z"], .lineFeed⟩]
    (∀ row ∈ rows, ∀ cell ∈ row.cells, cell.length ≤ Csv.fieldLimit) ∧
      ∃ reader, csv? 1 defaultEncoding = .ok reader ∧
        reader.read (Encoding.encodeUtf8 (Csv.written rows)) =
          .ofWords ["cat", "dog", "bird", "owl"] := by
  intro rows
  have hsize : ∀ row ∈ rows, ∀ cell ∈ row.cells, cell.length ≤ Csv.fieldLimit := by decide
  have hwords : (rows.filterMap fun row => row.cells[1]?).flatMap Text.words =
      ["cat", "dog", "bird", "owl"] := by
    decide +kernel
  have hread := csv_reads_quoted_cells 1 hsize
  rw [hwords] at hread
  exact ⟨hsize, hread⟩

end Reader

end BooleanRetrieval
