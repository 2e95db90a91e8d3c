import BooleanRetrieval.Proofs.Decimal.Rounding
import BooleanRetrieval.Statistics
import BooleanRetrieval.Text.Blank

/-!
# The table of a report

A report can be written if none of its numbers has too many digits (`report_eq_ok_iff`). It is a table of two
columns, each line of which has a name and a value between its bars (`LineOf`). All names are padded to the
width of the longest, so that the bars of all lines stand at the same places, and no cell has bars or line
breaks of its own, so that the lines can be cut at the bars again and give back the table
(`readTable_report`).
-/

set_option autoImplicit false

namespace BooleanRetrieval

open Text (isBlank trim)

/-! ## Lines of a table -/

/-- The bars of a line stand at its ends and at one position between them. -/
def BarsAt (position : ℕ) (line : List Char) : Prop :=
  ∃ left right, line = '|' :: (left ++ '|' :: (right ++ ['|'])) ∧ left.length + 1 = position ∧
    '|' ∉ left ∧ '|' ∉ right

/-- The cells of a line: it is cut at its bars, and what stands between them is trimmed. -/
def readCells (line : List Char) : List String :=
  (line.splitOn '|').map fun cell => String.ofList (trim cell)

/-- The cells of a table, line by line. -/
def readTable (text : String) : List (List String) :=
  (text.toList.splitOn '\n').map readCells

/-- A text that can stand in a cell: it has no bars and no line breaks, and no blanks around it. -/
structure CellText (text : String) : Prop where
  noBar : '|' ∉ text.toList
  noBreak : '\n' ∉ text.toList
  head : text.toList.head?.any isBlank = false
  last : text.toList.reverse.head?.any isBlank = false

instance (text : String) : Decidable (CellText text) :=
  decidable_of_iff ('|' ∉ text.toList ∧ '\n' ∉ text.toList ∧
      text.toList.head?.any isBlank = false ∧ text.toList.reverse.head?.any isBlank = false)
    ⟨fun ⟨noBar, noBreak, head, last⟩ => ⟨noBar, noBreak, head, last⟩,
      fun h => ⟨h.noBar, h.noBreak, h.head, h.last⟩⟩

namespace Statistics

/-- The lines of a table. -/
def lines (table : List TableRow) : List String :=
  rowText (nameWidth table) ("Metric", "Value") ::
    ("|" ++ String.ofList (List.replicate (nameWidth table + 2) '-') ++ "|-------|") ::
    table.map (rowText (nameWidth table))

/-! ## What a report shows -/

/-- The whole numbers that a report shows. -/
def counts (s : Statistics) : List Nat :=
  [s.fileCount] ++
    (s.index.map fun sizes =>
      [sizes.tokens, sizes.vocabulary, sizes.documents, sizes.postings]).getD [] ++
    (s.matrix.map fun sizes => [sizes.vocabulary, sizes.documents, sizes.entries]).getD []

/-- The table of a report in which all numbers can be written. -/
def table (s : Statistics) : List TableRow :=
  [("Files processed", toString s.fileCount),
    ("Collection size (MB)", twoPlaces s.collectionBytes megabyte)] ++
    (s.index.map fun sizes =>
      [("Total tokens (inverted index)", toString sizes.tokens),
        ("Vocabulary size (inverted index)", toString sizes.vocabulary),
        ("Documents (inverted index)", toString sizes.documents),
        ("Postings (term -> document)", toString sizes.postings)]).getD [] ++
    (s.matrix.map fun sizes =>
      [("Vocabulary size (matrix)", toString sizes.vocabulary),
        ("Documents (matrix)", toString sizes.documents),
        ("Non-zero matrix entries", toString sizes.entries)]).getD []

/-- What is made of a numeral succeeds when the number can be written. -/
theorem bind_numeral_eq_ok_iff {α : Type} {n : ℕ} {f : String → Except TooManyDigits α} {a : α} :
    (numeral n >>= f) = .ok a ↔ n < writableBound ∧ f (toString n) = .ok a := by
  unfold numeral
  split
  · next h => exact ⟨fun heq => ⟨h, heq⟩, And.right⟩
  · next h =>
    constructor
    · intro heq
      cases heq
    · rintro ⟨hlt, -⟩
      exact absurd hlt h

/-- The rows are those of the table when all numbers can be written. -/
theorem rows_eq_ok_iff {s : Statistics} {rows : List TableRow} :
    s.rows = .ok rows ↔ (∀ n ∈ s.counts, n < writableBound) ∧ s.table = rows := by
  have hbind : ∀ {α β : Type} (a : α) (f : α → Except TooManyDigits β), (.ok a >>= f) = f a :=
    fun _ _ => rfl
  obtain ⟨fileCount, bytes, index, matrix⟩ := s
  unfold Statistics.rows counts table
  -- the number of files comes first in the table, but is written last
  cases index <;> cases matrix <;>
    simp [bind_numeral_eq_ok_iff, hbind]
  all_goals
    generalize writableBound = bound
    tauto

/-- A report can be written just if all its numbers can, and it is the table line by line. -/
theorem report_eq_ok_iff {s : Statistics} {text : String} :
    s.report = .ok text ↔
      (∀ n ∈ s.counts, n < writableBound) ∧ "\n".intercalate (lines s.table) = text := by
  have hreport : s.report = s.rows.map fun rows => "\n".intercalate (lines rows) := by
    unfold report
    cases s.rows <;> rfl
  rw [hreport]
  cases hrows : s.rows with
  | error e =>
    constructor
    · intro h
      cases h
    · rintro ⟨hcounts, -⟩
      rw [rows_eq_ok_iff.mpr ⟨hcounts, rfl⟩] at hrows
      cases hrows
  | ok rows =>
    obtain ⟨hcounts, rfl⟩ := rows_eq_ok_iff.mp hrows
    simp only [Except.map, Except.ok.injEq]
    exact ⟨fun h => ⟨hcounts, h⟩, And.right⟩

/-- There is a report when all numbers can be written. -/
theorem exists_report_iff {s : Statistics} :
    (∃ text, s.report = .ok text) ↔ ∀ n ∈ s.counts, n < writableBound := by
  simp only [report_eq_ok_iff, exists_and_left, exists_eq', and_true]

/-! ## Bars and cells -/

/-- A line is cut at its bars. -/
theorem splitOn_line {left right : List Char} (hleft : '|' ∉ left) (hright : '|' ∉ right) :
    ('|' :: (left ++ '|' :: (right ++ ['|']))).splitOn '|' = [[], left, right, []] := by
  have hjoined : '|' :: (left ++ '|' :: (right ++ ['|'])) = ['|'].intercalate [[], left, right, []] := by
    simp [List.intercalate_cons_cons]
  rw [hjoined]
  apply List.splitOn_intercalate
  · simp [hleft, hright]
  · simp

/-- From a text that does not begin with a blank nothing is dropped. -/
theorem dropWhile_of_head {text : List Char} (h : text.head?.any isBlank = false) :
    text.dropWhile isBlank = text := by
  cases text with
  | nil => rfl
  | cons c rest =>
    have hc : isBlank c = false := h
    rw [List.dropWhile_cons, hc, if_neg Bool.false_ne_true]

/-- The spaces around a text in a cell are trimmed. -/
theorem trim_padded {text : List Char} (hhead : text.head?.any isBlank = false)
    (hlast : text.reverse.head?.any isBlank = false) (n : ℕ) :
    trim (' ' :: (text ++ List.replicate n ' ')) = text := by
  have hspace : isBlank ' ' = true := by decide
  have hspaces : ∀ c ∈ List.replicate n ' ', isBlank c = true := by
    intro c hc
    rw [List.eq_of_mem_replicate hc, hspace]
  unfold trim
  rw [List.dropWhile_cons, hspace, if_pos rfl]
  cases text with
  | nil =>
    rw [List.nil_append, ← List.append_nil (List.replicate n ' '),
      List.dropWhile_append_of_pos hspaces]
    rfl
  | cons c rest =>
    have hkept : ((c :: rest) ++ List.replicate n ' ').dropWhile isBlank =
        (c :: rest) ++ List.replicate n ' ' := dropWhile_of_head hhead
    rw [hkept, List.reverse_append, List.reverse_replicate, List.dropWhile_append_of_pos hspaces,
      dropWhile_of_head hlast, List.reverse_reverse]

/-- The characters of a row, with the padding of its name. -/
theorem toList_rowText (width : ℕ) (row : TableRow) :
    (rowText width row).toList =
      '|' :: ((' ' :: (row.1.toList ++ List.replicate (width - row.1.length + 1) ' ')) ++
        '|' :: ((' ' :: (row.2.toList ++ List.replicate 1 ' ')) ++ ['|'])) := by
  unfold rowText Text.padded
  simp only [String.toList_append, String.toList_ofList, List.replicate_succ', List.replicate_zero]
  simp

/-- No name is wider than the widest. -/
theorem length_le_nameWidth {table : List TableRow} {row : TableRow} (h : row ∈ table) :
    row.1.length ≤ nameWidth table := by
  have hlength : row.1.length ∈ table.map fun row => row.1.length := List.mem_map.mpr ⟨row, h, rfl⟩
  unfold nameWidth
  rw [List.foldl_max]
  exact Nat.le_trans (List.le_max?_getD_of_mem hlength) (Nat.le_max_right _ _)

/-- A line of a table whose names have a width: it has a name and a value in its cells, and its bars stand
where those of all such lines do. -/
structure LineOf (width : ℕ) (row : TableRow) (line : List Char) : Prop where
  bars : BarsAt (width + 3) line
  cells : readCells line = ["", row.1, row.2, ""]
  noBreak : '\n' ∉ line

/-- The text of a row is a line of a table of its width. -/
theorem lineOf_rowText {width : ℕ} {row : TableRow} (hname : CellText row.1) (hvalue : CellText row.2)
    (hwidth : row.1.length ≤ width) : LineOf width row (rowText width row).toList := by
  have hleft : '|' ∉ ' ' :: (row.1.toList ++ List.replicate (width - row.1.length + 1) ' ') := by
    simp [hname.noBar]
  have hright : '|' ∉ ' ' :: (row.2.toList ++ List.replicate 1 ' ') := by
    simp [hvalue.noBar]
  rw [toList_rowText]
  constructor
  · refine ⟨_, _, rfl, ?_, hleft, hright⟩
    rw [List.length_cons, List.length_append, List.length_replicate, String.length_toList]
    omega
  · rw [readCells, splitOn_line hleft hright]
    simp only [List.map_cons, List.map_nil, trim_padded hname.head hname.last,
      trim_padded hvalue.head hvalue.last, String.ofList_toList]
    rfl
  · simp [hname.noBreak, hvalue.noBreak]

/-! ## The cells of a report -/

/-- The digits and the full stop are no blank characters. -/
theorem isBlank_ofNat : ∀ n < 58, 46 ≤ n → isBlank (Char.ofNat n) = false := by
  decide +kernel

/-- Numbers can stand in cells. -/
theorem cellText_of_digits {text : String} (h : ∀ c ∈ text.toList, c.isDigit = true ∨ c = '.') :
    CellText text := by
  have hbounds : ∀ c ∈ text.toList, 46 ≤ c.toNat ∧ c.toNat ≤ 57 := by
    intro c hc
    rcases h c hc with hdigit | rfl
    · have hrange := isDigit_iff.mp hdigit
      omega
    · decide
  have hvisible : ∀ c ∈ text.toList, isBlank c = false := by
    intro c hc
    obtain ⟨hlow, hhigh⟩ := hbounds c hc
    have hblank := isBlank_ofNat c.toNat (Nat.lt_succ_of_le hhigh) hlow
    rwa [Char.ofNat_toNat] at hblank
  constructor
  · intro hbar
    exact absurd (hbounds _ hbar).2 (by decide)
  · intro hbreak
    exact absurd (hbounds _ hbreak).1 (by decide)
  · rw [Option.any_eq_false]
    exact fun c hc => hvisible c (List.mem_of_mem_head? hc)
  · rw [Option.any_eq_false]
    exact fun c hc => hvisible c (List.mem_reverse.mp (List.mem_of_mem_head? hc))

/-- A whole number can stand in a cell. -/
theorem cellText_toString (n : ℕ) : CellText (toString n) := by
  apply cellText_of_digits
  intro c hc
  rw [toList_toString] at hc
  exact .inl (isDigit_of_mem_toDigits hc)

/-- A number of hundredths can stand in a cell. -/
theorem cellText_hundredthsText (n : ℕ) : CellText (hundredthsText n) := by
  obtain ⟨whole, places, htext, hdigits, -⟩ := writesHundredths_hundredthsText n
  apply cellText_of_digits
  intro c hc
  rw [htext, List.mem_append, List.mem_cons] at hc
  rw [List.forall_mem_append] at hdigits
  rcases hc with hwhole | rfl | hplaces
  · exact .inl (hdigits.1 c hwhole)
  · exact .inr rfl
  · exact .inl (hdigits.2 c hplaces)

/-- A quotient at two places can stand in a cell. -/
theorem cellText_twoPlaces (num den : ℕ) : CellText (twoPlaces num den) := by
  unfold twoPlaces Binary.twoPlaces
  split
  · exact cellText_hundredthsText 0
  · exact cellText_hundredthsText _
  · decide

/-- All cells of a report can be read. -/
theorem cellText_table (s : Statistics) : ∀ row ∈ s.table, CellText row.1 ∧ CellText row.2 := by
  have hsize := cellText_twoPlaces s.collectionBytes megabyte
  obtain ⟨fileCount, bytes, index, matrix⟩ := s
  unfold table
  cases index <;> cases matrix <;>
    simp only [Option.map_none, Option.map_some, Option.getD_none, Option.getD_some, List.append_nil,
      List.cons_append, List.nil_append, List.forall_mem_cons, List.not_mem_nil, false_imp_iff,
      implies_true, and_true, cellText_toString, hsize] <;>
    decide

/-- The rule below the heading is a line of the table. -/
theorem lineOf_rule (width : ℕ) :
    LineOf width (String.ofList (List.replicate (width + 2) '-'), "-------")
      ("|" ++ String.ofList (List.replicate (width + 2) '-') ++ "|-------|").toList := by
  have hleft : '|' ∉ List.replicate (width + 2) '-' := by simp
  have hright : '|' ∉ "-------".toList := by decide
  have hchars : ("|" ++ String.ofList (List.replicate (width + 2) '-') ++ "|-------|").toList =
      '|' :: (List.replicate (width + 2) '-' ++ '|' :: ("-------".toList ++ ['|'])) := by
    simp
  have hdash : (List.replicate (width + 2) '-').head?.any isBlank = false := by
    have hvisible : isBlank '-' = false := by decide
    rw [List.replicate_succ, List.head?_cons, Option.any_some, hvisible]
  have htrim : trim (List.replicate (width + 2) '-') = List.replicate (width + 2) '-' := by
    unfold trim
    rw [dropWhile_of_head hdash, List.reverse_replicate, dropWhile_of_head hdash,
      List.reverse_replicate]
  rw [hchars]
  constructor
  · exact ⟨_, _, rfl, by rw [List.length_replicate], hleft, hright⟩
  · rw [readCells, splitOn_line hleft hright]
    simp only [List.map_cons, List.map_nil, htrim]
    rfl
  · simp

/-- What a report is read as: the names and values of its table, below two lines of head. In all its lines
the bars stand at the same places. -/
theorem readTable_report {s : Statistics} {text : String} (h : s.report = .ok text) :
    (∀ line ∈ text.toList.splitOn '\n', BarsAt (nameWidth s.table + 3) line) ∧
      readTable text = ["", "Metric", "Value", ""] ::
        ["", String.ofList (List.replicate (nameWidth s.table + 2) '-'), "-------", ""] ::
        s.table.map fun row => ["", row.1, row.2, ""] := by
  obtain ⟨-, rfl⟩ := report_eq_ok_iff.mp h
  have hsize : ("Collection size (MB)", twoPlaces s.collectionBytes megabyte) ∈ s.table := by
    simp [table]
  have hhead : LineOf (nameWidth s.table) ("Metric", "Value")
      (rowText (nameWidth s.table) ("Metric", "Value")).toList := by
    have hlonger : "Metric".length ≤ "Collection size (MB)".length := by decide
    exact lineOf_rowText (by decide) (by decide) (Nat.le_trans hlonger (length_le_nameWidth hsize))
  have hrows : ∀ row ∈ s.table, LineOf (nameWidth s.table) row
      (rowText (nameWidth s.table) row).toList := by
    intro row hrow
    obtain ⟨hname, hvalue⟩ := cellText_table s row hrow
    exact lineOf_rowText hname hvalue (length_le_nameWidth hrow)
  have hrule := lineOf_rule (nameWidth s.table)
  have hlines : ("\n".intercalate (lines s.table)).toList.splitOn '\n' =
      (lines s.table).map String.toList := by
    rw [String.toList_intercalate]
    apply List.splitOn_intercalate
    · simp only [lines, List.map_cons, List.map_map, List.forall_mem_cons, List.forall_mem_map]
      exact ⟨hhead.noBreak, hrule.noBreak, fun row hrow => (hrows row hrow).noBreak⟩
    · simp [lines]
  unfold readTable
  rw [hlines]
  simp only [lines, List.map_cons, List.map_map, List.forall_mem_cons, List.forall_mem_map]
  refine ⟨⟨hhead.bars, hrule.bars, fun row hrow => (hrows row hrow).bars⟩, ?_⟩
  have hcells : s.table.map (readCells ∘ String.toList ∘ rowText (nameWidth s.table)) =
      s.table.map fun row => ["", row.1, row.2, ""] :=
    List.map_congr_left fun row hrow => (hrows row hrow).cells
  rw [hhead.cells, hrule.cells, hcells]

end Statistics

end BooleanRetrieval
