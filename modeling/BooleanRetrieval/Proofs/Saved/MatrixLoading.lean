import BooleanRetrieval.Proofs.Saved.LineStanding
import BooleanRetrieval.Proofs.Saved.MatrixLines

/-!
# Which lines a matrix is loaded from

Loading a file as the lines of a matrix makes one thing of each of its lines (`LineFate`). Lines above
all headers are reported, and no entry is malformed by itself, since what is left of it without the
blanks around it is not blank. But the matrix refuses entries below a blank header, and the loading ends
at the first of them with nothing (`follow`). So a file is loaded exactly if all entries below blank
headers are left out of it (`matrix_loads_iff_no_line_is_refused`). Reports are not lost by that, since
lines above all headers come first.
-/

set_option autoImplicit false

namespace BooleanRetrieval

open Text (isBlank allBlank isBlankText trim)

namespace Text

/-- An element that is not dropped is behind the dropped ones. -/
theorem mem_dropWhile {α : Type} {p : α → Bool} {l : List α} {a : α} (h : a ∈ l) (ha : p a = false) :
    a ∈ l.dropWhile p := by
  rw [← List.takeWhile_append_dropWhile (p := p) (l := l)] at h
  rcases List.mem_append.mp h with h | h
  · rw [List.mem_takeWhile_imp h] at ha
    cases ha
  · exact h

/-- A text that is not blank is not blank when it is trimmed. -/
theorem allBlank_trim {cs : List Char} (h : allBlank cs = false) : allBlank (trim cs) = false := by
  obtain ⟨c, hc, hblank⟩ := List.all_eq_false.mp h
  rw [Bool.not_eq_true] at hblank
  have hmem : c ∈ trim cs := by
    unfold trim
    rw [List.mem_reverse]
    exact mem_dropWhile (List.mem_reverse.mpr (mem_dropWhile hc hblank)) hblank
  apply List.all_eq_false.mpr
  exact ⟨c, hmem, by simp [hblank]⟩

end Text

namespace IncidenceMatrix

open Sections (Entry Idle Headless Below Remembered Accounted MakesEntry header)

/-- What loading makes of a line. -/
inductive LineFate where
  | passed
  | added (o : Occurrence)
  | orphaned (entry : Entry)
  /-- The matrix does not take the line, since its term is blank. -/
  | refused

namespace LineFate

def add? : LineFate → Option Occurrence
  | added o => some o
  | _ => none

def orphan? : LineFate → Option Entry
  | orphaned entry => some entry
  | _ => none

end LineFate

/-- What a line comes to, by the lines above it. -/
inductive ComesTo (above : List (List Char)) (line : List Char) : LineFate → Prop
  | idle (h : Idle line) : ComesTo above line .passed
  | orphan (h : ¬ Idle line) (habove : Headless above) :
    ComesTo above line (.orphaned ⟨none, line, above.length + 1⟩)
  | refused {t : List Char} (h : ¬ Idle line) (habove : Below above t) (ht : allBlank t = true) :
    ComesTo above line .refused
  | added {t : List Char} (h : ¬ Idle line) (habove : Below above t) (ht : allBlank t = false) :
    ComesTo above line (.added ⟨.ofList t, .ofList (trim line)⟩)

/-- A line comes to one thing only. -/
theorem ComesTo.unique {above : List (List Char)} {line : List Char} {fate fate' : LineFate}
    (h : ComesTo above line fate) (h' : ComesTo above line fate') : fate = fate' := by
  cases h with
  | idle hidle =>
    cases h' with
    | idle => rfl
    | orphan hentry | refused hentry | added hentry => exact absurd hidle hentry
  | orphan hentry habove =>
    cases h' with
    | idle hidle => exact absurd hidle hentry
    | orphan => rfl
    | refused _ hbelow | added _ hbelow => exact absurd habove hbelow.not_headless
  | refused hentry habove ht =>
    cases h' with
    | idle hidle => exact absurd hidle hentry
    | orphan _ hheadless => exact absurd hheadless habove.not_headless
    | refused => rfl
    | added _ habove' ht' =>
      rw [habove.unique habove', ht'] at ht
      cases ht
  | added hentry habove ht =>
    cases h' with
    | idle hidle => exact absurd hidle hentry
    | orphan _ hheadless => exact absurd hheadless habove.not_headless
    | refused _ habove' ht' =>
      rw [habove.unique habove', ht'] at ht
      cases ht
    | added _ habove' => rw [habove.unique habove']

/-- A line that is reported is reported with its number in the file. -/
theorem ComesTo.number {above : List (List Char)} {line : List Char} {fate : LineFate} {n : Nat}
    (h : ComesTo above line fate) (hn : fate.orphan?.map Entry.number = some n) :
    n = above.length + 1 := by
  cases h with
  | idle | refused | added => cases hn
  | orphan => exact (Option.some.inj hn).symm

/-- What a loading gives that follows the fates of lines. It ends at the first line that is refused. -/
def follow (path : String) (matrix : IncidenceMatrix) (reports : List LogRecord) :
    List LineFate → Loaded IncidenceMatrix
  | [] => ⟨.ok matrix, reports.reverse⟩
  | .passed :: rest => follow path matrix reports rest
  | .added o :: rest => follow path (matrix.call o) reports rest
  | .orphaned entry :: rest =>
    follow path matrix (loadWarning (Sections.orphanReport path entry) :: reports) rest
  | .refused :: _ => ⟨.error (.cell .blankTerm), reports.reverse⟩

/-- An entry below a term is filed, unless the term is blank. -/
theorem loadEntries_cons_some (path t : String) {line : List Char} (hline : allBlank line = false)
    (number : Nat) (matrix : IncidenceMatrix) (reports : List LogRecord) (rest : List Entry) :
    loadEntries path matrix reports (⟨some t, line, number⟩ :: rest) =
      if isBlankText t then ⟨.error (.cell .blankTerm), reports.reverse⟩
      else loadEntries path (matrix.call ⟨t, .ofList (trim line)⟩) reports rest := by
  have hdoc : isBlankText (.ofList (trim line)) = false := by
    unfold isBlankText
    rw [String.toList_ofList]
    exact Text.allBlank_trim hline
  rw [loadEntries]
  dsimp only
  rw [add_eq, hdoc]
  cases ht : isBlankText t with
  | true => rfl
  | false =>
    rw [call_of_accepted (by simp [ht, hdoc])]
    rfl

/-- Loading the entries of lines follows the fates of the lines. -/
theorem loadEntries_eq_follow {above lines : List (List Char)} {entries : List (Option Entry)}
    (h : Accounted MakesEntry above lines entries) (path : String) :
    ∃ fates, Accounted ComesTo above lines fates ∧ ∀ matrix reports,
      loadEntries path matrix reports (entries.filterMap id) = follow path matrix reports fates := by
  induction h with
  | nil above => exact ⟨[], .nil above, fun _ _ => rfl⟩
  | @cons above rest line entry entries hentry _ ih =>
    obtain ⟨fates, haccount, hread⟩ := ih
    cases hentry with
    | idle hidle => exact ⟨.passed :: fates, .cons (.idle hidle) haccount, hread⟩
    | @entry term hidle hterm =>
      cases term with
      | none =>
        refine ⟨_ :: fates, .cons (.orphan hidle hterm) haccount, fun matrix reports => ?_⟩
        exact hread matrix _
      | some t =>
        have hline : allBlank line = false := Bool.not_eq_true _ ▸ fun hblank => hidle (.inl hblank)
        have hstep := loadEntries_cons_some path t hline (above.length + 1)
        cases ht : isBlankText t with
        | true =>
          refine ⟨.refused :: fates, .cons (.refused hidle hterm ht) haccount, fun matrix reports => ?_⟩
          exact (hstep matrix reports _).trans (if_pos ht)
        | false =>
          refine ⟨_ :: fates, .cons (.added hidle hterm ht) haccount, fun matrix reports => ?_⟩
          rw [String.ofList_toList, follow, ← hread]
          exact (hstep matrix reports _).trans (if_neg (by simp [ht]))

/-! ## What a loading gives -/

/-- Where no line is refused, following the fates adds what some lines add and reports the others. -/
theorem follow_of_not_mem (path : String) {fates : List LineFate} (h : .refused ∉ fates)
    (matrix : IncidenceMatrix) (reports : List LogRecord) :
    follow path matrix reports fates =
      ⟨.ok ((fates.filterMap LineFate.add?).foldl call matrix), reports.reverse ++
        (fates.filterMap LineFate.orphan?).map fun entry =>
          loadWarning (Sections.orphanReport path entry)⟩ := by
  induction fates generalizing matrix reports with
  | nil => simp [follow]
  | cons fate fates ih =>
    obtain ⟨hfate, hrest⟩ := not_or.mp (mt List.mem_cons.mpr h)
    cases fate with
    | refused => exact absurd rfl hfate
    | passed | added | orphaned =>
      rw [follow, ih hrest]
      simp [List.filterMap_cons, LineFate.add?, LineFate.orphan?]

/-- Below a header no line is reported. -/
theorem filterMap_orphan?_of_not_headless {above lines : List (List Char)} {fates : List LineFate}
    (h : Accounted ComesTo above lines fates) (habove : ¬ Headless above) :
    fates.filterMap LineFate.orphan? = [] := by
  induction h with
  | nil => rfl
  | @cons above rest line fate fates hfate _ ih =>
    have hrest := ih (Sections.not_headless_append habove [line])
    cases hfate with
    | orphan _ hheadless => exact absurd hheadless habove
    | idle | refused | added => exact hrest

/-- When a line is refused, all reports have been made already. -/
theorem follow_of_mem {above lines : List (List Char)} {fates : List LineFate}
    (h : Accounted ComesTo above lines fates) (hrefused : .refused ∈ fates) (path : String)
    (matrix : IncidenceMatrix) (reports : List LogRecord) :
    follow path matrix reports fates = ⟨.error (.cell .blankTerm), reports.reverse ++
      (fates.filterMap LineFate.orphan?).map fun entry =>
        loadWarning (Sections.orphanReport path entry)⟩ := by
  induction h generalizing matrix reports with
  | nil => exact absurd hrefused List.not_mem_nil
  | @cons above rest line fate fates hfate hrest ih =>
    cases hfate with
    | refused _ hbelow =>
      have hnone := filterMap_orphan?_of_not_headless hrest
        (Sections.not_headless_append hbelow.not_headless [line])
      rw [follow]
      simp [List.filterMap_cons, LineFate.orphan?, hnone]
    | idle | orphan | added =>
      have hmem := (List.mem_cons.mp hrefused).resolve_left (by simp)
      rw [follow, ih hmem]
      simp [List.filterMap_cons, LineFate.orphan?]

/-! ## The whole file -/

/-- Adds without blank names are accepted. -/
theorem addAll_of_not_blank {adds : List Occurrence}
    (h : ∀ o ∈ adds, isBlankText o.term = false ∧ isBlankText o.document = false)
    (matrix : IncidenceMatrix) : matrix.addAll adds = .ok (adds.foldl call matrix) := by
  induction adds generalizing matrix with
  | nil => rfl
  | cons o adds ih =>
    obtain ⟨⟨ht, hdoc⟩, hrest⟩ := List.forall_mem_cons.mp h
    rw [addAll, List.foldlM_cons, add_eq, ht, hdoc, List.foldl_cons,
      call_of_accepted (by simp [ht, hdoc])]
    exact ih hrest _

/-- What a line adds has no blank name. -/
theorem not_blank_of_mem_add? {above lines : List (List Char)} {fates : List LineFate}
    (h : Accounted ComesTo above lines fates) :
    ∀ o ∈ fates.filterMap LineFate.add?,
      isBlankText o.term = false ∧ isBlankText o.document = false := by
  intro o ho
  obtain ⟨fate, hfate, hadd⟩ := List.mem_filterMap.mp ho
  obtain ⟨above', line, -, hcomes⟩ := h.exists_of_mem hfate
  cases hcomes with
  | idle | orphan | refused => cases hadd
  | added hidle _ ht =>
    obtain rfl := Option.some.inj hadd
    unfold isBlankText
    rw [String.toList_ofList, String.toList_ofList]
    exact ⟨ht, Text.allBlank_trim (Bool.not_eq_true _ ▸ fun hblank => hidle (.inl hblank))⟩

/-- Loading a text follows the fates of its lines. -/
theorem loadAs_lines_eq_follow {tree : FileTree} {path : Path} {text : List Char}
    (hfile : tree.find path = .ok (.file (Encoding.encodeUtf8 text))) :
    ∃ fates, Accounted ComesTo [] ((Text.fileLines text).map Text.Line.content) fates ∧
      loadAs .lines tree path = follow path.text empty [] fates := by
  obtain ⟨entries, hentries, hread⟩ := Sections.exists_accounted_entriesFrom
    ((Text.fileLines text).map Text.Line.content) Sections.remembered_nil
  obtain ⟨fates, haccount, hload⟩ := loadEntries_eq_follow hentries path.text
  refine ⟨fates, haccount, ?_⟩
  rw [← hload, ← hread]
  unfold loadAs loadBytes
  rw [savedBytes_of_find hfile]
  dsimp only
  rw [InvertedIndex.readLines_eq_fileLines]
  dsimp only
  split
  · next hfault => cases hfault
  · rfl

/-- Whatever the text of a file is, all of its lines above the first header that are not blank are
reported, in their order and with their numbers. If no entry stands below a blank header, the file is
loaded, and all of its other entries are added under their headers in their order. But one entry below a
blank header is enough for loading to fail. -/
theorem matrix_loads_iff_no_line_is_refused {tree : FileTree} {path : Path} {text : List Char}
    (hfile : tree.find path = .ok (.file (Encoding.encodeUtf8 text))) :
    let lines := (Text.fileLines text).map Text.Line.content
    ∃ fates, (∀ fates', Accounted ComesTo [] lines fates' ↔ fates' = fates) ∧
      ((loadAs .lines tree path).log = (fates.filterMap LineFate.orphan?).map fun entry =>
        loadWarning (Sections.orphanReport path.text entry)) ∧
      ((fates.filterMap LineFate.orphan?).map Entry.number).Pairwise (· < ·) ∧
      (.refused ∉ fates → ∃ matrix, (loadAs .lines tree path).outcome = .ok matrix ∧
        empty.addAll (fates.filterMap LineFate.add?) = .ok matrix) ∧
      (.refused ∈ fates → (loadAs .lines tree path).outcome = .error (.cell .blankTerm)) := by
  intro lines
  obtain ⟨fates, haccount, hload⟩ := loadAs_lines_eq_follow hfile
  refine ⟨fates, ?_, ?_, ?_, ?_, ?_⟩
  · intro fates'
    refine ⟨fun h => h.unique haccount fun _ _ _ _ => ComesTo.unique, ?_⟩
    rintro rfl
    exact haccount
  · rw [hload]
    by_cases hrefused : .refused ∈ fates
    · rw [follow_of_mem haccount hrefused]
      rfl
    · rw [follow_of_not_mem _ hrefused]
      rfl
  · obtain ⟨hnumbers, -⟩ := haccount.pairwise_number fun _ _ _ _ => ComesTo.number
    rwa [← List.map_filterMap] at hnumbers
  · intro hrefused
    refine ⟨_, ?_, addAll_of_not_blank (not_blank_of_mem_add? haccount) empty⟩
    rw [hload, follow_of_not_mem _ hrefused]
  · intro hrefused
    rw [hload, follow_of_mem haccount hrefused]

/-- A file with a line above all headers, a blank header without entries, blanks around an id, an id that
begins in a bracket, and a header and a document in another case; and a file with an entry below a blank
header. -/
theorem matrix_loads_iff_no_line_is_refused_mixed :
    let text := "x\r\n[ ]\n[cat]\r  a.txt \n\n[x]b\n[CAT]\nA.TXT".toList
    let refusedText := "x\n[ ]\na\n".toList
    let path : Path := ⟨"", ["matrix.txt"]⟩
    let tree (text : List Char) : FileTree :=
      { entries := [(["matrix.txt"], .file (Encoding.encodeUtf8 text))] }
    let lines (text : List Char) := (Text.fileLines text).map Text.Line.content
    let orphan := loadWarning "matrix.txt:1: document entry before any term, skipped"
    ((tree text).find path = .ok (.file (Encoding.encodeUtf8 text)) ∧
      ∃ fates matrix, (∀ fates', Accounted ComesTo [] (lines text) fates' ↔ fates' = fates) ∧
        .refused ∉ fates ∧ loadAs .lines (tree text) path = ⟨.ok matrix, [orphan]⟩ ∧
        empty.addAll (fates.filterMap LineFate.add?) = .ok matrix ∧
        matrix.listing = [("cat", ["[x]b", "a.txt"])]) ∧
    (tree refusedText).find path = .ok (.file (Encoding.encodeUtf8 refusedText)) ∧
      ∃ fates, (∀ fates', Accounted ComesTo [] (lines refusedText) fates' ↔ fates' = fates) ∧
        .refused ∈ fates ∧
        loadAs .lines (tree refusedText) path = ⟨.error (.cell .blankTerm), [orphan]⟩ := by
  intro text refusedText path tree lines orphan
  have hfile : ∀ text, (tree text).find path = .ok (.file (Encoding.encodeUtf8 text)) :=
    fun _ => rfl
  refine ⟨⟨hfile text, ?_⟩, hfile refusedText, ?_⟩
  · obtain ⟨fates, hunique, -, -, hloaded, hfailed⟩ :=
      matrix_loads_iff_no_line_is_refused (hfile text)
    have hlog : (loadAs .lines (tree text) path).log = [orphan] := by decide +kernel
    have hlisting : (loadAs .lines (tree text) path).outcome.toOption.map listing =
        some [("cat", ["[x]b", "a.txt"])] := by decide +kernel
    have hrefused : .refused ∉ fates := by
      intro hrefused
      rw [hfailed hrefused] at hlisting
      cases hlisting
    obtain ⟨matrix, hmatrix, hadds⟩ := hloaded hrefused
    rw [hmatrix] at hlisting
    refine ⟨fates, matrix, hunique, hrefused, ?_, hadds, Option.some.inj hlisting⟩
    rw [← hlog, ← hmatrix]
  · obtain ⟨fates, hunique, -, -, hloaded, hfailed⟩ :=
      matrix_loads_iff_no_line_is_refused (hfile refusedText)
    have hlog : (loadAs .lines (tree refusedText) path).log = [orphan] := by decide +kernel
    have hoption : (loadAs .lines (tree refusedText) path).outcome.toOption.isSome = false := by
      decide +kernel
    have hrefused : .refused ∈ fates := by
      by_contra hrefused
      obtain ⟨matrix, hmatrix, -⟩ := hloaded hrefused
      rw [hmatrix] at hoption
      cases hoption
    refine ⟨fates, hunique, hrefused, ?_⟩
    rw [← hlog, ← hfailed hrefused]

/-- An entry below empty brackets ends the loading of a matrix without a report, and the entry below the
next header is lost with it. The lines of an index are loaded all the same from such a file. -/
theorem entry_below_blank_header_ends_loading :
    let path : Path := ⟨"", ["matrix.txt"]⟩
    let tree (text : String) : FileTree :=
      { entries := [(["matrix.txt"], .file (Encoding.encodeUtf8 text.toList))] }
    loadAs .lines (tree "[]\na\n[cat]\nb\n") path = ⟨.error (.cell .blankTerm), []⟩ ∧
    (InvertedIndex.loadAs .lines (tree "[]\na=1\n[cat]\nb=1\n") path).outcome.toOption.map
      (fun index => (index.terms, index.totalTokenCount)) = some (["", "cat"], 2) := by
  intro path tree
  have hlog : (loadAs .lines (tree "[]\na\n[cat]\nb\n") path).log = [] := by decide +kernel
  have houtcome : (loadAs .lines (tree "[]\na\n[cat]\nb\n") path).outcome.map terms =
      .error (.cell .blankTerm) := by decide +kernel
  constructor
  · cases hload : loadAs .lines (tree "[]\na\n[cat]\nb\n") path with
    | mk outcome log =>
      rw [hload] at hlog houtcome
      obtain rfl : log = [] := hlog
      cases outcome with
      | error e => rw [Except.error.inj houtcome]
      | ok matrix => cases houtcome
  · decide +kernel

end IncidenceMatrix

end BooleanRetrieval
