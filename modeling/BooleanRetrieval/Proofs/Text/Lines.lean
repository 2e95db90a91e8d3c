import BooleanRetrieval.Text.Lines

/-!
# The lines of files

The lines of a file with their breaks put together are its text (`flatMap_text_fileLines`), and no line
has a line feed or a carriage return in it (`fileLine_of_mem_fileLines`). Lines that have none are read
back as they were written, each ended by a line feed (`fileLines_flatMap`), and a text without carriage
returns is left as it is when its breaks are unified (`unifyBreaks_of_not_mem`).
-/

set_option autoImplicit false

namespace BooleanRetrieval.Text

/-- Whether a text stands on one line of a file. -/
def Unbroken (cs : List Char) : Prop :=
  '\n' ∉ cs ∧ '\r' ∉ cs

instance (cs : List Char) : Decidable (Unbroken cs) :=
  inferInstanceAs (Decidable (_ ∧ _))

/-- Only line feeds and carriage returns break the lines of a file. -/
theorem isFileBreak_eq_false {c : Char} : isFileBreak c = false ↔ c ≠ '\n' ∧ c ≠ '\r' := by
  simp [isFileBreak]

/-- The empty text has no line breaks. -/
theorem unbroken_nil : Unbroken [] :=
  ⟨List.not_mem_nil, List.not_mem_nil⟩

/-- A text has no line breaks exactly if its pieces have none. -/
theorem unbroken_append {cs ds : List Char} :
    Unbroken (cs ++ ds) ↔ Unbroken cs ∧ Unbroken ds := by
  unfold Unbroken
  simp only [List.mem_append]
  grind

/-- Nor has one exactly if its first character is none and the rest has none. -/
theorem unbroken_cons {c : Char} {cs : List Char} :
    Unbroken (c :: cs) ↔ isFileBreak c = false ∧ Unbroken cs := by
  rw [isFileBreak_eq_false]
  unfold Unbroken
  simp only [List.mem_cons]
  grind

/-- The order of the characters does not matter for that. -/
theorem unbroken_reverse {cs : List Char} : Unbroken cs.reverse ↔ Unbroken cs := by
  unfold Unbroken
  simp only [List.mem_reverse]

/-! ## Cutting -/

/-- A line as it stands in its text. -/
def Line.text (line : Line) : List Char :=
  line.content ++ line.ending

/-- Cutting a text into lines loses nothing: the lines put together are the text. -/
theorem flatMap_text_collectLines (isBreak : Char → Bool) (line : List Char) (lines : List Line)
    (cs : List Char) :
    (collectLines isBreak line lines cs).flatMap Line.text =
      lines.reverse.flatMap Line.text ++ (line.reverse ++ cs) := by
  fun_induction collectLines isBreak line lines cs with
  | case1 line lines =>
    by_cases hline : line = []
    · simp [hline]
    · simp [hline, Line.text]
  | case2 line lines rest hbreak ih =>
    rw [ih]
    simp [Line.text]
  | case3 line lines rest hbreak ih =>
    rw [ih]
    simp
  | case4 line lines c rest hpair hbreak ih =>
    rw [ih]
    simp [Line.text]
  | case5 line lines c rest hpair hbreak ih =>
    rw [ih]
    simp

/-- The lines of a file with their breaks are its text. -/
theorem flatMap_text_fileLines (cs : List Char) : (fileLines cs).flatMap Line.text = cs :=
  flatMap_text_collectLines isFileBreak [] [] cs

/-- A line of a file: no break in it, and one of the four endings. -/
structure FileLine (line : Line) : Prop where
  unbroken : Unbroken line.content
  ending : line.ending ∈ [[], ['\n'], ['\r'], ['\r', '\n']]

/-- The lines of a file that are collected are proper ones if those so far are. -/
theorem fileLine_of_mem_collectLines {line : List Char} {lines : List Line} {cs : List Char}
    (hline : Unbroken line) (hlines : ∀ l ∈ lines, FileLine l) :
    ∀ l ∈ collectLines isFileBreak line lines cs, FileLine l := by
  have hfinish : ∀ {line : List Char} {lines : List Line} {ending : List Char}, Unbroken line →
      (∀ l ∈ lines, FileLine l) → ending ∈ [[], ['\n'], ['\r'], ['\r', '\n']] →
      ∀ l ∈ (⟨line.reverse, ending⟩ : Line) :: lines, FileLine l := by
    intro line lines ending hline hlines hending l hl
    rcases List.mem_cons.mp hl with rfl | hl
    · exact ⟨unbroken_reverse.mpr hline, hending⟩
    · exact hlines l hl
  fun_induction collectLines isFileBreak line lines cs with
  | case1 line lines =>
    intro l hl
    rw [List.mem_reverse] at hl
    split at hl
    · exact hlines l hl
    · exact hfinish hline hlines List.mem_cons_self l hl
  | case2 line lines rest hbreak ih => exact ih unbroken_nil (hfinish hline hlines (by decide))
  | case3 line lines rest hbreak ih => exact absurd rfl hbreak
  | case4 line lines c rest hpair hbreak ih =>
    have hending : [c] ∈ [[], ['\n'], ['\r'], ['\r', '\n']] := by
      rcases Decidable.em (c = '\n') with rfl | hfeed
      · decide
      · have hreturn : c = '\r' := by simpa [isFileBreak, hfeed] using hbreak
        rw [hreturn]
        decide
    exact ih unbroken_nil (hfinish hline hlines hending)
  | case5 line lines c rest hpair hbreak ih =>
    exact ih (unbroken_cons.mpr ⟨by simpa using hbreak, hline⟩) hlines

/-- Every line of a file has a content without breaks and ends in at most one break. -/
theorem fileLine_of_mem_fileLines {cs : List Char} {l : Line} (h : l ∈ fileLines cs) : FileLine l :=
  fileLine_of_mem_collectLines unbroken_nil (fun _ hl => absurd hl List.not_mem_nil) l h

/-! ## Unifying breaks -/

/-- Unifying breaks changes nothing in a text without carriage returns. -/
theorem unifyBreaks_of_not_mem {cs : List Char} (h : '\r' ∉ cs) : unifyBreaks cs = cs := by
  have hlines : ∀ l ∈ fileLines cs,
      (if l.ending.isEmpty then l.content else l.content ++ ['\n']) = l.text := by
    intro l hl
    have hreturn : '\r' ∉ l.ending := by
      intro hmem
      apply h
      rw [← flatMap_text_fileLines cs]
      exact List.mem_flatMap.mpr ⟨l, hl, List.mem_append_right _ hmem⟩
    have hending := (fileLine_of_mem_fileLines hl).ending
    simp only [List.mem_cons, List.not_mem_nil, or_false] at hending
    unfold Line.text
    rcases hending with hending | hending | hending | hending
    · simp [hending]
    · simp [hending]
    · simp [hending] at hreturn
    · simp [hending] at hreturn
  unfold unifyBreaks
  rw [List.flatMap_def, List.map_congr_left hlines, ← List.flatMap_def, flatMap_text_fileLines]

/-! ## Written lines -/

/-- A content without breaks is collected up to the line feed behind it. -/
theorem collectLines_line {content : List Char} (h : Unbroken content) (line : List Char)
    (lines : List Line) (rest : List Char) :
    collectLines isFileBreak line lines (content ++ '\n' :: rest) =
      collectLines isFileBreak [] (⟨line.reverse ++ content, ['\n']⟩ :: lines) rest := by
  induction content generalizing line with
  | nil => simp [collectLines, isFileBreak]
  | cons c content ih =>
    obtain ⟨hc, hcontent⟩ := unbroken_cons.mp h
    have hreturn : c ≠ '\r' := (isFileBreak_eq_false.mp hc).2
    rw [List.cons_append, collectLines.eq_3 _ _ _ _ _ (fun _ hpair => absurd hpair hreturn),
      if_neg (by simp [hc]), ih hcontent, List.reverse_cons, List.append_assoc, List.singleton_append]

/-- So contents that are written line by line are collected line by line. -/
theorem collectLines_flatMap {contents : List (List Char)} (h : ∀ content ∈ contents, Unbroken content)
    (lines : List Line) :
    collectLines isFileBreak [] lines (contents.flatMap (· ++ ['\n'])) =
      lines.reverse ++ contents.map fun content => ⟨content, ['\n']⟩ := by
  induction contents generalizing lines with
  | nil => simp [collectLines]
  | cons content contents ih =>
    obtain ⟨hcontent, hcontents⟩ := List.forall_mem_cons.mp h
    rw [List.flatMap_cons, List.append_assoc, List.singleton_append, collectLines_line hcontent,
      ih hcontents]
    simp

/-- Lines without breaks, each ended by a line feed, are read back. -/
theorem fileLines_flatMap {contents : List (List Char)} (h : ∀ content ∈ contents, Unbroken content) :
    (fileLines (contents.flatMap (· ++ ['\n']))).map Line.content = contents := by
  unfold fileLines
  rw [collectLines_flatMap h, List.reverse_nil, List.nil_append, List.map_map]
  exact List.map_id _

end BooleanRetrieval.Text
