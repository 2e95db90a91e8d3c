import BooleanRetrieval.Proofs.Saved.LineStanding
import BooleanRetrieval.Proofs.Saved.Survival

/-!
# Every line of a saved index is accounted for

Whatever text stands in a file, loading it as the lines of an index makes one thing of each of its lines
(`LineFate`): an idle line is passed over, and an entry is added if it writes a positive frequency
(`WritesPosting`) below a term, and reported otherwise. What a line comes to depends on the lines above
it only through their last header (`ComesTo`), and it is one thing only (`ComesTo.unique`). The loader
follows the fates of the lines in their order (`loadEntries_eq_foldl`), so that the index, its numbers
and the reports can be read off them (`loading_accounts_for_every_line`).
-/

set_option autoImplicit false

namespace BooleanRetrieval.InvertedIndex

open Sections (Entry Idle Headless Below Remembered Accounted MakesEntry header)

/-- What loading makes of a line. -/
inductive LineFate where
  | passed
  | added (a : CountedAdd)
  | reported (entry : Entry)

namespace LineFate

def add? : LineFate → Option CountedAdd
  | added a => some a
  | _ => none

def report? : LineFate → Option Entry
  | reported entry => some entry
  | _ => none

end LineFate

/-- The report of an entry that makes no posting. -/
def refusal (path : String) (entry : Entry) : LogRecord :=
  loadWarning <|
    match entry.term with
    | none => Sections.orphanReport path entry
    | some t => path ++ ":" ++ toString entry.number ++ ": malformed posting for term '" ++ t
        ++ "', skipped"

/-- What a line comes to, by the lines above it. -/
inductive ComesTo (above : List (List Char)) (line : List Char) : LineFate → Prop
  | idle (h : Idle line) : ComesTo above line .passed
  | orphan (h : ¬ Idle line) (habove : Headless above) :
    ComesTo above line (.reported ⟨none, line, above.length + 1⟩)
  /-- No number is written behind the last equals sign, or it is zero. -/
  | malformed {t : List Char} (h : ¬ Idle line) (habove : Below above t)
    (hline : ∀ doc n, WritesPosting line doc n → n = 0) :
    ComesTo above line (.reported ⟨some (.ofList t), line, above.length + 1⟩)
  | posting {t doc : List Char} {n : Nat} (h : ¬ Idle line) (habove : Below above t)
    (hline : WritesPosting line doc n) (hn : 0 < n) :
    ComesTo above line (.added (⟨.ofList t, .ofList doc⟩, n))

/-! ## The fate of a line -/

/-- A line comes to one thing only. -/
theorem ComesTo.unique {above : List (List Char)} {line : List Char} {fate fate' : LineFate}
    (h : ComesTo above line fate) (h' : ComesTo above line fate') : fate = fate' := by
  cases h with
  | idle hidle =>
    cases h' with
    | idle => rfl
    | orphan hentry | malformed hentry | posting hentry => exact absurd hidle hentry
  | orphan hentry habove =>
    cases h' with
    | idle hidle => exact absurd hidle hentry
    | orphan => rfl
    | malformed _ hbelow | posting _ hbelow => exact absurd habove hbelow.not_headless
  | malformed hentry habove hline =>
    cases h' with
    | idle hidle => exact absurd hidle hentry
    | orphan _ hheadless => exact absurd hheadless habove.not_headless
    | malformed _ habove' => rw [habove.unique habove']
    | posting _ _ hwrites hn => exact absurd (hline _ _ hwrites) hn.ne'
  | posting hentry habove hline hn =>
    cases h' with
    | idle hidle => exact absurd hidle hentry
    | orphan _ hheadless => exact absurd hheadless habove.not_headless
    | malformed _ _ hzero => exact absurd (hzero _ _ hline) hn.ne'
    | posting _ habove' hline' =>
      obtain ⟨rfl, rfl⟩ := hline.unique hline'
      rw [habove.unique habove']

/-- A line that is reported is reported with its number in the file. -/
theorem ComesTo.number {above : List (List Char)} {line : List Char} {fate : LineFate} {n : Nat}
    (h : ComesTo above line fate) (hn : fate.report?.map Entry.number = some n) :
    n = above.length + 1 := by
  cases h with
  | idle | posting => cases hn
  | orphan | malformed => exact (Option.some.inj hn).symm

/-! ## Loading -/

/-- No run of decimal digits in a text is longer than numbers may be. -/
def ReadableNumbers (text : List Char) : Prop :=
  ∀ digits, digits <:+: text → (∀ c ∈ digits, (Text.digitValue? c).isSome = true) →
    digits.length ≤ Json.maxDigits

/-- The numbers on a part of a text are readable when all of them are. -/
theorem ReadableNumbers.of_infix {line text : List Char} (h : ReadableNumbers text)
    (hline : line <:+: text) : ReadableNumbers line :=
  fun digits hdigits => h digits (hdigits.trans hline)

/-- The loading behind a line of the given fate. -/
def Loading.follow (path : String) (s : Loading) : LineFate → Loading
  | .passed => s
  | .added a => ⟨s.index.call a, s.reports⟩
  | .reported entry => ⟨s.index, refusal path entry :: s.reports⟩

/-- A readable number has no more digits than are read. -/
theorem length_le_of_splitPosting? {line doc digits : List Char} (hline : ReadableNumbers line)
    (h : splitPosting? line = some (doc, digits)) : ¬ Json.maxDigits < digits.length := by
  obtain ⟨rfl, -, hdigits⟩ := splitPosting?_eq_some_iff.mp h
  have hinfix : digits <:+: doc ++ '=' :: digits :=
    ⟨doc ++ ['='], [], by simp⟩
  exact Nat.not_lt.mpr (hline digits hinfix hdigits)

/-- A line that writes a positive frequency is a posting. -/
theorem meaning_of_writesPosting {line doc : List Char} {n : Nat} (hline : ReadableNumbers line)
    (h : WritesPosting line doc n) (hn : 0 < n) (path t : String) (number : Nat) :
    meaning path ⟨some t, line, number⟩ = .posting t (.ofList doc) n := by
  obtain ⟨digits, hsplit, hvalue⟩ := writesPosting_iff.mp h
  obtain ⟨m, rfl⟩ : ∃ m, n = m + 1 := ⟨n - 1, by omega⟩
  unfold meaning
  dsimp only
  rw [hsplit]
  dsimp only
  rw [if_neg (length_le_of_splitPosting? hline hsplit), hvalue]

/-- A line that writes no positive frequency is skipped with a report. -/
theorem meaning_of_forall_eq_zero {line : List Char} (hline : ReadableNumbers line)
    (h : ∀ doc n, WritesPosting line doc n → n = 0) (path t : String) (number : Nat) :
    ∃ report, meaning path ⟨some t, line, number⟩ = .skipped report ∧
      loadWarning report = refusal path ⟨some t, line, number⟩ := by
  refine ⟨_, ?_, rfl⟩
  unfold meaning
  dsimp only
  cases hsplit : splitPosting? line with
  | none => rfl
  | some pair =>
    obtain ⟨doc, digits⟩ := pair
    dsimp only
    rw [if_neg (length_le_of_splitPosting? hline hsplit)]
    cases hvalue : Text.decimalValue? digits with
    | none => rfl
    | some n =>
      obtain rfl := h doc n (writesPosting_iff.mpr ⟨digits, hsplit, hvalue⟩)
      rfl

/-- Loading the entry of a line follows the fate of the line. -/
theorem exists_fate {above : List (List Char)} {line : List Char} {term : Option String}
    (hidle : ¬ Idle line) (hterm : Remembered above term) (hline : ReadableNumbers line)
    (path : String) :
    ∃ fate, ComesTo above line fate ∧ ∀ s rest,
      loadEntries path s (⟨term, line, above.length + 1⟩ :: rest) =
        loadEntries path (s.follow path fate) rest := by
  cases term with
  | none => exact ⟨_, .orphan hidle hterm, fun s rest => rfl⟩
  | some t =>
    by_cases hwrites : ∃ doc n, WritesPosting line doc n ∧ 0 < n
    · obtain ⟨doc, n, hwrites, hn⟩ := hwrites
      refine ⟨_, .posting hidle hterm hwrites hn, fun s rest => ?_⟩
      rw [loadEntries, meaning_of_writesPosting hline hwrites hn]
      dsimp only
      rw [Loading.add_eq_call s t _ hn, String.ofList_toList]
      rfl
    · have hzero : ∀ doc n, WritesPosting line doc n → n = 0 := by
        intro doc n h
        by_contra hn
        exact hwrites ⟨doc, n, h, Nat.pos_of_ne_zero hn⟩
      obtain ⟨report, hmeaning, hreport⟩ :=
        meaning_of_forall_eq_zero hline hzero path t (above.length + 1)
      refine ⟨_, .malformed hidle hterm hzero, fun s rest => ?_⟩
      rw [loadEntries, hmeaning, String.ofList_toList]
      dsimp only
      rw [Loading.skip, hreport]
      rfl

/-- Loading the entries of lines follows the fates of the lines in their order. -/
theorem loadEntries_eq_foldl {above lines : List (List Char)} {entries : List (Option Entry)}
    (h : Accounted MakesEntry above lines entries) (hlines : ∀ line ∈ lines, ReadableNumbers line)
    (path : String) :
    ∃ fates, Accounted ComesTo above lines fates ∧ ∀ s,
      loadEntries path s (entries.filterMap id) = (fates.foldl (Loading.follow path) s, none) := by
  induction h with
  | nil above => exact ⟨[], .nil above, fun s => rfl⟩
  | cons hentry _ ih =>
    obtain ⟨hline, hrest⟩ := List.forall_mem_cons.mp hlines
    obtain ⟨fates, haccount, hread⟩ := ih hrest
    cases hentry with
    | idle hidle => exact ⟨.passed :: fates, .cons (.idle hidle) haccount, hread⟩
    | entry hidle hterm =>
      obtain ⟨fate, hfate, hstep⟩ := exists_fate hidle hterm hline path
      exact ⟨fate :: fates, .cons hfate haccount, fun s => (hstep s _).trans (hread _)⟩

/-- Following the fates of lines adds what some of them add, and reports the others. -/
theorem foldl_follow (path : String) (fates : List LineFate) (s : Loading) :
    fates.foldl (Loading.follow path) s =
      ⟨(fates.filterMap LineFate.add?).foldl call s.index,
        ((fates.filterMap LineFate.report?).map (refusal path)).reverse ++ s.reports⟩ := by
  induction fates generalizing s with
  | nil => rfl
  | cons fate fates ih =>
    rw [List.foldl_cons, ih]
    cases fate <;> simp [List.filterMap_cons, Loading.follow, LineFate.add?, LineFate.report?]

/-! ## The whole file -/

/-- A line of a text is a part of it. -/
theorem infix_of_mem_fileLines {text : List Char} {l : Text.Line} (h : l ∈ Text.fileLines text) :
    l.content <:+: text := by
  have hwhole : l.text <:+: (Text.fileLines text).flatMap Text.Line.text := by
    obtain ⟨before, after, hlines⟩ := List.append_of_mem h
    refine ⟨before.flatMap Text.Line.text, after.flatMap Text.Line.text, ?_⟩
    rw [hlines]
    simp
  rw [Text.flatMap_text_fileLines] at hwhole
  exact (List.prefix_append l.content l.ending).isInfix.trans hwhole

/-- What a line adds has a count of at least one. -/
theorem one_le_of_mem_add? {above lines : List (List Char)} {fates : List LineFate}
    (h : Accounted ComesTo above lines fates) : ∀ a ∈ fates.filterMap LineFate.add?, 1 ≤ a.2 := by
  intro a ha
  obtain ⟨fate, hfate, hadd⟩ := List.mem_filterMap.mp ha
  obtain ⟨above', line, -, hcomes⟩ := h.exists_of_mem hfate
  cases hcomes with
  | idle | orphan | malformed => cases hadd
  | posting _ _ _ hn =>
    obtain rfl := Option.some.inj hadd
    exact Int.ofNat_le.mpr hn

/-- Whatever the text of a file is, if it has no run of digits that is longer than numbers may be,
loading it as the lines of an index succeeds, and the index and the reports are those of the one account
that there is of its lines. Each line is passed over, added or reported. The adds make the index in the
order of their lines and succeed all, so that the frequencies of the index are sums of theirs, and so is
its total. The reports come in the order of their lines and carry their numbers. -/
theorem loading_accounts_for_every_line {tree : FileTree} {path : Path} {text : List Char}
    (hfile : tree.find path = .ok (.file (Encoding.encodeUtf8 text)))
    (hdigits : ReadableNumbers text) :
    let lines := (Text.fileLines text).map Text.Line.content
    ∃ fates index,
      (∀ fates', Accounted ComesTo [] lines fates' ↔ fates' = fates) ∧
      loadAs .lines tree path =
        ⟨.ok index, (fates.filterMap LineFate.report?).map (refusal path.text)⟩ ∧
      ((fates.filterMap LineFate.report?).map Entry.number).Pairwise (· < ·) ∧
      empty.addAll (fates.filterMap LineFate.add?) = .ok index ∧
      (index.totalTokenCount : Int) = ((fates.filterMap LineFate.add?).map Prod.snd).sum ∧
      ∀ t d, (index.frequency t d : Int) = occurrenceCount (fates.filterMap LineFate.add?) t d := by
  intro lines
  have hlines : ∀ line ∈ lines, ReadableNumbers line := by
    intro line hline
    obtain ⟨l, hl, rfl⟩ := List.mem_map.mp hline
    exact hdigits.of_infix (infix_of_mem_fileLines hl)
  -- the headers settle which term each line is under; only then its fate is decided
  obtain ⟨entries, hentries, hread⟩ :=
    Sections.exists_accounted_entriesFrom lines Sections.remembered_nil
  obtain ⟨fates, haccount, hload⟩ := loadEntries_eq_foldl hentries hlines path.text
  have hadds : empty.addAll (fates.filterMap LineFate.add?) =
      .ok (afterCalls (fates.filterMap LineFate.add?)) := by
    have hall := addAll_accepted_empty (fates.filterMap LineFate.add?)
    rwa [accepted_of_one_le (one_le_of_mem_add? haccount)] at hall
  obtain ⟨hbooks, -⟩ := books_addAll hadds
  refine ⟨fates, _, ?_, ?_, ?_, hadds, hbooks.tokens, hbooks.frequency_eq⟩
  · intro fates'
    refine ⟨fun h => h.unique haccount fun _ _ _ _ => ComesTo.unique, ?_⟩
    rintro rfl
    exact haccount
  · have hentriesOf : Sections.entries lines = entries.filterMap id := hread
    unfold loadAs loadBytes
    rw [savedBytes_of_find hfile]
    dsimp only
    rw [readLines_eq_fileLines]
    dsimp only
    rw [hentriesOf, hload, foldl_follow]
    simp [Loading.close, Loading.empty, afterCalls]
  · have hnumbers := (haccount.pairwise_number fun _ _ _ _ => ComesTo.number).1
    rwa [← List.map_filterMap] at hnumbers

/-- A file with three kinds of line breaks, a line above all headers, two lines without a positive
number, a blank line, and a header and a document in another case. -/
theorem loading_accounts_for_every_line_mixed :
    let text := "x=1\r\n[cat]\ra.txt=2\nno number=\nb.txt=0\n \n[CAT]\nA.TXT=3".toList
    let path : Path := ⟨"", ["index.txt"]⟩
    let tree : FileTree := { entries := [(["index.txt"], .file (Encoding.encodeUtf8 text))] }
    let lines := (Text.fileLines text).map Text.Line.content
    tree.find path = .ok (.file (Encoding.encodeUtf8 text)) ∧ ReadableNumbers text ∧
    ∃ fates index, (∀ fates', Accounted ComesTo [] lines fates' ↔ fates' = fates) ∧
      loadAs .lines tree path = ⟨.ok index,
        [loadWarning "index.txt:1: document entry before any term, skipped",
          loadWarning "index.txt:4: malformed posting for term 'cat', skipped",
          loadWarning "index.txt:5: malformed posting for term 'cat', skipped"]⟩ ∧
      empty.addAll (fates.filterMap LineFate.add?) = .ok index ∧ index.totalTokenCount = 5 ∧
      occurrenceCount (fates.filterMap LineFate.add?) "cat" "a.txt" = 5 := by
  intro text path tree lines
  have hfile : tree.find path = .ok (.file (Encoding.encodeUtf8 text)) := rfl
  have hdigits : ReadableNumbers text := by
    intro digits hdigits _
    have hshort : text.length ≤ Json.maxDigits := by decide
    exact hdigits.length_le.trans hshort
  obtain ⟨fates, index, hunique, hload, -, hadds, -, hfrequency⟩ :=
    loading_accounts_for_every_line hfile hdigits
  have hlog : (loadAs .lines tree path).log =
      [loadWarning "index.txt:1: document entry before any term, skipped",
        loadWarning "index.txt:4: malformed posting for term 'cat', skipped",
        loadWarning "index.txt:5: malformed posting for term 'cat', skipped"] := by
    decide +kernel
  have hcounts : (loadAs .lines tree path).outcome.toOption.map
      (fun index => (index.totalTokenCount, index.frequency "cat" "a.txt")) = some (5, 5) := by
    decide +kernel
  rw [hload] at hlog hcounts
  obtain ⟨htotal, hsum⟩ := Prod.mk.inj (Option.some.inj hcounts)
  refine ⟨hfile, hdigits, fates, index, hunique, ?_, hadds, htotal, ?_⟩
  · rw [hload, ← hlog]
  · rw [← hfrequency, hsum]
    rfl

end BooleanRetrieval.InvertedIndex
