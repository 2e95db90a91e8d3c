import BooleanRetrieval.Proofs.Saved.LinesRoundTrip
import Mathlib.Data.List.DropRight

/-!
# Matrices saved as lines

In the lines of a matrix a document id stands alone on its line, and reading trims the line and takes it
for a header if it looks like one. So an id comes back only if it is plain (`Sections.Plain`). What is
read from lines has trimmed ids (`loadEntries_eq_foldl`), so that a matrix whose terms and ids stand on
one line each survives being saved as lines exactly if all of its ids are plain. Terms need no such
condition, since a header keeps all of its term.
-/

set_option autoImplicit false

namespace BooleanRetrieval

open Text (Unbroken foldCase isBlank isBlankText trim)

/-! ## Trimmed lines -/

namespace Text

/-- Trimming drops the blank characters on either end. -/
theorem trim_eq_rdropWhile (cs : List Char) :
    trim cs = (cs.dropWhile isBlank).rdropWhile isBlank := rfl

/-- A trimmed text begins with a character that is not blank, unless it is empty. -/
theorem dropWhile_trim (cs : List Char) : (trim cs).dropWhile isBlank = trim cs := by
  rw [trim_eq_rdropWhile, List.dropWhile_eq_self_iff]
  intro hlength
  have hstart := List.rdropWhile_prefix isBlank (l := cs.dropWhile isBlank)
  have hfirst := List.dropWhile_eq_self_iff.mp (List.dropWhile_idempotent isBlank cs)
    (hlength.trans_le hstart.length_le)
  rwa [hstart.getElem hlength]

/-- A trimmed text is trimmed already. -/
theorem trim_trim (cs : List Char) : trim (trim cs) = trim cs := by
  rw [trim_eq_rdropWhile (trim cs), dropWhile_trim, trim_eq_rdropWhile, List.rdropWhile_idempotent]

end Text

namespace Sections

/-- A line that is read as what stands on it: there are no blank characters around it, and it does not
look like a header. -/
def Plain (line : List Char) : Prop :=
  trim line = line ∧ headerTerm? line = none

instance (line : List Char) : Decidable (Plain line) :=
  inferInstanceAs (Decidable (_ ∧ _))

/-- The pair that an entry below a header stands for in a matrix. -/
def Entry.occurrence? (entry : Entry) : Option Occurrence :=
  entry.term.map fun t => ⟨t, .ofList (trim entry.line)⟩

/-- An entry stands on one of the lines, which is neither blank nor a header. -/
theorem line_of_mem_entriesFrom {term : Option String} {number : Nat} {lines : List (List Char)}
    {entry : Entry} (h : entry ∈ entriesFrom term number lines) :
    entry.line ∈ lines ∧ lineKind entry.line = .entry := by
  induction lines generalizing term number with
  | nil => exact absurd h List.not_mem_nil
  | cons line lines ih =>
    unfold entriesFrom at h
    split at h
    · exact ⟨List.mem_cons_of_mem _ (ih h).1, (ih h).2⟩
    · exact ⟨List.mem_cons_of_mem _ (ih h).1, (ih h).2⟩
    · next hkind =>
      rcases List.mem_cons.mp h with rfl | h
      · exact ⟨List.mem_cons_self, hkind⟩
      · exact ⟨List.mem_cons_of_mem _ (ih h).1, (ih h).2⟩

/-- A line of an entry is no header. -/
theorem headerTerm?_of_lineKind {line : List Char} (h : lineKind line = .entry) :
    headerTerm? line = none := by
  unfold lineKind at h
  split at h
  · cases h
  · split at h
    · cases h
    · assumption

/-- A line that is neither blank nor a header is that of an entry. -/
theorem lineKind_of_plain {line : List Char} (hblank : Text.allBlank line = false)
    (h : headerTerm? line = none) : lineKind line = .entry := by
  unfold lineKind
  rw [hblank, h]
  rfl

end Sections

namespace IncidenceMatrix

/-- No term and no document id of a matrix has a line feed or a carriage return in it. -/
def LineSafe (matrix : IncidenceMatrix) : Prop :=
  (∀ t ∈ matrix.terms, Unbroken t.toList) ∧ ∀ d ∈ matrix.allDocuments, Unbroken d.toList

/-! ## Written lines -/

/-- The lines of a saved matrix without their breaks. -/
def linesOf (listing : List (String × List String)) : List (List Char) :=
  listing.flatMap fun (t, docs) => ('[' :: (t.toList ++ [']'])) :: docs.map String.toList

/-- The text of a matrix is its lines, each with a break. -/
theorem toText_lines (matrix : IncidenceMatrix) :
    matrix.toText .lines = (linesOf matrix.listing).flatMap (· ++ ['\n']) := by
  unfold toText linesOf
  rw [List.flatMap_assoc]
  apply List.flatMap_congr
  rintro ⟨t, docs⟩ -
  simp [Sections.write, List.flatMap_cons]

/-- The listing of a matrix holds each of its terms with the documents of the term. -/
theorem mem_listing {matrix : IncidenceMatrix} {entry : String × List String} :
    entry ∈ matrix.listing ↔
      entry.1 ∈ matrix.terms ∧ entry.2 = (matrix.documentsForTerm entry.1).toList := by
  unfold listing
  rw [List.mem_map]
  constructor
  · rintro ⟨t, ht, rfl⟩
    exact ⟨List.mem_mergeSort.mp ht, rfl⟩
  · rintro ⟨ht, hdocs⟩
    exact ⟨entry.1, List.mem_mergeSort.mpr ht, by rw [← hdocs]⟩

/-- A matrix lists all of its documents. -/
theorem mem_allDocuments_iff_listed {calls : List Occurrence} {d : String} :
    d ∈ (afterCalls calls).allDocuments ↔ ∃ entry ∈ (afterCalls calls).listing, d ∈ entry.2 := by
  have hall : d ∈ (afterCalls calls).allDocuments ↔
      ∃ t ∈ (afterCalls calls).terms, d ∈ (afterCalls calls).documentsForTerm t := by
    rw [afterCalls_eq_presence_counting, InvertedIndex.terms_presence]
    simp only [InvertedIndex.documentsForTerm_presence]
    exact (books_counting calls).mem_allDocuments
  rw [hall]
  constructor
  · rintro ⟨t, ht, hd⟩
    exact ⟨(t, _), mem_listing.mpr ⟨ht, rfl⟩, hd⟩
  · rintro ⟨⟨t, docs⟩, hentry, hd⟩
    obtain ⟨ht, hdocs⟩ := mem_listing.mp hentry
    exact ⟨t, ht, DocSet.mem_iff.mpr (hdocs ▸ hd)⟩

/-- The lines of a matrix are unbroken when it is safe for lines. -/
theorem unbroken_linesOf {calls : List Occurrence} (hsafe : (afterCalls calls).LineSafe) :
    ∀ line ∈ linesOf (afterCalls calls).listing, Unbroken line := by
  intro line hline
  obtain ⟨entry, hentry, hmem⟩ := List.mem_flatMap.mp hline
  rcases List.mem_cons.mp hmem with rfl | hmem
  · exact InvertedIndex.unbroken_header (hsafe.1 _ (mem_listing.mp hentry).1)
  · obtain ⟨d, hd, rfl⟩ := List.mem_map.mp hmem
    exact hsafe.2 d (mem_allDocuments_iff_listed.mpr ⟨entry, hentry, hd⟩)

/-- A matrix of which no call has a line break in its term or id is safe. -/
theorem lineSafe_afterCalls {calls : List Occurrence}
    (h : ∀ o ∈ calls, Unbroken o.term.toList ∧ Unbroken o.document.toList) :
    (afterCalls calls).LineSafe := by
  have hcounting : (counting calls).LineSafe := by
    apply InvertedIndex.lineSafe_afterCalls
    intro a ha
    obtain ⟨o, ho, rfl⟩ := List.mem_map.mp ha
    exact h o (List.mem_of_mem_filter ho)
  rw [afterCalls_eq_presence_counting]
  refine ⟨fun t ht => ?_, hcounting.2⟩
  rw [InvertedIndex.terms_presence] at ht
  exact hcounting.1 t ht

/-- What is read from the file of a matrix is what its lines make. -/
theorem loadBytes_lines {calls : List Occurrence} (hsafe : (afterCalls calls).LineSafe)
    (path : Path) (limits : NestingLimits) :
    loadBytes path .lines (Encoding.encodeUtf8 ((afterCalls calls).toText .lines)) limits =
      loadEntries path.text .empty [] (Sections.entries (linesOf (afterCalls calls).listing)) := by
  unfold loadBytes
  dsimp only
  rw [toText_lines, InvertedIndex.readLines_encodeUtf8 (unbroken_linesOf hsafe)]
  dsimp only
  split
  · next hfault => cases hfault
  · rfl

/-! ## Reading lines -/

/-- A reading that succeeds makes the calls for its entries, each with its line trimmed. -/
theorem loadEntries_eq_foldl {path : String} {entries : List Sections.Entry}
    {matrix copy : IncidenceMatrix} {reports log : List LogRecord}
    (h : loadEntries path matrix reports entries = ⟨.ok copy, log⟩) :
    copy = (entries.filterMap Sections.Entry.occurrence?).foldl call matrix := by
  induction entries generalizing matrix reports with
  | nil => exact (Except.ok.inj (congrArg Loaded.outcome h)).symm
  | cons entry entries ih =>
    unfold loadEntries at h
    split at h
    · next hterm =>
      have hnone : entry.occurrence? = none := by
        unfold Sections.Entry.occurrence?
        rw [hterm]
        rfl
      rw [List.filterMap_cons_none hnone]
      exact ih h
    · next t hterm =>
      have hsome : entry.occurrence? = some ⟨t, .ofList (trim entry.line)⟩ := by
        unfold Sections.Entry.occurrence?
        rw [hterm]
        rfl
      rw [List.filterMap_cons_some hsome, List.foldl_cons]
      split at h
      · next next hadd =>
        have hcall : matrix.call ⟨t, .ofList (trim entry.line)⟩ = next := by
          unfold call
          rw [hadd]
          rfl
        rw [hcall]
        exact ih h
      · cases congrArg Loaded.outcome h

/-- Reading the plain lines of a term's documents makes the calls for them. -/
theorem loadEntries_documents (path : String) {t : String} {docs : List String}
    (ht : isBlankText t = false)
    (h : ∀ d ∈ docs, isBlankText d = false ∧ Sections.Plain d.toList) (matrix : IncidenceMatrix)
    (number : Nat) (rest : List (List Char)) :
    ∃ number', loadEntries path matrix []
        (Sections.entriesFrom (some t) number (docs.map String.toList ++ rest)) =
      loadEntries path ((docs.map fun d => (⟨t, d⟩ : Occurrence)).foldl call matrix) []
        (Sections.entriesFrom (some t) number' rest) := by
  induction docs generalizing matrix number with
  | nil => exact ⟨number, rfl⟩
  | cons d docs ih =>
    obtain ⟨⟨hd, htrim, hheader⟩, hrest⟩ := List.forall_mem_cons.mp h
    obtain ⟨number', hread⟩ := ih hrest (matrix.set t d) (number + 1)
    have hcall : matrix.call ⟨t, d⟩ = matrix.set t d := call_of_accepted (by simp [ht, hd])
    refine ⟨number', ?_⟩
    rw [List.map_cons, List.cons_append, Sections.entriesFrom, Sections.lineKind_of_plain hd hheader,
      loadEntries]
    dsimp only
    rw [htrim, String.ofList_toList, add_eq, ht, hd, List.map_cons, List.foldl_cons, hcall]
    exact hread

/-- Reading the lines of a listing with plain ids makes the calls for all pairs in their order. -/
theorem loadEntries_linesOf (path : String) {listing : List (String × List String)}
    (h : ∀ entry ∈ listing, ∀ d ∈ entry.2,
      isBlankText entry.1 = false ∧ isBlankText d = false ∧ Sections.Plain d.toList)
    (matrix : IncidenceMatrix) (term : Option String) (number : Nat) :
    loadEntries path matrix [] (Sections.entriesFrom term number (linesOf listing)) =
      ⟨.ok ((listing.flatMap fun (t, docs) => docs.map fun d => (⟨t, d⟩ : Occurrence)).foldl call
        matrix), []⟩ := by
  induction listing generalizing matrix term number with
  | nil => rfl
  | cons entry listing ih =>
    obtain ⟨t, docs⟩ := entry
    obtain ⟨hentry, hrest⟩ := List.forall_mem_cons.mp h
    have hlines : linesOf ((t, docs) :: listing) =
        ('[' :: (t.toList ++ [']'])) :: (docs.map String.toList ++ linesOf listing) :=
      List.flatMap_cons
    rw [hlines, InvertedIndex.entriesFrom_header, List.flatMap_cons, List.foldl_append]
    cases docs with
    | nil => exact ih hrest matrix (some t) (number + 1)
    | cons d docs =>
      obtain ⟨number', hread⟩ := loadEntries_documents path (hentry d List.mem_cons_self).1
        (fun d hd => (hentry d hd).2) matrix (number + 1) (linesOf listing)
      rw [hread]
      exact ih hrest _ (some t) number'

/-! ## Survival -/

/-- A matrix survives as a text when its ids are plain. -/
theorem survives_lines {calls : List Occurrence} (hsafe : (afterCalls calls).LineSafe)
    (hplain : ∀ d ∈ (afterCalls calls).allDocuments, Sections.Plain d.toList) :
    (afterCalls calls).Survives .lines := by
  have hlisted : ∀ entry ∈ (afterCalls calls).listing, ∀ d ∈ entry.2,
      isBlankText entry.1 = false ∧ isBlankText d = false ∧ Sections.Plain d.toList := by
    intro entry hentry d hd
    obtain ⟨ht, hd'⟩ := not_blank_of_mem_listing calls entry hentry d hd
    exact ⟨ht, hd', hplain d (mem_allDocuments_iff_listed.mpr ⟨entry, hentry, hd⟩)⟩
  refine survives_of_loadBytes (restores_refill calls) fun limits _ path => ?_
  rw [loadBytes_lines hsafe]
  exact loadEntries_linesOf path.text hlisted .empty none 1

/-- A document of a matrix that was read from the lines of another is a document of that one, trimmed,
whose line does not look like a header. -/
theorem exists_of_mem_loaded {calls : List Occurrence} {path : String} {copy : IncidenceMatrix}
    {log : List LogRecord}
    (hload : loadEntries path .empty [] (Sections.entries (linesOf (afterCalls calls).listing)) =
      ⟨.ok copy, log⟩) {d : String} (hd : d ∈ copy.allDocuments) :
    ∃ d' ∈ (afterCalls calls).allDocuments, d.toList = trim d'.toList ∧
      Sections.headerTerm? d'.toList = none := by
  obtain rfl := loadEntries_eq_foldl hload
  change d ∈ (afterCalls _).allDocuments at hd
  obtain ⟨entry, hentry, hmem⟩ := mem_allDocuments_iff_listed.mp hd
  obtain ⟨ht, hdocs⟩ := mem_listing.mp hentry
  rw [hdocs, ← DocSet.mem_iff, afterCalls_eq_presence_counting,
    InvertedIndex.documentsForTerm_presence] at hmem
  obtain ⟨hfirst, -⟩ := ((books_counting _).records.documents _ _).mp hmem
  rw [CountedAdd.map_fst_once] at hfirst
  obtain ⟨o, ho, rfl⟩ := exists_mem_of_firstSpelling hfirst
  obtain ⟨read, hread, hoccurrence⟩ := List.mem_filterMap.mp (List.mem_of_mem_filter ho)
  obtain ⟨hline, hkind⟩ := Sections.line_of_mem_entriesFrom hread
  obtain ⟨t, -, rfl⟩ := Option.map_eq_some_iff.mp hoccurrence
  obtain ⟨listed, hlisted, hmem⟩ := List.mem_flatMap.mp hline
  rcases List.mem_cons.mp hmem with hheader | hmem
  · rw [hheader, InvertedIndex.lineKind_header] at hkind
    cases hkind
  · obtain ⟨d', hd', heq⟩ := List.mem_map.mp hmem
    refine ⟨d', mem_allDocuments_iff_listed.mpr ⟨listed, hlisted, hd'⟩, ?_, ?_⟩
    · rw [String.toList_ofList, heq]
    · rw [heq]
      exact Sections.headerTerm?_of_lineKind hkind

/-- A saved text can be saved somewhere. -/
theorem exists_saveText (text : List Char) : ∃ tree, saveText .empty ⟨"", ["matrix.txt"]⟩ text = .ok tree :=
  ⟨_, rfl⟩

/-- The ids of a matrix that survives as a text are plain. -/
theorem plain_of_survives {calls : List Occurrence} (hsafe : (afterCalls calls).LineSafe)
    (h : (afterCalls calls).Survives .lines) :
    ∀ d ∈ (afterCalls calls).allDocuments, Sections.Plain d.toList := by
  obtain ⟨copy, hcopy, hload⟩ := h
  obtain ⟨tree, htree⟩ := exists_saveText ((afterCalls calls).toText .lines)
  have hread := hload {} (by decide) _ _ _ htree
  unfold loadAs at hread
  rw [savedBytes_of_saveText htree] at hread
  dsimp only at hread
  rw [loadBytes_lines hsafe] at hread
  -- every document comes back, and what comes back is trimmed
  have hback : ∀ d ∈ (afterCalls calls).allDocuments, ∃ d' ∈ (afterCalls calls).allDocuments,
      d.toList = trim d'.toList ∧ Sections.headerTerm? d'.toList = none := by
    intro d hd
    rw [← hcopy.allDocuments] at hd
    exact exists_of_mem_loaded hread hd
  have htrim : ∀ d ∈ (afterCalls calls).allDocuments, trim d.toList = d.toList := by
    intro d hd
    obtain ⟨d', -, heq, -⟩ := hback d hd
    rw [heq, Text.trim_trim]
  intro d hd
  obtain ⟨d', hd', heq, hheader⟩ := hback d hd
  rw [htrim d' hd'] at heq
  exact ⟨htrim d hd, by rw [heq, hheader]⟩

/-- A matrix that calls can make, if its terms and ids have no line breaks, survives saving as lines
exactly if none of its ids begins or ends in a blank character or looks like a header. -/
theorem matrix_survives_lines_iff_plain (calls : List Occurrence)
    (hsafe : (afterCalls calls).LineSafe) :
    (afterCalls calls).Survives .lines ↔
      ∀ d ∈ (afterCalls calls).allDocuments, Sections.Plain d.toList :=
  ⟨plain_of_survives hsafe, survives_lines hsafe⟩

/-- Terms that look like headers and begin in blanks, and ids with brackets, equals signs and blanks
inside. -/
theorem matrix_survives_lines_iff_plain_odd_names :
    let calls : List Occurrence :=
      [⟨" [a]] ", "[b] =\u2028 2"⟩, ⟨"[", "]["⟩, ⟨"[", "x.txt"⟩, ⟨"\t[A]]", "X.TXT"⟩]
    (afterCalls calls).LineSafe ∧ (afterCalls calls).Survives .lines := by
  intro calls
  have hsafe : (afterCalls calls).LineSafe := lineSafe_afterCalls (by decide +kernel)
  have hplain : ∀ d ∈ (afterCalls calls).allDocuments.toList, Sections.Plain d.toList := by
    decide +kernel
  exact ⟨hsafe, (matrix_survives_lines_iff_plain calls hsafe).mpr hplain⟩

/-- Without line breaks in its names a matrix may be lost in part: the blanks around an id are, and an
id in brackets becomes the term of the ids below it. With empty brackets, nothing is read at all. -/
theorem matrix_lines_lose_ids :
    let path : Path := ⟨"", ["matrix.txt"]⟩
    let read (calls : List Occurrence) : Except LoadError (List (String × List String)) :=
      (loadBytes path .lines
        (Encoding.encodeUtf8 ((afterCalls calls).toText .lines))).outcome.map listing
    (∀ calls ∈ [[⟨"t", " a "⟩], [⟨"t", "[x]"⟩, ⟨"t", "b"⟩], [⟨"t", "[]"⟩, ⟨"t", "b"⟩]],
      (afterCalls calls).LineSafe ∧ ¬ (afterCalls calls).Survives .lines) ∧
    read [⟨"t", " a "⟩] = .ok [("t", ["a"])] ∧
    read [⟨"t", "[x]"⟩, ⟨"t", "b"⟩] = .ok [("x", ["b"])] ∧
    read [⟨"t", "[]"⟩, ⟨"t", "b"⟩] = .error (.cell .blankTerm) := by
  intro path read
  have hlost : ∀ calls : List Occurrence,
      (∀ o ∈ calls, Unbroken o.term.toList ∧ Unbroken o.document.toList) →
      (¬ ∀ d ∈ (afterCalls calls).allDocuments.toList, Sections.Plain d.toList) →
      (afterCalls calls).LineSafe ∧ ¬ (afterCalls calls).Survives .lines := by
    intro calls hunbroken hnot
    have hsafe := lineSafe_afterCalls hunbroken
    exact ⟨hsafe, fun hsurvives => hnot (plain_of_survives hsafe hsurvives)⟩
  refine ⟨?_, by decide +kernel, by decide +kernel, by decide +kernel⟩
  simp only [List.forall_mem_cons, List.not_mem_nil, false_imp_iff, implies_true, and_true]
  exact ⟨hlost _ (by decide) (by decide +kernel), hlost _ (by decide) (by decide +kernel),
    hlost _ (by decide) (by decide +kernel)⟩

end IncidenceMatrix

end BooleanRetrieval
