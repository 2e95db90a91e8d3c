import BooleanRetrieval.Proofs.Encoding.Utf8
import BooleanRetrieval.Proofs.Saved.PostingLine
import BooleanRetrieval.Proofs.Saved.Survival
import BooleanRetrieval.Proofs.Text.Lines

/-!
# Indexes survive saving as lines

The line format has no escapes, so that an index survives it only if its terms and ids stand on one
line each (`LineSafe`). That is enough, since a posting line ends in a digit and is no header
(`lineKind_lineOf`), a header keeps all brackets of its term but the outer ones, and the digits behind
the last equals sign of a line are those of the frequency (`splitPosting?_lineOf`), whatever the
document id looks like. What can be read from a file is `LineSafe` (`lineSafe_of_loadBytes`).
-/

set_option autoImplicit false

namespace BooleanRetrieval

open Text (Unbroken foldCase)

namespace InvertedIndex

/-- No term and no document id of an index has a line feed or a carriage return in it. -/
def LineSafe (index : InvertedIndex) : Prop :=
  (∀ t ∈ index.terms, Unbroken t.toList) ∧ ∀ d ∈ index.allDocuments, Unbroken d.toList

/-! ## Written lines -/

/-- A posting of an unbroken name has an unbroken line. -/
theorem unbroken_lineOf {p : Posting} (h : Unbroken p.document.toList) : Unbroken (lineOf p) := by
  have hdigits : Unbroken (Nat.toDigits 10 p.frequency) := by
    constructor
    · intro hmem
      cases isDigit_of_mem_toDigits hmem
    · intro hmem
      cases isDigit_of_mem_toDigits hmem
  exact Text.unbroken_append.mpr ⟨h, Text.unbroken_cons.mpr ⟨rfl, hdigits⟩⟩

/-- The header of an unbroken term is unbroken. -/
theorem unbroken_header {t : List Char} (h : Unbroken t) : Unbroken ('[' :: (t ++ [']'])) := by
  apply Text.unbroken_cons.mpr
  refine ⟨rfl, Text.unbroken_append.mpr ⟨h, ?_⟩⟩
  decide

/-- The lines of unbroken names are unbroken. -/
theorem unbroken_linesOf {listing : List (String × List Posting)}
    (h : ∀ entry ∈ listing, Unbroken entry.1.toList ∧ ∀ p ∈ entry.2, Unbroken p.document.toList) :
    ∀ line ∈ linesOf listing, Unbroken line := by
  intro line hline
  obtain ⟨⟨t, postings⟩, hentry, hmem⟩ := List.mem_flatMap.mp hline
  obtain ⟨ht, hpostings⟩ := h _ hentry
  rcases List.mem_cons.mp hmem with rfl | hmem
  · exact unbroken_header ht
  · obtain ⟨p, hp, rfl⟩ := List.mem_map.mp hmem
    exact unbroken_lineOf (hpostings p hp)

/-- Reading back an encoded text gives its lines without their breaks. -/
theorem readLines_eq_fileLines (text : List Char) :
    Encoding.readLines (Encoding.encodeUtf8 text) =
      ((Text.fileLines text).map Text.Line.content, none) := by
  unfold Encoding.readLines
  rw [Encoding.decodeUtf8_encodeUtf8]

/-- Unbroken lines are read back from the bytes of a file. -/
theorem readLines_encodeUtf8 {lines : List (List Char)} (h : ∀ line ∈ lines, Unbroken line) :
    Encoding.readLines (Encoding.encodeUtf8 (lines.flatMap (· ++ ['\n']))) = (lines, none) := by
  rw [readLines_eq_fileLines, Text.fileLines_flatMap h]

/-! ## What a line is -/

/-- The header of a term is taken for it. -/
theorem lineKind_header (t : List Char) : Sections.lineKind ('[' :: (t ++ [']'])) = .header t := by
  have hblank : ¬ Text.allBlank ('[' :: (t ++ [']'])) = true := by
    intro hblank
    have hbracket := List.all_eq_true.mp hblank '[' List.mem_cons_self
    revert hbracket
    decide
  have hterm : Sections.headerTerm? ('[' :: (t ++ [']'])) = some t := by
    have hlast : (t ++ [']']).getLast? = some ']' := List.getLast?_concat
    have hfront : (t ++ [']']).dropLast = t := List.dropLast_concat
    exact (if_pos hlast).trans (congrArg some hfront)
  unfold Sections.lineKind
  rw [if_neg hblank, hterm]

/-- A posting line ends in a digit. -/
theorem exists_lineOf_eq_concat (p : Posting) :
    ∃ front c, lineOf p = front ++ [c] ∧ c.isDigit = true := by
  obtain ⟨digits, c, hdigits⟩ : ∃ digits c, Nat.toDigits 10 p.frequency = digits ++ [c] :=
    (List.eq_nil_or_concat' _).resolve_left Nat.toDigits_ne_nil
  refine ⟨p.document.toList ++ '=' :: digits, c, ?_, ?_⟩
  · unfold lineOf
    rw [hdigits, List.append_assoc, List.cons_append]
  · apply isDigit_of_mem_toDigits (n := p.frequency)
    rw [hdigits]
    exact List.mem_append_right _ List.mem_cons_self

/-- A posting line is an entry, even if the document id begins with a bracket. -/
theorem lineKind_lineOf (p : Posting) : Sections.lineKind (lineOf p) = .entry := by
  have hblank : ¬ Text.allBlank (lineOf p) = true := by
    intro hblank
    have hequals : '=' ∈ lineOf p := List.mem_append_right _ List.mem_cons_self
    have hsign := List.all_eq_true.mp hblank '=' hequals
    revert hsign
    decide
  have hterm : Sections.headerTerm? (lineOf p) = none := by
    obtain ⟨front, c, hline, hc⟩ := exists_lineOf_eq_concat p
    rw [hline]
    unfold Sections.headerTerm?
    split
    · next rest heq =>
      have hlast : rest.getLast? ≠ some ']' := by
        intro hlast
        have hwhole : (front ++ [c]).getLast? = some ']' := by
          rw [heq, List.getLast?_cons, hlast, Option.getD_some]
        rw [List.getLast?_concat] at hwhole
        rw [Option.some.inj hwhole] at hc
        cases hc
      rw [if_neg hlast]
    · rfl
  unfold Sections.lineKind
  rw [if_neg hblank, hterm]

/-- The last equals sign of a posting line is the one that was written behind the document id. -/
theorem splitPosting?_lineOf (p : Posting) :
    splitPosting? (lineOf p) = some (p.document.toList, Nat.toDigits 10 p.frequency) := by
  apply splitPosting?_eq_some_iff.mpr
  refine ⟨rfl, Nat.toDigits_ne_nil, fun c hc => ?_⟩
  rw [Text.digitValue?_of_isDigit (isDigit_of_mem_toDigits hc)]
  rfl

/-- The line of a posting means this posting. -/
theorem meaning_lineOf {p : Posting} (hone : 1 ≤ p.frequency) (hlt : p.frequency < writableBound)
    (path t : String) (number : Nat) :
    meaning path ⟨some t, lineOf p, number⟩ = .posting t p.document p.frequency := by
  have hlength := Nat.not_lt.mpr (lt_writableBound_iff.mp hlt)
  obtain ⟨n, hn⟩ : ∃ n, p.frequency = n + 1 := ⟨p.frequency - 1, by omega⟩
  unfold meaning
  dsimp only
  rw [splitPosting?_lineOf]
  dsimp only
  rw [if_neg hlength, Text.decimalValue?_toDigits, hn, String.ofList_toList]

/-! ## Reading written lines -/

/-- Behind the header of a term, entries stand below it. -/
theorem entriesFrom_header (term : Option String) (number : Nat) (t : String)
    (rest : List (List Char)) :
    Sections.entriesFrom term number (('[' :: (t.toList ++ [']'])) :: rest) =
      Sections.entriesFrom (some t) (number + 1) rest := by
  rw [Sections.entriesFrom, lineKind_header]
  dsimp only
  rw [String.ofList_toList]

/-- The line of a posting makes an entry of the term above it. -/
theorem entriesFrom_lineOf (term : Option String) (number : Nat) (p : Posting)
    (rest : List (List Char)) :
    Sections.entriesFrom term number (lineOf p :: rest) =
      ⟨term, lineOf p, number⟩ :: Sections.entriesFrom term (number + 1) rest := by
  rw [Sections.entriesFrom, lineKind_lineOf]

/-- Reading the lines of a term's postings makes the calls for them. -/
theorem loadEntries_postings (path t : String) {postings : List Posting}
    (h : ∀ p ∈ postings, 1 ≤ p.frequency ∧ p.frequency < writableBound) (s : Loading)
    (number : Nat) (rest : List (List Char)) :
    ∃ number', loadEntries path s
        (Sections.entriesFrom (some t) number (postings.map lineOf ++ rest)) =
      loadEntries path ⟨(addsFor t postings).foldl call s.index, s.reports⟩
        (Sections.entriesFrom (some t) number' rest) := by
  induction postings generalizing s number with
  | nil => exact ⟨number, rfl⟩
  | cons p postings ih =>
    obtain ⟨⟨hone, hlt⟩, hrest⟩ := List.forall_mem_cons.mp h
    obtain ⟨number', hread⟩ := ih hrest (s.add t p.document p.frequency) (number + 1)
    refine ⟨number', ?_⟩
    rw [List.map_cons, List.cons_append, entriesFrom_lineOf, loadEntries, meaning_lineOf hone hlt]
    dsimp only
    rw [hread, Loading.add_eq_call s t p.document hone]
    rfl

/-- Reading the lines of a listing makes the calls for all postings in their order. -/
theorem loadEntries_linesOf (path : String) {listing : List (String × List Posting)}
    (h : ∀ entry ∈ listing, ∀ p ∈ entry.2, 1 ≤ p.frequency ∧ p.frequency < writableBound)
    (s : Loading) (term : Option String) (number : Nat) :
    loadEntries path s (Sections.entriesFrom term number (linesOf listing)) =
      (⟨(addsOf listing).foldl call s.index, s.reports⟩, none) := by
  induction listing generalizing s term number with
  | nil => rfl
  | cons entry listing ih =>
    obtain ⟨t, postings⟩ := entry
    obtain ⟨hentry, hrest⟩ := List.forall_mem_cons.mp h
    have hlines : linesOf ((t, postings) :: listing) =
        ('[' :: (t.toList ++ [']'])) :: (postings.map lineOf ++ linesOf listing) := List.flatMap_cons
    obtain ⟨number', hread⟩ :=
      loadEntries_postings path t hentry s (number + 1) (linesOf listing)
    rw [hlines, entriesFrom_header, hread, ih hrest]
    unfold addsOf
    rw [List.flatMap_cons, List.foldl_append]

/-- The lines of a listing are read from a file as the adds that make it. -/
theorem loadBytes_linesOf {listing : List (String × List Posting)}
    (hfrequencies : ∀ entry ∈ listing, ∀ p ∈ entry.2,
      1 ≤ p.frequency ∧ p.frequency < writableBound)
    (hunbroken : ∀ entry ∈ listing,
      Unbroken entry.1.toList ∧ ∀ p ∈ entry.2, Unbroken p.document.toList) (path : Path) :
    loadBytes path .lines (Encoding.encodeUtf8 ((linesOf listing).flatMap (· ++ ['\n']))) =
      ⟨.ok (afterCalls (addsOf listing)), []⟩ := by
  have hlines := readLines_encodeUtf8 (unbroken_linesOf hunbroken)
  have hread := loadEntries_linesOf path.text hfrequencies .empty none 1
  unfold loadBytes Sections.entries
  dsimp only
  rw [hlines]
  dsimp only
  rw [hread]
  rfl

/-- The names that an index lists are unbroken when it is safe for lines. -/
theorem unbroken_of_mem_listing {calls : List CountedAdd} (hsafe : (afterCalls calls).LineSafe) :
    ∀ entry ∈ (afterCalls calls).listing,
      Unbroken entry.1.toList ∧ ∀ p ∈ entry.2, Unbroken p.document.toList := by
  rintro ⟨t, postings⟩ hentry
  obtain ⟨ht, rfl⟩ := mem_listing.mp hentry
  refine ⟨hsafe.1 t ht, ?_⟩
  intro p hp
  apply hsafe.2
  exact (books_afterCalls calls).mem_allDocuments.mpr
    ⟨t, ht, mem_documentsForTerm_iff_getPostings.mpr ⟨p, hp, rfl⟩⟩

/-- An index survives as a text when its frequencies can be written and its names have no line breaks. -/
theorem survives_lines (calls : List CountedAdd) (hdigits : (afterCalls calls).FewDigits)
    (hsafe : (afterCalls calls).LineSafe) : (afterCalls calls).Survives .lines := by
  obtain ⟨hbooks, hpos⟩ := books_addAll (addAll_accepted_empty calls)
  have hlt := (hbooks.fewDigits_iff hpos).mp hdigits
  have hlisted : ∀ entry ∈ (afterCalls calls).listing, ∀ p ∈ entry.2,
      1 ≤ p.frequency ∧ p.frequency < writableBound := fun entry hentry p hp =>
    ⟨one_le_frequency_of_mem_listing calls entry hentry p hp, hlt entry hentry p hp⟩
  exact survives_of_loadBytes (toText_lines_of_lt hlt) (restores_refill calls)
    fun _ _ => loadBytes_linesOf hlisted (unbroken_of_mem_listing hsafe)

/-! ## What can be read -/

/-- A line that was read is unbroken. -/
theorem unbroken_of_mem_readLines {bytes : List UInt8} {line : List Char}
    (h : line ∈ (Encoding.readLines bytes).1) : Unbroken line := by
  unfold Encoding.readLines at h
  split at h
  · next text _ =>
    obtain ⟨l, hl, rfl⟩ := List.mem_map.mp h
    exact (Text.fileLine_of_mem_fileLines hl).unbroken
  · dsimp only at h
    unfold Encoding.finishedLines at h
    obtain ⟨l, hl, rfl⟩ := List.mem_map.mp h
    exact (Text.fileLine_of_mem_fileLines (List.mem_of_mem_filter hl)).unbroken

/-- What stands in an unbroken text is unbroken. -/
theorem unbroken_of_subset {cs ds : List Char} (h : cs ⊆ ds) (hds : Unbroken ds) : Unbroken cs :=
  ⟨fun hmem => hds.1 (h hmem), fun hmem => hds.2 (h hmem)⟩

/-- The term of a header stands in its line. -/
theorem headerTerm?_subset {line t : List Char} (h : Sections.headerTerm? line = some t) :
    t ⊆ line := by
  unfold Sections.headerTerm? at h
  split at h
  · next rest =>
    split at h
    · obtain rfl := Option.some.inj h
      exact fun c hc => List.mem_cons_of_mem _ (List.mem_of_mem_dropLast hc)
    · cases h
  · cases h

/-- Entries of unbroken lines are unbroken and stand below unbroken terms. -/
theorem unbroken_of_mem_entriesFrom {term : Option String} {number : Nat}
    {lines : List (List Char)} (hterm : ∀ t ∈ term, Unbroken t.toList)
    (hlines : ∀ line ∈ lines, Unbroken line) :
    ∀ entry ∈ Sections.entriesFrom term number lines,
      Unbroken entry.line ∧ ∀ t ∈ entry.term, Unbroken t.toList := by
  induction lines generalizing term number with
  | nil => exact fun entry hentry => absurd hentry List.not_mem_nil
  | cons line lines ih =>
    obtain ⟨hline, hrest⟩ := List.forall_mem_cons.mp hlines
    unfold Sections.entriesFrom
    split
    · exact ih hterm hrest
    · next t hkind =>
      have hheader : Sections.headerTerm? line = some t := by
        unfold Sections.lineKind at hkind
        split at hkind
        · cases hkind
        · split at hkind
          · next t' hheader =>
            cases hkind
            exact hheader
          · cases hkind
      apply ih _ hrest
      intro u hu
      obtain rfl := Option.some.inj hu
      rw [String.toList_ofList]
      exact unbroken_of_subset (headerTerm?_subset hheader) hline
    · intro entry hentry
      rcases List.mem_cons.mp hentry with rfl | hentry
      · exact ⟨hline, hterm⟩
      · exact ih hterm hrest entry hentry

/-- What a posting line means has unbroken names and a frequency of at least one. -/
theorem unbroken_of_meaning {path t doc : String} {entry : Sections.Entry} {n : Nat}
    (hline : Unbroken entry.line) (hterm : ∀ t ∈ entry.term, Unbroken t.toList)
    (h : meaning path entry = .posting t doc n) :
    Unbroken t.toList ∧ Unbroken doc.toList ∧ 1 ≤ n := by
  unfold meaning at h
  split at h
  · cases h
  · next u hu =>
    dsimp only at h
    split at h
    · cases h
    · next front digits hsplit =>
      split at h
      · cases h
      · split at h
        · next m hvalue =>
          cases h
          refine ⟨hterm _ hu, ?_, by omega⟩
          rw [String.toList_ofList]
          unfold splitPosting? at hsplit
          dsimp only at hsplit
          split at hsplit
          · cases hsplit
          · split at hsplit
            · cases hsplit
              exact unbroken_of_subset (List.take_subset _ _) hline
            · cases hsplit
        · cases h

/-- Reading entries makes calls with unbroken terms and ids. -/
theorem exists_calls_of_loadEntries (path : String) {entries : List Sections.Entry}
    (h : ∀ entry ∈ entries, Unbroken entry.line ∧ ∀ t ∈ entry.term, Unbroken t.toList)
    (s : Loading) :
    ∃ calls : List CountedAdd,
      (∀ a ∈ calls, Unbroken a.1.term.toList ∧ Unbroken a.1.document.toList) ∧
        (loadEntries path s entries).1.index = calls.foldl call s.index := by
  induction entries generalizing s with
  | nil => exact ⟨[], fun a ha => absurd ha List.not_mem_nil, rfl⟩
  | cons entry entries ih =>
    obtain ⟨⟨hline, hterm⟩, hrest⟩ := List.forall_mem_cons.mp h
    rw [loadEntries]
    split
    · next t doc n hmeaning =>
      obtain ⟨ht, hdoc, hn⟩ := unbroken_of_meaning hline hterm hmeaning
      obtain ⟨calls, hcalls, hindex⟩ := ih hrest (s.add t doc n)
      refine ⟨(⟨t, doc⟩, n) :: calls, List.forall_mem_cons.mpr ⟨⟨ht, hdoc⟩, hcalls⟩, ?_⟩
      rw [hindex, Loading.add_eq_call s t doc hn]
      rfl
    · exact ih hrest _
    · exact ⟨[], fun a ha => absurd ha List.not_mem_nil, rfl⟩

/-- An index is safe for lines when the names of its calls are unbroken. -/
theorem lineSafe_afterCalls {calls : List CountedAdd}
    (h : ∀ a ∈ calls, Unbroken a.1.term.toList ∧ Unbroken a.1.document.toList) :
    (afterCalls calls).LineSafe := by
  have hbooks := books_afterCalls calls
  constructor
  · intro t ht
    obtain ⟨a, ha, rfl⟩ := hbooks.mem_terms.mp ht
    obtain ⟨hfeed, hreturn⟩ := (h a (List.mem_of_mem_filter ha)).1
    exact ⟨fun hmem => hfeed (Text.mem_of_isBlank_of_mem_foldCase hmem (by decide)),
      fun hmem => hreturn (Text.mem_of_isBlank_of_mem_foldCase hmem (by decide))⟩
  · intro d hd
    have hfirst := (hbooks.records.mem_documents d).mp hd
    obtain ⟨o, ho, rfl⟩ := List.mem_map.mp (List.mem_of_find?_eq_some hfirst)
    obtain ⟨a, ha, rfl⟩ := List.mem_map.mp ho
    exact (h a (List.mem_of_mem_filter ha)).2

/-- An index that is read from lines is what calls with unbroken terms and ids make. -/
theorem exists_calls_of_loadBytes {path : Path} {bytes : List UInt8} {index : InvertedIndex}
    {log : List LogRecord} (h : loadBytes path .lines bytes = ⟨.ok index, log⟩) :
    ∃ calls : List CountedAdd, index = afterCalls calls ∧ (afterCalls calls).LineSafe := by
  have hentries : ∀ entry ∈ Sections.entries (Encoding.readLines bytes).1,
      Unbroken entry.line ∧ ∀ t ∈ entry.term, Unbroken t.toList :=
    unbroken_of_mem_entriesFrom (fun t ht => by cases ht) fun line => unbroken_of_mem_readLines
  obtain ⟨calls, hcalls, hindex⟩ := exists_calls_of_loadEntries path.text hentries .empty
  refine ⟨calls, ?_, lineSafe_afterCalls hcalls⟩
  unfold loadBytes Loading.close at h
  dsimp only at h
  split at h
  · have hread := Except.ok.inj (congrArg Loaded.outcome h)
    rw [← hread, hindex]
    rfl
  · cases congrArg Loaded.outcome h

/-- Every index that calls can make, if its terms and ids have no line breaks and its frequencies do
not have too many digits, survives saving as lines. And an index that is read from the lines of any
file has no line breaks in its terms and ids, so that it survives being saved and read again exactly if
no frequency has grown too large to be written. -/
theorem indexes_survive_lines :
    (∀ calls : List CountedAdd, (afterCalls calls).FewDigits → (afterCalls calls).LineSafe →
      (afterCalls calls).Survives .lines) ∧
    ∀ path bytes index log, loadBytes path .lines bytes = ⟨.ok index, log⟩ →
      index.LineSafe ∧ (index.Survives .lines ↔ index.FewDigits) := by
  refine ⟨survives_lines, ?_⟩
  intro path bytes index log hload
  obtain ⟨calls, rfl, hsafe⟩ := exists_calls_of_loadBytes hload
  obtain ⟨hbooks, hpos⟩ := books_addAll (addAll_accepted_empty calls)
  refine ⟨hsafe, ?_, fun hdigits => survives_lines calls hdigits hsafe⟩
  rintro ⟨text, copy, htext, -, -⟩
  exact (hbooks.exists_toText_iff hpos .lines).mp ⟨text, htext⟩

/-- Terms and ids that look like headers and postings. And a file with a line above all headers, a
header that could end at two places, a line that could be split at two places, and three kinds of line
breaks. -/
theorem indexes_survive_lines_odd_names :
    let calls : List CountedAdd := [(⟨"[a]=1]", "[b] =2=\u2028 "⟩, 2), (⟨"", ""⟩, 1)]
    let path : Path := ⟨"", ["index.txt"]⟩
    let bytes := Encoding.encodeUtf8 "x=1\r[a]b]\r\nb==7\n\n=1".toList
    ((afterCalls calls).FewDigits ∧ (afterCalls calls).LineSafe ∧
      (afterCalls calls).Survives .lines) ∧
    ∃ index log, loadBytes path .lines bytes = ⟨.ok index, log⟩ ∧ index.totalTokenCount = 8 ∧
      index.LineSafe ∧ index.Survives .lines := by
  intro calls path bytes
  obtain ⟨hsaved, hread⟩ := indexes_survive_lines
  constructor
  · have hdigits : (afterCalls calls).FewDigits := fewDigits_afterCalls (by decide +kernel)
    have hsafe : (afterCalls calls).LineSafe := lineSafe_afterCalls (by decide +kernel)
    exact ⟨hdigits, hsafe, hsaved calls hdigits hsafe⟩
  · have htotal : (loadBytes path .lines bytes).outcome.toOption.map totalTokenCount = some 8 := by
      decide +kernel
    cases hload : loadBytes path .lines bytes with
    | mk outcome log =>
      rw [hload] at htotal
      cases outcome with
      | error e => cases htotal
      | ok index =>
        have hcount : index.totalTokenCount = 8 := Option.some.inj htotal
        obtain ⟨hsafe, hsurvives⟩ := hread path bytes index log hload
        obtain ⟨calls', rfl, -⟩ := exists_calls_of_loadBytes hload
        have hdigits : (afterCalls calls').FewDigits :=
          fewDigits_afterCalls (by rw [hcount]; decide +kernel)
        exact ⟨_, log, rfl, hcount, hsafe, hsurvives.mpr hdigits⟩

/-- Frequencies that can be read may add up to one that cannot be written: a file with two lines for one
document, with the largest number that a line may have, is read without a report, and the index cannot
be saved. -/
theorem read_index_cannot_be_written :
    let digits := Nat.toDigits 10 (writableBound - 1)
    let text := "[t]\na=".toList ++ (digits ++ ("\na=".toList ++ (digits ++ ['\n'])))
    ∃ index, (∀ path, loadBytes path .lines (Encoding.encodeUtf8 text) = ⟨.ok index, []⟩) ∧
      index.LineSafe ∧ index.toText .lines = .error (.tooManyDigits {}) ∧
      ¬ index.Survives .lines := by
  intro digits text
  let p : Posting := ⟨"a", writableBound - 1⟩
  let calls : List CountedAdd := addsOf [("t", [p, p])]
  have hbound : 2 ≤ writableBound := by decide +kernel
  have hp : 1 ≤ p.frequency ∧ p.frequency < writableBound := by
    change 1 ≤ writableBound - 1 ∧ writableBound - 1 < writableBound
    omega
  have hlisted : ∀ entry ∈ [("t", [p, p])], ∀ q ∈ entry.2,
      1 ≤ q.frequency ∧ q.frequency < writableBound :=
    List.forall_mem_singleton.mpr (List.forall_mem_cons.mpr ⟨hp, List.forall_mem_singleton.mpr hp⟩)
  have hnames : Unbroken "t".toList ∧ Unbroken "a".toList := by decide
  have hunbroken : ∀ entry ∈ [("t", [p, p])],
      Unbroken entry.1.toList ∧ ∀ q ∈ entry.2, Unbroken q.document.toList := by
    simpa [p] using hnames
  have hcalls : ∀ a ∈ calls, 1 ≤ a.2 ∧ Unbroken a.1.term.toList ∧ Unbroken a.1.document.toList := by
    have hadd : (1 : Int) ≤ p.frequency ∧ Unbroken "t".toList ∧ Unbroken "a".toList :=
      ⟨Int.ofNat_le.mpr hp.1, hnames⟩
    exact List.forall_mem_cons.mpr ⟨hadd, List.forall_mem_singleton.mpr hadd⟩
  have hsafe : (afterCalls calls).LineSafe := lineSafe_afterCalls fun a ha => (hcalls a ha).2
  obtain ⟨hbooks, hpos⟩ := books_addAll (addAll_accepted_empty calls)
  have hdigits : ¬ (afterCalls calls).FewDigits := by
    intro hdigits
    have hlt := lt_writableBound_iff.mpr (hdigits "t" "a")
    have hfrequency := hbooks.frequency_eq "t" "a"
    have hcount : ∀ n, occurrenceCount (addsOf [("t", [⟨"a", n⟩, ⟨"a", n⟩])]) "t" "a" = n + n := by
      intro n
      simp [occurrenceCount, addsOf, addsFor, CountedAdd.pair, CountedAdd.key,
        CountedAdd.documentKey]
    rw [accepted_of_one_le fun a ha => (hcalls a ha).1, hcount] at hfrequency
    have hvalue : p.frequency = writableBound - 1 := rfl
    omega
  have hsurvives : ¬ (afterCalls calls).Survives .lines := by
    rintro ⟨text, copy, htext, -, -⟩
    exact hdigits ((hbooks.exists_toText_iff hpos .lines).mp ⟨text, htext⟩)
  have htext : text = (linesOf [("t", [p, p])]).flatMap (· ++ ['\n']) := by
    simp [text, digits, linesOf, lineOf, p]
  have hload := loadBytes_linesOf hlisted hunbroken
  rw [← htext] at hload
  refine ⟨afterCalls calls, hload, hsafe, ?_, hsurvives⟩
  rw [hbooks.fewDigits_iff hpos] at hdigits
  push Not at hdigits
  obtain ⟨entry, hentry, q, hq, hle⟩ := hdigits
  exact toText_of_le hentry hq hle .lines

end InvertedIndex

end BooleanRetrieval
