import BooleanRetrieval.Build
import BooleanRetrieval.Proofs.Store.Refill

/-!
# What a build files

A build that is not cancelled files the words that are read from its files, each once and in their
order (`takeFiles_intake`). A file without a reader and one that cannot be opened have no words, and a
file that fails has those in front of the failure, be it that of its reader or that of a word that cannot
be normalized. Words with blank terms are left out. So the numbers of the index count the words that were
read (`Harvest`), and they are the same with and without a matrix.
-/

set_option autoImplicit false

namespace BooleanRetrieval

open Text (foldCase isBlankText)

/-! ## Words read -/

/-- A file of a build and the words that are read from it, up to its end or to its failure. -/
structure ReadFile where
  path : String
  words : List String
  deriving DecidableEq, Repr

namespace ReadFile

/-- The id of the document that a file holds. -/
def document (file : ReadFile) : String :=
  documentId file.path

/-- The words of a file whose terms are not blank. -/
def survivors (normalize : String → String) (file : ReadFile) : List String :=
  file.words.filter fun w => !isBlankText (normalize w)

/-- What a build files of a file. -/
def occurrences (normalize : String → String) (file : ReadFile) : List Occurrence :=
  (file.survivors normalize).map fun w => ⟨normalize w, file.document⟩

/-- All words of files, each with its file. -/
def wordsRead (files : List ReadFile) : List (ReadFile × String) :=
  files.flatMap fun file => file.words.map fun w => (file, w)

/-- A word is filed when its term is not blank. -/
theorem occurrences_cons (normalize : String → String) (path w : String) (words : List String) :
    occurrences normalize ⟨path, w :: words⟩ =
      if isBlankText (normalize w) then occurrences normalize ⟨path, words⟩
      else ⟨normalize w, documentId path⟩ :: occurrences normalize ⟨path, words⟩ := by
  unfold occurrences survivors
  by_cases h : isBlankText (normalize w) = true <;> simp [h, document]

end ReadFile

/-- The words of a reading begin with the word it begins with. -/
theorem Reading.words_word (w : String) (events : List ReadEvent) (error : Option ReadError) :
    (Reading.mk (.word w :: events) error).words = w :: (Reading.mk events error).words := rfl

namespace Builder

/-- The term of a word. One that cannot be normalized has none, for which the blank term stands. -/
def termOf (builder : Builder) (w : String) : String :=
  match builder.normalize w with
  | .ok t => t
  | .error _ => ""

/-- What normalizing a word complains of. -/
def complaint? (builder : Builder) (w : String) : Option Complaint :=
  match builder.normalize w with
  | .ok _ => none
  | .error complaint => some complaint

/-- A word that is normalized has the term it is normalized to. -/
theorem termOf_of_normalize {builder : Builder} {w t : String} (h : builder.normalize w = .ok t) :
    builder.termOf w = t := by
  rw [termOf, h]

/-- Normalizing complains of nothing where it succeeds. -/
theorem complaint?_of_normalize {builder : Builder} {w t : String}
    (h : builder.normalize w = .ok t) : builder.complaint? w = none := by
  rw [complaint?, h]

/-- The words that a builder has of a reading: those in front of the first that cannot be normalized. -/
def wordsOf (builder : Builder) (reading : Reading) : List String :=
  reading.words.takeWhile fun w => (builder.complaint? w).isNone

/-- What becomes of a file that is read to the end of a reading, or to the first word of it that cannot be
normalized. -/
def outcomeOf (builder : Builder) (reading : Reading) : FileOutcome :=
  match reading.words.findSome? builder.complaint? with
  | some complaint => .failed (.normalizing complaint)
  | none => reading.outcome

/-- The words that the first reader for a file reads from it, up to where the file fails. There are none if
there is no reader or if the file cannot be opened. -/
def wordsOfFile (builder : Builder) (tree : FileTree) (path : String) : List String :=
  match Reader.forFile builder.readers path with
  | none => []
  | some reader =>
    match tree.readText path with
    | .error _ => []
    | .ok bytes => builder.wordsOf (reader.read bytes)

/-- What becomes of a file of which no store refuses a word. -/
def outcomeOfFile (builder : Builder) (tree : FileTree) (path : String) : FileOutcome :=
  match Reader.forFile builder.readers path with
  | none => .skipped
  | some reader =>
    match tree.readText path with
    | .error e => .failed (.file e)
    | .ok bytes => builder.outcomeOf (reader.read bytes)

/-- The files at the given paths with their words. What is logged about a file may change the ones
behind it. -/
def readFiles (builder : Builder) (treeAfter : List LogRecord → FileTree) (log : List LogRecord) :
    List String → List ReadFile
  | [] => []
  | path :: rest =>
    ⟨path, builder.wordsOfFile (treeAfter log) path⟩ ::
      builder.readFiles treeAfter
        (log ++ (builder.outcomeOfFile (treeAfter log) path).records path) rest

/-- Where nothing that is logged changes a file, each path is read for itself. -/
theorem readFiles_const (builder : Builder) (tree : FileTree) (log : List LogRecord)
    (paths : List String) :
    builder.readFiles (fun _ => tree) log paths =
      paths.map fun path => ⟨path, builder.wordsOfFile tree path⟩ := by
  induction paths generalizing log with
  | nil => rfl
  | cons path paths ih => rw [readFiles, ih, List.map_cons]

/-- What is read does not depend on whether there is a matrix. -/
theorem readFiles_withMatrix (builder : Builder) (withMatrix : Bool)
    (treeAfter : List LogRecord → FileTree) (log : List LogRecord) (paths : List String) :
    { builder with withMatrix := withMatrix }.readFiles treeAfter log paths =
      builder.readFiles treeAfter log paths := by
  induction paths generalizing log with
  | nil => rfl
  | cons path paths ih =>
    rw [readFiles, ih]
    rfl

end Builder

/-! ## Filing -/

namespace InvertedIndex

/-- The frequency of a pair is the number of its occurrences. -/
theorem frequency_once (os : List Occurrence) (t d : String) :
    (afterCalls (os.map CountedAdd.once)).frequency t d =
      os.countP fun o => foldCase o.term = foldCase t ∧ foldCase o.document = foldCase d := by
  have hcount : occurrenceCount (os.map CountedAdd.once) t d =
      os.countP fun o => foldCase o.term = foldCase t ∧ foldCase o.document = foldCase d := by
    induction os with
    | nil => rfl
    | cons o os ih =>
      rw [List.countP_cons, Int.natCast_add, ← ih]
      unfold occurrenceCount
      by_cases h : foldCase o.term = foldCase t ∧ foldCase o.document = foldCase d <;>
        simp [h, CountedAdd.once, CountedAdd.pair, CountedAdd.key, CountedAdd.documentKey]
      omega
  have hfrequency := (books_once os).frequency_eq t d
  rw [hcount] at hfrequency
  exact Int.ofNat.inj hfrequency

/-- The total of the tokens is the number of the occurrences. -/
theorem totalTokenCount_once (os : List Occurrence) :
    (afterCalls (os.map CountedAdd.once)).totalTokenCount = os.length := by
  have htokens := (books_once os).tokens
  have hones : ((os.map CountedAdd.once).map Prod.snd).sum = (os.length : Int) := by
    simp [CountedAdd.once, Function.comp_def]
  rw [hones] at htokens
  exact Int.ofNat.inj htokens

/-- The documents are the first spellings. -/
theorem mem_allDocuments_once {os : List Occurrence} {d : String} :
    d ∈ (afterCalls (os.map CountedAdd.once)).allDocuments ↔ firstSpelling os d = some d := by
  have hmem := (books_once os).records.mem_documents d
  rwa [CountedAdd.map_fst_once] at hmem

end InvertedIndex

namespace Stores

/-- The stores with one more occurrence in each of them. -/
def fill (stores : Stores) (o : Occurrence) : Stores :=
  ⟨stores.index.call (.once o), stores.matrix.map fun matrix => matrix.call o⟩

/-- No store refuses a term and an id that are not blank. -/
theorem add_eq_fill (stores : Stores) {t doc : String} (ht : isBlankText t = false)
    (hdoc : isBlankText doc = false) : stores.add t doc = (stores.fill ⟨t, doc⟩, none) := by
  obtain ⟨index, matrix⟩ := stores
  cases matrix with
  | none => rfl
  | some matrix =>
    have hcall : matrix.call ⟨t, doc⟩ = matrix.set t doc :=
      IncidenceMatrix.call_of_accepted (by simp [ht, hdoc])
    unfold add fill
    dsimp only
    rw [IncidenceMatrix.add_eq, ht, hdoc, Option.map_some, hcall]
    rfl

/-- The index takes each occurrence with a count of one. -/
theorem index_foldl_fill (stores : Stores) (os : List Occurrence) :
    (os.foldl fill stores).index = (os.map CountedAdd.once).foldl InvertedIndex.call stores.index := by
  induction os generalizing stores with
  | nil => rfl
  | cons o os ih => exact ih (stores.fill o)

end Stores

namespace Builder

/-- A word of a document whose id is not blank is only refused if it cannot be normalized, and then nothing
is filed. -/
theorem takeWord_eq (builder : Builder) (stores : Stores) {doc : String}
    (hdoc : isBlankText doc = false) (w : String) :
    builder.takeWord doc stores w =
      (if isBlankText (builder.termOf w) then stores else stores.fill ⟨builder.termOf w, doc⟩,
        (builder.complaint? w).map .normalizing) := by
  unfold takeWord termOf complaint?
  cases builder.normalize w with
  | error complaint => rfl
  | ok t =>
    dsimp only
    split
    · rfl
    · next hterm => rw [stores.add_eq_fill (Bool.eq_false_iff.mpr hterm) hdoc]; rfl

/-- A word that cannot be normalized has a blank term. -/
theorem isBlankText_termOf_of_complaint? {builder : Builder} {w : String} {complaint : Complaint}
    (h : builder.complaint? w = some complaint) : isBlankText (builder.termOf w) = true := by
  unfold complaint? at h
  unfold termOf
  cases hterm : builder.normalize w with
  | ok t =>
    rw [hterm] at h
    cases h
  | error e => rfl

/-- A reading that is not cancelled is taken in to its end or to the first word that cannot be normalized,
and all of its words up to there are filed. -/
theorem takeEvents_eq (builder : Builder) (stores : Stores) {path : String}
    (hpath : isBlankText (documentId path) = false) {reading : Reading}
    (hquiet : ReadEvent.cancel ∉ reading.events) :
    builder.takeEvents (documentId path) ⟨stores, false⟩ reading.events =
      (⟨(ReadFile.occurrences builder.termOf ⟨path, builder.wordsOf reading⟩).foldl Stores.fill stores,
        false⟩,
        (reading.words.findSome? builder.complaint?).map (.refused <| .normalizing ·)) := by
  obtain ⟨events, error⟩ := reading
  dsimp only at hquiet ⊢
  induction events generalizing stores with
  | nil => rfl
  | cons event events ih =>
    rw [List.mem_cons, not_or] at hquiet
    obtain ⟨hevent, hevents⟩ := hquiet
    cases event with
    | cancel => exact absurd rfl hevent
    | word w =>
      rw [takeEvents, if_neg Bool.false_ne_true, takeWord_eq builder stores hpath]
      dsimp only
      unfold wordsOf
      rw [Reading.words_word, List.findSome?_cons, List.takeWhile_cons]
      cases hcomplaint : builder.complaint? w with
      | none =>
        rw [Option.isNone_none, if_pos rfl, ReadFile.occurrences_cons]
        exact (ih _ hevents).trans (by split <;> rfl)
      | some complaint =>
        rw [if_pos (isBlankText_termOf_of_complaint? hcomplaint)]
        rfl

variable {builder : Builder}

/-- No reader of the builder sees the build cancelled, whatever it reads. -/
def Uncancelled (builder : Builder) : Prop :=
  ∀ reader ∈ builder.readers, ∀ bytes, ReadEvent.cancel ∉ (reader.read bytes).events

/-- The words of a file are filed, whatever becomes of the file. -/
theorem takeFile_eq (hquiet : builder.Uncancelled) (tree : FileTree) (stores : Stores) {path : String}
    (hpath : (Reader.forFile builder.readers path).isSome → isBlankText (documentId path) = false) :
    builder.takeFile tree ⟨stores, false⟩ path =
      (⟨(ReadFile.occurrences builder.termOf ⟨path, builder.wordsOfFile tree path⟩).foldl Stores.fill
        stores, false⟩, some (builder.outcomeOfFile tree path)) := by
  unfold takeFile wordsOfFile outcomeOfFile
  cases hreader : Reader.forFile builder.readers path with
  | none => rfl
  | some reader =>
    cases tree.readText path with
    | error e => rfl
    | ok bytes =>
      have hdoc : isBlankText (documentId path) = false := hpath (by rw [hreader]; rfl)
      have hevents := takeEvents_eq builder stores hdoc
        (hquiet reader (List.mem_of_find?_eq_some hreader) bytes)
      dsimp only
      rw [if_neg Bool.false_ne_true, hevents, outcomeOf]
      cases (reader.read bytes).words.findSome? builder.complaint? <;> rfl

/-- The words of all files are filed, in the order of the files. -/
theorem takeFiles_intake (hquiet : builder.Uncancelled) (treeAfter : List LogRecord → FileTree)
    (stores : Stores) (report : BuildReport) (log : List LogRecord) {paths : List String}
    (hpaths : ∀ path ∈ paths,
      (Reader.forFile builder.readers path).isSome → isBlankText (documentId path) = false) :
    (builder.takeFiles treeAfter ⟨⟨stores, false⟩, report, log⟩ paths).intake =
      ⟨((builder.readFiles treeAfter log paths).flatMap
        (ReadFile.occurrences builder.termOf)).foldl Stores.fill stores, false⟩ := by
  induction paths generalizing stores report log with
  | nil => rfl
  | cons path paths ih =>
    obtain ⟨hpath, hpaths⟩ := List.forall_mem_cons.mp hpaths
    rw [takeFiles, takeFile_eq hquiet (treeAfter log) stores hpath, readFiles,
      List.flatMap_cons, List.foldl_append]
    exact ih _ _ _ hpaths

/-- A build that is not cancelled returns, and its index has had one add for each occurrence. -/
theorem exists_build (builder : Builder) (hquiet : builder.Uncancelled)
    (treeAfter : List LogRecord → FileTree) {paths : List String}
    (hpaths : ∀ path ∈ paths,
      (Reader.forFile builder.readers path).isSome → isBlankText (documentId path) = false) :
    ∃ built, builder.build treeAfter paths false 1 = .ok built ∧
      built.stores.index = .afterCalls (((builder.readFiles treeAfter
        [opening paths.length 1] paths).flatMap
          (ReadFile.occurrences builder.termOf)).map CountedAdd.once) := by
  have hintake := takeFiles_intake hquiet treeAfter (.empty builder.withMatrix) .empty
    [opening paths.length 1] hpaths
  unfold build
  dsimp only
  rw [if_pos rfl, hintake]
  exact ⟨_, rfl, Stores.index_foldl_fill _ _⟩

end Builder

/-! ## The harvest -/

/-- What an index holds of files that were read for it. -/
structure Harvest (normalize : String → String) (files : List ReadFile) (index : InvertedIndex) :
    Prop where
  /-- A frequency counts the words of all files with the name of the document that have the term. -/
  frequency : ∀ t d, index.frequency t d =
    (ReadFile.wordsRead files).countP fun (file, w) =>
      foldCase (normalize w) = foldCase t ∧ foldCase file.document = foldCase d ∧
        isBlankText (normalize w) = false
  totalTokenCount : index.totalTokenCount =
    (ReadFile.wordsRead files).countP fun (_, w) => isBlankText (normalize w) = false
  /-- The documents are the names of the files with a surviving word that no earlier such file has,
  up to case folding. -/
  allDocuments : ∀ d, d ∈ index.allDocuments ↔
    ∃ before file after, files = before ++ file :: after ∧ file.document = d ∧
      file.survivors normalize ≠ [] ∧
      ∀ earlier ∈ before, earlier.survivors normalize ≠ [] →
        foldCase earlier.document ≠ foldCase d
  /-- The files with surviving words that share a name up to case folding are one document. -/
  oneDocument : ∀ file ∈ files, file.survivors normalize ≠ [] →
    ∃! d, d ∈ index.allDocuments ∧ foldCase d = foldCase file.document

namespace ReadFile

variable {normalize : String → String} {files : List ReadFile}

/-- What is filed of files are their words with a term, in their order. -/
theorem flatMap_occurrences (normalize : String → String) (files : List ReadFile) :
    files.flatMap (occurrences normalize) =
      ((wordsRead files).filter fun (_, w) => !isBlankText (normalize w)).map
        fun (file, w) => ⟨normalize w, file.document⟩ := by
  unfold wordsRead
  rw [List.filter_flatMap, List.map_flatMap]
  apply List.flatMap_congr
  intro file _
  rw [occurrences, survivors, List.filter_map, List.map_map]
  rfl

/-- Occurrences filed of files are counted among the words that were read. -/
theorem countP_flatMap_occurrences (p : Occurrence → Bool) :
    (files.flatMap (occurrences normalize)).countP p =
      (wordsRead files).countP fun (file, w) =>
        p ⟨normalize w, file.document⟩ && !isBlankText (normalize w) := by
  rw [flatMap_occurrences, List.countP_map, List.countP_filter]
  rfl

/-- A file gives its document its spelling when a word of it survives. -/
theorem firstSpelling_occurrences (normalize : String → String) (file : ReadFile) (d : String) :
    firstSpelling (file.occurrences normalize) d =
      if file.survivors normalize ≠ [] ∧ foldCase file.document = foldCase d
      then some file.document else none := by
  unfold firstSpelling occurrences
  rw [List.map_map]
  cases file.survivors normalize with
  | nil => rfl
  | cons w words => by_cases h : foldCase file.document = foldCase d <;> simp [h]

/-- A document is spelled as in the first of the files with a surviving word that have its name. -/
theorem firstSpelling_flatMap (normalize : String → String) (files : List ReadFile) (d : String) :
    firstSpelling (files.flatMap (occurrences normalize)) d =
      (files.find? fun file =>
        file.survivors normalize ≠ [] ∧ foldCase file.document = foldCase d).map document := by
  induction files with
  | nil => rfl
  | cons file files ih =>
    have happend : ∀ os os', firstSpelling (os ++ os') d =
        (firstSpelling os d).or (firstSpelling os' d) := by
      intro os os'
      unfold firstSpelling
      rw [List.map_append, List.find?_append]
    rw [List.flatMap_cons, happend, firstSpelling_occurrences, ih]
    by_cases h : file.survivors normalize ≠ [] ∧ foldCase file.document = foldCase d
    · rw [if_pos h, List.find?_cons_of_pos (by simpa using h)]
      rfl
    · rw [if_neg h, List.find?_cons_of_neg (by simpa using h), Option.none_or]

/-- A document is known by a name if a file with a surviving word has that name and no earlier one has
it in another spelling. -/
theorem firstSpelling_flatMap_eq_some_iff {d : String} :
    firstSpelling (files.flatMap (occurrences normalize)) d = some d ↔
      ∃ before file after, files = before ++ file :: after ∧ file.document = d ∧
        file.survivors normalize ≠ [] ∧
        ∀ earlier ∈ before, earlier.survivors normalize ≠ [] →
          foldCase earlier.document ≠ foldCase d := by
  rw [firstSpelling_flatMap, Option.map_eq_some_iff]
  simp only [List.find?_eq_some_iff_append, decide_eq_true_eq]
  constructor
  · rintro ⟨file, ⟨⟨hsurvives, -⟩, before, after, rfl, hbefore⟩, rfl⟩
    refine ⟨before, file, after, rfl, rfl, hsurvives, ?_⟩
    intro earlier hearlier hsurvives' hfold
    simpa [hsurvives', hfold] using hbefore earlier hearlier
  · rintro ⟨before, file, after, rfl, rfl, hsurvives, hbefore⟩
    refine ⟨file, ⟨⟨hsurvives, rfl⟩, before, after, rfl, ?_⟩, rfl⟩
    intro earlier hearlier
    simpa [or_iff_not_imp_left] using hbefore earlier hearlier

end ReadFile

/-- An index with one add for each word with a term holds the harvest of the files. -/
theorem harvest_afterCalls (normalize : String → String) (files : List ReadFile) :
    Harvest normalize files
      (.afterCalls ((files.flatMap (ReadFile.occurrences normalize)).map CountedAdd.once)) where
  frequency t d := by
    rw [InvertedIndex.frequency_once, ReadFile.countP_flatMap_occurrences]
    apply List.countP_congr
    rintro ⟨file, w⟩ -
    simp [and_assoc]
  totalTokenCount := by
    rw [InvertedIndex.totalTokenCount_once, ← List.countP_true, ReadFile.countP_flatMap_occurrences]
    apply List.countP_congr
    rintro ⟨file, w⟩ -
    simp
  allDocuments d := by
    rw [InvertedIndex.mem_allDocuments_once, ReadFile.firstSpelling_flatMap_eq_some_iff]
  oneDocument file hfile hsurvives := by
    simp only [InvertedIndex.mem_allDocuments_once]
    have hoccurs : ∃ spelling, firstSpelling (files.flatMap (ReadFile.occurrences normalize))
        file.document = some spelling := by
      rw [ReadFile.firstSpelling_flatMap, ← Option.isSome_iff_exists, Option.isSome_map,
        List.find?_isSome]
      exact ⟨file, hfile, by simpa using hsurvives⟩
    obtain ⟨spelling, hspelling⟩ := hoccurs
    have hfold : foldCase spelling = foldCase file.document := foldCase_of_firstSpelling hspelling
    refine ⟨spelling, ⟨?_, hfold⟩, ?_⟩
    · rw [firstSpelling_congr hfold, hspelling]
    · rintro d ⟨hd, hfold'⟩
      rw [firstSpelling_congr hfold', hspelling] at hd
      exact (Option.some.inj hd).symm

/-- A build that is not cancelled and reads no file with a blank name returns, and its index holds what
was read: a frequency counts the words with the term in files with the document's name, in whatever case
and however many such files there are, up to where reading a file ended or failed or a word could not be
normalized. A build of the index alone returns the same index. -/
theorem Builder.build_counts_words_read (builder : Builder)
    (treeAfter : List LogRecord → FileTree) (paths : List String) (hquiet : builder.Uncancelled)
    (hpaths : ∀ path ∈ paths,
      (Reader.forFile builder.readers path).isSome → isBlankText (documentId path) = false) :
    ∃ built indexOnly,
      { builder with withMatrix := true }.build treeAfter paths false 1 = .ok built ∧
      { builder with withMatrix := false }.build treeAfter paths false 1 = .ok indexOnly ∧
      indexOnly.stores.index = built.stores.index ∧
      Harvest builder.termOf (builder.readFiles treeAfter [opening paths.length 1] paths)
        built.stores.index := by
  obtain ⟨built, hbuild, hindex⟩ :=
    exists_build { builder with withMatrix := true } hquiet treeAfter hpaths
  obtain ⟨indexOnly, hbuild', hindex'⟩ :=
    exists_build { builder with withMatrix := false } hquiet treeAfter hpaths
  rw [readFiles_withMatrix] at hindex hindex'
  refine ⟨built, indexOnly, hbuild, hbuild', hindex'.trans hindex.symm, ?_⟩
  rw [hindex]
  exact harvest_afterCalls builder.termOf _

/-- Two files with one name in different case, the first of which fails behind its words, one without a
reader and one that is not there. Words that are normalized to nothing are not counted, and no words behind
one that cannot be normalized. -/
theorem Builder.build_counts_words_read_shared_name :
    let torn : Reader := ⟨.other "torn", [".txt"], fun bytes =>
      if bytes.isEmpty then .failing ["Cat", "--", "dog"] (.custom "torn")
      else .ofWords ["cat", "CAT", "\x00", "cat"]⟩
    let normalize (w : String) : Except Complaint String :=
      if w = "--" then .ok " " else if w = "\x00" then .error "unreadable" else .ok w
    let tree : FileTree := { entries := [(["x"], .directory), (["x", "Pets.txt"], .file []),
      (["y"], .directory), (["y", "pets.TXT"], .file [65])] }
    let paths : List String := ["x/Pets.txt", "notes.md", "gone.txt", "y/pets.TXT"]
    let builder : Builder := ⟨[torn], normalize, true⟩
    builder.Uncancelled ∧
    (∀ path ∈ paths, (Reader.forFile [torn] path).isSome → isBlankText (documentId path) = false) ∧
    ∃ built indexOnly,
      { builder with withMatrix := true }.build (fun _ => tree) paths false 1 = .ok built ∧
      { builder with withMatrix := false }.build (fun _ => tree) paths false 1 = .ok indexOnly ∧
      indexOnly.stores.index = built.stores.index ∧
      Harvest builder.termOf (paths.map fun path => ⟨path, builder.wordsOfFile tree path⟩)
        built.stores.index ∧
      built.stores.index.frequency "cat" "PETS.txt" = 3 ∧
      built.stores.index.totalTokenCount = 4 ∧ "Pets.txt" ∈ built.stores.index.allDocuments := by
  intro torn normalize tree paths builder
  have hquiet : builder.Uncancelled := by
    intro reader hreader bytes
    rw [List.mem_singleton.mp hreader]
    unfold torn
    dsimp only
    split <;> simp [Reading.failing, Reading.ofWords]
  have hpaths : ∀ path ∈ paths,
      (Reader.forFile [torn] path).isSome → isBlankText (documentId path) = false := by
    decide +kernel
  obtain ⟨built, indexOnly, hbuild, hbuild', hsame, hharvest⟩ :=
    build_counts_words_read builder (fun _ => tree) paths hquiet hpaths
  rw [readFiles_const] at hharvest
  refine ⟨hquiet, hpaths, built, indexOnly, hbuild, hbuild', hsame, hharvest, ?_, ?_, ?_⟩
  · rw [hharvest.frequency]
    decide +kernel
  · rw [hharvest.totalTokenCount]
    decide +kernel
  · rw [hharvest.allDocuments]
    exact ⟨[], _, _, rfl, by decide +kernel, by decide +kernel, by simp⟩

end BooleanRetrieval
