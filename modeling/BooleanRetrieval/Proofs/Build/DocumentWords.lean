import BooleanRetrieval.Proofs.Build.Course
import BooleanRetrieval.Proofs.Build.Crew
import BooleanRetrieval.Proofs.Document.ReadableNames
import BooleanRetrieval.Proofs.Document.TextReading
import BooleanRetrieval.Proofs.Query.OneWord
import Mathlib.Data.List.TakeWhile

/-!
# Words of documents as queries

The words of a text file are found in two ways. A build decodes the file, cuts it into lines and takes the
words of each line; a query is cut at blank characters and parentheses. Both ways see the same words: the
words of the lines are those of the whole text, and each of them is a single token of a query. So a word
of a file, unless it is an operator, finds exactly the documents that have a word with the same term
(`document_words_find_their_documents`), in both stores and whichever way the turns of workers are mixed.
-/

set_option autoImplicit false

namespace BooleanRetrieval

open Relation (ReflTransGen)
open Text (foldCase isBlankText toUpper isWordCharacter)

/-! ## Text files -/

namespace FileTree

/-- The text of a file, if the file can be opened. -/
def textOf (tree : FileTree) (path : String) : String :=
  match tree.readText path with
  | .ok bytes => .ofList (Encoding.utf8Marked.decodeText bytes)
  | .error _ => ""

/-- A text file that can be opened. -/
def IsTextFile (tree : FileTree) (path : String) : Prop :=
  (Reader.text Reader.defaultEncoding).handles path = true ∧ ∃ bytes, tree.readText path = .ok bytes

end FileTree

namespace Builder

variable {tree : FileTree} {path : String}

/-- The usual builder has a term for every word. -/
theorem complaint?_standard (w : String) : standard.complaint? w = none :=
  complaint?_of_normalize rfl

/-- The first of the usual readers handles text files. -/
theorem forFile_of_isTextFile (h : tree.IsTextFile path) :
    Reader.forFile Reader.defaults path = some (Reader.text Reader.defaultEncoding) :=
  List.find?_cons_of_pos h.1

/-- What is read from a text file are the words of its text. -/
theorem wordsOfFile_of_isTextFile (h : tree.IsTextFile path) :
    standard.wordsOfFile tree path = Text.words (tree.textOf path) := by
  obtain ⟨bytes, hbytes⟩ := h.2
  have hall : ∀ reading : Reading, standard.wordsOf reading = reading.words := fun reading =>
    List.takeWhile_eq_self_iff.mpr fun w _ => by rw [complaint?_standard]; rfl
  unfold wordsOfFile FileTree.textOf
  rw [show Reader.forFile standard.readers path = _ from forFile_of_isTextFile h, hbytes]
  dsimp only
  rw [hall, Reader.read_text, Reading.words_ofWords]

/-- A text file is indexed. -/
theorem outcomeOfFile_of_isTextFile (h : tree.IsTextFile path) :
    standard.outcomeOfFile tree path = .indexed := by
  obtain ⟨bytes, hbytes⟩ := h.2
  have hnone : ∀ reading : Reading, reading.words.findSome? standard.complaint? = none := fun reading =>
    List.findSome?_eq_none_iff.mpr fun w _ => complaint?_standard w
  unfold outcomeOfFile outcomeOf
  rw [show Reader.forFile standard.readers path = _ from forFile_of_isTextFile h, hbytes]
  dsimp only
  rw [hnone, Reader.read_text]
  rfl

/-- Text files are read as they are when the build begins, since nothing is logged about them. -/
theorem readFiles_of_isTextFile {treeAfter : List LogRecord → FileTree} {log : List LogRecord}
    {paths : List String} (h : ∀ path ∈ paths, (treeAfter log).IsTextFile path) :
    standard.readFiles treeAfter log paths =
      paths.map fun path => ⟨path, Text.words ((treeAfter log).textOf path)⟩ := by
  induction paths with
  | nil => rfl
  | cons path paths ih =>
    obtain ⟨hpath, hpaths⟩ := List.forall_mem_cons.mp h
    have hlog : log ++ FileOutcome.indexed.records path = log := List.append_nil log
    rw [readFiles, outcomeOfFile_of_isTextFile hpath, wordsOfFile_of_isTextFile hpath, hlog,
      ih hpaths, List.map_cons]

end Builder

/-! ## Words as queries -/

/-- Nothing that separates the tokens of a query belongs to a word. -/
theorem Token.standsInRun_of_isWordCharacter {c : Char} (h : isWordCharacter c = true) :
    StandsInRun c := by
  refine ⟨?_, ?_, Bool.eq_false_iff.mpr fun hblank => ?_⟩
  · rintro rfl
    exact absurd h (by decide +kernel)
  · rintro rfl
    exact absurd h (by decide +kernel)
  · have hnot : isWordCharacter c = false :=
      Text.of_isBlank (P := fun c => isWordCharacter c = false) (by decide +kernel) hblank
    rw [hnot] at h
    cases h

/-- A word of a text is a query of a single term, unless it reads as an operator or its term is blank. -/
theorem Parser.parse_of_mem_words {text w : String} (hw : w ∈ Text.words text)
    (hoperator : toUpper w ∉ Token.operatorTexts) (hterm : isBlankText (Text.normalize w) = false) :
    parse Text.normalize w = .ok (.term (Text.normalize w)) := by
  obtain ⟨run, hrun, rfl⟩ := List.mem_map.mp hw
  obtain ⟨hne, hcharacters⟩ := Text.of_mem_wordRuns hrun
  refine parse_of_word (fun hempty => hne ?_) (fun c hc => ?_) hoperator hterm
  · rw [← String.toList_ofList (l := run), hempty]
    rfl
  · rw [String.toList_ofList] at hc
    exact Token.standsInRun_of_isWordCharacter (hcharacters c hc)

/-! ## Filled collections -/

/-- An index that counts occurrences once is filled by them. -/
theorem filledBy_index (os : List Occurrence) :
    FilledBy os (InvertedIndex.afterCalls (os.map CountedAdd.once)).accessor := by
  have hadds := InvertedIndex.addAll_accepted_empty (os.map CountedAdd.once)
  rw [InvertedIndex.accepted_of_one_le CountedAdd.one_le_of_mem_once] at hadds
  have hfilled := FilledBy.index hadds
  rwa [CountedAdd.map_fst_once] at hfilled

/-- A matrix answers as an index does that was given what the matrix accepts. -/
theorem filledBy_matrix (os : List Occurrence) :
    FilledBy (IncidenceMatrix.accepted os) (IncidenceMatrix.afterCalls os).accessor := by
  rw [IncidenceMatrix.afterCalls_eq_presence, InvertedIndex.accessor_presence]
  exact filledBy_index _

/-- In a collection that was filled with the words of files, a term has the documents of the files that
have a word with this term. -/
theorem FilledBy.exists_mem_documentsForTerm_iff {adds : List Occurrence} {accessor : Accessor}
    (hfilled : FilledBy adds accessor) {normalize : String → String} {files : List ReadFile}
    (hadds : ∀ o, o ∈ adds ↔ o ∈ files.flatMap (ReadFile.occurrences normalize)) {t : String}
    (ht : isBlankText t = false) (name : String) :
    (∃ d ∈ accessor.documentsForTerm t, foldCase d = foldCase name) ↔
      ∃ file ∈ files, foldCase file.document = foldCase name ∧
        ∃ w ∈ file.words, foldCase (normalize w) = foldCase t := by
  have hoccurs : Occurs adds t name ↔ ∃ file ∈ files, foldCase file.document = foldCase name ∧
      ∃ w ∈ file.words, foldCase (normalize w) = foldCase t := by
    constructor
    · rintro ⟨o, ho, hterm, hdocument⟩
      obtain ⟨file, hfile, hmem⟩ := List.mem_flatMap.mp ((hadds o).mp ho)
      obtain ⟨w, hw, rfl⟩ := List.mem_map.mp hmem
      exact ⟨file, hfile, hdocument, w, List.mem_of_mem_filter hw, hterm⟩
    · rintro ⟨file, hfile, hdocument, w, hw, hterm⟩
      have hsurvives : w ∈ file.survivors normalize := by
        refine List.mem_filter.mpr ⟨hw, ?_⟩
        rw [Text.isBlankText_congr hterm, ht]
        rfl
      exact ⟨⟨normalize w, file.document⟩, (hadds _).mpr (List.mem_flatMap.mpr
        ⟨file, hfile, List.mem_map.mpr ⟨w, hsurvives, rfl⟩⟩), hterm, hdocument⟩
  rw [← hoccurs]
  constructor
  · rintro ⟨d, hd, hfold⟩
    obtain ⟨o, ho, hterm, hdocument⟩ := ((hfilled.mem_documentsForTerm t d).mp hd).2
    exact ⟨o, ho, hterm, hdocument.trans hfold⟩
  · intro h
    -- the collection has the document under the spelling that came first
    obtain ⟨spelling, hspelling⟩ := h.exists_firstSpelling
    have hfold : foldCase spelling = foldCase name := foldCase_of_firstSpelling hspelling
    refine ⟨spelling, (hfilled.mem_documentsForTerm t spelling).mpr ⟨?_, ?_⟩, hfold⟩
    · rw [hfilled.mem_allDocuments, firstSpelling_congr hfold, hspelling]
    · obtain ⟨o, ho, hterm, hdocument⟩ := h
      exact ⟨o, ho, hterm, hdocument.trans hfold.symm⟩

/-! ## Searching for words of documents -/

/-- Searching for a word on a collection finds the documents of the files that have a word with its
term. -/
structure FindsWord (files : List ReadFile) (accessor : Accessor) (w : String) (found : DocSet) :
    Prop where
  parse_eq : Parser.parse Text.normalize w = .ok (.term (Text.normalize w))
  run_eq : Search.run Text.normalize accessor w = .ok found
  /-- Documents are found in the spelling of the collection. -/
  known : ∀ d ∈ found, d ∈ accessor.allDocuments
  exists_mem_iff : ∀ name, (∃ d ∈ found, foldCase d = foldCase name) ↔
    ∃ file ∈ files, foldCase file.document = foldCase name ∧
      ∃ w' ∈ file.words, foldCase (Text.normalize w') = foldCase (Text.normalize w)

/-- On a collection filled with the words of files, a word of a text is found by a search. -/
theorem FilledBy.exists_findsWord {adds : List Occurrence} {accessor : Accessor}
    (hfilled : FilledBy adds accessor) {files : List ReadFile}
    (hadds : ∀ o, o ∈ adds ↔ o ∈ files.flatMap (ReadFile.occurrences Text.normalize))
    {text w : String} (hw : w ∈ Text.words text) (hoperator : toUpper w ∉ Token.operatorTexts)
    (hterm : isBlankText (Text.normalize w) = false) :
    ∃ found, FindsWord files accessor w found := by
  have hparse := Parser.parse_of_mem_words hw hoperator hterm
  exact ⟨_, hparse, Search.run_of_parse_term hparse accessor,
    fun d hd => ((hfilled.mem_documentsForTerm _ d).mp hd).1,
    hfilled.exists_mem_documentsForTerm_iff hadds hterm⟩

/-- The text files at paths with the words of their texts. -/
def FileTree.textFiles (tree : FileTree) (paths : List String) : List ReadFile :=
  paths.map fun path => ⟨path, Text.words (tree.textOf path)⟩

/-- Every word of the text files that can be searched for is found in a collection, and so is the document
it comes from. -/
def FileTree.FindsWords (tree : FileTree) (paths : List String) (accessor : Accessor) : Prop :=
  ∀ path ∈ paths, ∀ w ∈ Text.words (tree.textOf path), toUpper w ∉ Token.operatorTexts →
    isBlankText (Text.normalize w) = false →
      ∃ found, FindsWord (tree.textFiles paths) accessor w found ∧
        ∃ d ∈ found, foldCase d = foldCase (documentId path)

/-- On a collection filled with the words of text files, all their words are found. -/
theorem FilledBy.findsWords {adds : List Occurrence} {accessor : Accessor}
    (hfilled : FilledBy adds accessor) {tree : FileTree} {paths : List String}
    (hadds : ∀ o, o ∈ adds ↔
      o ∈ (tree.textFiles paths).flatMap (ReadFile.occurrences Text.normalize)) :
    tree.FindsWords paths accessor := by
  intro path hpath w hw hoperator hterm
  obtain ⟨found, hfound⟩ := hfilled.exists_findsWord hadds hw hoperator hterm
  refine ⟨found, hfound, (hfound.exists_mem_iff (documentId path)).mpr ?_⟩
  exact ⟨⟨path, Text.words (tree.textOf path)⟩, List.mem_map_of_mem hpath, rfl, w, hw, rfl⟩

/-- No document of a text file has a blank id. -/
theorem FileTree.not_blank_of_mem_textFiles {tree : FileTree} {paths : List String}
    (htexts : ∀ path ∈ paths, tree.IsTextFile path) {o : Occurrence}
    (ho : o ∈ (tree.textFiles paths).flatMap (ReadFile.occurrences Text.normalize)) :
    isBlankText o.term = false ∧ isBlankText o.document = false := by
  obtain ⟨file, hfile, hmem⟩ := List.mem_flatMap.mp ho
  obtain ⟨path, hpath, rfl⟩ := List.mem_map.mp hfile
  obtain ⟨w, hw, rfl⟩ := List.mem_map.mp hmem
  refine ⟨by simpa using (List.mem_filter.mp hw).2, ?_⟩
  exact documentId_not_blank (Builder.forFile_of_isTextFile (htexts path hpath))

namespace Builder

/-- Words alone do not cancel. -/
theorem cancel_notMem_words (words : List String) : ReadEvent.cancel ∉ words.map ReadEvent.word := by
  simp

/-- A reader of decoded text does not cancel when what it makes of the text does not. -/
theorem cancel_notMem_readDecoded (encoding : String) {read : List Char → Reading}
    (hread : ∀ cs, ReadEvent.cancel ∉ (read cs).events) (bytes : List UInt8) :
    ReadEvent.cancel ∉ (Reader.readDecoded encoding read bytes).events := by
  unfold Reader.readDecoded
  cases Encoding.readText encoding bytes with
  | ok text => exact hread text
  | error e => exact cancel_notMem_words []

/-- The usual readers cancel nothing. -/
theorem uncancelled_standard : standard.Uncancelled := by
  have htext : ∀ bytes, ReadEvent.cancel ∉ ((Reader.text Reader.defaultEncoding).read bytes).events :=
    cancel_notMem_readDecoded _ fun cs => cancel_notMem_words (Reader.lineWords cs)
  have htable : ∀ bytes,
      ReadEvent.cancel ∉ ((Reader.csv 1 Reader.defaultEncoding).read bytes).events :=
    cancel_notMem_readDecoded _ fun cs =>
      cancel_notMem_words (Reader.columnWords 1 (Csv.parse cs).records)
  have hbook : ∀ bytes, ReadEvent.cancel ∉ (Reader.fictionBook.read bytes).events := by
    intro bytes
    unfold Reader.fictionBook
    dsimp only
    cases Reader.bookBytes bytes with
    | ok book => exact cancel_notMem_words (Reader.bookWords book)
    | error e => exact cancel_notMem_words []
  have hhypertext : ∀ bytes, ReadEvent.cancel ∉ (Reader.hypertext.read bytes).events := by
    intro bytes
    unfold Reader.hypertext
    dsimp only
    generalize Reader.wordsOf _ = words
    exact cancel_notMem_words words
  unfold Uncancelled standard Reader.defaults
  exact List.forall_mem_cons.mpr ⟨htext, List.forall_mem_cons.mpr ⟨htable,
    List.forall_mem_cons.mpr ⟨hbook, List.forall_mem_singleton.mpr hhypertext⟩⟩⟩

/-- A build that is not cancelled returns, and its stores have had one add for each occurrence. -/
theorem exists_build_stores (builder : Builder) (hquiet : builder.Uncancelled)
    (treeAfter : List LogRecord → FileTree) {paths : List String}
    (hpaths : ∀ path ∈ paths,
      (Reader.forFile builder.readers path).isSome → isBlankText (documentId path) = false) :
    ∃ built, builder.build treeAfter paths false 1 = .ok built ∧
      built.stores = ((builder.readFiles treeAfter [opening paths.length 1] paths).flatMap
        (ReadFile.occurrences builder.termOf)).foldl Stores.fill (.empty builder.withMatrix) := by
  have hintake := takeFiles_intake hquiet treeAfter (.empty builder.withMatrix) .empty
    [opening paths.length 1] hpaths
  unfold build
  dsimp only
  rw [if_pos rfl, hintake]
  exact ⟨_, rfl, rfl⟩

/-- A build of text files that can be opened returns, and has filed the words of their texts. -/
theorem exists_build_textFiles (treeAfter : List LogRecord → FileTree) (paths : List String)
    (htexts : ∀ path ∈ paths, (treeAfter [opening paths.length 1]).IsTextFile path) :
    let os := ((treeAfter [opening paths.length 1]).textFiles paths).flatMap
      (ReadFile.occurrences Text.normalize)
    ∃ built, standard.build treeAfter paths false 1 = .ok built ∧
      built.stores.index = .afterCalls (os.map CountedAdd.once) ∧
      built.stores.matrix = some (.afterCalls os) := by
  intro os
  have hpaths : ∀ path ∈ paths,
      (Reader.forFile standard.readers path).isSome → isBlankText (documentId path) = false := by
    intro path hpath _
    exact documentId_not_blank (Builder.forFile_of_isTextFile (htexts path hpath))
  obtain ⟨built, hbuild, hstores⟩ := exists_build_stores standard uncancelled_standard treeAfter hpaths
  have hfiles : standard.readFiles treeAfter [opening paths.length 1] paths =
      (treeAfter [opening paths.length 1]).textFiles paths := readFiles_of_isTextFile htexts
  rw [hfiles] at hstores
  refine ⟨built, hbuild, ?_, ?_⟩
  · rw [hstores]
    exact Stores.index_fill_empty true os
  · rw [hstores]
    exact Stores.matrix_fill_empty true os

/-- After every build of text files that can be opened, with one worker or with several whose turns are
mixed in any way, a word of one of the texts that does not read as an operator and whose term is not blank
is a query of this single term. On both stores it finds exactly the documents with a word of the same term,
up to case folding and in the spelling of the store. -/
theorem document_words_find_their_documents (treeAfter : List LogRecord → FileTree)
    (paths : List String)
    (htexts : ∀ path ∈ paths, (treeAfter [opening paths.length 1]).IsTextFile path) :
    let tree := treeAfter [opening paths.length 1]
    (∃ built matrix, standard.build treeAfter paths false 1 = .ok built ∧
      built.stores.matrix = some matrix ∧ tree.FindsWords paths built.stores.index.accessor ∧
      tree.FindsWords paths matrix.accessor) ∧
    ∀ crew, ReflTransGen Crew.Step (Crew.start Text.normalize (tree.textFiles paths)) crew →
      crew.Finished → tree.FindsWords paths crew.index.accessor ∧
        tree.FindsWords paths crew.matrix.accessor := by
  intro tree
  constructor
  · obtain ⟨built, hbuild, hindex, hmatrix⟩ := exists_build_textFiles treeAfter paths htexts
    refine ⟨built, _, hbuild, hmatrix, ?_, ?_⟩
    · rw [hindex]
      exact (filledBy_index _).findsWords fun o => Iff.rfl
    · refine (filledBy_matrix _).findsWords fun o => ⟨List.mem_of_mem_filter, fun ho => ?_⟩
      obtain ⟨hterm, hdocument⟩ := FileTree.not_blank_of_mem_textFiles htexts ho
      exact List.mem_filter.mpr ⟨ho, by simp [hterm, hdocument]⟩
  · intro crew hrun hfinished
    obtain ⟨indexed, matrixed, hledger⟩ := Crew.exists_ledger hrun
    have hfiled := hledger.filed hfinished
    have hindexed : FilledBy indexed crew.index.accessor := by
      have hfilled := FilledBy.index hledger.index
      rwa [CountedAdd.map_fst_once] at hfilled
    refine ⟨hindexed.findsWords fun o => ?_, (FilledBy.matrix hledger.matrix).findsWords fun o => ?_⟩
    · exact ⟨hfiled.subset o, fun ho =>
        (hfiled.mem_indexed o (FileTree.not_blank_of_mem_textFiles htexts ho).2).mpr ho⟩
    · exact ⟨fun ho => (hfiled.mem_matrixed o (hfiled.notBlank o ho)).mp ho, fun ho =>
        (hfiled.mem_matrixed o (FileTree.not_blank_of_mem_textFiles htexts ho).2).mpr ho⟩

/-- A word that two of three files have, in different case and behind a line separator in one of them. -/
theorem document_words_find_their_documents_lines :
    let tree : FileTree := { entries := [
      (["A.TXT"], .file [0x61, 0xE2, 0x80, 0xA8, 0x43, 0x61, 0x74]),
      (["b.txt"], .file [0x43, 0x41, 0x54]), (["c.txt"], .file [0x64, 0x6F, 0x67])] }
    let paths : List String := ["A.TXT", "b.txt", "c.txt"]
    (∀ path ∈ paths, tree.IsTextFile path) ∧
    "Cat" ∈ Text.words (tree.textOf "A.TXT") ∧
    ∃ built matrix, standard.build (fun _ => tree) paths false 1 = .ok built ∧
      built.stores.matrix = some matrix ∧
      tree.FindsWords paths built.stores.index.accessor ∧
      ∃ found, Search.run Text.normalize matrix.accessor "Cat" = .ok found ∧
        (∃ d ∈ found, foldCase d = foldCase "A.TXT") ∧ (∃ d ∈ found, foldCase d = foldCase "b.txt") ∧
        ¬ ∃ d ∈ found, foldCase d = foldCase "c.txt" := by
  intro tree paths
  have htexts : ∀ path ∈ paths, tree.IsTextFile path := by
    simp only [paths, List.forall_mem_cons, List.not_mem_nil, false_imp_iff, implies_true, and_true]
    exact ⟨⟨by decide +kernel, _, rfl⟩, ⟨by decide +kernel, _, rfl⟩, ⟨by decide +kernel, _, rfl⟩⟩
  have hcat : "Cat" ∈ Text.words (tree.textOf "A.TXT") := by decide +kernel
  obtain ⟨⟨built, matrix, hbuild, hmatrix, hindexed, hmatrixed⟩, -⟩ :=
    document_words_find_their_documents (fun _ => tree) paths htexts
  obtain ⟨found, hfound, -⟩ := hmatrixed "A.TXT" (by decide) "Cat" hcat (by decide +kernel)
    (by decide +kernel)
  refine ⟨htexts, hcat, built, matrix, hbuild, hmatrix, hindexed, found, hfound.run_eq, ?_, ?_, ?_⟩
  · exact (hfound.exists_mem_iff "A.TXT").mpr (by decide +kernel)
  · exact (hfound.exists_mem_iff "b.txt").mpr (by decide +kernel)
  · rw [hfound.exists_mem_iff "c.txt"]
    decide +kernel

end Builder

end BooleanRetrieval
