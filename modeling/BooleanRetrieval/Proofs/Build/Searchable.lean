import BooleanRetrieval.Proofs.Build.Agreement
import BooleanRetrieval.Proofs.Build.Course

/-!
# The documents that a build makes searchable

Words are filed while their file is still being read. So what a file leaves in the stores does not depend on
how its reading ends: a document can be found if some word with a term was read from one of its files, be
that file recorded as indexed or as failed (`searchable_documents_are_files_with_words`). A failed file can
be found by the words in front of its failure, and an indexed file without words cannot be found at all
(`indexed_files_differ_from_documents`).
-/

set_option autoImplicit false

namespace BooleanRetrieval

open Text (foldCase isBlankText)

/-- A word with a term was read at a visit. -/
def Visit.HasTerm (normalize : String → String) (v : Visit) : Prop :=
  ∃ w, ReadEvent.word w ∈ v.events ∧ isBlankText (normalize w) = false

section

variable {normalize : String → String} {visits : List Visit} {P : String → Prop}

/-- The documents of what was filed are those of the visits at which a word with a term was read. -/
theorem exists_filed_iff :
    (∃ o ∈ (happenings visits).filterMap (occurrence? normalize), P o.document) ↔
      ∃ v ∈ visits, v.HasTerm normalize ∧ P v.document := by
  constructor
  · rintro ⟨o, ho, hdocument⟩
    obtain ⟨v, hv, w, hw, hterm, rfl⟩ := mem_filterMap_happenings.mp ho
    exact ⟨v, hv, ⟨w, hw, hterm⟩, hdocument⟩
  · rintro ⟨v, hv, ⟨w, hw, hterm⟩, hdocument⟩
    exact ⟨_, mem_filterMap_happenings.mpr ⟨v, hv, w, hw, hterm, rfl⟩, hdocument⟩

/-- A matrix accepts those whose document has no blank id. -/
theorem exists_accepted_iff :
    (∃ o ∈ IncidenceMatrix.accepted ((happenings visits).filterMap (occurrence? normalize)),
        P o.document) ↔
      ∃ v ∈ visits, v.HasTerm normalize ∧ isBlankText v.document = false ∧ P v.document := by
  rw [← exists_filed_iff (P := fun d => isBlankText d = false ∧ P d)]
  constructor
  · rintro ⟨o, ho, hdocument⟩
    exact ⟨o, List.mem_of_mem_filter ho, (IncidenceMatrix.not_blank_of_mem_accepted ho).2, hdocument⟩
  · rintro ⟨o, ho, hblank, hdocument⟩
    obtain ⟨v, -, w, -, hterm, rfl⟩ := mem_filterMap_happenings.mp ho
    exact ⟨_, List.mem_filter.mpr ⟨ho, by simp [hterm, hblank]⟩, hdocument⟩

end

namespace InvertedIndex

/-- The folded ids of an index are those of the occurrences filed in it. -/
theorem exists_mem_allDocuments_once {os : List Occurrence} {name : String} :
    (∃ d ∈ (afterCalls (os.map CountedAdd.once)).allDocuments, foldCase d = name) ↔
      ∃ o ∈ os, foldCase o.document = name := by
  simp only [mem_allDocuments_once]
  constructor
  · rintro ⟨d, hd, rfl⟩
    obtain ⟨o, ho, hspelling⟩ := exists_mem_of_firstSpelling hd
    exact ⟨o, ho, by rw [hspelling]⟩
  · rintro ⟨o, ho, rfl⟩
    have hoccurs : Occurs os o.term o.document := ⟨o, ho, rfl, rfl⟩
    obtain ⟨spelling, hspelling⟩ := hoccurs.exists_firstSpelling
    have hfold : foldCase spelling = foldCase o.document := foldCase_of_firstSpelling hspelling
    exact ⟨spelling, by rw [firstSpelling_congr hfold, hspelling], hfold⟩

/-- A filed occurrence is found by its term, under the spelling of its document. -/
theorem exists_mem_documentsForTerm_once {os : List Occurrence} {o : Occurrence} (ho : o ∈ os) :
    ∃ d ∈ (afterCalls (os.map CountedAdd.once)).documentsForTerm o.term,
      foldCase d = foldCase o.document := by
  have hoccurs : Occurs os o.term o.document := ⟨o, ho, rfl, rfl⟩
  obtain ⟨spelling, hspelling⟩ := hoccurs.exists_firstSpelling
  have hfold : foldCase spelling = foldCase o.document := foldCase_of_firstSpelling hspelling
  refine ⟨spelling, ?_, hfold⟩
  rw [(books_once os).records.documents, CountedAdd.map_fst_once, firstSpelling_congr hfold]
  exact ⟨hspelling, o, ho, rfl, hfold.symm⟩

end InvertedIndex

namespace IncidenceMatrix

/-- A document of a matrix is one that an accepted call names. -/
theorem exists_mem_allDocuments {os : List Occurrence} {name : String} :
    (∃ d ∈ (afterCalls os).allDocuments, foldCase d = name) ↔
      ∃ o ∈ accepted os, foldCase o.document = name := by
  rw [afterCalls_eq_presence]
  exact InvertedIndex.exists_mem_allDocuments_once

end IncidenceMatrix

namespace Builder

variable {builder : Builder} {treeAfter : List LogRecord → FileTree} {paths : List String}
  {cancelled : Bool} {built : Built}

/-- A file of which something was read is recorded as indexed or as failed. -/
theorem recorded_of_hasTerm (hbuild : builder.build treeAfter paths cancelled 1 = .ok built)
    {v : Visit} (hv : v ∈ builder.visits treeAfter [opening paths.length 1] paths)
    (h : v.HasTerm builder.termOf) :
    v.path ∈ built.report.indexed ∨ v.path ∈ built.report.failed.keys := by
  have hknows : built.report.Knows v.path v.outcome := by
    rw [(of_build_eq_ok hbuild).2]
    exact BuildReport.knows_foldl hv _
  obtain ⟨log, path, -, rfl⟩ := exists_of_mem_visits hv
  obtain ⟨w, hw, -⟩ := h
  cases houtcome : (builder.visit (treeAfter log) path).outcome with
  | indexed =>
    rw [houtcome] at hknows
    exact .inl hknows
  | skipped =>
    rw [events_of_skipped houtcome] at hw
    cases hw
  | failed failure =>
    rw [houtcome] at hknows
    exact .inr hknows

/-- After a build that returns, the folded ids of the index are the folded names of the files, indexed or
failed, of which a word with a term was read before their end or their failure. The matrix has those of them
that are not blank. Every such word finds the document of its file. -/
theorem searchable_documents_are_files_with_words
    (hbuild : builder.build treeAfter paths cancelled 1 = .ok built) :
    let visits := builder.visits treeAfter [opening paths.length 1] paths
    let reported (v : Visit) := v.path ∈ built.report.indexed ∨ v.path ∈ built.report.failed.keys
    visits.map Visit.path = paths ∧
    (∀ name, (∃ d ∈ built.stores.index.allDocuments, foldCase d = name) ↔
      ∃ v ∈ visits, reported v ∧ v.HasTerm builder.termOf ∧ foldCase v.document = name) ∧
    (∀ matrix, built.stores.matrix = some matrix →
      ∀ name, (∃ d ∈ matrix.allDocuments, foldCase d = name) ↔
        ∃ v ∈ visits, reported v ∧ v.HasTerm builder.termOf ∧
          isBlankText v.document = false ∧ foldCase v.document = name) ∧
    ∀ v ∈ visits, ∀ w, ReadEvent.word w ∈ v.events → isBlankText (builder.termOf w) = false →
      ∃ d ∈ built.stores.index.documentsForTerm (builder.termOf w),
        foldCase d = foldCase v.document := by
  intro visits reported
  obtain ⟨hindex, hmatrix⟩ := stores_of_build_eq_ok hbuild
  have hreported : ∀ v ∈ visits, v.HasTerm builder.termOf → reported v :=
    fun v hv hterm => recorded_of_hasTerm hbuild hv hterm
  refine ⟨map_path_visits .., fun name => ?_, fun matrix hsome name => ?_, ?_⟩
  · rw [hindex, InvertedIndex.exists_mem_allDocuments_once,
      exists_filed_iff (P := fun d => foldCase d = name)]
    exact exists_congr fun v => and_congr_right fun hv =>
      ⟨fun ⟨hterm, hname⟩ => ⟨hreported v hv hterm, hterm, hname⟩, fun h => h.2⟩
  · rw [hmatrix matrix hsome, IncidenceMatrix.exists_mem_allDocuments,
      exists_accepted_iff (P := fun d => foldCase d = name)]
    exact exists_congr fun v => and_congr_right fun hv =>
      ⟨fun ⟨hterm, hname⟩ => ⟨hreported v hv hterm, hterm, hname⟩, fun h => h.2⟩
  · intro v hv w hw hterm
    have hfound := InvertedIndex.exists_mem_documentsForTerm_once
      (mem_filterMap_happenings.mpr ⟨v, hv, w, hw, hterm, rfl⟩)
    rwa [← hindex] at hfound

/-- A file that fails behind a word and an empty one: the failed one is the only document. -/
theorem searchable_documents_are_files_with_words_failed :
    let torn : Reader := ⟨.other "torn", [".bad"], fun _ => .failing ["Cat"] (.custom "torn")⟩
    let tree : FileTree := { entries := [(["a.bad"], .file []), (["n.txt"], .file [])] }
    let builder : Builder :=
      { Builder.standard with readers := [torn, .text Reader.defaultEncoding] }
    ∃ built, builder.build (fun _ => tree) ["a.bad", "n.txt"] false 1 = .ok built ∧
      (∀ name, (∃ d ∈ built.stores.index.allDocuments, foldCase d = name) ↔
        ∃ v ∈ builder.visits (fun _ => tree) [opening 2 1] ["a.bad", "n.txt"],
          (v.path ∈ built.report.indexed ∨ v.path ∈ built.report.failed.keys) ∧
            v.HasTerm builder.termOf ∧ foldCase v.document = name) ∧
      ∃ d ∈ built.stores.index.documentsForTerm "cat", foldCase d = "a.bad" := by
  intro torn tree builder
  obtain ⟨built, hbuild, -⟩ : ∃ built,
      builder.build (fun _ => tree) ["a.bad", "n.txt"] false 1 = .ok built ∧
        built.report.indexed = ["n.txt"] :=
    exists_eq_ok_of_toOption (by decide +kernel)
  obtain ⟨-, hdocuments, -, hfound⟩ := searchable_documents_are_files_with_words hbuild
  have hvisit : ⟨"a.bad", [.word "Cat"], .failed (.reading (.custom "torn"))⟩ ∈
      builder.visits (fun _ => tree) [opening 2 1] ["a.bad", "n.txt"] := by
    decide +kernel
  have hterm : builder.termOf "Cat" = "cat" := by decide +kernel
  have hname : foldCase (documentId "a.bad") = "a.bad" := by decide +kernel
  have hcat := hfound _ hvisit "Cat" List.mem_cons_self (by rw [hterm]; decide +kernel)
  rw [hterm, Visit.document, hname] at hcat
  exact ⟨built, hbuild, hdocuments, hcat⟩

/-- The documents are not the files recorded as indexed: a failed file is one of them, and an empty file is
not, though it is recorded as indexed. -/
theorem indexed_files_differ_from_documents :
    let torn : Reader := ⟨.other "torn", [".bad"], fun _ => .failing ["Cat"] (.custom "torn")⟩
    let tree : FileTree := { entries := [(["a.bad"], .file []), (["n.txt"], .file [])] }
    ∃ built matrix,
      { Builder.standard with readers := [torn, .text Reader.defaultEncoding] }.build (fun _ => tree)
        ["a.bad", "n.txt"] false 1 = .ok built ∧
      built.stores.matrix = some matrix ∧
      (∃ d ∈ built.stores.index.allDocuments, foldCase d = "a.bad") ∧
      (∃ d ∈ matrix.allDocuments, foldCase d = "a.bad") ∧
      (¬ ∃ path ∈ built.report.indexed, foldCase (documentId path) = "a.bad") ∧
      (∃ path ∈ built.report.indexed, foldCase (documentId path) = "n.txt") ∧
      (¬ ∃ d ∈ built.stores.index.allDocuments, foldCase d = "n.txt") ∧
      ¬ ∃ d ∈ matrix.allDocuments, foldCase d = "n.txt" := by
  intro torn tree
  obtain ⟨built, hbuild, hdata⟩ : ∃ built,
      { Builder.standard with readers := [torn, .text Reader.defaultEncoding] }.build (fun _ => tree)
        ["a.bad", "n.txt"] false 1 = .ok built ∧
      (built.report.indexed, built.stores.index.allDocuments.toList,
        built.stores.matrix.map fun matrix => matrix.allDocuments.toList) =
          (["n.txt"], ["a.bad"], some ["a.bad"]) :=
    exists_eq_ok_of_toOption (by decide +kernel)
  obtain ⟨hindexed, hindex, hmatrix⟩ := by simpa only [Prod.mk.injEq] using hdata
  obtain ⟨matrix, hsome, hmatrix⟩ := Option.map_eq_some_iff.mp hmatrix
  have hmem : ∀ {documents : DocSet} {d : String}, documents.toList = ["a.bad"] →
      (d ∈ documents ↔ d = "a.bad") := by
    intro documents d hlist
    rw [DocSet.mem_iff, hlist, List.mem_singleton]
  refine ⟨built, matrix, hbuild, hsome, ?_⟩
  simp only [hmem hindex, hmem hmatrix, hindexed, exists_eq_left, List.mem_singleton]
  decide +kernel

end Builder

end BooleanRetrieval
