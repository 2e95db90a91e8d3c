import BooleanRetrieval.Proofs.Build.Crew
import BooleanRetrieval.Proofs.Search.Meaning
import BooleanRetrieval.Proofs.Store.Reorder

/-!
# Answers after a parallel build

Each store reports a document as it was spelled when the store first saw it. Workers that mix their
turns may bring files whose names differ in case only before the index in one order and before the
matrix in another (`exists_mixed_run`). So the answers of the two stores agree up to case folding, and
exactly on the documents that are spelled in one way (`AnswersAgree`).
-/

set_option autoImplicit false

namespace BooleanRetrieval

open Relation (ReflTransGen)
open Text (foldCase isBlankText isBlankText_congr)

namespace Crew

/-! ## The same adds in two orders -/

namespace Filed

variable {total indexed matrixed : List Occurrence}

/-- A term occurs in a document whose name is not blank by both lists or by none. -/
theorem occurs_iff (h : Filed total indexed matrixed) {t d : String} (hd : isBlankText d = false) :
    Occurs indexed t d ↔ Occurs matrixed t d := by
  have hnotBlank : ∀ o : Occurrence, foldCase o.document = foldCase d →
      isBlankText o.document = false := by
    intro o ho
    rw [isBlankText_congr ho, hd]
  constructor
  · rintro ⟨o, ho, hterm, hdocument⟩
    have hblank := hnotBlank o hdocument
    exact ⟨o, (h.mem_matrixed o hblank).mpr ((h.mem_indexed o hblank).mp ho), hterm, hdocument⟩
  · rintro ⟨o, ho, hterm, hdocument⟩
    have hblank := hnotBlank o hdocument
    exact ⟨o, (h.mem_indexed o hblank).mpr ((h.mem_matrixed o hblank).mp ho), hterm, hdocument⟩

/-- Both stores hold the same of a document whose name is not blank, so a query is true of it in both or in
neither. -/
theorem holds_eq (h : Filed total indexed matrixed) {d : String} (hd : isBlankText d = false)
    (q : Query) :
    (q.Holds fun t => Occurs indexed t d) = q.Holds fun t => Occurs matrixed t d := by
  have hreading : (fun t => Occurs indexed t d) = fun t => Occurs matrixed t d :=
    funext fun t => propext (h.occurs_iff hd)
  rw [hreading]

/-- A document whose name is not blank is named by both lists or by none. -/
theorem exists_add_iff (h : Filed total indexed matrixed) {d : String} (hd : isBlankText d = false) :
    (∃ o ∈ indexed, foldCase o.document = foldCase d) ↔
      ∃ o ∈ matrixed, foldCase o.document = foldCase d := by
  constructor
  · rintro ⟨o, ho, hfold⟩
    obtain ⟨o', ho', -, hfold'⟩ := (h.occurs_iff hd).mp ⟨o, ho, rfl, hfold⟩
    exact ⟨o', ho', hfold'⟩
  · rintro ⟨o, ho, hfold⟩
    obtain ⟨o', ho', -, hfold'⟩ := (h.occurs_iff hd).mpr ⟨o, ho, rfl, hfold⟩
    exact ⟨o', ho', hfold'⟩

end Filed

end Crew

namespace Search

/-- The answer to a query on a store that was filled by adds has the first spellings of the documents at
which the tree of the query is true. -/
theorem exists_found {normalize : String → String} {query : String} {adds : List Occurrence}
    {accessor : Accessor} (hfilled : FilledBy adds accessor) {q : Query}
    (hparse : Parser.parse normalize query = .ok q) :
    ∃ found, run normalize accessor query = .ok found ∧
      ∀ d, d ∈ found ↔ firstSpelling adds d = some d ∧ q.Holds fun t => Occurs adds t d := by
  have houtcome := Parser.outcome_parse normalize query
  rw [hparse] at houtcome
  cases houtcome with
  | tree p htokens hterms =>
    obtain ⟨found, hanswer, hmem⟩ :=
      Query.exists_answer hfilled.covered (p.tree normalize) (p.proper_tree normalize)
    refine ⟨found, run_eq_ok hparse hanswer, fun d => ?_⟩
    rw [hmem d, hfilled.mem_allDocuments]
    refine and_congr_right fun hd => ?_
    have hreading : (fun t => d ∈ accessor.documentsForTerm t) = fun t => Occurs adds t d := by
      funext t
      rw [hfilled.mem_documentsForTerm, hfilled.mem_allDocuments]
      exact propext (and_iff_right hd)
    rw [hreading]

/-- An answer has a document in some spelling if the document was added and the query is true at it. -/
theorem exists_mem_found_iff {adds : List Occurrence} {q : Query} {found : DocSet}
    (hfound : ∀ d, d ∈ found ↔ firstSpelling adds d = some d ∧ q.Holds fun t => Occurs adds t d)
    (d : String) :
    (∃ s ∈ found, foldCase s = foldCase d) ↔
      (∃ o ∈ adds, foldCase o.document = foldCase d) ∧ q.Holds fun t => Occurs adds t d := by
  have hholds : ∀ s, foldCase s = foldCase d →
      (q.Holds fun t => Occurs adds t s) = q.Holds fun t => Occurs adds t d := by
    intro s hs
    unfold Occurs
    rw [hs]
  constructor
  · rintro ⟨s, hs, hfold⟩
    obtain ⟨hfirst, hq⟩ := (hfound s).mp hs
    obtain ⟨o, ho, hdocument⟩ := exists_mem_of_firstSpelling hfirst
    rw [hholds s hfold] at hq
    exact ⟨⟨o, ho, by rw [hdocument, hfold]⟩, hq⟩
  · rintro ⟨⟨o, ho, hfold⟩, hq⟩
    have hoccurs : Occurs adds o.term d := ⟨o, ho, rfl, hfold⟩
    obtain ⟨s, hs⟩ := hoccurs.exists_firstSpelling
    have hfold' : foldCase s = foldCase d := foldCase_of_firstSpelling hs
    rw [← hholds s hfold'] at hq
    refine ⟨s, (hfound s).mpr ⟨?_, hq⟩, hfold'⟩
    rw [firstSpelling_congr hfold', hs]

end Search

namespace Crew

open Search (exists_mem_found_iff)

/-- What the answers of an index and a matrix to one query have in common after files were read for
them. -/
structure AnswersAgree (normalize : String → String) (files : List ReadFile)
    (inIndex inMatrix : DocSet) : Prop where
  /-- The matrix has no document with a blank name. -/
  notBlank : ∀ d ∈ inMatrix, isBlankText d = false
  /-- All other documents are in both answers or in none, in some spelling. -/
  folded : ∀ d, isBlankText d = false →
    ((∃ s ∈ inIndex, foldCase s = foldCase d) ↔ ∃ s ∈ inMatrix, foldCase s = foldCase d)
  /-- A document that no file with a surviving word spells differently is in both answers or in none. -/
  alike : ∀ d, isBlankText d = false →
    (∀ file ∈ files, file.survivors normalize ≠ [] → foldCase file.document = foldCase d →
      file.document = d) →
    (d ∈ inIndex ↔ d ∈ inMatrix)
  /-- If no document is spelled in two ways and none has a blank name, the answers are the same. -/
  equal : (∀ file ∈ files, file.survivors normalize ≠ [] → isBlankText file.document = false ∧
      ∀ other ∈ files, other.survivors normalize ≠ [] →
        foldCase other.document = foldCase file.document → other.document = file.document) →
    inIndex = inMatrix

/-- What there is to file comes of a file of which a word survives. -/
theorem exists_file_of_mem_total {normalize : String → String} {files : List ReadFile} {o : Occurrence}
    (h : o ∈ files.flatMap (ReadFile.occurrences normalize)) :
    ∃ file ∈ files, file.survivors normalize ≠ [] ∧ file.document = o.document := by
  obtain ⟨file, hfile, ho⟩ := List.mem_flatMap.mp h
  obtain ⟨w, hw, rfl⟩ := List.mem_map.mp ho
  exact ⟨file, hfile, List.ne_nil_of_mem hw, rfl⟩

/-- Collections from the same files answer a query alike, but for spelling and for documents with blank names.
-/
theorem answersAgree {normalize : String → String} {files : List ReadFile}
    {indexed matrixed : List Occurrence}
    (h : Filed (files.flatMap (ReadFile.occurrences normalize)) indexed matrixed) {q : Query}
    {inIndex inMatrix : DocSet}
    (hindex : ∀ d, d ∈ inIndex ↔
      firstSpelling indexed d = some d ∧ q.Holds fun t => Occurs indexed t d)
    (hmatrix : ∀ d, d ∈ inMatrix ↔
      firstSpelling matrixed d = some d ∧ q.Holds fun t => Occurs matrixed t d) :
    AnswersAgree normalize files inIndex inMatrix := by
  have htotal : ∀ o, o ∈ indexed ∨ o ∈ matrixed →
      o ∈ files.flatMap (ReadFile.occurrences normalize) := by
    rintro o (ho | ho)
    · exact h.subset o ho
    · exact (h.mem_matrixed o (h.notBlank o ho)).mp ho
  -- a document that all its files spell alike has this spelling in both stores
  have halike : ∀ d, isBlankText d = false →
      (∀ file ∈ files, file.survivors normalize ≠ [] → foldCase file.document = foldCase d →
        file.document = d) → (d ∈ inIndex ↔ d ∈ inMatrix) := by
    intro d hd hsame
    have hspelled : ∀ o, o ∈ indexed ∨ o ∈ matrixed → foldCase o.document = foldCase d →
        o.document = d := by
      intro o ho hfold
      obtain ⟨file, hfile, hsurvives, hdocument⟩ := exists_file_of_mem_total (htotal o ho)
      rw [← hdocument] at hfold ⊢
      exact hsame file hfile hsurvives hfold
    rw [hindex, hmatrix, h.holds_eq hd,
      firstSpelling_eq_some_iff_of_alike fun o ho => hspelled o (.inl ho),
      firstSpelling_eq_some_iff_of_alike fun o ho => hspelled o (.inr ho), h.exists_add_iff hd]
  constructor
  case notBlank =>
    intro d hd
    obtain ⟨o, ho, rfl⟩ := exists_mem_of_firstSpelling ((hmatrix d).mp hd).1
    exact h.notBlank o ho
  case folded =>
    intro d hd
    rw [exists_mem_found_iff hindex, exists_mem_found_iff hmatrix, h.holds_eq hd, h.exists_add_iff hd]
  case alike => exact halike
  case equal =>
    intro hfiles
    apply DocSet.ext_mem
    intro d
    by_cases hknown : ∃ file ∈ files, file.survivors normalize ≠ [] ∧ file.document = d
    · obtain ⟨file, hfile, hsurvives, rfl⟩ := hknown
      obtain ⟨hblank, hsame⟩ := hfiles file hfile hsurvives
      exact halike file.document hblank hsame
    · have hunknown : ∀ o, o ∈ indexed ∨ o ∈ matrixed → o.document ≠ d := by
        rintro o ho rfl
        exact hknown (exists_file_of_mem_total (htotal o ho))
      constructor
      · intro hd
        obtain ⟨o, ho, hdocument⟩ := exists_mem_of_firstSpelling ((hindex d).mp hd).1
        exact absurd hdocument (hunknown o (.inl ho))
      · intro hd
        obtain ⟨o, ho, hdocument⟩ := exists_mem_of_firstSpelling ((hmatrix d).mp hd).1
        exact absurd hdocument (hunknown o (.inr ho))

/-- However the turns of the workers are mixed: once all of them are done, a query that can be read is
answered by both stores, and the answers agree up to the spelling of documents and up to documents with
blank names, which the matrix does not have. -/
theorem answers_agree_up_to_spelling {normalize : String → String} {files : List ReadFile}
    {crew : Crew} (hrun : ReflTransGen Step (start normalize files) crew) (hfinished : crew.Finished)
    {normalizeQuery : String → String} {query : String}
    (haccepted : ∃ q, Parser.parse normalizeQuery query = .ok q) :
    ∃ inIndex inMatrix,
      Search.run normalizeQuery crew.index.accessor query = .ok inIndex ∧
      Search.run normalizeQuery crew.matrix.accessor query = .ok inMatrix ∧
      AnswersAgree normalize files inIndex inMatrix := by
  obtain ⟨q, hparse⟩ := haccepted
  obtain ⟨indexed, matrixed, hledger⟩ := exists_ledger hrun
  have hindexed : FilledBy indexed crew.index.accessor := by
    have hfilled := FilledBy.index hledger.index
    rwa [CountedAdd.map_fst_once] at hfilled
  obtain ⟨inIndex, hrunIndex, hindex⟩ := Search.exists_found hindexed hparse
  obtain ⟨inMatrix, hrunMatrix, hmatrix⟩ :=
    Search.exists_found (FilledBy.matrix hledger.matrix) hparse
  exact ⟨inIndex, inMatrix, hrunIndex, hrunMatrix,
    answersAgree (hledger.filed hfinished) hindex hmatrix⟩

/-- Two workers on files whose names differ in case. The first one is ahead at the index, the second
one at the matrix. -/
theorem exists_mixed_run :
    ∃ crew, ReflTransGen Step (start id [⟨"x/A.txt", ["w"]⟩, ⟨"y/a.txt", ["w"]⟩]) crew ∧
      crew.Finished ∧
      (Search.run id crew.index.accessor "w").toOption.map DocSet.toList = some ["A.txt"] ∧
      (Search.run id crew.matrix.accessor "w").toOption.map DocSet.toList = some ["a.txt"] := by
  refine ⟨_, .head (.index [] [⟨"a.txt", [.index "w", .matrix "w"]⟩]) <|
    .head (.index [⟨"A.txt", [.matrix "w"]⟩] []) <|
    .head (.matrix [⟨"A.txt", [.matrix "w"]⟩] [] rfl) <|
    .head (.matrix [] [⟨"a.txt", []⟩] rfl) .refl, ?_, ?_, ?_⟩
  · decide +kernel
  · decide +kernel
  · decide +kernel

/-- The answers to a word after a mixed run of two workers. -/
theorem answers_agree_up_to_spelling_mixed :
    ∃ crew, ReflTransGen Step (start id [⟨"x/A.txt", ["w"]⟩, ⟨"y/a.txt", ["w"]⟩]) crew ∧
      crew.Finished ∧ (∃ q, Parser.parse Text.normalize "NOT (v) AND w" = .ok q) ∧
      ∃ inIndex inMatrix,
        Search.run Text.normalize crew.index.accessor "NOT (v) AND w" = .ok inIndex ∧
        Search.run Text.normalize crew.matrix.accessor "NOT (v) AND w" = .ok inMatrix ∧
        AnswersAgree id [⟨"x/A.txt", ["w"]⟩, ⟨"y/a.txt", ["w"]⟩] inIndex inMatrix := by
  obtain ⟨crew, hrun, hfinished, -⟩ := exists_mixed_run
  have haccepted : ∃ q, Parser.parse Text.normalize "NOT (v) AND w" = .ok q :=
    ⟨.and (.not (.term "v")) (.term "w"), by decide +kernel⟩
  exact ⟨crew, hrun, hfinished, haccepted, answers_agree_up_to_spelling hrun hfinished haccepted⟩

/-- The answers may differ in how a document is spelled, and the index may have a document with a blank
name that the matrix does not have. -/
theorem answers_differ :
    (∃ crew, ReflTransGen Step (start id [⟨"x/A.txt", ["w"]⟩, ⟨"y/a.txt", ["w"]⟩]) crew ∧
      crew.Finished ∧
      (Search.run id crew.index.accessor "w").toOption.map DocSet.toList = some ["A.txt"] ∧
      (Search.run id crew.matrix.accessor "w").toOption.map DocSet.toList = some ["a.txt"]) ∧
    ∃ crew, ReflTransGen Step (start id [⟨"x/ ", ["w"]⟩]) crew ∧ crew.Finished ∧
      (Search.run id crew.index.accessor "w").toOption.map DocSet.toList = some [" "] ∧
      (Search.run id crew.matrix.accessor "w").toOption.map DocSet.toList = some [] := by
  refine ⟨exists_mixed_run, _, .head (.index [] []) <| .head (.refused [] [] rfl) .refl, ?_, ?_, ?_⟩
  · decide +kernel
  · decide +kernel
  · decide +kernel

end Crew

end BooleanRetrieval
