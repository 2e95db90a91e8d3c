import BooleanRetrieval.Proofs.Build.Agreement
import BooleanRetrieval.Proofs.Build.DocumentWords
import BooleanRetrieval.Proofs.Store.Refill
import BooleanRetrieval.Proofs.Text.TermSpelling

/-!
# Stored terms as queries

The terms of a store are folded terms of words. As a query, such a term is a single token, and it is
normalized once more. So it finds the documents of its own term exactly if it stays as it is: if it has no
dot above, which is no letter, and no neighbours that join to a Hangul syllable (`FindsTerm`). Every store
of a build has only such terms, whichever readers it has and whichever way the turns of workers are mixed
(`stored_terms_find_their_documents`). Two terms that cannot be found by their own spelling stand at the
end (`stored_terms_not_found`).
-/

set_option autoImplicit false

namespace BooleanRetrieval

open Relation (ReflTransGen)
open Text (foldCase isBlankText toUpper FoldedTerm StaysComposed)

/-! ## Operators -/

namespace Text

/-- Folding leaves the characters of a folded text alone. -/
theorem foldChar_of_mem_fold {cs : List Char} {x : Char} (hx : x ∈ fold cs) : foldChar x = [x] := by
  obtain ⟨c, -, hmem⟩ := List.mem_flatMap.mp hx
  rcases foldChar_settles c with hc | ⟨-, hsettled⟩
  · rw [hc] at hmem
    rw [List.mem_singleton.mp hmem, hc]
  · exact (hsettled x hmem).1

end Text

namespace Token

/-- The folded terms that read as operators. -/
def operatorTerms : List String :=
  ["and", "or", "not"]

/-- The operators in lower case are the terms that read as operators. -/
theorem operatorTexts_small :
    ∀ operator ∈ operatorTexts,
      String.ofList (operator.toList.map Char.toLower) ∈ operatorTerms := by
  decide +kernel

/-- No other folded term reads as an operator. -/
theorem toUpper_notMem_operatorTexts {t : String} (h : FoldedTerm t) (ht : t ∉ operatorTerms) :
    toUpper t ∉ operatorTexts := by
  intro hoperator
  have hcase : InAnyCase (toUpper t) t.toList := by
    rw [← upper_eq_iff_inAnyCase hoperator, toUpper, String.toList_ofList]
  have hfold : ∀ c ∈ t.toList, Text.foldChar c = [c] := fun c hc => by
    rw [← h.foldCase_eq, foldCase, String.toList_ofList] at hc
    exact Text.foldChar_of_mem_fold hc
  have hterm := operatorTexts_small _ hoperator
  rw [← hcase.eq_map_toLower hoperator hfold, String.ofList_toList] at hterm
  exact ht hterm

end Token

/-! ## Searching for terms -/

/-- What a search for a term of a collection finds. -/
structure FindsTerm (accessor : Accessor) (t : String) : Prop where
  run_eq : Search.run Text.normalize accessor t =
    .ok (accessor.documentsForTerm (Text.normalize t))
  /-- The term that is looked up is the one that was searched for exactly if this stays composed. -/
  foldCase_eq_iff : foldCase (Text.normalize t) = t ↔ StaysComposed t.toList
  found : StaysComposed t.toList →
    Search.run Text.normalize accessor t = .ok (accessor.documentsForTerm t)

/-- Every term of a collection that is no operator finds the documents of its own term, if it stays
composed. -/
def FindsTerms (terms : List String) (accessor : Accessor) : Prop :=
  ∀ t ∈ terms, t ∉ Token.operatorTerms → FindsTerm accessor t

/-- A folded term that is no operator is parsed as a term. -/
theorem Text.FoldedTerm.parse_eq {t : String} (h : FoldedTerm t) (ht : t ∉ Token.operatorTerms) :
    Parser.parse Text.normalize t = .ok (.term (Text.normalize t)) := by
  refine Parser.parse_of_word ?_
    (fun c hc => Token.standsInRun_of_isWordCharacter (h.isWordCharacter c hc))
    (Token.toUpper_notMem_operatorTexts h ht) h.normalize_not_blank
  rintro rfl
  exact absurd h.not_blank (by decide +kernel)

/-- A search for a folded term finds the documents of what the term normalizes to. -/
theorem Text.FoldedTerm.findsTerm {t : String} (h : FoldedTerm t) (ht : t ∉ Token.operatorTerms)
    {accessor : Accessor}
    (hfold : ∀ u, accessor.documentsForTerm (foldCase u) = accessor.documentsForTerm u) :
    FindsTerm accessor t where
  run_eq := Search.run_of_parse_term (h.parse_eq ht) accessor
  foldCase_eq_iff := h.foldCase_normalize_eq_self_iff
  found hstays := by
    rw [Search.run_of_parse_term (h.parse_eq ht) accessor, ← hfold,
      h.foldCase_normalize_eq_self_iff.mpr hstays]

/-- The documents of a term do not depend on its letter case. -/
theorem IncidenceMatrix.documentsForTerm_foldCase (matrix : IncidenceMatrix) (t : String) :
    matrix.documentsForTerm (foldCase t) = matrix.documentsForTerm t := by
  unfold documentsForTerm
  rw [Text.foldCase_foldCase]

/-- An index of folded terms finds its terms. -/
theorem InvertedIndex.findsTerms {index : InvertedIndex} (h : ∀ t ∈ index.terms, FoldedTerm t) :
    FindsTerms index.terms index.accessor := fun t ht hoperator =>
  (h t ht).findsTerm hoperator (Books.documentsForTerm_foldCase index)

/-- A matrix of folded terms finds its terms. -/
theorem IncidenceMatrix.findsTerms {matrix : IncidenceMatrix}
    (h : ∀ t ∈ matrix.terms, FoldedTerm t) : FindsTerms matrix.terms matrix.accessor :=
  fun t ht hoperator => (h t ht).findsTerm hoperator matrix.documentsForTerm_foldCase

/-! ## The terms of a build -/

/-- A term that is not blank is stored folded. -/
theorem foldedTerm_of_normalize {w : String} (h : isBlankText (Text.normalize w) = false) :
    FoldedTerm (foldCase (Text.normalize w)) :=
  ⟨⟨w, rfl⟩, by rw [Text.isBlankText_foldCase_eq, h]⟩

/-- The terms of an index of normalized words are folded terms. -/
theorem InvertedIndex.foldedTerm_of_mem_terms {os : List Occurrence}
    (h : ∀ o ∈ os, ∃ w, o.term = Text.normalize w ∧ isBlankText o.term = false) {t : String}
    (ht : t ∈ (afterCalls (os.map CountedAdd.once)).terms) : FoldedTerm t := by
  obtain ⟨a, ha, rfl⟩ := (books_once os).mem_terms.mp ht
  obtain ⟨o, ho, rfl⟩ := List.mem_map.mp ha
  obtain ⟨w, hw, hblank⟩ := h o ho
  have hkey : CountedAdd.key (CountedAdd.once o) = foldCase (Text.normalize w) := by
    rw [← hw]
    rfl
  rw [hkey]
  exact foldedTerm_of_normalize (hw ▸ hblank)

/-- The terms of a matrix of normalized words are folded terms. -/
theorem IncidenceMatrix.foldedTerm_of_mem_terms {os : List Occurrence}
    (h : ∀ o ∈ os, ∃ w, o.term = Text.normalize w ∧ isBlankText o.term = false) {t : String}
    (ht : t ∈ (afterCalls os).terms) : FoldedTerm t := by
  rw [afterCalls_eq_presence, InvertedIndex.terms_presence] at ht
  exact InvertedIndex.foldedTerm_of_mem_terms (fun o ho => h o (List.mem_of_mem_filter ho)) ht

/-! ## The terms of a crew -/

/-- Adding to an index adds the folded term. -/
theorem InvertedIndex.mem_terms_addCount {index : InvertedIndex} {t document u : String} {count : Nat} :
    u ∈ (index.addCount t document count).terms ↔ u = foldCase t ∨ u ∈ index.terms :=
  OrderedMap.mem_keys_upsert

/-- Setting a cell adds the folded term. -/
theorem IncidenceMatrix.mem_terms_set {matrix : IncidenceMatrix} {t document u : String} :
    u ∈ (matrix.set t document).terms ↔ u = foldCase t ∨ u ∈ matrix.terms :=
  OrderedMap.mem_keys_upsert

namespace Crew

/-- The stores have folded terms only, and workers have only such terms to file. -/
structure HasFoldedTerms (crew : Crew) : Prop where
  index : ∀ t ∈ crew.index.terms, FoldedTerm t
  matrix : ∀ t ∈ crew.matrix.terms, FoldedTerm t
  turns : ∀ worker ∈ crew.workers, ∀ turn ∈ worker.turns, FoldedTerm (foldCase turn.term)

/-- At the start workers have folded terms only. -/
theorem hasFoldedTerms_start (files : List ReadFile) :
    HasFoldedTerms (start Text.normalize files) where
  index t ht := absurd ht List.not_mem_nil
  matrix t ht := absurd ht List.not_mem_nil
  turns worker hworker turn hturn := by
    obtain ⟨file, -, rfl⟩ := List.mem_map.mp hworker
    have hblank := Worker.not_blank_of_mem_ofFile hturn
    obtain ⟨w, -, hmem⟩ := List.mem_flatMap.mp hturn
    rcases List.mem_pair.mp hmem with rfl | rfl
    · exact foldedTerm_of_normalize hblank
    · exact foldedTerm_of_normalize hblank

/-- What the workers have still to file, when one of them has less to do. -/
theorem HasFoldedTerms.turns_of_subset {before after : List Worker} {document : String}
    {turns rest : List Turn} (hrest : rest ⊆ turns)
    (h : ∀ worker ∈ before ++ ⟨document, turns⟩ :: after, ∀ turn ∈ worker.turns,
      FoldedTerm (foldCase turn.term)) :
    ∀ worker ∈ before ++ ⟨document, rest⟩ :: after, ∀ turn ∈ worker.turns,
      FoldedTerm (foldCase turn.term) := by
  obtain ⟨hbefore, hworker, hafter⟩ := by
    simpa only [List.forall_mem_append, List.forall_mem_cons] using h
  simp only [List.forall_mem_append, List.forall_mem_cons]
  exact ⟨hbefore, fun turn hturn => hworker turn (hrest hturn), hafter⟩

/-- A step keeps folded terms. -/
theorem HasFoldedTerms.step {crew next : Crew} (h : HasFoldedTerms crew) (hstep : Step crew next) :
    HasFoldedTerms next := by
  obtain ⟨hindex, hmatrix, hturns⟩ := h
  cases hstep with
  | @index before after index matrix document t rest =>
    refine ⟨fun u hu => ?_, hmatrix, turns_of_subset (List.subset_cons_self _ _) hturns⟩
    rcases InvertedIndex.mem_terms_addCount.mp hu with hu | hu
    · rw [hu]
      exact hturns _ (List.mem_append_right _ List.mem_cons_self) (.index t) List.mem_cons_self
    · exact hindex u hu
  | @matrix before after index matrix filled document t rest hadd =>
    refine ⟨hindex, fun u hu => ?_, turns_of_subset (List.subset_cons_self _ _) hturns⟩
    rw [IncidenceMatrix.eq_set_of_add hadd] at hu
    rcases IncidenceMatrix.mem_terms_set.mp hu with hu | hu
    · rw [hu]
      exact hturns _ (List.mem_append_right _ List.mem_cons_self) (.matrix t) List.mem_cons_self
    · exact hmatrix u hu
  | refused before after hadd =>
    exact ⟨hindex, hmatrix, turns_of_subset (List.nil_subset _) hturns⟩

/-- Every crew that comes of a run with the standard normalizer has folded terms only. -/
theorem HasFoldedTerms.run {files : List ReadFile} {crew : Crew}
    (hrun : ReflTransGen Step (start Text.normalize files) crew) : HasFoldedTerms crew := by
  induction hrun with
  | refl => exact hasFoldedTerms_start files
  | tail _ hstep ih => exact ih.step hstep

end Crew

namespace Builder

/-- Whatever readers a build has, once it returns every term of its stores that is no operator is found by
its own spelling if it stays composed; and so it is at every time while workers take turns. -/
theorem stored_terms_find_their_documents (builder : Builder)
    (hnormalize : ∀ w, builder.normalize w = .ok (Text.normalize w)) :
    (∀ (treeAfter : List LogRecord → FileTree) (paths : List String) (cancelled : Bool) (built : Built),
      builder.build treeAfter paths cancelled 1 = .ok built →
        FindsTerms built.stores.index.terms built.stores.index.accessor ∧
        ∀ matrix, built.stores.matrix = some matrix → FindsTerms matrix.terms matrix.accessor) ∧
    ∀ files crew, ReflTransGen Crew.Step (Crew.start builder.termOf files) crew →
      FindsTerms crew.index.terms crew.index.accessor ∧
      FindsTerms crew.matrix.terms crew.matrix.accessor := by
  have htermOf : builder.termOf = Text.normalize := funext fun w => termOf_of_normalize (hnormalize w)
  constructor
  · intro treeAfter paths cancelled built hbuild
    obtain ⟨hindex, hmatrix⟩ := stores_of_build_eq_ok hbuild
    have hfiled : ∀ o ∈ (happenings (builder.visits treeAfter [opening paths.length 1] paths)).filterMap
        (occurrence? builder.termOf), ∃ w, o.term = Text.normalize w ∧ isBlankText o.term = false := by
      intro o ho
      obtain ⟨v, -, w, -, hblank, rfl⟩ := mem_filterMap_happenings.mp ho
      exact ⟨w, by rw [htermOf], hblank⟩
    constructor
    · rw [hindex]
      exact InvertedIndex.findsTerms fun t ht => InvertedIndex.foldedTerm_of_mem_terms hfiled ht
    · intro matrix hsome
      rw [hmatrix matrix hsome]
      exact IncidenceMatrix.findsTerms fun t ht => IncidenceMatrix.foldedTerm_of_mem_terms hfiled ht
  · intro files crew hrun
    rw [htermOf] at hrun
    have hfolded := Crew.HasFoldedTerms.run hrun
    exact ⟨InvertedIndex.findsTerms hfolded.index, IncidenceMatrix.findsTerms hfolded.matrix⟩

/-- A letter with a caron that folding takes apart: its term is found in both stores after a build, and in
the index as soon as a worker has filed it there. -/
theorem stored_terms_find_their_documents_caron :
    let tree : FileTree := { entries := [(["a.txt"], .file [0xC7, 0xB0])] }
    let crew : Crew := ⟨InvertedIndex.empty.addCount "\u01F0" "a.txt" 1, .empty,
      [⟨"a.txt", [.matrix "\u01F0"]⟩]⟩
    ∃ built matrix, standard.build (fun _ => tree) ["a.txt"] false 1 = .ok built ∧
      built.stores.matrix = some matrix ∧
      "j\u030C" ∈ built.stores.index.terms ∧ "j\u030C" ∈ matrix.terms ∧
      Search.run Text.normalize built.stores.index.accessor "j\u030C" =
        .ok (built.stores.index.documentsForTerm "j\u030C") ∧
      Search.run Text.normalize matrix.accessor "j\u030C" =
        .ok (matrix.documentsForTerm "j\u030C") ∧
      ReflTransGen Crew.Step (Crew.start Text.normalize [⟨"a.txt", ["\u01F0"]⟩]) crew ∧
      Search.run Text.normalize crew.index.accessor "j\u030C" =
        .ok (crew.index.documentsForTerm "j\u030C") := by
  intro tree crew
  have htexts : ∀ path ∈ ["a.txt"], tree.IsTextFile path := by
    rw [List.forall_mem_singleton]
    exact ⟨by decide +kernel, _, rfl⟩
  have hfiles : (tree.textFiles ["a.txt"]).flatMap (ReadFile.occurrences Text.normalize) =
      [⟨"\u01F0", "a.txt"⟩] := by
    decide +kernel
  have hworker : Worker.ofFile Text.normalize ⟨"a.txt", ["\u01F0"]⟩ =
      ⟨"a.txt", [.index "\u01F0", .matrix "\u01F0"]⟩ := by
    decide +kernel
  have hoperator : "j\u030C" ∉ Token.operatorTerms := by decide
  have hstays : StaysComposed "j\u030C".toList := ⟨by decide, by decide⟩
  obtain ⟨built, hbuild, hindex, hmatrix⟩ := exists_build_textFiles (fun _ => tree) ["a.txt"] htexts
  rw [hfiles] at hindex hmatrix
  have hrun : ReflTransGen Crew.Step (Crew.start Text.normalize [⟨"a.txt", ["\u01F0"]⟩]) crew := by
    rw [Crew.start, List.map_singleton, hworker]
    exact .single (.index [] [])
  have hindexed : "j\u030C" ∈ built.stores.index.terms := by
    rw [hindex]
    decide +kernel
  obtain ⟨matrix, hfilled⟩ : ∃ matrix, matrix = IncidenceMatrix.afterCalls [⟨"\u01F0", "a.txt"⟩] :=
    ⟨_, rfl⟩
  rw [← hfilled] at hmatrix
  have hmatrixed : "j\u030C" ∈ matrix.terms := by
    rw [hfilled]
    decide +kernel
  obtain ⟨hbuilt, hcrews⟩ := stored_terms_find_their_documents standard fun _ => rfl
  obtain ⟨hsearch, hsearch'⟩ := hbuilt (fun _ => tree) ["a.txt"] false built hbuild
  obtain ⟨hcrew, -⟩ := hcrews _ crew hrun
  have hcrewed : "j\u030C" ∈ crew.index.terms := by decide +kernel
  clear_value crew
  have hfound := (hsearch _ hindexed hoperator).found hstays
  have hfound' := (hsearch' _ hmatrix _ hmatrixed hoperator).found hstays
  have hfoundCrew := (hcrew _ hcrewed hoperator).found hstays
  exact ⟨built, matrix, hbuild, hmatrix, hindexed, hmatrixed, hfound, hfound', hrun, hfoundCrew⟩

/-- Two terms that are stored and found nowhere by their own spelling: a small i with a dot above it, which
the lower case of a dotted capital I has, and two Hangul letters that stood apart in the text, since there
was a mark between them. -/
theorem stored_terms_not_found :
    let tree : FileTree := { entries := [
      (["a.txt"], .file [0xC4, 0xB0, 0x73, 0x74, 0x61, 0x6E, 0x62, 0x75, 0x6C]),
      (["b.txt"], .file [0xE1, 0x84, 0x80, 0xE2, 0x83, 0x9D, 0xE1, 0x85, 0xA1])] }
    ∃ built matrix, standard.build (fun _ => tree) ["a.txt", "b.txt"] false 1 = .ok built ∧
      built.stores.matrix = some matrix ∧
      ∀ o ∈ [Occurrence.mk "i\u0307stanbul" "a.txt", ⟨"\u1100\u1161", "b.txt"⟩],
        o.term ∉ Token.operatorTerms ∧
        (o.term ∈ built.stores.index.terms ∧
          o.document ∈ built.stores.index.documentsForTerm o.term ∧
          Search.run Text.normalize built.stores.index.accessor o.term = .ok .empty) ∧
        o.term ∈ matrix.terms ∧ o.document ∈ matrix.documentsForTerm o.term ∧
          Search.run Text.normalize matrix.accessor o.term = .ok .empty := by
  intro tree
  let os := [Occurrence.mk "i\u0307stanbul" "a.txt", ⟨"\u1100\u1161", "b.txt"⟩]
  have htexts : ∀ path ∈ ["a.txt", "b.txt"], tree.IsTextFile path := by
    rw [List.forall_mem_cons, List.forall_mem_singleton]
    exact ⟨⟨by decide +kernel, _, rfl⟩, by decide +kernel, _, rfl⟩
  have hfiles : (tree.textFiles ["a.txt", "b.txt"]).flatMap (ReadFile.occurrences Text.normalize) =
      os := by
    decide +kernel
  obtain ⟨built, hbuild, hindex, hmatrix⟩ :=
    exists_build_textFiles (fun _ => tree) ["a.txt", "b.txt"] htexts
  rw [hfiles] at hindex hmatrix
  have hempty : ∀ {result : Except SearchError DocSet},
      result.toOption.map DocSet.toList = some [] → result = .ok .empty := by
    intro result h
    obtain ⟨found, hfound, hnone⟩ := exists_eq_ok_of_toOption h
    have hnothing : found = .empty := DocSet.ext hnone
    rw [hfound, hnothing]
  have hindexed : ∀ o ∈ os, o.term ∈ (InvertedIndex.afterCalls (os.map CountedAdd.once)).terms ∧
      o.document ∈ ((InvertedIndex.afterCalls (os.map CountedAdd.once)).documentsForTerm o.term).toList ∧
      (Search.run Text.normalize (InvertedIndex.afterCalls (os.map CountedAdd.once)).accessor
        o.term).toOption.map DocSet.toList = some [] := by
    decide +kernel
  have hmatrixed : ∀ o ∈ os, o.term ∈ (IncidenceMatrix.afterCalls os).terms ∧
      o.document ∈ ((IncidenceMatrix.afterCalls os).documentsForTerm o.term).toList ∧
      (Search.run Text.normalize (IncidenceMatrix.afterCalls os).accessor
        o.term).toOption.map DocSet.toList = some [] := by
    decide +kernel
  refine ⟨built, _, hbuild, hmatrix, fun o ho => ⟨?_, ?_, ?_⟩⟩
  · have hoperators : ∀ o ∈ os, o.term ∉ Token.operatorTerms := by decide +kernel
    exact hoperators o ho
  · obtain ⟨hterm, hdocument, hsearch⟩ := hindexed o ho
    rw [hindex]
    exact ⟨hterm, DocSet.mem_iff.mpr hdocument, hempty hsearch⟩
  · obtain ⟨hterm, hdocument, hsearch⟩ := hmatrixed o ho
    exact ⟨hterm, DocSet.mem_iff.mpr hdocument, hempty hsearch⟩

end Builder

end BooleanRetrieval
