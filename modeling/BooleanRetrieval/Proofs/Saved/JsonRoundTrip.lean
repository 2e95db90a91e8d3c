import BooleanRetrieval.Proofs.Encoding.Utf8
import BooleanRetrieval.Proofs.Json.RoundTrip
import BooleanRetrieval.Proofs.Saved.Survival
import BooleanRetrieval.Proofs.Text.Lines

/-!
# Stores survive saving as JSON

The value that a store is written as can be stored (`storable_toJson`), so that its text is read back
from the file as the same value, and reading the members of that value makes the calls of the refill.
-/

set_option autoImplicit false

namespace BooleanRetrieval

/-- The text of a storable value is read back from the bytes of a file. -/
theorem parse_file_render {limit : Nat} {value : Json} (h : Json.Storable limit 0 value) :
    ∃ text, Encoding.decodeUtf8 (Encoding.encodeUtf8 value.render) = .ok text ∧
      Json.parse limit (Text.unifyBreaks text) = .ok value := by
  refine ⟨value.render, Encoding.decodeUtf8_encodeUtf8 _, ?_⟩
  rw [Text.unifyBreaks_of_not_mem (Json.return_notMem_render h), Json.parse_render h]

/-! ## The index -/

namespace InvertedIndex

/-- The members of the object that a term's postings are written as. -/
def postingMembers (postings : List Posting) : List (String × Json) :=
  postings.map fun p => (p.document, .int p.frequency)

/-- The value of an index is an object of objects. -/
theorem toJson_eq (index : InvertedIndex) :
    index.toJson = .object (index.listing.map fun entry => (entry.1, .object (postingMembers entry.2))) :=
  rfl

/-- The value of an index can be stored when its frequencies can be written. -/
theorem storable_toJson {limit : Nat} (hlimit : 2 ≤ limit) {index : InvertedIndex}
    (h : ∀ entry ∈ index.listing, ∀ p ∈ entry.2, p.frequency < writableBound) :
    Json.Storable limit 0 index.toJson := by
  rw [toJson_eq]
  apply Json.Storable.object (by omega)
  · rw [List.map_map]
    exact nodup_of_increasing index.pairwise_keys_listing
  · intro member hmember
    obtain ⟨⟨t, postings⟩, hlisted, rfl⟩ := List.mem_map.mp hmember
    obtain ⟨-, rfl⟩ := mem_listing.mp hlisted
    apply Json.Storable.object (by omega)
    · unfold postingMembers
      rw [List.map_map]
      exact nodup_of_increasing (List.pairwise_map.mpr (index.pairwise_getPostings t))
    · intro member hmember
      obtain ⟨p, hp, rfl⟩ := List.mem_map.mp hmember
      apply Json.Storable.int
      rw [Int.natAbs_natCast, ← lt_writableBound_iff]
      exact h _ hlisted p hp

/-- Reading the members of a term makes the calls for its postings. -/
theorem loadPostings_eq (shown : Nat) (path t : String) (s : Loading) {postings : List Posting}
    (h : ∀ p ∈ postings, 1 ≤ p.frequency) :
    loadPostings shown path t s (postingMembers postings) =
      (⟨(addsFor t postings).foldl call s.index, s.reports⟩, none) := by
  induction postings generalizing s with
  | nil => rfl
  | cons p postings ih =>
    obtain ⟨hp, hrest⟩ := List.forall_mem_cons.mp h
    have hcount : frequencyOf? (.int p.frequency) = some p.frequency := by
      unfold frequencyOf?
      dsimp only
      rw [if_pos (by omega)]
      rfl
    have hmembers : postingMembers (p :: postings) =
        (p.document, .int p.frequency) :: postingMembers postings := rfl
    rw [hmembers, loadPostings, hcount]
    dsimp only
    rw [ih _ hrest, Loading.add_eq_call s t p.document hp]
    rfl

/-- Reading the members of the outer object makes the calls for all postings in their order. -/
theorem loadTerms_eq (shown : Nat) (path : String) (s : Loading) {listing : List (String × List Posting)}
    (h : ∀ entry ∈ listing, ∀ p ∈ entry.2, 1 ≤ p.frequency) :
    loadTerms shown path s (listing.map fun entry => (entry.1, .object (postingMembers entry.2))) =
      (⟨(addsOf listing).foldl call s.index, s.reports⟩, none) := by
  induction listing generalizing s with
  | nil => rfl
  | cons entry listing ih =>
    obtain ⟨hentry, hrest⟩ := List.forall_mem_cons.mp h
    rw [List.map_cons, loadTerms, loadPostings_eq shown path entry.1 s hentry]
    dsimp only
    rw [ih _ hrest]
    unfold addsOf
    rw [List.flatMap_cons, List.foldl_append]

/-- An index survives in JSON when its frequencies can be written. -/
theorem survives_json (calls : List CountedAdd) (hdigits : (afterCalls calls).FewDigits) :
    (afterCalls calls).Survives .json := by
  obtain ⟨hbooks, hpos⟩ := books_addAll (addAll_accepted_empty calls)
  have hlt := (hbooks.fewDigits_iff hpos).mp hdigits
  refine survives_of_loadBytes (toText_json_of_lt hlt) (restores_refill calls) ?_
  intro limits hlimits path
  obtain ⟨text, htext, hparse⟩ := parse_file_render (storable_toJson hlimits hlt)
  have hterms := loadTerms_eq limits.shown path.text .empty (one_le_frequency_of_mem_listing calls)
  unfold loadBytes
  dsimp only
  rw [htext]
  dsimp only
  rw [hparse, toJson_eq]
  dsimp only
  rw [hterms]
  rfl

end InvertedIndex

/-! ## The matrix -/

namespace IncidenceMatrix

/-- The value of a matrix can be stored. -/
theorem storable_toJson {limit : Nat} (hlimit : 2 ≤ limit) (matrix : IncidenceMatrix) :
    Json.Storable limit 0 matrix.toJson := by
  unfold toJson
  apply Json.Storable.object (by omega)
  · have hkeys : matrix.listing.map Prod.fst = matrix.terms.mergeSort fun s t => decide (s ≤ t) := by
      unfold listing
      rw [List.map_map]
      exact List.map_id _
    rw [List.map_map]
    change (matrix.listing.map Prod.fst).Nodup
    rw [hkeys]
    exact (List.mergeSort_perm _ _).nodup_iff.mpr matrix.rows.nodup
  · intro member hmember
    obtain ⟨⟨t, docs⟩, -, rfl⟩ := List.mem_map.mp hmember
    apply Json.Storable.array (by omega)
    intro item hitem
    obtain ⟨d, -, rfl⟩ := List.mem_map.mp hitem
    exact .string d

/-- Reading the documents of a term makes the calls for its pairs, none of which is refused. -/
theorem foldlM_addListed {t : String} {docs : List String}
    (h : ∀ d ∈ docs, Text.isBlankText t = false ∧ Text.isBlankText d = false)
    (matrix : IncidenceMatrix) :
    (docs.map Json.string).foldlM (fun matrix item => matrix.addListed t item) matrix =
      .ok ((docs.map fun d => (⟨t, d⟩ : Occurrence)).foldl call matrix) := by
  induction docs generalizing matrix with
  | nil => rfl
  | cons d docs ih =>
    obtain ⟨⟨ht, hd⟩, hrest⟩ := List.forall_mem_cons.mp h
    have hcall : matrix.call ⟨t, d⟩ = matrix.set t d := call_of_accepted (by simp [ht, hd])
    have hadd : matrix.addListed t (.string d) = .ok (matrix.set t d) := by
      unfold addListed
      dsimp only
      rw [add_eq, ht, hd]
      rfl
    rw [List.map_cons, List.foldlM_cons, hadd, List.map_cons, List.foldl_cons, hcall]
    exact ih hrest _

/-- Loading listed terms without blank names calls the matrix for each pair. -/
theorem loadTerms_eq {listing : List (String × List String)}
    (h : ∀ entry ∈ listing, ∀ d ∈ entry.2,
      Text.isBlankText entry.1 = false ∧ Text.isBlankText d = false) (matrix : IncidenceMatrix) :
    matrix.loadTerms (listing.map fun (t, docs) => (t, .array (docs.map .string))) =
      .ok ((listing.flatMap fun (t, docs) => docs.map fun d => (⟨t, d⟩ : Occurrence)).foldl call
        matrix) := by
  unfold loadTerms
  induction listing generalizing matrix with
  | nil => rfl
  | cons entry listing ih =>
    obtain ⟨hentry, hrest⟩ := List.forall_mem_cons.mp h
    have hstep := foldlM_addListed hentry matrix
    rw [List.map_cons, List.foldlM_cons, List.flatMap_cons, List.foldl_append, ← ih hrest]
    change ((entry.2.map Json.string).foldlM (fun matrix item => matrix.addListed entry.1 item)
      matrix >>= _) = _
    rw [hstep]
    rfl

/-- A matrix survives in JSON. -/
theorem survives_json (calls : List Occurrence) : (afterCalls calls).Survives .json := by
  refine survives_of_loadBytes (restores_refill calls) ?_
  intro limits hlimits path
  obtain ⟨text, htext, hparse⟩ := parse_file_render (storable_toJson hlimits (afterCalls calls))
  have hterms := loadTerms_eq (not_blank_of_mem_listing calls) empty
  have hread : ofJsonBytes limits (Encoding.encodeUtf8 ((afterCalls calls).toText .json)) =
      .ok (afterCalls (afterCalls calls).refill) := by
    unfold ofJsonBytes toText
    dsimp only
    rw [htext]
    change (Json.parse limits.json (Text.unifyBreaks text)).mapError LoadError.json >>= _ = _
    rw [hparse]
    exact hterms
  unfold loadBytes
  dsimp only
  rw [hread]

end IncidenceMatrix

/-- Every index that calls can make, if its frequencies do not have too many digits, and every matrix
that calls can make survive saving as JSON, whatever their terms and document ids are. -/
theorem stores_survive_json :
    (∀ calls : List CountedAdd, (InvertedIndex.afterCalls calls).FewDigits →
      (InvertedIndex.afterCalls calls).Survives .json) ∧
    ∀ calls : List Occurrence, (IncidenceMatrix.afterCalls calls).Survives .json :=
  ⟨InvertedIndex.survives_json, IncidenceMatrix.survives_json⟩

/-- Terms and ids with quotation marks, backslashes, line breaks, control characters and characters
beyond the first plane, saved below a directory that was not there. -/
theorem stores_survive_json_odd_names :
    let calls : List CountedAdd :=
      [(⟨"\"Cat\"\r\n", "a\\b.txt"⟩, 2), (⟨"", "[x]=3\x01"⟩, 1), (⟨"\"cat\"\r\n", "🐈.txt"⟩, 7)]
    let path : Path := ⟨"", ["out", "index.json"]⟩
    (InvertedIndex.afterCalls calls).FewDigits ∧
    (∃ text copy tree, (InvertedIndex.afterCalls calls).toText .json = .ok text ∧
      saveText .empty path text = .ok tree ∧
      InvertedIndex.loadAs .json tree path = ⟨.ok copy, []⟩ ∧
      copy.Restores (InvertedIndex.afterCalls calls)) ∧
    (IncidenceMatrix.afterCalls (calls.map Prod.fst)).Survives .json := by
  intro calls path
  obtain ⟨hindex, hmatrix⟩ := stores_survive_json
  have hdigits : (InvertedIndex.afterCalls calls).FewDigits :=
    InvertedIndex.fewDigits_afterCalls (by decide +kernel)
  obtain ⟨text, copy, htext, hcopy, hload⟩ := hindex calls hdigits
  obtain ⟨tree, htree⟩ : ∃ tree, saveText .empty path text = .ok tree := ⟨_, rfl⟩
  exact ⟨hdigits, ⟨text, copy, tree, htext, htree, hload {} (by decide) .empty tree path htree, hcopy⟩, hmatrix _⟩

end BooleanRetrieval
