import BooleanRetrieval.Proofs.Decimal.Digits
import BooleanRetrieval.Proofs.Files.Written
import BooleanRetrieval.Proofs.Store.Refill

/-!
# Stores that survive saving

A store survives saving in a format (`Survives`) when its text can be written and loading it from where
it was saved gives, without a report, a store that cannot be told from it. An index can be written
exactly if its frequencies do not have too many digits (`exists_toText_iff`). Reading a listing back
means to make the calls of the refill in order, so that `restores_refill` applies.
-/

set_option autoImplicit false

namespace BooleanRetrieval

open Text (foldCase foldCase_foldCase)

/-- Strings in strict order are distinct. -/
theorem nodup_of_increasing {l : List String} (h : l.Pairwise (· < ·)) : l.Nodup := by
  apply h.imp
  rintro s t hlt rfl
  exact String.lt_irrefl s hlt

namespace InvertedIndex

/-- Load the index that is saved at a path in a format. -/
def loadAs (format : StoreFormat) (tree : FileTree) (path : Path) (limits : NestingLimits := {}) :
    Loaded InvertedIndex :=
  match savedBytes tree path with
  | .error e => ⟨.error e, []⟩
  | .ok bytes => loadBytes path format bytes limits

/-- Loading picks the format by the suffix. -/
theorem load_eq_loadAs (tree : FileTree) (path : Path) (limits : NestingLimits) :
    load tree path limits = loadAs (.ofPath path) tree path limits := rfl

/-- An index can be written, and loading it from wherever it was saved succeeds without a report and
gives an index that cannot be told from it. It only takes that calls may
nest as deep as a store does. -/
def Survives (index : InvertedIndex) (format : StoreFormat) : Prop :=
  ∃ text copy, index.toText format = .ok text ∧ copy.Restores index ∧
    ∀ limits : NestingLimits, 2 ≤ limits.json → ∀ tree tree' path,
      saveText tree path text = .ok tree' → loadAs format tree' path limits = ⟨.ok copy, []⟩

/-- No frequency has more decimal digits than may be written. -/
def FewDigits (index : InvertedIndex) : Prop :=
  ∀ t d, (Nat.toDigits 10 (index.frequency t d)).length ≤ Json.maxDigits

/-- An index survives when its text loads to a copy, wherever it was saved. -/
theorem survives_of_loadBytes {index copy : InvertedIndex} {format : StoreFormat} {text : List Char}
    (htext : index.toText format = .ok text) (hcopy : copy.Restores index)
    (hload : ∀ limits : NestingLimits, 2 ≤ limits.json → ∀ path,
      loadBytes path format (Encoding.encodeUtf8 text) limits = ⟨.ok copy, []⟩) :
    index.Survives format := by
  refine ⟨text, copy, htext, hcopy, ?_⟩
  intro limits hlimits tree tree' path hsave
  unfold loadAs
  rw [savedBytes_of_saveText hsave]
  exact hload limits hlimits path

/-! ## Frequencies that can be written -/

namespace Books

variable {adds : List CountedAdd} {index : InvertedIndex}

/-- The postings of a term do not depend on its letter case. -/
theorem getPostings_foldCase (index : InvertedIndex) (t : String) :
    index.getPostings (foldCase t) = index.getPostings t := by
  unfold getPostings postingsOf
  rw [foldCase_foldCase]

/-- A frequency that is not zero is that of a listed posting. -/
theorem exists_listed_of_pos (h : Books adds index) (hpos : ∀ a ∈ adds, 1 ≤ a.2) {t d : String}
    (hfrequency : 0 < index.frequency t d) :
    ∃ entry ∈ index.listing, ∃ p ∈ entry.2, p.frequency = index.frequency t d := by
  have hoccurs : Occurs (adds.map Prod.fst) t d := by
    by_contra hnot
    have hcount := h.frequency_eq t d
    rw [occurrenceCount_eq_zero hnot] at hcount
    omega
  obtain ⟨s, hs, -⟩ := h.exists_mem_documentsForTerm hoccurs
  have hfold : foldCase s = foldCase d := foldCase_of_firstSpelling hs
  have hsame : index.frequency t s = index.frequency t d := by
    have hleft := h.frequency_eq t s
    have hright := h.frequency_eq t d
    rw [occurrenceCount_congr rfl hfold] at hleft
    omega
  refine ⟨(foldCase t, index.getPostings t), ?_, ⟨s, index.frequency t s⟩, ?_, hsame⟩
  · exact mem_listing.mpr ⟨h.foldCase_mem_terms hoccurs, (getPostings_foldCase index t).symm⟩
  · refine (h.mem_getPostings_iff hpos).mpr ⟨?_, rfl, hsame ▸ hfrequency⟩
    rw [firstSpelling_congr hfold, hs]

/-- Few digits are few digits in every posting that is listed. -/
theorem fewDigits_iff (h : Books adds index) (hpos : ∀ a ∈ adds, 1 ≤ a.2) :
    index.FewDigits ↔ ∀ entry ∈ index.listing, ∀ p ∈ entry.2, p.frequency < writableBound := by
  constructor
  · rintro hdigits ⟨t, postings⟩ hlisted p hp
    obtain ⟨-, rfl⟩ := mem_listing.mp hlisted
    obtain ⟨-, hfrequency, -⟩ := (h.mem_getPostings_iff hpos).mp hp
    rw [hfrequency, lt_writableBound_iff]
    exact hdigits t p.document
  · intro hlisted t d
    rw [← lt_writableBound_iff]
    rcases Nat.eq_zero_or_pos (index.frequency t d) with hzero | hpositive
    · rw [hzero, lt_writableBound_iff]
      decide
    · obtain ⟨entry, hentry, p, hp, hfrequency⟩ := h.exists_listed_of_pos hpos hpositive
      rw [← hfrequency]
      exact hlisted entry hentry p hp

/-- An index with few enough occurrences altogether can be written. -/
theorem fewDigits_of_totalTokenCount (h : Books adds index) (hpos : ∀ a ∈ adds, 1 ≤ a.2)
    (htotal : index.totalTokenCount < writableBound) : index.FewDigits := by
  intro t d
  have hle : ∀ adds : List CountedAdd, (∀ a ∈ adds, 1 ≤ a.2) →
      occurrenceCount adds t d ≤ (adds.map Prod.snd).sum := by
    intro adds hpos
    unfold occurrenceCount
    apply List.Sublist.sum_le_sum (List.filter_sublist.map Prod.snd)
    intro count hcount
    obtain ⟨a, ha, rfl⟩ := List.mem_map.mp hcount
    have hone : 1 ≤ a.2 := hpos a ha
    omega
  have hfrequency : index.frequency t d ≤ index.totalTokenCount := by
    have hcount := hle adds hpos
    rw [← h.frequency_eq, ← h.tokens] at hcount
    exact Int.ofNat_le.mp hcount
  rw [← lt_writableBound_iff]
  exact Nat.lt_of_le_of_lt hfrequency htotal

end Books

/-- So can one after calls with few enough occurrences. -/
theorem fewDigits_afterCalls {calls : List CountedAdd}
    (h : (afterCalls calls).totalTokenCount < writableBound) : (afterCalls calls).FewDigits := by
  obtain ⟨hbooks, hpos⟩ := books_addAll (addAll_accepted_empty calls)
  exact hbooks.fewDigits_of_totalTokenCount hpos h

/-! ## Writing -/

/-- A function that succeeds on each element succeeds on the list. -/
theorem mapM_eq_ok {ε α β : Type} {f : α → Except ε β} {g : α → β} {l : List α}
    (h : ∀ a ∈ l, f a = .ok (g a)) : l.mapM f = .ok (l.map g) := by
  induction l with
  | nil => rfl
  | cons a l ih =>
    obtain ⟨ha, hl⟩ := List.forall_mem_cons.mp h
    rw [List.mapM_cons, ha, ih hl]
    rfl

/-- A run in which only one error can arise ends in it if it arises. -/
theorem mapM_eq_error {ε α β : Type} {f : α → Except ε β} {e : ε} {l : List α}
    (h : ∀ a ∈ l, (∃ b, f a = .ok b) ∨ f a = .error e) {a : α} (ha : a ∈ l)
    (hfail : f a = .error e) : l.mapM f = .error e := by
  induction l with
  | nil => exact absurd ha List.not_mem_nil
  | cons first rest ih =>
    obtain ⟨hfirst, hrest⟩ := List.forall_mem_cons.mp h
    rcases hfirst with ⟨b, hb⟩ | herror
    · rcases List.mem_cons.mp ha with rfl | ha
      · rw [hfail] at hb
        cases hb
      · rw [List.mapM_cons, hb, ih hrest ha]
        rfl
    · rw [List.mapM_cons, herror]
      rfl

/-- The characters of the line of a posting. -/
def lineOf (p : Posting) : List Char :=
  p.document.toList ++ '=' :: Nat.toDigits 10 p.frequency

/-- The lines of a saved index without their breaks. -/
def linesOf (listing : List (String × List Posting)) : List (List Char) :=
  listing.flatMap fun (t, postings) => ('[' :: (t.toList ++ [']'])) :: postings.map lineOf

/-- A posting whose frequency can be written has its line. -/
theorem postingLine_of_lt {p : Posting} (h : p.frequency < writableBound) :
    postingLine p = .ok (lineOf p) := by
  unfold postingLine
  rw [writeFrequency_of_lt h]
  rfl

/-- A frequency with too many digits has no line. -/
theorem postingLine_of_le {p : Posting} (h : writableBound ≤ p.frequency) :
    postingLine p = .error (.tooManyDigits {}) := by
  unfold postingLine
  rw [writeFrequency_of_le h]
  rfl

/-- A section whose frequencies can be written has its lines below the header. -/
theorem sectionText_of_lt {t : String} {postings : List Posting}
    (h : ∀ p ∈ postings, p.frequency < writableBound) :
    sectionText t postings = .ok (Sections.write t (postings.map lineOf)) := by
  unfold sectionText
  rw [mapM_eq_ok fun p hp => postingLine_of_lt (h p hp)]
  rfl

/-- A frequency with too many digits leaves no section. -/
theorem sectionText_of_le {t : String} {postings : List Posting} {p : Posting} (hp : p ∈ postings)
    (h : writableBound ≤ p.frequency) : sectionText t postings = .error (.tooManyDigits {}) := by
  have hcases : ∀ p ∈ postings,
      (∃ line, postingLine p = .ok line) ∨ postingLine p = .error (.tooManyDigits {}) := by
    intro p _
    rcases Nat.lt_or_ge p.frequency writableBound with hlt | hle
    · exact Or.inl ⟨_, postingLine_of_lt hlt⟩
    · exact Or.inr (postingLine_of_le hle)
  unfold sectionText
  rw [mapM_eq_error hcases hp (postingLine_of_le h)]
  rfl

/-- An index whose frequencies can be written has its lines for a text. -/
theorem toText_lines_of_lt {index : InvertedIndex}
    (h : ∀ entry ∈ index.listing, ∀ p ∈ entry.2, p.frequency < writableBound) :
    index.toText .lines = .ok ((linesOf index.listing).flatMap (· ++ ['\n'])) := by
  have hsections : index.listing.mapM (fun (t, postings) => sectionText t postings) =
      .ok (index.listing.map fun (t, postings) => Sections.write t (postings.map lineOf)) :=
    mapM_eq_ok fun entry hentry => sectionText_of_lt (h entry hentry)
  unfold toText
  rw [hsections]
  have hflat : ∀ listing : List (String × List Posting),
      (listing.map fun (t, postings) => Sections.write t (postings.map lineOf)).flatten =
        (linesOf listing).flatMap (· ++ ['\n']) := by
    intro listing
    unfold linesOf
    rw [List.flatMap_assoc, ← List.flatMap_def]
    apply List.flatMap_congr
    rintro ⟨t, postings⟩ -
    simp [Sections.write, List.flatMap_cons]
  exact congrArg Except.ok (hflat index.listing)

/-- An index whose frequencies can be written has its value for a JSON text. -/
theorem toText_json_of_lt {index : InvertedIndex}
    (h : ∀ entry ∈ index.listing, ∀ p ∈ entry.2, p.frequency < writableBound) :
    index.toText .json = .ok index.toJson.render := by
  unfold toText
  refine if_pos (List.all_eq_true.mpr ?_)
  intro entry hentry
  exact List.all_eq_true.mpr fun p hp => decide_eq_true (h entry hentry p hp)

/-- A frequency that is too large keeps an index from being written in either format. -/
theorem toText_of_le {index : InvertedIndex} {entry : String × List Posting}
    (hentry : entry ∈ index.listing) {p : Posting} (hp : p ∈ entry.2)
    (h : writableBound ≤ p.frequency) (format : StoreFormat) :
    index.toText format = .error (.tooManyDigits {}) := by
  cases format with
  | json =>
    unfold toText
    refine if_neg ?_
    intro hall
    have hpostings := List.all_eq_true.mp hall entry hentry
    have hlt := of_decide_eq_true (List.all_eq_true.mp hpostings p hp)
    exact Nat.not_lt.mpr h hlt
  | lines =>
    have hcases : ∀ entry ∈ index.listing, (∃ text, sectionText entry.1 entry.2 = .ok text) ∨
        sectionText entry.1 entry.2 = .error (.tooManyDigits {}) := by
      intro entry _
      by_cases hlt : ∀ p ∈ entry.2, p.frequency < writableBound
      · exact Or.inl ⟨_, sectionText_of_lt hlt⟩
      · push Not at hlt
        obtain ⟨p, hp, hle⟩ := hlt
        exact Or.inr (sectionText_of_le hp hle)
    have hsections := mapM_eq_error hcases hentry (sectionText_of_le hp h)
    unfold toText
    dsimp only
    rw [hsections]
    rfl

/-- An index can be written, in either format, exactly if its frequencies have few enough digits. -/
theorem Books.exists_toText_iff {adds : List CountedAdd} {index : InvertedIndex}
    (h : Books adds index) (hpos : ∀ a ∈ adds, 1 ≤ a.2) (format : StoreFormat) :
    (∃ text, index.toText format = .ok text) ↔ index.FewDigits := by
  rw [h.fewDigits_iff hpos]
  constructor
  · rintro ⟨text, htext⟩ entry hentry p hp
    apply Nat.not_le.mp
    intro hle
    rw [toText_of_le hentry hp hle] at htext
    cases htext
  · intro hlt
    cases format with
    | json => exact ⟨_, toText_json_of_lt hlt⟩
    | lines => exact ⟨_, toText_lines_of_lt hlt⟩

/-! ## Reading -/

/-- A listed frequency is at least one. -/
theorem one_le_frequency_of_mem_listing (calls : List CountedAdd) :
    ∀ entry ∈ (afterCalls calls).listing, ∀ p ∈ entry.2, 1 ≤ p.frequency := by
  rintro ⟨t, postings⟩ hlisted p hp
  obtain ⟨hbooks, hpos⟩ := books_addAll (addAll_accepted_empty calls)
  obtain ⟨-, rfl⟩ := mem_listing.mp hlisted
  exact ((hbooks.mem_getPostings_iff hpos).mp hp).2.2

/-- To load a posting is to make a call. -/
theorem Loading.add_eq_call (s : Loading) (t doc : String) {n : Nat} (h : 1 ≤ n) :
    s.add t doc n = ⟨s.index.call (⟨t, doc⟩, n), s.reports⟩ := by
  have hadd : s.index.add t doc n = .ok (s.index.addCount t doc n) := add_of_le (by omega)
  unfold Loading.add call
  rw [hadd]
  rfl

end InvertedIndex

namespace IncidenceMatrix

/-- Load the matrix that is saved at a path in a format. -/
def loadAs (format : StoreFormat) (tree : FileTree) (path : Path) (limits : NestingLimits := {}) :
    Loaded IncidenceMatrix :=
  match savedBytes tree path with
  | .error e => ⟨.error e, []⟩
  | .ok bytes => loadBytes path format bytes limits

/-- Loading picks the format by the suffix. -/
theorem load_eq_loadAs (tree : FileTree) (path : Path) (limits : NestingLimits) :
    load tree path limits = loadAs (.ofPath path) tree path limits := rfl

/-- Loading a matrix from wherever it was saved succeeds without a report and gives a matrix that
cannot be told from it, if calls may nest as deep as a store does. -/
def Survives (matrix : IncidenceMatrix) (format : StoreFormat) : Prop :=
  ∃ copy : IncidenceMatrix, copy.Restores matrix ∧
    ∀ limits : NestingLimits, 2 ≤ limits.json → ∀ tree tree' path,
      saveText tree path (matrix.toText format) = .ok tree' →
        loadAs format tree' path limits = ⟨.ok copy, []⟩

/-- A matrix survives when its text loads to a copy, wherever it was saved. -/
theorem survives_of_loadBytes {matrix copy : IncidenceMatrix} {format : StoreFormat}
    (hcopy : copy.Restores matrix)
    (hload : ∀ limits : NestingLimits, 2 ≤ limits.json → ∀ path,
      loadBytes path format (Encoding.encodeUtf8 (matrix.toText format)) limits = ⟨.ok copy, []⟩) :
    matrix.Survives format := by
  refine ⟨copy, hcopy, ?_⟩
  intro limits hlimits tree tree' path hsave
  unfold loadAs
  rw [savedBytes_of_saveText hsave]
  exact hload limits hlimits path

/-- A matrix lists no blank names. -/
theorem not_blank_of_mem_listing (calls : List Occurrence) :
    ∀ entry ∈ (afterCalls calls).listing, ∀ d ∈ entry.2,
      Text.isBlankText entry.1 = false ∧ Text.isBlankText d = false := by
  rintro ⟨t, docs⟩ hentry d hd
  have hmem : (⟨t, d⟩ : Occurrence) ∈ (afterCalls calls).refill :=
    List.mem_flatMap.mpr ⟨(t, docs), hentry, List.mem_map_of_mem hd⟩
  exact not_blank_of_mem_refill hmem

end IncidenceMatrix

end BooleanRetrieval
