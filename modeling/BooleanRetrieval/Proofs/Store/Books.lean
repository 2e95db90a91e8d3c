import BooleanRetrieval.Proofs.Store.Records
import Mathlib.Algebra.Order.BigOperators.Group.List
import Mathlib.Algebra.Order.Group.Int
import Mathlib.Algebra.Ring.Int.Defs
import Mathlib.Algebra.Ring.Nat
import Mathlib.Data.Finset.Card
import Mathlib.Data.Finset.Dedup

/-!
# The books of the index

An index that was filled by adds keeps books on them: the records of the adds (`Records`), the sum of
their counts for every stored posting, and the folded terms, ids and pairs that they name (`Books`).
An accepted call keeps the books (`Books.add`), and a refused one leaves the index as it is, so that a
run of calls leaves the books of its accepted calls (`books_afterCalls`).
-/

set_option autoImplicit false

namespace BooleanRetrieval

open Text (foldCase)

/-- A term in a document and how often it is said to occur there. -/
abbrev CountedAdd : Type := Occurrence × Int

namespace CountedAdd

/-- The folded term of an add. -/
def key (a : CountedAdd) : String :=
  foldCase a.1.term

/-- The folded document id of an add. -/
def documentKey (a : CountedAdd) : String :=
  foldCase a.1.document

/-- The folded term and document id of an add. -/
def pair (a : CountedAdd) : String × String :=
  (a.key, a.documentKey)

/-- The add of one occurrence. -/
def once (o : Occurrence) : CountedAdd :=
  (o, 1)

/-- Counting each occurrence once keeps the occurrences. -/
theorem map_fst_once (os : List Occurrence) : (os.map once).map Prod.fst = os := by
  rw [List.map_map]
  exact List.map_id _

/-- The counts of occurrences counted once are at least one. -/
theorem one_le_of_mem_once {os : List Occurrence} : ∀ a ∈ os.map once, 1 ≤ a.2 := by
  intro a ha
  obtain ⟨o, -, rfl⟩ := List.mem_map.mp ha
  exact Int.le_refl 1

end CountedAdd

/-- How often a term occurs in a document by a list of adds: the sum of their counts for the two, both
compared by case folding. -/
def occurrenceCount (adds : List CountedAdd) (t doc : String) : Int :=
  ((adds.filter fun a => a.pair = (foldCase t, foldCase doc)).map Prod.snd).sum

/-! ## Counting occurrences -/

/-- A term occurs in a document when some add has the folded pair of the two. -/
theorem occurs_iff_pair {adds : List CountedAdd} {t doc : String} :
    Occurs (adds.map Prod.fst) t doc ↔ ∃ a ∈ adds, a.pair = (foldCase t, foldCase doc) := by
  simp [Occurs, CountedAdd.pair, CountedAdd.key, CountedAdd.documentKey]

/-- One more add counts for the pair it names and for no other. -/
theorem occurrenceCount_append (adds : List CountedAdd) (a : CountedAdd) (t doc : String) :
    occurrenceCount (adds ++ [a]) t doc =
      occurrenceCount adds t doc + if a.pair = (foldCase t, foldCase doc) then a.2 else 0 := by
  unfold occurrenceCount
  by_cases h : a.pair = (foldCase t, foldCase doc) <;> simp [List.filter_append, h]

/-- The number of occurrences depends on the folded names only. -/
theorem occurrenceCount_congr {adds : List CountedAdd} {t u doc d : String}
    (ht : foldCase t = foldCase u) (hdoc : foldCase doc = foldCase d) :
    occurrenceCount adds t doc = occurrenceCount adds u d := by
  unfold occurrenceCount
  rw [ht, hdoc]

/-- A pair that does not occur has no occurrences. -/
theorem occurrenceCount_eq_zero {adds : List CountedAdd} {t doc : String}
    (h : ¬ Occurs (adds.map Prod.fst) t doc) : occurrenceCount adds t doc = 0 := by
  have hnone : adds.filter (fun a => a.pair = (foldCase t, foldCase doc)) = [] := by
    apply List.filter_eq_nil_iff.mpr
    intro a ha hpair
    exact h (occurs_iff_pair.mpr ⟨a, ha, by simpa using hpair⟩)
  unfold occurrenceCount
  rw [hnone]
  rfl

/-- A pair that occurs in adds with positive counts has a positive number of occurrences. -/
theorem occurrenceCount_pos {adds : List CountedAdd} (hpos : ∀ a ∈ adds, 1 ≤ a.2) {t doc : String}
    (h : Occurs (adds.map Prod.fst) t doc) : 0 < occurrenceCount adds t doc := by
  obtain ⟨a, ha, hpair⟩ := occurs_iff_pair.mp h
  have hmem : a.2 ∈ (adds.filter fun a => a.pair = (foldCase t, foldCase doc)).map Prod.snd :=
    List.mem_map_of_mem (List.mem_filter.mpr ⟨ha, by simpa using hpair⟩)
  apply List.sum_pos
  · intro count hcount
    obtain ⟨b, hb, rfl⟩ := List.mem_map.mp hcount
    have hone : 1 ≤ b.2 := hpos b (List.mem_of_mem_filter hb)
    omega
  · exact List.ne_nil_of_mem hmem

namespace OrderedMap

variable {α : Type}

/-! ## Sums over a map -/

/-- Writing under one key exchanges the old value for the new one in a sum over the entries. -/
theorem sum_upsertEntry (key : String) (f : Option α → α) (g : α → Nat)
    (entries : List (String × α)) :
    ((upsertEntry key f entries).map fun entry => g entry.2).sum +
        ((entries.lookup key).map g).getD 0 =
      (entries.map fun entry => g entry.2).sum + g (f (entries.lookup key)) := by
  induction entries with
  | nil => simp [upsertEntry]
  | cons entry rest ih =>
    obtain ⟨k, value⟩ := entry
    unfold upsertEntry
    rw [lookup_cons_ite]
    by_cases hk : k = key
    · simp only [hk, if_true, List.map_cons, List.sum_cons, Option.map_some, Option.getD_some]
      omega
    · have hne : key ≠ k := Ne.symm hk
      simp only [if_neg hk, if_neg hne, List.map_cons, List.sum_cons]
      omega

/-- In a sum over all values, an upsert exchanges what the old value of its key adds for what the new
one adds. -/
theorem sum_values_upsert (m : OrderedMap α) (key : String) (f : Option α → α) (g : α → Nat) :
    ((m.upsert key f).values.map g).sum + ((m.get? key).map g).getD 0 =
      (m.values.map g).sum + g (f (m.get? key)) := by
  unfold values
  rw [List.map_map, List.map_map]
  exact sum_upsertEntry key f g m.entries

end OrderedMap

namespace InvertedIndex

/-! ## Runs of calls -/

/-- The index after a call. A refused call leaves the index as it is. -/
def call (index : InvertedIndex) (a : CountedAdd) : InvertedIndex :=
  (index.add a.1.term a.1.document a.2).toOption.getD index

/-- The index that was empty before a run of calls. -/
def afterCalls (calls : List CountedAdd) : InvertedIndex :=
  calls.foldl call empty

/-- The calls of a run that are accepted. -/
def accepted (calls : List CountedAdd) : List CountedAdd :=
  calls.filter fun a => 1 ≤ a.2

/-- Calls with counts of at least one are all accepted. -/
theorem accepted_of_one_le {calls : List CountedAdd} (h : ∀ a ∈ calls, 1 ≤ a.2) :
    accepted calls = calls :=
  List.filter_eq_self.mpr fun a ha => by simpa using h a ha

/-- A count below one is refused with the error that shows it. -/
theorem add_of_lt {index : InvertedIndex} {t doc : String} {count : Int} (h : count < 1) :
    index.add t doc count = .error (.notPositive count) :=
  if_pos h

/-- A count of at least one is added. -/
theorem add_of_le {index : InvertedIndex} {t doc : String} {count : Int} (h : 1 ≤ count) :
    index.add t doc count = .ok (index.addCount t doc count.toNat) :=
  if_neg (Int.not_lt.mpr h)

/-- What a run of calls leaves is what its accepted calls leave, and they all succeed. -/
theorem addAll_accepted (index : InvertedIndex) (calls : List CountedAdd) :
    index.addAll (accepted calls) = .ok (calls.foldl call index) := by
  induction calls generalizing index with
  | nil => rfl
  | cons a calls ih =>
    rw [List.foldl_cons]
    by_cases ha : 1 ≤ a.2
    · have haccepted : accepted (a :: calls) = a :: accepted calls :=
        List.filter_cons_of_pos (by simpa using ha)
      have hcall : index.call a = index.addCount a.1.term a.1.document a.2.toNat := by
        rw [call, add_of_le ha]
        rfl
      rw [haccepted, addAll, List.foldlM_cons, add_of_le ha, hcall]
      exact ih _
    · have haccepted : accepted (a :: calls) = accepted calls :=
        List.filter_cons_of_neg (by simpa using ha)
      have hcall : index.call a = index := by
        rw [call, add_of_lt (Int.not_le.mp ha)]
        rfl
      rw [haccepted, hcall]
      exact ih index

/-- The accepted calls, added one after another, lead to the index after all the calls. -/
theorem addAll_accepted_empty (calls : List CountedAdd) :
    empty.addAll (accepted calls) = .ok (afterCalls calls) :=
  addAll_accepted empty calls

/-! ## What one add keeps -/

/-- The documents of a term with their stored frequencies. -/
def frequencies (index : InvertedIndex) (t : String) : OrderedMap Nat :=
  (index.postings.get? (foldCase t)).getD .empty

/-- The row of a term holds frequencies for the documents of the term. -/
theorem mem_keys_frequencies {index : InvertedIndex} {t d : String} :
    d ∈ (index.frequencies t).keys ↔ d ∈ index.documentsForTerm t :=
  mem_documentsForTerm.symm

/-- The frequency of a term in a document is what is stored under the spelling of the document. -/
theorem frequency_of_spelling? {index : InvertedIndex} {d s : String}
    (hs : index.registry.spelling? d = some s) (t : String) :
    index.frequency t d = ((index.frequencies t).get? s).getD 0 := by
  unfold frequency frequencies
  rw [hs, Option.bind_some]
  cases index.postings.get? (foldCase t) <;> rfl

/-- Adding a count changes the row of its own term and no other. -/
theorem frequencies_addCount (index : InvertedIndex) (t doc : String) (count : Nat) (u : String) :
    (index.addCount t doc count).frequencies u =
      if foldCase u = foldCase t then
        (index.frequencies t).upsert (index.registry.spelling doc) fun old => old.getD 0 + count
      else index.frequencies u := by
  unfold frequencies addCount
  dsimp only
  rw [OrderedMap.get?_upsert, Registry.spelling_register]
  split <;> rfl

/-- What an index that was filled by adds holds: their records, the count of every stored posting, and
the folded terms, ids and pairs that the adds name. -/
structure Books (adds : List CountedAdd) (index : InvertedIndex) : Prop where
  records : Records (adds.map Prod.fst) index.registry index.documentsForTerm
  stored : ∀ t d n, (index.frequencies t).get? d = some n → (n : Int) = occurrenceCount adds t d
  terms : index.terms = (adds.map CountedAdd.key).eraseDups
  documents : index.registry.spellings.keys = (adds.map CountedAdd.documentKey).eraseDups
  tokens : (index.totalTokenCount : Int) = (adds.map Prod.snd).sum
  pairs : index.totalPostings = (adds.map CountedAdd.pair).toFinset.card

/-- One more key is one more distinct key unless it was there. -/
theorem eraseDups_append_singleton (keys : List String) (key : String) :
    (keys ++ [key]).eraseDups =
      if key ∈ keys.eraseDups then keys.eraseDups else keys.eraseDups ++ [key] := by
  rw [List.eraseDups_append]
  by_cases h : key ∈ keys <;> simp [List.removeAll, List.eraseDups_cons, h]

/-! ## Totals -/

/-- In a sum over the terms of an index, an add exchanges what the frequencies of its term add before
for what they add after it. -/
theorem sum_values_addCount (index : InvertedIndex) (t doc : String) (count : Nat)
    {g : OrderedMap Nat → Nat} (hg : g .empty = 0) :
    ((index.addCount t doc count).postings.values.map g).sum + g (index.frequencies t) =
      (index.postings.values.map g).sum + g ((index.addCount t doc count).frequencies t) := by
  have hsum := OrderedMap.sum_values_upsert index.postings (foldCase t)
    (fun old => (old.getD .empty).upsert (index.registry.spelling doc) fun old => old.getD 0 + count) g
  have hold : ((index.postings.get? (foldCase t)).map g).getD 0 = g (index.frequencies t) := by
    unfold frequencies
    cases index.postings.get? (foldCase t) with
    | none => exact hg.symm
    | some frequencies => rfl
  rw [hold] at hsum
  rw [frequencies_addCount, if_pos rfl]
  unfold addCount
  dsimp only
  rw [Registry.spelling_register]
  exact hsum

/-- Adding a count raises the total of the tokens by it. -/
theorem totalTokenCount_addCount (index : InvertedIndex) (t doc : String) (count : Nat) :
    (index.addCount t doc count).totalTokenCount = index.totalTokenCount + count := by
  have hinner := OrderedMap.sum_values_upsert (index.frequencies t) (index.registry.spelling doc)
    (fun old => old.getD 0 + count) id
  have houter := sum_values_addCount index t doc count (g := fun frequencies => frequencies.values.sum) rfl
  rw [frequencies_addCount, if_pos rfl] at houter
  have htotal : ∀ index : InvertedIndex, index.totalTokenCount =
      (index.postings.values.map fun frequencies => frequencies.values.sum).sum := fun _ => rfl
  simp only [List.map_id, Option.map_id, id] at hinner
  rw [htotal, htotal]
  omega

/-- Adding a count makes one more posting unless the document was in the row already. -/
theorem totalPostings_addCount (index : InvertedIndex) (t doc : String) (count : Nat) :
    (index.addCount t doc count).totalPostings =
      if index.registry.spelling doc ∈ (index.frequencies t).keys then index.totalPostings
      else index.totalPostings + 1 := by
  have houter := sum_values_addCount index t doc count (g := OrderedMap.size) rfl
  rw [frequencies_addCount, if_pos rfl, OrderedMap.size_eq_length_keys (OrderedMap.upsert ..),
    OrderedMap.keys_upsert, OrderedMap.size_eq_length_keys (index.frequencies t)] at houter
  have htotal : ∀ index : InvertedIndex,
      index.totalPostings = (index.postings.values.map OrderedMap.size).sum := fun _ => rfl
  rw [htotal, htotal]
  split at houter
  · next hmem =>
    rw [if_pos hmem]
    omega
  · next hmem =>
    rw [if_neg hmem]
    rw [List.length_append, List.length_singleton] at houter
    omega

namespace Books

variable {adds : List CountedAdd} {index : InvertedIndex}

/-- The empty index keeps the books of no adds. -/
theorem nil : Books [] empty where
  records := .nil fun _ _ => List.not_mem_nil
  stored t d n h := by cases h
  terms := rfl
  documents := rfl
  tokens := rfl
  pairs := rfl

/-- The new spelling of an add is a document of its term exactly if the pair has been added before. -/
theorem spelling_mem_iff (h : Books adds index) (a : CountedAdd) :
    index.registry.spelling a.1.document ∈ index.documentsForTerm a.1.term ↔
      a.pair ∈ adds.map CountedAdd.pair := by
  rw [h.records.documents, h.records.spelling_eq]
  have hfold : foldCase ((firstSpelling (adds.map Prod.fst) a.1.document).getD a.1.document) =
      foldCase a.1.document := by
    rw [← h.records.spelling_eq]
    exact h.records.foldCase_spelling a.1.document
  have hpair : Occurs (adds.map Prod.fst) a.1.term
      ((firstSpelling (adds.map Prod.fst) a.1.document).getD a.1.document) ↔
        a.pair ∈ adds.map CountedAdd.pair := by
    rw [occurs_iff_pair, hfold, List.mem_map]
    rfl
  rw [hpair, and_iff_right_iff_imp]
  intro hmem
  obtain ⟨s, hs⟩ := (hpair.mpr hmem).exists_firstSpelling
  have hsame : firstSpelling (adds.map Prod.fst) a.1.document = some s := by
    rwa [firstSpelling_congr hfold] at hs
  rw [hsame] at hs ⊢
  exact hs

/-- The stored number of a spelling counts its adds, none if it is not stored, as long as spellings that
occur are stored. -/
theorem getD_get?_frequencies (h : Books adds index) {t s : String}
    (hs : Occurs (adds.map Prod.fst) t s → s ∈ index.documentsForTerm t) :
    (((index.frequencies t).get? s).getD 0 : Int) = occurrenceCount adds t s := by
  cases hget : (index.frequencies t).get? s with
  | some n => exact h.stored t s n hget
  | none =>
    have hkeys : s ∉ index.documentsForTerm t := by
      rw [← mem_keys_frequencies, OrderedMap.mem_keys_iff, hget]
      rintro ⟨value, hvalue⟩
      cases hvalue
    rw [occurrenceCount_eq_zero (mt hs hkeys)]
    rfl

/-- The frequency stored by an accepted add is the number of occurrences with that add. -/
theorem stored_add (h : Books adds index) {a : CountedAdd} (ha : 1 ≤ a.2) {t d : String} {n : Nat}
    (hn : ((index.addCount a.1.term a.1.document a.2.toNat).frequencies t).get? d = some n) :
    (n : Int) = occurrenceCount (adds ++ [a]) t d := by
  rw [frequencies_addCount] at hn
  rw [occurrenceCount_append]
  by_cases hterm : foldCase t = foldCase a.1.term
  · rw [if_pos hterm, OrderedMap.get?_upsert] at hn
    have hcount : occurrenceCount adds a.1.term d = occurrenceCount adds t d :=
      occurrenceCount_congr hterm.symm rfl
    by_cases hd : d = index.registry.spelling a.1.document
    · have hpair : a.pair = (foldCase t, foldCase d) := by
        rw [hd, h.records.foldCase_spelling, hterm]
        rfl
      -- a spelling without a frequency has not occurred with the term so far
      have hold : (((index.frequencies a.1.term).get? d).getD 0 : Int) =
          occurrenceCount adds a.1.term d := by
        apply h.getD_get?_frequencies
        intro hoccurs
        obtain ⟨b, hb, hbpair⟩ := occurs_iff_pair.mp hoccurs
        rw [hd]
        exact (h.spelling_mem_iff a).mpr (List.mem_map.mpr ⟨b, hb, by rw [hbpair, hpair, hterm]⟩)
      rw [if_pos hd, ← hd] at hn
      obtain rfl := Option.some.inj hn
      rw [if_pos hpair, ← hcount, ← hold]
      omega
    · rw [if_neg hd] at hn
      have hpair : a.pair ≠ (foldCase t, foldCase d) := by
        intro hpair
        have hsame : foldCase a.1.document = foldCase d := congrArg Prod.snd hpair
        have hmem : d ∈ index.documentsForTerm a.1.term :=
          mem_keys_frequencies.mp (OrderedMap.mem_keys_iff.mpr ⟨n, hn⟩)
        have hspelling := ((h.records.documents _ _).mp hmem).1
        rw [← firstSpelling_congr hsame] at hspelling
        exact hd (by rw [h.records.spelling_eq, hspelling, Option.getD_some])
      rw [if_neg hpair, add_zero, ← hcount]
      exact h.stored _ _ n hn
  · rw [if_neg hterm] at hn
    have hpair : a.pair ≠ (foldCase t, foldCase d) := fun hpair =>
      hterm (congrArg Prod.fst hpair).symm
    rw [if_neg hpair, add_zero]
    exact h.stored t d n hn

/-- An accepted add keeps the books. -/
theorem add (h : Books adds index) {a : CountedAdd} (ha : 1 ≤ a.2) :
    Books (adds ++ [a]) (index.addCount a.1.term a.1.document a.2.toNat) where
  records := by
    rw [List.map_append]
    exact h.records.add a.1 (mem_documentsForTerm_addCount index a.1.term a.1.document _)
  stored t d n := h.stored_add ha
  terms := by
    have hkeys := OrderedMap.keys_upsert index.postings a.key
      (fun old => (old.getD .empty).upsert (index.registry.spelling a.1.document)
        fun old => old.getD 0 + a.2.toNat)
    have hterms : index.postings.keys = (adds.map CountedAdd.key).eraseDups := h.terms
    rw [hterms] at hkeys
    rw [List.map_append, List.map_singleton, eraseDups_append_singleton, ← hkeys]
    unfold InvertedIndex.terms addCount
    dsimp only
    rw [Registry.spelling_register]
    rfl
  documents := by
    rw [List.map_append, List.map_singleton, eraseDups_append_singleton, ← h.documents]
    exact OrderedMap.keys_upsert index.registry.spellings a.documentKey _
  tokens := by
    rw [totalTokenCount_addCount, List.map_append, List.sum_append, ← h.tokens]
    simp
    omega
  pairs := by
    have hinsert : ((adds ++ [a]).map CountedAdd.pair).toFinset =
        insert a.pair (adds.map CountedAdd.pair).toFinset := by
      ext pair
      simp
    -- the posting is new exactly if the pair is
    have hmem : index.registry.spelling a.1.document ∈ (index.frequencies a.1.term).keys ↔
        a.pair ∈ (adds.map CountedAdd.pair).toFinset := by
      rw [mem_keys_frequencies, h.spelling_mem_iff, List.mem_toFinset]
    rw [totalPostings_addCount, hinsert, Finset.card_insert_eq_ite, h.pairs]
    simp only [hmem]

/-! ## Reading the books -/

/-- The frequency of a pair is what the row stores under the first spelling of the document. -/
theorem frequency_eq_getD (h : Books adds index) {d spelling : String}
    (hd : firstSpelling (adds.map Prod.fst) d = some spelling) (t : String) :
    index.frequency t d = ((index.frequencies t).get? spelling).getD 0 := by
  have hspelling : index.registry.spelling? d = some spelling := by rw [h.records.spelling, hd]
  exact frequency_of_spelling? hspelling t

/-- The frequency of a pair is the number of its occurrences, also when it has none. -/
theorem frequency_eq (h : Books adds index) (t d : String) :
    (index.frequency t d : Int) = occurrenceCount adds t d := by
  cases hd : firstSpelling (adds.map Prod.fst) d with
  | none =>
    have hnot : ¬ Occurs (adds.map Prod.fst) t d := by
      intro hoccurs
      obtain ⟨spelling, hspelling⟩ := hoccurs.exists_firstSpelling
      rw [hd] at hspelling
      cases hspelling
    have hzero : index.frequency t d = 0 := by
      unfold frequency
      rw [h.records.spelling, hd]
      rfl
    rw [hzero, occurrenceCount_eq_zero hnot]
    rfl
  | some spelling =>
    have hfold : foldCase spelling = foldCase d := foldCase_of_firstSpelling hd
    rw [h.frequency_eq_getD hd, ← occurrenceCount_congr rfl hfold]
    have hspelling : firstSpelling (adds.map Prod.fst) spelling = some spelling := by
      rw [firstSpelling_congr hfold, hd]
    rw [← h.getD_get?_frequencies fun hoccurs => (h.records.documents _ _).mpr ⟨hspelling, hoccurs⟩]

/-- A row stores a frequency under a name exactly when the name is a first spelling and the frequency is
positive. -/
theorem get?_frequencies_iff (h : Books adds index) (hpos : ∀ a ∈ adds, 1 ≤ a.2) {t d : String}
    {n : Nat} :
    (index.frequencies t).get? d = some n ↔
      firstSpelling (adds.map Prod.fst) d = some d ∧ n = index.frequency t d ∧ 0 < n := by
  constructor
  · intro hn
    have hmem : d ∈ index.documentsForTerm t :=
      mem_keys_frequencies.mp (OrderedMap.mem_keys_iff.mpr ⟨n, hn⟩)
    obtain ⟨hspelling, hoccurs⟩ := (h.records.documents t d).mp hmem
    have hcount : (n : Int) = occurrenceCount adds t d := h.stored t d n hn
    have hfrequency := h.frequency_eq t d
    have hpositive := occurrenceCount_pos hpos hoccurs
    refine ⟨hspelling, ?_, ?_⟩ <;> omega
  · rintro ⟨hspelling, hn, hpositive⟩
    rw [h.frequency_eq_getD hspelling] at hn
    cases hget : (index.frequencies t).get? d with
    | none =>
      rw [hget, Option.getD_none] at hn
      omega
    | some m => rw [hn, hget, Option.getD_some]

/-- The postings of a term are the first spellings of its documents with their frequencies. -/
theorem mem_getPostings_iff (h : Books adds index) (hpos : ∀ a ∈ adds, 1 ≤ a.2) {t : String}
    {p : Posting} :
    p ∈ index.getPostings t ↔ firstSpelling (adds.map Prod.fst) p.document = some p.document ∧
      p.frequency = index.frequency t p.document ∧ 0 < p.frequency := by
  rw [← h.get?_frequencies_iff hpos, OrderedMap.get?_eq_some_iff, getPostings, List.mem_mergeSort,
    postingsOf, List.mem_map]
  constructor
  · rintro ⟨⟨d, n⟩, hmem, rfl⟩
    exact hmem
  · intro hmem
    exact ⟨_, hmem, rfl⟩

end Books

/-! ## The books of a run -/

/-- An accepted call has a count of at least one. -/
theorem one_le_of_add {index next : InvertedIndex} {t doc : String} {count : Int}
    (h : index.add t doc count = .ok next) : 1 ≤ count := by
  apply Int.not_lt.mp
  intro hlt
  rw [add_of_lt hlt] at h
  cases h

/-- An index that was empty before a run of adds that all succeed has the books of the adds, whose
counts are positive. -/
theorem books_addAll {adds : List CountedAdd} {index : InvertedIndex}
    (h : empty.addAll adds = .ok index) : Books adds index ∧ ∀ a ∈ adds, 1 ≤ a.2 := by
  have hempty : Books [] empty ∧ ∀ a ∈ ([] : List CountedAdd), 1 ≤ a.2 :=
    ⟨.nil, fun a ha => absurd ha List.not_mem_nil⟩
  refine foldlM_induction
    (fun (adds : List CountedAdd) (index : InvertedIndex) => Books adds index ∧ ∀ a ∈ adds, 1 ≤ a.2)
    (fun before index a next hbefore hnext => ?_) hempty h
  obtain ⟨hbooks, hpos⟩ := hbefore
  have ha : 1 ≤ a.2 := one_le_of_add hnext
  rw [eq_addCount_of_add hnext]
  refine ⟨hbooks.add ha, ?_⟩
  intro b hb
  rcases List.mem_append.mp hb with hb | hb
  · exact hpos b hb
  · rwa [List.mem_singleton.mp hb]

/-- The index after a run of calls keeps the books of the accepted ones. -/
theorem books_afterCalls (calls : List CountedAdd) :
    Books (accepted calls) (afterCalls calls) :=
  (books_addAll (addAll_accepted_empty calls)).1

/-- The index after occurrences counted once keeps the books of all of them. -/
theorem books_once (os : List Occurrence) :
    Books (os.map CountedAdd.once) (afterCalls (os.map CountedAdd.once)) := by
  have hbooks := books_afterCalls (os.map CountedAdd.once)
  rwa [accepted_of_one_le CountedAdd.one_le_of_mem_once] at hbooks

end InvertedIndex

end BooleanRetrieval
