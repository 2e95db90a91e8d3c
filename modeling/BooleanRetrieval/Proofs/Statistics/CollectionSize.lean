import BooleanRetrieval.Proofs.Statistics.Table

/-!
# The size of a collection

Every file of a collection adds its size to that of the collection or, if it is not there, a warning to the
log (`collect_cons`). The size is shown in megabytes in the fourth line of the report. Below `2 ^ 53` the
quotient is stored without being rounded, so that the number that is shown is the nearest hundredth to it
(`exists_showsSize`).
-/

set_option autoImplicit false

namespace BooleanRetrieval

namespace Statistics

/-- What one file adds to the log: a warning, if it is not there. -/
def warnings (file : String × Option ℕ) : List LogRecord :=
  if file.2 = none then
    [⟨.warning, "boolindex.stats", "File " ++ file.1 ++ " vanished before its size was counted"⟩]
  else []

/-- A report shows a number of hundredths as the size of the collection. -/
def ShowsSize (text : String) (n : ℕ) : Prop :=
  ∃ cell, (readTable text)[3]? = some ["", "Collection size (MB)", cell, ""] ∧ WritesHundredths cell n

/-! ## Counting the files -/

/-- Without a file the size is zero and nothing is logged. -/
theorem collect_nil (index : Option InvertedIndex) (matrix : Option IncidenceMatrix) :
    (collect index matrix []).1.collectionBytes = 0 ∧ (collect index matrix []).2 = [] :=
  ⟨rfl, rfl⟩

/-- One file more adds its size or a warning. -/
theorem collect_cons (index : Option InvertedIndex) (matrix : Option IncidenceMatrix)
    (file : String × Option ℕ) (files : List (String × Option ℕ)) :
    (collect index matrix (file :: files)).1.collectionBytes =
        file.2.getD 0 + (collect index matrix files).1.collectionBytes ∧
      (collect index matrix (file :: files)).2 = warnings file ++ (collect index matrix files).2 := by
  obtain ⟨path, size⟩ := file
  cases size with
  | none => exact ⟨(Nat.zero_add _).symm, rfl⟩
  | some size => exact ⟨rfl, rfl⟩

/-- The size is the sum over the files that are there, and each of the others is warned about. -/
theorem collect_eq (index : Option InvertedIndex) (matrix : Option IncidenceMatrix)
    (files : List (String × Option ℕ)) :
    (collect index matrix files).1.collectionBytes = (files.map fun file => file.2.getD 0).sum ∧
      (collect index matrix files).2 = files.flatMap warnings := by
  induction files with
  | nil => exact collect_nil index matrix
  | cons file files ih =>
    obtain ⟨hbytes, hlog⟩ := collect_cons index matrix file files
    rw [hbytes, hlog, ih.1, ih.2]
    exact ⟨rfl, rfl⟩

/-! ## Showing the size -/

/-- A text shows one size only. -/
theorem ShowsSize.unique {text : String} {n m : ℕ} (h : ShowsSize text n) (h' : ShowsSize text m) :
    n = m := by
  obtain ⟨cell, hcell, hwrites⟩ := h
  obtain ⟨cell', hcell', hwrites'⟩ := h'
  rw [hcell] at hcell'
  have hsame : cell = cell' := by simpa using hcell'
  exact hwrites.unique (hsame ▸ hwrites')

/-- A megabyte is a power of two. -/
theorem megabyte_eq_two_pow : megabyte = 2 ^ 20 := by
  decide

/-- A report shows the nearest number of hundredths to the size in megabytes. -/
theorem exists_showsSize {s : Statistics} {text : String} (h : s.report = .ok text)
    (hsmall : s.collectionBytes < 2 ^ 53) :
    ∃ n, ShowsSize text n ∧ NearestHundredths ((s.collectionBytes : ℚ) / 2 ^ 20) n := by
  obtain ⟨n, hwrites, hnearest⟩ :=
    exists_writesHundredths_twoPlaces hsmall (show 0 < 20 by decide) (by decide)
  rw [← megabyte_eq_two_pow] at hwrites
  refine ⟨n, ⟨_, ?_, hwrites⟩, hnearest⟩
  rw [(readTable_report h).2]
  simp [table]

/-- The size of a collection is the sum of the sizes of its files, each counted as often as it is listed, and
there is a warning for each time that a file is not there. Unless a number of the report has too many digits
to be written, the report can be shown, and its bars stand below each other. Of a size of less than `2 ^ 53`
bytes it shows the nearest number of hundredths of a megabyte, the even one of two nearest. So it is wrong by
half a hundredth at most, and of two such reports the one of the larger collection does not show the smaller
number. -/
theorem collection_size_is_shown_to_nearest_hundredth (index : Option InvertedIndex)
    (matrix : Option IncidenceMatrix) (files : List (String × Option ℕ)) :
    let s := (collect index matrix files).1
    let total := (files.map fun file => file.2.getD 0).sum
    s.collectionBytes = total ∧ (collect index matrix files).2 = files.flatMap warnings ∧
      ((∃ text, s.report = .ok text) ↔ ∀ n ∈ s.counts, n < writableBound) ∧
      ∀ text, s.report = .ok text →
        (∃ position, ∀ line ∈ text.toList.splitOn '\n', BarsAt position line) ∧
        (total < 2 ^ 53 → ∃ n, ShowsSize text n ∧ NearestHundredths ((total : ℚ) / 2 ^ 20) n ∧
          |(n : ℚ) / 100 - (total : ℚ) / 2 ^ 20| ≤ 0.005 ∧
          ∀ (other : Statistics) (text' : String) (n' : ℕ), other.report = .ok text' →
            total ≤ other.collectionBytes → other.collectionBytes < 2 ^ 53 → ShowsSize text' n' →
            n ≤ n') := by
  intro s total
  obtain ⟨hbytes, hlog⟩ := collect_eq index matrix files
  refine ⟨hbytes, hlog, exists_report_iff, fun text htext => ⟨⟨_, (readTable_report htext).1⟩, ?_⟩⟩
  intro hsmall
  obtain ⟨n, hshows, hnearest⟩ := exists_showsSize htext (hbytes.symm ▸ hsmall)
  rw [hbytes] at hnearest
  have herror : |(n : ℚ) / 100 - (total : ℚ) / 2 ^ 20| ≤ 0.005 := by
    have hhalf : (1 : ℚ) / 200 = 0.005 := by norm_num
    rw [← hhalf]
    exact hnearest.error_le
  refine ⟨n, hshows, hnearest, herror, ?_⟩
  intro other text' n' htext' hle hsmall' hshows'
  obtain ⟨k, hk, hnearest'⟩ := exists_showsSize htext' hsmall'
  rw [hshows'.unique hk]
  apply hnearest.mono hnearest'
  have hcast : (total : ℚ) ≤ other.collectionBytes := by exact_mod_cast hle
  exact div_le_div_of_nonneg_right hcast (by norm_num)

/-- Two sizes just halfway between two hundredths: one of them is rounded down, the other up. A file that is
not there has no size, and one that is listed twice has it twice. -/
theorem collection_size_is_shown_to_nearest_hundredth_halfway :
    let files : List (String × Option ℕ) := [("a.txt", some 131072), ("b.txt", none)]
    let more := files ++ [("a.txt", some 131072), ("c.txt", some 131072)]
    (∃ text, (collect none none files).1.report = .ok text ∧ ShowsSize text 12) ∧
      (∃ text, (collect none none more).1.report = .ok text ∧ ShowsSize text 38) ∧
      (collect none none more).1.collectionBytes = 393216 ∧
      (collect none none more).2.map LogRecord.summary =
        ["WARNING File b.txt vanished before its size was counted"] := by
  intro files more
  have hcount : 4 < writableBound := by decide +kernel
  have hwritable : ∀ files : List (String × Option ℕ), files.length ≤ 4 →
      ∀ n ∈ (collect none none files).1.counts, n < writableBound := by
    intro files hlength n hn
    rw [List.mem_singleton.mp hn]
    exact Nat.lt_of_le_of_lt hlength hcount
  have hrounded : ∀ n : ℕ, NearestHundredths ((n : ℚ) / 2 ^ 20) (roundQuotient (n * 100) (2 ^ 20)) := by
    intro n
    have hquotient := nearestHundredths_roundQuotient n (Nat.two_pow_pos 20)
    rwa [Nat.cast_pow, Nat.cast_ofNat] at hquotient
  obtain ⟨-, -, hreport, hshown⟩ := collection_size_is_shown_to_nearest_hundredth none none files
  obtain ⟨hbytes, -, hreport', hshown'⟩ :=
    collection_size_is_shown_to_nearest_hundredth none none more
  obtain ⟨text, htext⟩ := hreport.mpr (hwritable files (by decide))
  obtain ⟨text', htext'⟩ := hreport'.mpr (hwritable more (by decide))
  obtain ⟨n, hshows, hnearest, -⟩ := (hshown text htext).2 (by decide)
  obtain ⟨n', hshows', hnearest', -⟩ := (hshown' text' htext').2 (by decide)
  have hn : n = 12 := hnearest.unique (hrounded 131072)
  have hn' : n' = 38 := hnearest'.unique (hrounded 393216)
  subst hn hn'
  exact ⟨⟨text, htext, hshows⟩, ⟨text', htext', hshows'⟩, hbytes, by decide +kernel⟩

end Statistics

end BooleanRetrieval
