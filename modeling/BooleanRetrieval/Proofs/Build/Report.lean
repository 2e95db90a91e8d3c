import BooleanRetrieval.Proofs.Build.Course

/-!
# The report on a build

A build that returns has settled each position of its list of paths in one way (`Settles`), and its
report and its log can be read off these outcomes. The report is made one outcome at a time, and each keeps
it true to the outcomes so far (`Accounts.record`): a path that fails again keeps its place among the failed
ones and gets the text of its later failure.
-/

set_option autoImplicit false

namespace BooleanRetrieval

open Text (isBlankText)

/-! ## What becomes of a file -/

namespace Builder

/-- What comes of taking in a word of a document, whatever the stores hold so far: nothing, or a refusal. -/
def Files (builder : Builder) (doc w : String) (refusal : Option FileFailure) : Prop :=
  ∀ stores : Stores, stores.hasMatrix = builder.withMatrix →
    (builder.takeWord doc stores w).2 = refusal

/-- How a file that has a reader fails: it cannot be opened, a word of it cannot be normalized, or its term
cannot be added, or its reading stops. -/
inductive Fails (builder : Builder) (tree : FileTree) (path : String) : FileFailure → Prop
  | opening {reader : Reader} {e : FileError} (hreader : Reader.forFile builder.readers path = some reader)
      (hopen : tree.readText path = .error e) : Fails builder tree path (.file e)
  | normalizing {reader : Reader} {bytes : List UInt8} {before after : List String} {w : String}
      {complaint : Complaint} (hreader : Reader.forFile builder.readers path = some reader)
      (hopen : tree.readText path = .ok bytes) (hwords : (reader.read bytes).words = before ++ w :: after)
      (hbefore : ∀ u ∈ before, builder.Files (documentId path) u none)
      (hword : builder.normalize w = .error complaint) : Fails builder tree path (.normalizing complaint)
  | adding {reader : Reader} {bytes : List UInt8} {before after : List String} {w : String} {e : CellError}
      (hreader : Reader.forFile builder.readers path = some reader)
      (hopen : tree.readText path = .ok bytes) (hwords : (reader.read bytes).words = before ++ w :: after)
      (hbefore : ∀ u ∈ before, builder.Files (documentId path) u none)
      (hword : builder.Files (documentId path) w (some (.cell e))) : Fails builder tree path (.cell e)
  | reading {reader : Reader} {bytes : List UInt8} {e : ReadError}
      (hreader : Reader.forFile builder.readers path = some reader)
      (hopen : tree.readText path = .ok bytes)
      (hwords : ∀ w ∈ (reader.read bytes).words, builder.Files (documentId path) w none)
      (hstop : (reader.read bytes).error = some e) : Fails builder tree path (.reading e)

/-- What becomes of a file: it is skipped if no reader handles it, it fails if something fails, and
otherwise it is indexed. -/
structure Settles (builder : Builder) (tree : FileTree) (path : String) (outcome : FileOutcome) : Prop where
  skipped_iff : outcome = .skipped ↔ Reader.forFile builder.readers path = none
  failed_iff : ∀ failure, outcome = .failed failure ↔ builder.Fails tree path failure

variable {builder : Builder} {tree : FileTree} {path : String}

/-- A file has only one outcome. -/
theorem Settles.unique {outcome outcome' : FileOutcome} (h : builder.Settles tree path outcome)
    (h' : builder.Settles tree path outcome') : outcome = outcome' := by
  cases outcome with
  | skipped => exact (h'.skipped_iff.mpr (h.skipped_iff.mp rfl)).symm
  | failed failure => exact ((h'.failed_iff failure).mpr ((h.failed_iff failure).mp rfl)).symm
  | indexed =>
    cases outcome' with
    | indexed => rfl
    | skipped => exact h.skipped_iff.mpr (h'.skipped_iff.mp rfl)
    | failed failure => exact (h.failed_iff failure).mpr ((h'.failed_iff failure).mp rfl)

/-- What comes of taking in a word does not depend on what the stores hold. -/
theorem files_iff {doc w : String} {refusal : Option FileFailure} :
    builder.Files doc w refusal ↔ builder.refusal doc w = refusal := by
  constructor
  · intro h
    rw [← h (.empty builder.withMatrix) (Stores.hasMatrix_empty _),
      takeWord_eq_fill (Stores.hasMatrix_empty _)]
  · rintro rfl stores hmatrix
    rw [takeWord_eq_fill hmatrix]

/-- A word is refused with the complaint about its normalization exactly if there is one. -/
theorem refusal_eq_normalizing_iff {doc w : String} {complaint : Complaint} :
    builder.refusal doc w = some (.normalizing complaint) ↔ builder.normalize w = .error complaint := by
  unfold refusal
  cases builder.normalize w with
  | error complaint' => simp
  | ok t => cases builder.withMatrix && isBlankText doc && !isBlankText t <;> simp

/-- A word is refused for one of two reasons. -/
theorem refusal_cases {doc w : String} {failure : FileFailure}
    (h : builder.refusal doc w = some failure) :
    (∃ complaint, failure = .normalizing complaint) ∨ ∃ e, failure = .cell e := by
  unfold refusal at h
  split at h
  · exact .inl ⟨_, (Option.some.inj h).symm⟩
  · split at h
    · exact .inr ⟨_, (Option.some.inj h).symm⟩
    · cases h

/-- A file that can be opened fails at the first word that is refused, and else where its reading stops. -/
theorem fails_iff_of_readText {reader : Reader} {bytes : List UInt8}
    (hreader : Reader.forFile builder.readers path = some reader) (hopen : tree.readText path = .ok bytes)
    {failure : FileFailure} :
    builder.Fails tree path failure ↔
      match (reader.read bytes).words.findSome? (builder.refusal (documentId path)) with
      | some refusal => refusal = failure
      | none => ∃ e, (reader.read bytes).error = some e ∧ failure = .reading e := by
  -- the first refused word of a file that is known to be one of its words
  have hfirst : ∀ {before after : List String} {w : String} {refusal : FileFailure},
      (reader.read bytes).words = before ++ w :: after →
      (∀ u ∈ before, builder.Files (documentId path) u none) →
      builder.refusal (documentId path) w = some refusal →
      (reader.read bytes).words.findSome? (builder.refusal (documentId path)) = some refusal := by
    intro before after w refusal hwords hbefore hword
    have hnone : before.findSome? (builder.refusal (documentId path)) = none :=
      List.findSome?_eq_none_iff.mpr fun u hu => files_iff.mp (hbefore u hu)
    rw [hwords, List.findSome?_append, hnone, Option.none_or, List.findSome?_cons, hword]
  constructor
  · intro h
    cases h with
    | opening hreader' hopen' =>
      rw [hopen] at hopen'
      cases hopen'
    | normalizing hreader' hopen' hwords hbefore hword =>
      obtain rfl := Option.some.inj (hreader.symm.trans hreader')
      obtain rfl := Except.ok.inj (hopen.symm.trans hopen')
      rw [hfirst hwords hbefore (refusal_eq_normalizing_iff.mpr hword)]
    | adding hreader' hopen' hwords hbefore hword =>
      obtain rfl := Option.some.inj (hreader.symm.trans hreader')
      obtain rfl := Except.ok.inj (hopen.symm.trans hopen')
      rw [hfirst hwords hbefore (files_iff.mp hword)]
    | reading hreader' hopen' hwords hstop =>
      obtain rfl := Option.some.inj (hreader.symm.trans hreader')
      obtain rfl := Except.ok.inj (hopen.symm.trans hopen')
      rw [List.findSome?_eq_none_iff.mpr fun w hw => files_iff.mp (hwords w hw)]
      exact ⟨_, hstop, rfl⟩
  · intro h
    cases hfind : (reader.read bytes).words.findSome? (builder.refusal (documentId path)) with
    | none =>
      rw [hfind] at h
      obtain ⟨e, hstop, rfl⟩ := h
      exact .reading hreader hopen
        (fun w hw => files_iff.mpr (List.findSome?_eq_none_iff.mp hfind w hw)) hstop
    | some refusal =>
      rw [hfind] at h
      subst h
      obtain ⟨before, w, after, hwords, hword, hbefore⟩ := List.findSome?_eq_some_iff.mp hfind
      have hfiles : ∀ u ∈ before, builder.Files (documentId path) u none :=
        fun u hu => files_iff.mpr (hbefore u hu)
      rcases refusal_cases hword with ⟨complaint, rfl⟩ | ⟨e, rfl⟩
      · exact .normalizing hreader hopen hwords hfiles (refusal_eq_normalizing_iff.mp hword)
      · exact .adding hreader hopen hwords hfiles (files_iff.mpr hword)

/-- A visit has the outcome of its file. -/
theorem settles_visit (builder : Builder) (tree : FileTree) (path : String) :
    builder.Settles tree path (builder.visit tree path).outcome := by
  unfold visit
  cases hreader : Reader.forFile builder.readers path with
  | none =>
    refine ⟨iff_of_true rfl hreader, fun failure => iff_of_false (by simp) fun h => ?_⟩
    cases h <;> simp_all
  | some reader =>
    cases hopen : tree.readText path with
    | error e =>
      refine ⟨iff_of_false (by simp) (by simp [hreader]), fun failure => ⟨?_, fun h => ?_⟩⟩
      · rintro ⟨⟩
        exact .opening hreader hopen
      · cases h <;> simp_all
    | ok bytes =>
      dsimp only
      cases hfind : (reader.read bytes).words.findSome? (builder.refusal (documentId path)) with
      | some refusal =>
        refine ⟨iff_of_false (by simp) (by simp [hreader]), fun failure => ?_⟩
        rw [fails_iff_of_readText hreader hopen, hfind]
        simp
      | none =>
        refine ⟨iff_of_false (reader.read bytes).outcome_ne_skipped (by simp [hreader]), fun failure => ?_⟩
        rw [fails_iff_of_readText hreader hopen, hfind]
        unfold Reading.outcome
        cases (reader.read bytes).error <;> simp [eq_comm]

end Builder

/-! ## What became of a list of paths -/

/-- How a file failed, if it did. -/
def FileOutcome.failure? : FileOutcome → Option FileFailure
  | indexed => none
  | skipped => none
  | failed failure => some failure

/-- Paths in their order, each with what became of its file. -/
abbrev Outcomes : Type := List (String × FileOutcome)

namespace Outcomes

/-- What is logged about the files. -/
def records (outcomes : Outcomes) : List LogRecord :=
  outcomes.flatMap fun (path, outcome) => outcome.records path

/-- The paths with an outcome. -/
def pathsWith (outcome : FileOutcome) (outcomes : Outcomes) : List String :=
  (outcomes.filter fun o => o.2 = outcome).map Prod.fst

/-- The paths that failed, with their failures. -/
def failures (outcomes : Outcomes) : List (String × FileFailure) :=
  outcomes.filterMap fun (path, outcome) => outcome.failure?.map (path, ·)

/-- One more outcome adds its path to those with that outcome. -/
theorem pathsWith_append (outcome : FileOutcome) (outcomes : Outcomes) (path : String)
    (outcome' : FileOutcome) :
    pathsWith outcome (outcomes ++ [(path, outcome')]) =
      pathsWith outcome outcomes ++ if outcome' = outcome then [path] else [] := by
  unfold pathsWith
  by_cases h : outcome' = outcome <;> simp [List.filter_append, h]

/-- One more outcome adds its failure, if it is one. -/
theorem failures_append (outcomes : Outcomes) (path : String) (outcome : FileOutcome) :
    failures (outcomes ++ [(path, outcome)]) =
      failures outcomes ++ (outcome.failure?.map (path, ·)).toList := by
  unfold failures
  rw [List.filterMap_append]
  cases outcome <;> rfl

/-- The paths that failed are among the paths, in their order. -/
theorem failures_sublist (outcomes : Outcomes) :
    (outcomes.failures.map Prod.fst).Sublist (outcomes.map Prod.fst) := by
  induction outcomes with
  | nil => exact List.nil_sublist []
  | cons o outcomes ih =>
    obtain ⟨path, outcome⟩ := o
    cases outcome with
    | indexed => exact ih.cons path
    | skipped => exact ih.cons path
    | failed failure => exact ih.cons_cons path

/-- Each position has one outcome of the three. -/
theorem length_eq (outcomes : Outcomes) :
    (outcomes.pathsWith .indexed).length + outcomes.failures.length +
      (outcomes.pathsWith .skipped).length = outcomes.length := by
  induction outcomes with
  | nil => rfl
  | cons o outcomes ih =>
    obtain ⟨path, outcome⟩ := o
    cases outcome <;> simp [pathsWith, failures, FileOutcome.failure?] at ih ⊢ <;> omega

end Outcomes

/-! ## The report -/

/-- The summary of a failure is its message, or its kind where the message is empty. -/
theorem FileFailure.summary_eq (failure : FileFailure) :
    failure.summary = if failure.message = "" then failure.kind else failure.message := by
  unfold summary
  by_cases h : failure.message = "" <;> simp [h]

namespace BuildReport

/-- A report is true to outcomes: it has the indexed and the skipped paths in their order, and each failed
path once, in the order of the first failures, with the text of the last. -/
structure Accounts (report : BuildReport) (outcomes : Outcomes) : Prop where
  indexed : report.indexed = outcomes.pathsWith .indexed
  skipped : report.skipped = outcomes.pathsWith .skipped
  failedPaths : report.failed.keys = (outcomes.failures.map Prod.fst).eraseDups
  /-- Where a failure has no text, the name of its kind stands for it. -/
  lastFailure : ∀ before path failure after, outcomes.failures = before ++ (path, failure) :: after →
    path ∉ after.map Prod.fst → report.failed.get? path =
      some (if failure.message = "" then failure.kind else failure.message)

/-- The empty report is true to no outcomes. -/
theorem accounts_nil : empty.Accounts [] where
  indexed := rfl
  skipped := rfl
  failedPaths := rfl
  lastFailure before path failure after h := by simp [Outcomes.failures] at h

/-- Recording an outcome adds the path to the indexed ones when it was indexed. -/
theorem indexed_record (report : BuildReport) (path : String) (outcome : FileOutcome) :
    (report.record path outcome).indexed =
      report.indexed ++ if outcome = .indexed then [path] else [] := by
  cases outcome <;> simp [BuildReport.record]

/-- Recording an outcome adds the path to the skipped ones when it was skipped. -/
theorem skipped_record (report : BuildReport) (path : String) (outcome : FileOutcome) :
    (report.record path outcome).skipped =
      report.skipped ++ if outcome = .skipped then [path] else [] := by
  cases outcome <;> simp [BuildReport.record]

/-- An outcome that is no failure leaves the failed paths as they are. -/
theorem failed_record_none (report : BuildReport) (path : String) {outcome : FileOutcome}
    (h : outcome.failure? = none) : (report.record path outcome).failed = report.failed := by
  cases outcome with
  | indexed => rfl
  | skipped => rfl
  | failed failure => cases h

/-- A failure is entered at its path with its summary. -/
theorem failed_record_some (report : BuildReport) (path : String) {outcome : FileOutcome}
    {failure : FileFailure} (h : outcome.failure? = some failure) :
    (report.record path outcome).failed = report.failed.insert path failure.summary := by
  cases outcome with
  | indexed => cases h
  | skipped => cases h
  | failed failure' =>
    obtain rfl := Option.some.inj h
    rfl

/-- A report that is true to the outcomes so far is kept true by recording one more. -/
theorem Accounts.record {report : BuildReport} {outcomes : Outcomes} (h : report.Accounts outcomes)
    (path : String) (outcome : FileOutcome) :
    (report.record path outcome).Accounts (outcomes ++ [(path, outcome)]) where
  indexed := by rw [indexed_record, Outcomes.pathsWith_append, h.indexed]
  skipped := by rw [skipped_record, Outcomes.pathsWith_append, h.skipped]
  failedPaths := by
    rw [Outcomes.failures_append]
    cases hfailure : outcome.failure? with
    | none => simpa [failed_record_none report path hfailure] using h.failedPaths
    | some failure =>
      rw [failed_record_some report path hfailure, Option.map_some, Option.toList_some, List.map_append,
        List.map_singleton, InvertedIndex.eraseDups_append_singleton, ← h.failedPaths]
      exact OrderedMap.keys_upsert _ _ _
  lastFailure before p f after hsplit hlast := by
    rw [Outcomes.failures_append] at hsplit
    cases hfailure : outcome.failure? with
    | none =>
      rw [hfailure, Option.map_none, Option.toList_none, List.append_nil] at hsplit
      rw [failed_record_none report path hfailure]
      exact h.lastFailure before p f after hsplit hlast
    | some failure =>
      rw [hfailure, Option.map_some, Option.toList_some] at hsplit
      rw [failed_record_some report path hfailure, OrderedMap.insert, OrderedMap.get?_upsert]
      rcases List.eq_nil_or_concat after with rfl | ⟨after, last, rfl⟩
      · -- the new failure is the last one
        obtain ⟨-, hnew⟩ := List.append_inj' hsplit rfl
        cases hnew
        rw [if_pos rfl, FileFailure.summary_eq]
      · rw [List.concat_eq_append, ← List.cons_append, ← List.append_assoc] at hsplit
        obtain ⟨hearlier, hnew⟩ := List.append_inj' hsplit rfl
        cases hnew
        rw [List.concat_eq_append, List.map_append, List.mem_append, not_or] at hlast
        rw [if_neg fun heq : p = path => hlast.2 (heq ▸ List.mem_singleton_self p)]
        exact h.lastFailure before p f after hearlier hlast.1

/-- The report on outcomes is true to them. -/
theorem accounts_foldl (outcomes : Outcomes) :
    (outcomes.foldl (fun report o => report.record o.1 o.2) empty).Accounts outcomes := by
  induction outcomes using List.reverseRecOn with
  | nil => exact accounts_nil
  | append_singleton outcomes o ih =>
    rw [List.foldl_append]
    exact ih.record o.1 o.2

/-- Where no path is repeated, the numbers of a report add up to the number of paths. -/
theorem Accounts.count {report : BuildReport} {outcomes : Outcomes} (h : report.Accounts outcomes)
    (hnodup : (outcomes.map Prod.fst).Nodup) :
    report.indexedCount + report.failedCount + report.skipped.length = outcomes.length := by
  have hfailed : report.failedCount = outcomes.failures.length := by
    have hperm : report.failed.keys.Perm (outcomes.failures.map Prod.fst) := by
      refine (List.perm_ext_iff_of_nodup report.failed.nodup ?_).mpr fun path => ?_
      · exact outcomes.failures_sublist.nodup hnodup
      · exact (h.failedPaths ▸ List.mem_eraseDups : path ∈ report.failed.keys ↔ _)
    rw [failedCount, OrderedMap.size_eq_length_keys, hperm.length_eq, List.length_map]
  rw [hfailed, indexedCount, h.indexed, h.skipped, outcomes.length_eq]

end BuildReport

/-! ## The build -/

namespace Outcomes

/-- What became of visited files. -/
def ofVisits (visits : List Visit) : Outcomes :=
  visits.map fun v => (v.path, v.outcome)

/-- The outcomes of visits are about the visited paths. -/
theorem map_fst_ofVisits (visits : List Visit) :
    (ofVisits visits).map Prod.fst = visits.map Visit.path := by
  rw [ofVisits, List.map_map]
  rfl

/-- What is logged about the outcomes is what each visit logs. -/
theorem records_ofVisits (visits : List Visit) :
    (ofVisits visits).records = visits.flatMap fun v => v.outcome.records v.path := by
  rw [records, ofVisits, List.flatMap_map]

/-- A report on the outcomes is the report on the visits. -/
theorem foldl_ofVisits (visits : List Visit) (report : BuildReport) :
    (ofVisits visits).foldl (fun report o => report.record o.1 o.2) report =
      visits.foldl (fun report v => report.record v.path v.outcome) report := by
  rw [ofVisits, List.foldl_map]

/-- The warning about a failure. -/
def warning (failure : String × FileFailure) : LogRecord :=
  ⟨.warning, buildLogger, "Error processing file " ++ failure.1 ++ ": " ++ failure.2.message⟩

/-- Of what is logged about files, the failures are the warnings. -/
theorem filter_records (outcomes : Outcomes) :
    (outcomes.records.filter fun record => record.level = .warning) = outcomes.failures.map warning := by
  induction outcomes with
  | nil => rfl
  | cons o outcomes ih =>
    obtain ⟨path, outcome⟩ := o
    have hrecords : records ((path, outcome) :: outcomes) = outcome.records path ++ records outcomes :=
      List.flatMap_cons
    rw [hrecords, List.filter_append, ih]
    cases outcome <;> rfl

end Outcomes

namespace Builder

variable {builder : Builder}

/-- At each position, the outcome is that of the file in the tree that the records of the earlier ones have
left. -/
theorem settles_of_visits (treeAfter : List LogRecord → FileTree) (log : List LogRecord)
    (paths : List String) {before after : Outcomes} {path : String} {outcome : FileOutcome}
    (h : Outcomes.ofVisits (builder.visits treeAfter log paths) = before ++ (path, outcome) :: after) :
    builder.Settles (treeAfter (log ++ before.records)) path outcome := by
  induction paths generalizing log before with
  | nil => simp [visits, Outcomes.ofVisits] at h
  | cons first paths ih =>
    have hvisits : Outcomes.ofVisits (builder.visits treeAfter log (first :: paths)) =
        (first, (builder.visit (treeAfter log) first).outcome) ::
          Outcomes.ofVisits (builder.visits treeAfter
            (log ++ (builder.visit (treeAfter log) first).outcome.records first) paths) := by
      rw [visits, Outcomes.ofVisits, List.map_cons, path_visit]
      rfl
    rw [hvisits] at h
    cases before with
    | nil =>
      obtain ⟨hhead, -⟩ := List.cons.inj h
      obtain ⟨rfl, rfl⟩ := Prod.mk.inj hhead
      rw [Outcomes.records, List.flatMap_nil, List.append_nil]
      exact settles_visit builder (treeAfter log) _
    | cons o before =>
      obtain ⟨hhead, htail⟩ := List.cons.inj h
      subst hhead
      have hrest := ih _ htail
      rw [List.append_assoc] at hrest
      exact hrest

/-- What a build that is not cancelled reports and logs. -/
theorem course_of_quiet {treeAfter : List LogRecord → FileTree} {paths : List String}
    (hquiet : (happenings (builder.visits treeAfter [opening paths.length 1] paths)).all isQuiet = true) :
    let outcomes := Outcomes.ofVisits (builder.visits treeAfter [opening paths.length 1] paths)
    (builder.course treeAfter paths false).report =
        outcomes.foldl (fun report o => report.record o.1 o.2) .empty ∧
      (builder.course treeAfter paths false).log = opening paths.length 1 :: outcomes.records := by
  intro outcomes
  constructor
  · rw [course, takeFiles_report_of_visits (Stores.hasMatrix_empty _) _ _ _ hquiet]
    exact (Outcomes.foldl_ofVisits _ _).symm
  · rw [course, takeFiles_log_of_visits (Stores.hasMatrix_empty _) _ _ _ hquiet]
    exact congrArg _ (Outcomes.records_ofVisits _).symm

/-- A build with one worker that returns has settled each position of its list of paths in one way: it is
skipped if no reader handles it, it failed if it could not be opened, read, normalized or added, and else it
is indexed.
The report has the indexed and the skipped paths in their order, and each path that failed, in the order of
the first failures, with the text of the last or the name of its kind. There is a warning for each position
that failed, and where no path is repeated, the numbers of the report add up to the number of paths. -/
theorem report_accounts_for_every_path {treeAfter : List LogRecord → FileTree} {paths : List String}
    {cancelled : Bool} {built : Built}
    (hbuild : builder.build treeAfter paths cancelled 1 = .ok built) :
    ∃ outcomes : Outcomes, outcomes.map Prod.fst = paths ∧
      (∀ (before : Outcomes) path outcome after, outcomes = before ++ (path, outcome) :: after → ∀ other,
        builder.Settles (treeAfter (opening paths.length 1 :: before.records)) path other ↔
          other = outcome) ∧
      built.report.Accounts outcomes ∧
      (built.log.filter fun record => record.level = .warning) =
        outcomes.failures.map Outcomes.warning ∧
      (paths.Nodup → built.report.indexedCount + built.report.failedCount +
        built.report.skipped.length = paths.length) := by
  obtain ⟨rfl, hquiet, rfl⟩ := course_of_build_eq_ok hbuild
  obtain ⟨hreport, hlog⟩ := course_of_quiet hquiet
  have haccounts := BuildReport.accounts_foldl
    (.ofVisits (builder.visits treeAfter [opening paths.length 1] paths))
  rw [← hreport] at haccounts
  have hpaths : (Outcomes.ofVisits (builder.visits treeAfter [opening paths.length 1] paths)).map Prod.fst =
      paths := (Outcomes.map_fst_ofVisits _).trans (map_path_visits builder treeAfter _ paths)
  refine ⟨_, hpaths, fun before path outcome after hsplit other => ?_, haccounts, ?_, fun hnodup => ?_⟩
  · have houtcome := settles_of_visits treeAfter _ paths hsplit
    exact ⟨fun hother => hother.unique houtcome, fun heq => heq ▸ houtcome⟩
  · have hends : ∀ summary : String, List.filter (fun record : LogRecord => record.level = .warning)
        [⟨.info, buildLogger, summary⟩] = [] := fun _ => rfl
    rw [← Outcomes.filter_records, hlog, List.filter_append, hends, List.append_nil]
    rfl
  · rw [haccounts.count (by rwa [hpaths]), ← List.length_map, hpaths]

/-- A file that fails twice without a text, one that is not there, one that no reader handles, one with a
word that cannot be normalized and one that is read. -/
theorem report_accounts_for_every_path_repeated :
    let fickle : Reader := ⟨.other "fickle", [".txt"], fun bytes =>
      if bytes.isEmpty then ⟨[.word "cat"], some (.custom ⟨"", "KeyError", by decide⟩)⟩
      else .ofWords ["dog", if bytes = [65] then "cat" else "?"]⟩
    let normalize (w : String) : Except Complaint String := if w = "?" then .error "no letters" else .ok w
    let tree : FileTree := { entries := [(["a.txt"], .file []), (["b.txt"], .file [65]),
      (["c.txt"], .file [66])] }
    let paths := ["a.txt", "notes.md", "b.txt", "gone.txt", "c.txt", "a.txt"]
    ∃ built, (Builder.mk [fickle] normalize true).build (fun _ => tree) paths false 1 = .ok built ∧
      (∃ outcomes : Outcomes, outcomes.map Prod.fst = paths ∧ built.report.Accounts outcomes ∧
        (built.log.filter fun record => record.level = .warning) =
          outcomes.failures.map Outcomes.warning) ∧
      built.report.indexed = ["b.txt"] ∧ built.report.skipped = ["notes.md"] ∧
      built.report.failed.entries = [("a.txt", "KeyError"),
        ("gone.txt", "[Errno 2] No such file or directory: 'gone.txt'"), ("c.txt", "no letters")] := by
  intro fickle normalize tree paths
  have hresult : ((Builder.mk [fickle] normalize true).build (fun _ => tree) paths false 1).toOption.map
      (fun built => (built.report.indexed, built.report.skipped, built.report.failed.entries)) =
        some (["b.txt"], ["notes.md"], [("a.txt", "KeyError"),
          ("gone.txt", "[Errno 2] No such file or directory: 'gone.txt'"), ("c.txt", "no letters")]) := by
    decide +kernel
  cases hbuild : (Builder.mk [fickle] normalize true).build (fun _ => tree) paths false 1 with
  | error e =>
    rw [hbuild] at hresult
    cases hresult
  | ok built =>
    obtain ⟨outcomes, hpaths, -, haccounts, hwarnings, -⟩ := report_accounts_for_every_path hbuild
    rw [hbuild] at hresult
    obtain ⟨hindexed, hrest⟩ := Prod.mk.inj (Option.some.inj hresult)
    obtain ⟨hskipped, hfailed⟩ := Prod.mk.inj hrest
    exact ⟨built, rfl, ⟨outcomes, hpaths, haccounts, hwarnings⟩, hindexed, hskipped, hfailed⟩

end Builder

end BooleanRetrieval
