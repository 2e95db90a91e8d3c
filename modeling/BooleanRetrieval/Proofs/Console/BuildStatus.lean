import BooleanRetrieval.Proofs.Build.Agreement
import BooleanRetrieval.Proofs.Console.BuildCourse
import BooleanRetrieval.Proofs.Saved.RefusedTargets
import BooleanRetrieval.Proofs.Saved.JsonRoundTrip
import BooleanRetrieval.Proofs.Statistics.Table

/-!
# What the status of a build tells

A build that ends with a status other than zero has left the file tree as it was. With status zero it has
saved the stores that it has built, but for the files which the file tree refuses to write: those are reported
on the console, and the others are saved all the same (`Delivered`). What it has saved as JSON is loaded as the
stores that were built, since what is found in the output directory are the saved texts. The program always
ends with a status (`build_status_tells_what_was_saved`) if the file tree answers what it is asked about the
directory of the texts, the output directory can be made and no number has too many digits to be shown: the
numbers of a report are those of the words and the files at most (`InvertedIndex.sizes_le`,
`IncidenceMatrix.sizes_le`).
-/

set_option autoImplicit false

namespace BooleanRetrieval

/-! ## Numbers that are shown -/

/-- None of the numbers about an index exceeds the number of its occurrences. -/
theorem InvertedIndex.sizes_le (os : List Occurrence) :
    let sizes := (afterCalls (os.map CountedAdd.once)).sizes
    sizes.tokens = os.length ∧ sizes.vocabulary ≤ os.length ∧ sizes.documents ≤ os.length ∧
      sizes.postings ≤ os.length := by
  intro sizes
  have hbooks := books_once os
  have htally := hbooks.tally CountedAdd.one_le_of_mem_once
  have hcard : ∀ {β : Type} [DecidableEq β] (f : CountedAdd → β),
      ((os.map CountedAdd.once).map f).toFinset.card ≤ os.length := by
    intro β _ f
    refine (List.toFinset_card_le _).trans ?_
    rw [List.length_map, List.length_map]
  refine ⟨?_, ?_, ?_, ?_⟩
  · have htokens := hbooks.tokens
    simp only [List.map_map, Function.comp_def, CountedAdd.once, List.map_const', List.sum_replicate,
      nsmul_eq_mul, mul_one] at htokens
    exact Int.ofNat.inj htokens
  · exact htally.vocabularySize.trans_le (hcard _)
  · exact htally.documentCount.trans_le (hcard _)
  · exact htally.totalPostings.trans_le (hcard _)

/-- None of the numbers about a matrix exceeds the number of its occurrences. -/
theorem IncidenceMatrix.sizes_le (os : List Occurrence) :
    let sizes := (afterCalls os).sizes
    sizes.vocabulary ≤ os.length ∧ sizes.documents ≤ os.length ∧ sizes.entries ≤ os.length := by
  intro sizes
  have haccepted : (accepted os).length ≤ os.length := List.length_filter_le _ _
  obtain ⟨-, hvocabulary, hdocuments, hpostings⟩ := InvertedIndex.sizes_le (accepted os)
  have hagree := (InvertedIndex.afterCalls ((accepted os).map CountedAdd.once)).agree_presence
  have hmatrix : afterCalls os =
      (InvertedIndex.afterCalls ((accepted os).map CountedAdd.once)).presence :=
    afterCalls_eq_presence os
  refine ⟨?_, ?_, ?_⟩
  · have heq : sizes.vocabulary = _ := congrArg vocabularySize hmatrix
    rw [heq, ← hagree.vocabularySize]
    exact hvocabulary.trans haccepted
  · have heq : sizes.documents = _ := congrArg documentCount hmatrix
    rw [heq, ← hagree.documentCount]
    exact hdocuments.trans haccepted
  · have heq : sizes.entries = _ := congrArg nonZeroEntries hmatrix
    rw [heq, ← hagree.cells]
    exact hpostings.trans haccepted

/-! ## Loading what a directory holds -/

section Loading

variable {tree written saved : FileTree} {path : Path} {text : List Char}

/-- An index that survives is loaded from wherever its text is found. -/
theorem InvertedIndex.Survives.exists_loadAs {index : InvertedIndex} {format : StoreFormat}
    (h : index.Survives format) (htext : index.toText format = .ok text)
    (hsaved : saveText written path text = .ok saved)
    (hfind : tree.find path = .ok (.file (Encoding.encodeUtf8 text))) :
    ∃ copy : InvertedIndex, copy.Restores index ∧ ∀ limits : NestingLimits, 2 ≤ limits.json →
      loadAs format tree path limits = ⟨.ok copy, []⟩ := by
  obtain ⟨text', copy, htext', hcopy, hload⟩ := h
  rw [htext] at htext'
  cases htext'
  refine ⟨copy, hcopy, fun limits hlimits => ?_⟩
  rw [← hload limits hlimits written saved path hsaved]
  unfold loadAs
  rw [savedBytes_of_saveText hsaved, savedBytes_of_find hfind]

/-- And so is a matrix. -/
theorem IncidenceMatrix.Survives.exists_loadAs {matrix : IncidenceMatrix} {format : StoreFormat}
    (h : matrix.Survives format) (hsaved : saveText written path (matrix.toText format) = .ok saved)
    (hfind : tree.find path = .ok (.file (Encoding.encodeUtf8 (matrix.toText format)))) :
    ∃ copy : IncidenceMatrix, copy.Restores matrix ∧ ∀ limits : NestingLimits, 2 ≤ limits.json →
      loadAs format tree path limits = ⟨.ok copy, []⟩ := by
  obtain ⟨copy, hcopy, hload⟩ := h
  refine ⟨copy, hcopy, fun limits hlimits => ?_⟩
  rw [← hload limits hlimits written saved path hsaved]
  unfold loadAs
  rw [savedBytes_of_saveText hsaved, savedBytes_of_find hfind]

end Loading

/-- The suffix of a path is that of its last name. -/
theorem suffix_child (directory : Path) (name : String) :
    (directory.child name).suffix = .ofList (Path.suffixOf name.toList) := by
  unfold Path.child Path.suffix Path.name
  rw [List.getLast?_concat]
  rfl

/-- The name of the first index file asks for JSON. -/
theorem ofPath_indexJson (directory : Path) :
    StoreFormat.ofPath (directory.child indexJsonName) = .json := by
  unfold StoreFormat.ofPath
  rw [suffix_child]
  decide +kernel

/-- The name of the first matrix file asks for JSON. -/
theorem ofPath_matrixJson (directory : Path) :
    StoreFormat.ofPath (directory.child matrixJsonName) = .json := by
  unfold StoreFormat.ofPath
  rw [suffix_child]
  decide +kernel

namespace BuildProgram

variable {env : Environment} {a : BuildArguments} {tree : FileTree} {built : Built}

/-! ## What was built -/

/-- What was built holds the occurrences of words that were filed; the matrix may have refused some. -/
theorem BuiltFrom.exists_filed (h : BuiltFrom env a tree built) :
    ∃ indexed matrixed : List Occurrence,
      built.stores.index = .afterCalls (indexed.map CountedAdd.once) ∧
      built.stores.matrix = some (.afterCalls matrixed) ∧ matrixed.length ≤ indexed.length := by
  obtain ⟨paths, workers, -, -, hbuild⟩ := h
  exact Builder.exists_filed rfl hbuild

/-- No more files are reported as indexed than there are entries in the tree. -/
theorem BuiltFrom.length_indexed_le (h : BuiltFrom env a tree built) :
    built.report.indexed.length ≤ tree.entries.length := by
  obtain ⟨paths, workers, hpaths, -, hbuild⟩ := h
  have hindexed := Builder.length_indexed_le hbuild
  rw [List.length_map] at hindexed
  exact hindexed.trans (FileTree.length_le_of_discover hpaths)

/-- The numbers of what was built are those of its words and of the files of the tree at most. -/
theorem BuiltFrom.counts_le (h : BuiltFrom env a tree built) :
    ∀ n ∈ (statisticsOf tree built).counts,
      n ≤ built.stores.index.totalTokenCount ∨ n ≤ tree.entries.length := by
  obtain ⟨indexed, matrixed, hindex, hmatrix, hlength⟩ := h.exists_filed
  obtain ⟨htokens, hvocabulary, hdocuments, hpostings⟩ := InvertedIndex.sizes_le indexed
  obtain ⟨hrows, hseen, hentries⟩ := IncidenceMatrix.sizes_le matrixed
  have htotal : built.stores.index.totalTokenCount = indexed.length := by
    rw [hindex]
    exact htokens
  have hfiles : (sizesOf tree built.report.indexed).length ≤ tree.entries.length := by
    unfold sizesOf
    rw [List.length_map]
    exact h.length_indexed_le
  unfold statisticsOf Statistics.collect Statistics.counts
  rw [htotal, hindex, hmatrix]
  simp only [Option.map_some, Option.getD_some, List.cons_append, List.nil_append,
    List.forall_mem_cons, List.not_mem_nil, false_imp_iff, implies_true, and_true]
  exact ⟨.inr hfiles, .inl htokens.le, .inl hvocabulary, .inl hdocuments, .inl hpostings,
    .inl (hrows.trans hlength), .inl (hseen.trans hlength), .inl (hentries.trans hlength)⟩

/-! ## What is saved -/

/-- The files that are saved of an index with the given texts and a matrix. -/
def targetsOf (indexJson indexLines : List Char) (matrix : IncidenceMatrix) : List SaveTarget :=
  [(indexJsonName, indexJson), (indexLinesName, indexLines), (matrixJsonName, matrix.toText .json),
    (matrixLinesName, matrix.toText .lines)]

/-- What is saved of both stores are their four targets. -/
theorem saveJobs_eq_targetsOf {index : InvertedIndex} {indexJson indexLines : List Char}
    (hjson : index.toText .json = .ok indexJson) (hlines : index.toText .lines = .ok indexLines)
    (matrix : IncidenceMatrix) :
    saveJobs (some index) (some matrix) =
      (targetsOf indexJson indexLines matrix).map SaveTarget.job :=
  (IndexTargets.some hjson hlines).saveJobs_eq (some matrix)

/-- Each of the four targets has a proper name. -/
theorem properName_of_mem_targetsOf {indexJson indexLines : List Char} {matrix : IncidenceMatrix} :
    ∀ target ∈ targetsOf indexJson indexLines matrix, ProperName target.1 :=
  fun _ htarget => properName_of_mem_targetNames _ (List.mem_map_of_mem htarget)

/-- The four targets have different names. -/
theorem nodup_targetsOf (indexJson indexLines : List Char) (matrix : IncidenceMatrix) :
    ((targetsOf indexJson indexLines matrix).map Prod.fst).Nodup :=
  nodup_targetNames

/-- The file tree refuses to write a file, as a directory has its name, its path is too long or nothing may be
made or changed there, and this has been reported on the console. -/
def Withheld (clock : Clock) (s : Session) (path : Path) : Prop :=
  ∃ fault ∈ [FileFault.isDirectory, .nameTooLong, .denied], s.tree.Refuses path fault ∧
    (Channel.records, Logging.line clock (refusedRecord path fault)) ∈ s.written

/-- A target of saving is as it should be: it is a file with its text, or it could not be written and this was
reported. -/
def Delivered (clock : Clock) (s : Session) (directory : Path) (target : SaveTarget) : Prop :=
  s.tree.find (directory.child target.1) = .ok (.file (Encoding.encodeUtf8 target.2)) ∨
    Withheld clock s (directory.child target.1)

/-- What a build leaves in its output directory. -/
structure Saves (clock : Clock) (stores : Stores) (directory : Path) (s : Session) : Prop where
  delivered : ∃ indexJson indexLines matrix, stores.index.toText .json = .ok indexJson ∧
    stores.index.toText .lines = .ok indexLines ∧ stores.matrix = some matrix ∧
    ∀ target ∈ targetsOf indexJson indexLines matrix, Delivered clock s directory target
  /-- The index is loaded from its JSON file as it was built. -/
  index : ¬ Withheld clock s (directory.child indexJsonName) →
    ∃ copy : InvertedIndex, copy.Restores stores.index ∧
      ∀ limits : NestingLimits, 2 ≤ limits.json →
        InvertedIndex.load s.tree (directory.child indexJsonName) limits = ⟨.ok copy, []⟩
  /-- And so is the matrix. -/
  matrix : ¬ Withheld clock s (directory.child matrixJsonName) →
    ∃ (copy matrix : IncidenceMatrix), stores.matrix = some matrix ∧ copy.Restores matrix ∧
      ∀ limits : NestingLimits, 2 ≤ limits.json →
        IncidenceMatrix.load s.tree (directory.child matrixJsonName) limits = ⟨.ok copy, []⟩

/-- A target of a run of saving that is not reported can be written and is there when the run is over. -/
theorem saved_of_saveTargets {s : Session} {made : FileTree} {directory : Path} {place : Place}
    {targets : List SaveTarget} (hopens : made.Opens directory place)
    (htree : s.tree = made.saveTargets directory place targets)
    (hproper : ∀ target ∈ targets, ProperName target.1) (hnames : (targets.map Prod.fst).Nodup)
    (hwritten : ∀ target ∈ targets, ∀ fault, target.refusal? made directory place = some fault →
      (Channel.records, Logging.line env.clock (refusedRecord (directory.child target.1) fault)) ∈
        s.written)
    {target : SaveTarget} (htarget : target ∈ targets)
    (hfree : ¬ Withheld env.clock s (directory.child target.1)) :
    (∃ saved, saveText made (directory.child target.1) target.2 = .ok saved) ∧
      s.tree.find (directory.child target.1) = .ok (.file (Encoding.encodeUtf8 target.2)) := by
  cases hrefusal : target.refusal? made directory place with
  | none =>
    constructor
    · rw [hopens.saveText_child (hproper target htarget)]
      unfold SaveTarget.refusal? at hrefusal
      rw [hrefusal]
      exact ⟨_, rfl⟩
    · rw [htree]
      exact hopens.find_saveTargets hproper hnames htarget hrefusal
  | some fault =>
    refine absurd ⟨fault, FileTree.mem_of_refusal? hrefusal, ?_, hwritten target htarget fault hrefusal⟩ hfree
    rw [htree]
    exact (hopens.saveTargets targets).refuses_child (hproper target htarget)
      (FileTree.refusal?_saveTargets hnames htarget hrefusal)

/-- A build that saves stores has a text of its index in either format. -/
theorem exists_toText_of_saveStructures {saving : Saving} {matrix : Option IncidenceMatrix} {directory : Path}
    {index : InvertedIndex} {clock : Clock}
    (hsaving : saveStructures clock tree (some index) matrix directory = .ok saving)
    (format : StoreFormat) : ∃ text, index.toText format = .ok text := by
  obtain ⟨-, htexts⟩ := saveStructures_ok_iff.mp ⟨saving, hsaving⟩
  cases format with
  | json => exact htexts (indexJsonName, index.toText .json) List.mem_cons_self
  | lines =>
    exact htexts (indexLinesName, index.toText .lines) (List.mem_cons_of_mem _ List.mem_cons_self)

/-- The index of a build is loaded from its JSON file. -/
theorem BuiltFrom.exists_load_index (hbuilt : BuiltFrom env a tree built) {text : List Char}
    (htext : built.stores.index.toText .json = .ok text) {made saved after : FileTree} {directory : Path}
    (hsave : saveText made (directory.child indexJsonName) text = .ok saved)
    (hfind : after.find (directory.child indexJsonName) = .ok (.file (Encoding.encodeUtf8 text))) :
    ∃ copy : InvertedIndex, copy.Restores built.stores.index ∧
      ∀ limits : NestingLimits, 2 ≤ limits.json →
        InvertedIndex.load after (directory.child indexJsonName) limits = ⟨.ok copy, []⟩ := by
  obtain ⟨indexed, -, hindex, -⟩ := hbuilt.exists_filed
  have hsurvives : built.stores.index.Survives .json := by
    have hexists := ((InvertedIndex.books_once indexed).exists_toText_iff
      CountedAdd.one_le_of_mem_once .json).mp
    rw [hindex] at htext ⊢
    exact InvertedIndex.survives_json _ (hexists ⟨text, htext⟩)
  obtain ⟨copy, hcopy, hload⟩ := hsurvives.exists_loadAs htext hsave hfind
  refine ⟨copy, hcopy, fun limits hlimits => ?_⟩
  rw [InvertedIndex.load_eq_loadAs, ofPath_indexJson]
  exact hload limits hlimits

/-- And so is its matrix. -/
theorem exists_load_matrix (occurrences : List Occurrence) {made saved after : FileTree} {directory : Path}
    (hsave : saveText made (directory.child matrixJsonName)
      ((IncidenceMatrix.afterCalls occurrences).toText .json) = .ok saved)
    (hfind : after.find (directory.child matrixJsonName) =
      .ok (.file (Encoding.encodeUtf8 ((IncidenceMatrix.afterCalls occurrences).toText .json)))) :
    ∃ copy : IncidenceMatrix, copy.Restores (.afterCalls occurrences) ∧
      ∀ limits : NestingLimits, 2 ≤ limits.json →
        IncidenceMatrix.load after (directory.child matrixJsonName) limits = ⟨.ok copy, []⟩ := by
  obtain ⟨copy, hcopy, hload⟩ := (IncidenceMatrix.survives_json occurrences).exists_loadAs hsave hfind
  refine ⟨copy, hcopy, fun limits hlimits => ?_⟩
  rw [IncidenceMatrix.load_eq_loadAs, ofPath_matrixJson]
  exact hload limits hlimits

/-- What a build has saved is what it has built. -/
theorem saves_of_saveStructures {s : Session} {saving : Saving} (hbuilt : BuiltFrom env a tree built)
    (hsaving : saveStructures env.clock tree (some built.stores.index) built.stores.matrix
      (outputDirectory a) = .ok saving)
    (htree : s.tree = saving.tree)
    (hwritten : ∀ record ∈ saving.log, record.logger = savingLogger → .info ≤ record.level →
      (Channel.records, Logging.line env.clock record) ∈ s.written) :
    Saves env.clock built.stores (outputDirectory a) s := by
  obtain ⟨-, matrixed, -, hmatrix, -⟩ := hbuilt.exists_filed
  obtain ⟨⟨made, hmade⟩, -⟩ := saveStructures_ok_iff.mp ⟨saving, hsaving⟩
  obtain ⟨place, hopens⟩ := FileTree.isDirectory_iff.mp (FileTree.isDirectory_of_makeDirectories hmade)
  obtain ⟨indexJson, hjson⟩ := exists_toText_of_saveStructures hsaving .json
  obtain ⟨indexLines, hlines⟩ := exists_toText_of_saveStructures hsaving .lines
  have hjobs := saveJobs_eq_targetsOf hjson hlines (.afterCalls matrixed)
  rw [← hmatrix] at hjobs
  rw [saveStructures_eq hmade hopens hjobs properName_of_mem_targetsOf (nodup_targetsOf _ _ _)]
    at hsaving
  obtain rfl := Except.ok.inj hsaving
  -- every refusal is among the records, so a target that is not reported was written
  have hreported : ∀ target ∈ targetsOf indexJson indexLines (.afterCalls matrixed), ∀ fault,
      target.refusal? made (outputDirectory a) place = some fault →
      (Channel.records, Logging.line env.clock
        (refusedRecord ((outputDirectory a).child target.1) fault)) ∈ s.written := by
    intro target htarget fault hrefused
    have hrecord : Saving.record env.clock (outputDirectory a) made place target =
        refusedRecord ((outputDirectory a).child target.1) fault := by
      unfold Saving.record
      rw [hrefused]
    rw [← hrecord]
    refine hwritten _ (List.mem_map_of_mem htarget) ?_ ?_
    · rw [hrecord]
      rfl
    · rw [hrecord]
      change LogLevel.info ≤ LogLevel.error
      decide
  have hsaved := fun (target : SaveTarget) htarget => saved_of_saveTargets hopens htree
    properName_of_mem_targetsOf (nodup_targetsOf _ _ _) hreported (htarget : target ∈ _)
  refine ⟨⟨indexJson, indexLines, _, hjson, hlines, hmatrix, ?_⟩, ?_, ?_⟩
  · intro target htarget
    by_cases hwithheld : Withheld env.clock s ((outputDirectory a).child target.1)
    · exact .inr hwithheld
    · exact .inl (hsaved target htarget hwithheld).2
  · intro hfree
    have htarget : (indexJsonName, indexJson) ∈ targetsOf indexJson indexLines (.afterCalls matrixed) :=
      List.mem_cons_self
    obtain ⟨⟨saved, hsave⟩, hfind⟩ := hsaved _ htarget hfree
    exact hbuilt.exists_load_index hjson hsave hfind
  · intro hfree
    have htarget : (matrixJsonName, (IncidenceMatrix.afterCalls matrixed).toText .json) ∈
        targetsOf indexJson indexLines (.afterCalls matrixed) :=
      List.mem_cons_of_mem _ (List.mem_cons_of_mem _ List.mem_cons_self)
    obtain ⟨⟨saved, hsave⟩, hfind⟩ := hsaved _ htarget hfree
    obtain ⟨copy, hcopy, hload⟩ := exists_load_matrix matrixed hsave hfind
    exact ⟨copy, _, hmatrix, hcopy, hload⟩

/-! ## What can keep a build from ending -/

/-- If something is built, then the output directory can be made, and the numbers of words and files do
not have too many digits. -/
def Savable (env : Environment) (a : BuildArguments) (tree : FileTree) : Prop :=
  ∀ built, BuiltFrom env a tree built →
    (∃ made, tree.makeDirectories (outputDirectory a) = .ok made) ∧
      built.stores.index.totalTokenCount < writableBound ∧ tree.entries.length < writableBound

/-- Where stores can be saved nothing of what is built stays unsaved. -/
theorem Savable.not_unsaved {fault : Fault} (h : Savable env a tree)
    (hbuilt : BuiltFrom env a tree built) : ¬ Unsaved env a tree built fault := by
  obtain ⟨hmade, hwords, hfiles⟩ := h built hbuilt
  intro hunsaved
  cases hunsaved with
  | statistics hreport =>
    have hcounts : ∀ n ∈ (statisticsOf tree built).counts, n < writableBound := by
      intro n hn
      rcases hbuilt.counts_le n hn with hle | hle
      · exact Nat.lt_of_le_of_lt hle hwords
      · exact Nat.lt_of_le_of_lt hle hfiles
    obtain ⟨text, htext⟩ := Statistics.exists_report_iff.mpr hcounts
    rw [hreport] at htext
    cases htext
  | saving hsaving =>
    obtain ⟨indexed, matrixed, hindex, hmatrix, -⟩ := hbuilt.exists_filed
    have hbooks := InvertedIndex.books_once indexed
    have hdigits := hbooks.fewDigits_of_totalTokenCount CountedAdd.one_le_of_mem_once
      (hindex ▸ hwords)
    have htext : ∀ format, ∃ text, built.stores.index.toText format = .ok text := by
      intro format
      rw [hindex]
      exact (hbooks.exists_toText_iff CountedAdd.one_le_of_mem_once format).mpr hdigits
    obtain ⟨indexJson, hjson⟩ := htext .json
    obtain ⟨indexLines, hlines⟩ := htext .lines
    have hjobs : ∀ job ∈ saveJobs (some built.stores.index) built.stores.matrix,
        ∃ text, job.2 = .ok text := by
      rw [hmatrix, saveJobs_eq_targetsOf hjson hlines]
      intro job hjob
      obtain ⟨target, -, rfl⟩ := List.mem_map.mp hjob
      exact ⟨target.2, rfl⟩
    obtain ⟨saving, hok⟩ := saveStructures_ok_iff.mpr ⟨hmade, hjobs⟩
    rw [hsaving] at hok
    cases hok

/-! ## The status -/

/-- What the status tells of what was saved, whatever the file tree is like, however many workers build and in
whatever order these have their turns. -/
theorem build_status_tells_what_was_saved {line : List String}
    (hread : BuildArguments.read line = .ok a) (hsearch : a.search = false) (hlog : a.logFile = none)
    (env : Environment) (tree : FileTree) :
    let result := start env line (.start tree)
    (∀ status, result.2 = .stop (.code status) → status ≠ 0 → result.1.tree = tree) ∧
    (result.2 = .stop (.code 0) →
      ∃ built, BuiltFrom env a tree built ∧
        Saves env.clock built.stores (outputDirectory a) result.1) ∧
    (Answers a tree → Savable env a tree →
      ∃ status ∈ [0, 1, cancelledStatus], result.2 = .stop (.code status)) := by
  intro result
  have houtcome : Outcome env a tree result := outcome_start hread hsearch hlog env tree
  generalize result = r at houtcome
  cases houtcome with
  | stopped htree hstatus =>
    refine ⟨fun _ _ _ => htree, ?_, fun _ _ => ⟨_, ?_, rfl⟩⟩
    · intro hzero
      rcases hstatus with rfl | rfl <;> cases hzero
    · rcases hstatus with rfl | rfl <;> decide
  | unanswered htree hanswers =>
    refine ⟨?_, ?_, fun hanswered _ => absurd hanswered hanswers⟩
    · intro status hstop
      cases hstop
    · intro hstop
      cases hstop
  | broken htree hbuilt hfault =>
    refine ⟨?_, ?_, ?_⟩
    · intro status hstop
      cases hstop
    · intro hstop
      cases hstop
    · intro _ hsavable
      exact absurd hfault (hsavable.not_unsaved hbuilt)
  | saved hbuilt hsaving htree hwritten =>
    refine ⟨?_, ?_, fun _ _ => ⟨0, by decide, rfl⟩⟩
    · intro status hstop hnonzero
      cases hstop
      exact absurd rfl hnonzero
    · intro _
      exact ⟨_, hbuilt, saves_of_saveStructures hbuilt hsaving htree hwritten⟩

/-- One word in a file above the current directory, built by two workers, and a directory in which there are no
files. -/
theorem build_status_tells_what_was_saved_word :
    let line := ["../texts", "--output", "/out", "--min-size-kb", "0"]
    let c : Configuration := { textsDirectory := "../texts", outputDirectory := "/out",
                               minFileSizeKb := 0 }
    let a : BuildArguments := ⟨c, false, none⟩
    let env : Environment := ⟨⟨"", "", "", "", ""⟩, 2, false, [1, 0], {}⟩
    let full : FileTree := { home := ["work"]
                             entries := [(["work"], .directory), (["texts"], .directory),
      (["texts", "a.html"], .file (Encoding.encodeUtf8 "cat".toList))] }
    let bare : FileTree := { home := ["work"], entries := [(["work"], .directory), (["texts"], .directory)] }
    BuildArguments.read line = .ok a ∧ a.search = false ∧ a.logFile = none ∧
      Answers a full ∧ Savable env a full ∧
      (start env line (.start full)).2 = .stop (.code 0) ∧
      (∃ built, BuiltFrom env a full built ∧
        Saves env.clock built.stores (outputDirectory a) (start env line (.start full)).1) ∧
      (∃ status ∈ [0, 1, cancelledStatus],
        (start env line (.start full)).2 = .stop (.code status)) ∧
      (start env line (.start bare)).2 = .stop (.code 1) ∧
      (start env line (.start bare)).1.tree = bare := by
  intro line c a env full bare
  have hread : BuildArguments.read line = .ok a := by decide +kernel
  have hasked : full.asksDirectory (.ofString "../texts") = .ok true := by decide +kernel
  have hpaths : full.discover (.ofString "../texts") 0 false =
      .ok [⟨"", ["..", "texts", "a.html"]⟩] := by
    decide +kernel
  have htexts : [Path.mk "" ["..", "texts", "a.html"]].map Path.text = ["../texts/a.html"] := by
    decide +kernel
  obtain ⟨made, hmade, -⟩ : ∃ made, full.makeDirectories (outputDirectory a) = .ok made ∧
      made.isDirectory (outputDirectory a) = true :=
    exists_eq_ok_of_toOption (by decide +kernel)
  obtain ⟨built, hbuild, hwords⟩ : ∃ built,
      Builder.standard.build (fun _ => full) ["../texts/a.html"] false 2 [1, 0] = .ok built ∧
        built.stores.index.totalTokenCount = 1 :=
    exists_eq_ok_of_toOption (by decide +kernel)
  have hsmall : 3 < writableBound := by decide +kernel
  have hanswers : Answers a full := by
    intro texts htexts
    obtain rfl := Option.some.inj htexts
    exact ⟨⟨true, hasked⟩, fun _ => ⟨_, hpaths⟩⟩
  have hsavable : Savable env a full := by
    rintro built' ⟨paths, workers, hpaths', hworkers, hbuild'⟩
    obtain rfl := Except.ok.inj (hpaths.symm.trans hpaths')
    obtain rfl : 2 = workers := Except.ok.inj hworkers
    rw [htexts] at hbuild'
    obtain rfl := Except.ok.inj (hbuild.symm.trans hbuild')
    refine ⟨⟨made, hmade⟩, ?_, hsmall⟩
    rw [hwords]
    exact Nat.lt_trans (by decide) hsmall
  have hzero : (start env line (.start full)).2.ending? = some (.code 0) := by decide +kernel
  have hone : (start env line (.start bare)).2.ending? = some (.code 1) := by decide +kernel
  rw [Continuation.ending?_eq_some_iff] at hzero hone
  obtain ⟨-, hsaves, hends⟩ := build_status_tells_what_was_saved hread rfl rfl env full
  obtain ⟨hunchanged, -, -⟩ := build_status_tells_what_was_saved hread rfl rfl env bare
  exact ⟨hread, rfl, rfl, hanswers, hsavable, hzero, hsaves hzero, hends hanswers hsavable, hone,
    hunchanged 1 hone (by decide)⟩

/-- With a directory in place of the index file the status is zero, though no index can be loaded then. With a
file in place of the output directory there is no status, and neither is there one if the name of the directory
of the texts is too long for a file system. -/
theorem build_status_hides_a_blocked_file :
    let line := ["texts", "--output", "out", "--min-size-kb", "0", "--single-threaded"]
    let env : Environment := ⟨⟨"", "", "", "", ""⟩, 1, false, [], {}⟩
    let texts : List (Place × FileNode) := [(["texts"], .directory), (["texts", "a.txt"], .file [])]
    let blocked := start env line (.start { entries := texts ++ [(["out"], .directory),
      (["out", indexJsonName], .directory)] })
    let taken := start env line (.start { entries := texts ++ [(["out"], .file [])] })
    let longName := String.ofList (List.replicate 300 'a')
    blocked.2 = .stop (.code 0) ∧
      (¬ ∃ index, (InvertedIndex.load blocked.1.tree ⟨"", ["out", indexJsonName]⟩).outcome =
        .ok index) ∧
      taken.2 = .stop (.broken (.write (.file ⟨.exists, "out"⟩))) ∧
      (start env [longName] (.start { entries := texts })).2 =
        .stop (.broken (.write (.file ⟨.nameTooLong, longName⟩))) := by
  intro line env texts blocked taken longName
  have hblocked : (blocked.2.ending?, (InvertedIndex.load blocked.1.tree
      ⟨"", ["out", indexJsonName]⟩).outcome.toOption.isNone) = (some (.code 0), true) := by
    decide +kernel
  obtain ⟨hending, hnone⟩ := Prod.mk.inj hblocked
  refine ⟨Continuation.ending?_eq_some_iff.mp hending, ?_, ?_, ?_⟩
  · rintro ⟨index, hload⟩
    rw [hload] at hnone
    cases hnone
  · apply Continuation.ending?_eq_some_iff.mp
    decide +kernel
  · exact start_longName env (by decide) (by decide) rfl (by decide)

end BuildProgram

end BooleanRetrieval
