import BooleanRetrieval.Console.BuildProgram
import BooleanRetrieval.Proofs.Build.Pool
import BooleanRetrieval.Proofs.Console.Sessions
import BooleanRetrieval.Proofs.Files.LongPaths

/-!
# The course of the build program

Without a log file nothing but saving changes the file tree, so that there are four ways in which the
build program can end when it is not asked to go on to a search (`Outcome`): with a status of its own, in
front of saving; with an error, because the file tree does not answer what it is asked about the directory of
the texts (`Answers`); with an error, while the statistics are shown or the stores are saved; or behind saving.
A checked configuration has a directory and a number of workers, so that nothing else can go wrong.
-/

set_option autoImplicit false

namespace BooleanRetrieval

/-! ## Checked configurations -/

/-- No more files are found than there are entries. -/
theorem FileTree.length_le_of_discover {tree : FileTree} {directory : Path} {minKb : Int}
    {recursive : Bool} {paths : List Path}
    (h : tree.discover directory minKb recursive = .ok paths) :
    paths.length ≤ tree.entries.length := by
  unfold discover at h
  split at h
  · split at h
    · cases hasked : tree.asksDirectory directory with
      | error e =>
        rw [hasked] at h
        cases h
      | ok isThere =>
        rw [hasked] at h
        obtain rfl := Except.ok.inj h
        exact Nat.zero_le _
    · cases h
  · next place _ =>
    split at h
    · cases h
    · obtain rfl := Except.ok.inj h
      unfold chosen reachedPaths
      rw [List.length_mergeSort]
      exact (List.length_filter_le _ _).trans (List.length_filterMap_le _ _)

/-- A directory that is said to be there is one. -/
theorem FileTree.isDirectory_of_asksDirectory {tree : FileTree} {path : Path}
    (h : tree.asksDirectory path = .ok true) : tree.isDirectory path = true := by
  unfold asksDirectory asks at h
  unfold isDirectory
  split at h
  · next node hfind =>
    rw [hfind]
    cases node with
    | file bytes => simp at h
    | directory => rfl
  · split at h <;> cases h

/-- The directory of an accepted configuration is there, and it does not ask for less than one worker. -/
theorem Configuration.of_validate {tree : FileTree} {c : Configuration}
    (h : c.validate tree = .ok ()) :
    (∃ texts, c.textsDirectory = some texts ∧ tree.isDirectory (.ofString texts) = true) ∧
      ∀ degree ∈ c.workers, ¬ degree < 1 := by
  unfold validate at h
  split at h
  · cases h
  · next texts hnamed =>
    have htexts : c.textsDirectory = some texts := Option.eq_some_of_filter_eq_some hnamed
    split at h
    · cases h
    · next isThere hasked =>
      rcases Bool.eq_false_or_eq_true isThere with rfl | rfl
      · refine ⟨⟨texts, htexts, FileTree.isDirectory_of_asksDirectory hasked⟩, ?_⟩
        intro degree hdegree hlt
        have hany : c.workers.any (· < 1) = true := by
          rw [hdegree]
          exact decide_eq_true hlt
        simp only [hany, if_true] at h
        -- the check of the workers comes last, and no check before it accepts
        repeat' split at h
        all_goals cases h
      · cases h

/-- If a configuration can be neither accepted nor rejected, then it cannot be told whether its directory is
there. -/
theorem Configuration.asks_of_validate {tree : FileTree} {c : Configuration} {e : FileError}
    (h : c.validate tree = .error (.file e)) :
    ∃ texts, c.textsDirectory = some texts ∧ tree.asksDirectory (.ofString texts) = .error e := by
  unfold validate at h
  split at h
  · cases h
  · next texts hnamed =>
    refine ⟨texts, Option.eq_some_of_filter_eq_some hnamed, ?_⟩
    split at h
    · next hasked =>
      cases h
      exact hasked
    · repeat' split at h
      all_goals cases h

/-- A number of workers is found unless less than one is asked for. -/
theorem exists_workerCount {degree : Option Int} (h : ∀ n ∈ degree, ¬ n < 1) (single : Bool)
    (processors : Nat) : ∃ workers, workerCount degree single processors = .ok workers := by
  unfold workerCount
  cases single with
  | true => exact ⟨1, rfl⟩
  | false =>
    cases degree with
    | none => exact ⟨max 1 processors, rfl⟩
    | some n => exact ⟨n.toNat, if_neg (h n rfl)⟩

namespace BuildProgram

/-! ## Outcomes -/

/-- The directory that the stores are saved in. -/
def outputDirectory (a : BuildArguments) : Path :=
  .ofString (a.configuration.outputDirectory.getD defaultOutputDirectory)

/-- What is built from the files that are found in a tree, by however many workers and in whatever order
these have their turns. -/
def BuiltFrom (env : Environment) (a : BuildArguments) (tree : FileTree) (built : Built) : Prop :=
  let c := a.configuration
  ∃ paths workers,
    tree.discover (.ofString (c.textsDirectory.getD ".")) c.minFileSizeKb c.recursive = .ok paths ∧
    workerCount c.workers c.singleThreaded env.processors = .ok workers ∧
    Builder.standard.build (fun _ => tree) (paths.map Path.text) false workers env.schedule =
      .ok built

/-- The file tree answers what it is asked about the directory of the texts: whether it is there, and which
files it has if it is. -/
def Answers (a : BuildArguments) (tree : FileTree) : Prop :=
  ∀ texts ∈ a.configuration.textsDirectory,
    (∃ isThere, tree.asksDirectory (.ofString texts) = .ok isThere) ∧
      (tree.isDirectory (.ofString texts) = true →
        ∃ paths, tree.discover (.ofString texts) a.configuration.minFileSizeKb
          a.configuration.recursive = .ok paths)

/-- The statistics that are shown of what was built. -/
def statisticsOf (tree : FileTree) (built : Built) : Statistics :=
  (Statistics.collect (some built.stores.index) built.stores.matrix
    (sizesOf tree built.report.indexed)).1

variable {env : Environment} {a : BuildArguments} {tree : FileTree}

/-- Why stores that were built are not saved. -/
inductive Unsaved (env : Environment) (a : BuildArguments) (tree : FileTree) (built : Built) :
    Fault → Prop
  | statistics {e : TooManyDigits} (h : (statisticsOf tree built).report = .error e) :
    Unsaved env a tree built (.write (.tooManyDigits e))
  | saving {e : WriteError}
    (h : saveStructures env.clock tree (some built.stores.index) built.stores.matrix
      (outputDirectory a) = .error e) :
    Unsaved env a tree built (.write e)

/-- What a run comes to that neither has a log file nor goes on to a search. -/
inductive Outcome (env : Environment) (a : BuildArguments) (tree : FileTree) :
    Session × Continuation → Prop
  /-- It stops in front of saving. -/
  | stopped {s : Session} {status : Nat} (htree : s.tree = tree)
    (hstatus : status = 1 ∨ status = cancelledStatus) : Outcome env a tree (s, .stop (.code status))
  /-- The directory of the texts cannot be looked at. -/
  | unanswered {s : Session} {e : FileError} (htree : s.tree = tree) (hanswers : ¬ Answers a tree) :
    Outcome env a tree (s, .stop (.broken (.write (.file e))))
  /-- What it has built is not saved. -/
  | broken {s : Session} {built : Built} {fault : Fault} (htree : s.tree = tree)
    (hbuilt : BuiltFrom env a tree built) (hfault : Unsaved env a tree built fault) :
    Outcome env a tree (s, .stop (.broken fault))
  /-- It saves what it has built, and writes what is reported of that. -/
  | saved {s : Session} {built : Built} {saving : Saving} (hbuilt : BuiltFrom env a tree built)
    (hsaving : saveStructures env.clock tree (some built.stores.index) built.stores.matrix
      (outputDirectory a) = .ok saving)
    (htree : s.tree = saving.tree)
    (hwritten : ∀ record ∈ saving.log, record.logger = savingLogger → .info ≤ record.level →
      (Channel.records, Logging.line env.clock record) ∈ s.written) :
    Outcome env a tree (s, .stop (.code 0))

/-- A session in which the tree is as it was, with the console set up. -/
structure Untouched (tree : FileTree) (s : Session) : Prop where
  tree : s.tree = tree
  logging : s.logging = ⟨.info, true, none⟩

namespace Untouched

variable {s : Session}

/-- In an untouched session nothing is logged to a file. -/
theorem noFile (h : Untouched tree s) : s.logging.file = none := by rw [h.logging]

/-- Printing lines touches nothing. -/
theorem sayAll (h : Untouched tree s) (lines : List String) : Untouched tree (s.sayAll lines) :=
  ⟨(s.tree_sayAll lines).trans h.tree, (s.logging_sayAll lines).trans h.logging⟩

/-- Printing a line touches nothing. -/
theorem say (h : Untouched tree s) (line : String) : Untouched tree (s.say line) :=
  h.sayAll [line]

/-- Logging without a log file touches nothing. -/
theorem logAll (h : Untouched tree s) (clock : Clock) (records : List LogRecord) :
    Untouched tree (s.logAll clock records) :=
  ⟨(Session.tree_logAll h.noFile clock records).trans h.tree,
    (s.logging_logAll clock records).trans h.logging⟩

/-- Whatever is logged about the files leaves the tree as it was. -/
theorem treeAfter (h : Untouched tree s) (clock : Clock) : s.treeAfter clock = fun _ => tree :=
  funext fun records => (h.logAll clock records).tree

end Untouched

/-! ## The steps of the program -/

/-- A console set up for information shows what saving logs from that level on. -/
theorem shows_of_savingLogger {l : Logging} (hlogging : l = ⟨.info, true, none⟩)
    {record : LogRecord} (hlogger : record.logger = savingLogger) (hlevel : .info ≤ record.level) :
    l.shows record = true := by
  have hown : Logging.isOwn savingLogger = true := by decide +kernel
  have hthreshold : l.threshold record.logger = .info := by
    rw [hlogging, hlogger]
    unfold Logging.threshold
    rw [hown]
    rfl
  have hpositive : (0 : LogLevel) < .info := by decide
  unfold Logging.shows
  rw [hthreshold, Bool.and_eq_true, decide_eq_true_eq, decide_eq_true_eq]
  exact ⟨Int.lt_of_lt_of_le hpositive hlevel, hlevel⟩

/-- A run that has come to the saving has one of the outcomes. -/
theorem outcome_save {s : Session} {built : Built} (hs : Untouched tree s) (hsearch : a.search = false)
    (hbuilt : BuiltFrom env a tree built) : Outcome env a tree (save env a built.stores s) := by
  cases hsaving : saveStructures env.clock tree (some built.stores.index) built.stores.matrix
      (outputDirectory a) with
  | error e =>
    have hresult : save env a built.stores s = (s, .stop (.broken (.write e))) := by
      unfold save
      rw [hs.tree]
      dsimp only
      unfold outputDirectory at hsaving
      rw [hsaving]
    rw [hresult]
    exact .broken hs.tree hbuilt (.saving hsaving)
  | ok saving =>
    have hresult : save env a built.stores s =
        ((({ s with tree := saving.tree }).logAll env.clock saving.log).sayAll
          (saving.saved.map (savedLine env.clock)), .stop (.code 0)) := by
      unfold save
      rw [hs.tree]
      dsimp only
      unfold outputDirectory at hsaving
      rw [hsaving, hsearch]
      rfl
    rw [hresult]
    refine .saved hbuilt hsaving ?_ ?_
    · have hfile : ({ s with tree := saving.tree } : Session).logging.file = none := hs.noFile
      rw [Session.tree_sayAll, Session.tree_logAll hfile]
    · intro record hrecord hlogger hlevel
      -- a record of the program itself is written as soon as its level is shown
      apply Session.written_subset_sayAll
      have hown : Logging.isOwn record.logger = true := by
        rw [hlogger]
        decide +kernel
      have hready : s.logging.ready = true := by rw [hs.logging]
      exact Session.mem_written_logAll (s := { s with tree := saving.tree }) hready
        (shows_of_savingLogger hs.logging hlogger hlevel) hown hrecord env.clock

/-- A run that has built its stores has one of the outcomes. -/
theorem outcome_finish {s : Session} {built : Built} (hs : Untouched tree s)
    (hsearch : a.search = false) (hbuilt : BuiltFrom env a tree built) (fileCount : Nat) :
    Outcome env a tree (finish env a fileCount built s) := by
  unfold finish
  dsimp only
  have hshown := (hs.logAll env.clock built.log).sayAll
    (["", "Built both structures in " ++ env.clock.buildSeconds ++ "s"]
      ++ failureLines fileCount built.report ++ emptyLines built.stores.index)
  rw [hshown.tree]
  have hcounted := hshown.logAll env.clock (Statistics.collect (some built.stores.index)
    built.stores.matrix (sizesOf tree built.report.indexed)).2
  cases hreport : (statisticsOf tree built).report with
  | error e =>
    unfold statisticsOf at hreport
    rw [hreport]
    exact .broken hcounted.tree hbuilt (.statistics hreport)
  | ok report =>
    unfold statisticsOf at hreport
    rw [hreport]
    exact outcome_save (hcounted.sayAll (statisticsLines report)) hsearch hbuilt

/-- A run that has found its files has one of the outcomes. -/
theorem outcome_buildStores {s : Session} (hs : Untouched tree s) (hsearch : a.search = false)
    (hvalid : a.configuration.validate tree = .ok ()) {paths : List Path}
    (hpaths : tree.discover (.ofString (a.configuration.textsDirectory.getD "."))
      a.configuration.minFileSizeKb a.configuration.recursive = .ok paths) :
    Outcome env a tree (buildStores env a (paths.map Path.text) s) := by
  obtain ⟨workers, hworkers⟩ := exists_workerCount (Configuration.of_validate hvalid).2
    a.configuration.singleThreaded env.processors
  unfold buildStores
  dsimp only
  split
  · exact .stopped (hs.sayAll _).tree (.inr rfl)
  · rw [hworkers, hs.treeAfter]
    dsimp only
    cases hbuild : Builder.standard.build (fun _ => tree) (paths.map Path.text) false workers
        env.schedule with
    | error e =>
      obtain ⟨records, rfl⟩ := Builder.exists_of_build_error hbuild
      exact .stopped ((hs.logAll env.clock records).sayAll _).tree (.inr rfl)
    | ok built => exact outcome_finish hs hsearch ⟨paths, workers, hpaths, hworkers, hbuild⟩ _

/-- A run with a valid configuration has one of the outcomes. -/
theorem outcome_findFiles {s : Session} (hs : Untouched tree s) (hsearch : a.search = false)
    (hvalid : a.configuration.validate tree = .ok ()) :
    Outcome env a tree (findFiles env a s) := by
  unfold findFiles
  dsimp only
  rw [hs.tree]
  cases hpaths : tree.discover (.ofString (a.configuration.textsDirectory.getD "."))
      a.configuration.minFileSizeKb a.configuration.recursive with
  | error e =>
    refine .unanswered hs.tree fun hanswers => ?_
    obtain ⟨texts, htexts, hdirectory⟩ := (Configuration.of_validate hvalid).1
    obtain ⟨paths, hfound⟩ := (hanswers texts htexts).2 hdirectory
    rw [htexts, Option.getD_some, hfound] at hpaths
    cases hpaths
  | ok paths =>
    have hlogged := hs.logAll env.clock
      (discoveryLog tree (.ofString (a.configuration.textsDirectory.getD ".")) a.configuration.recursive)
    dsimp only
    split
    · exact .stopped (hlogged.say _).tree (.inl rfl)
    · exact outcome_buildStores (hlogged.say _) hsearch hvalid hpaths

/-- Every run of the program with an understood command line that has no log file and asks for no search
has one of the outcomes. -/
theorem outcome_start {line : List String} (hread : BuildArguments.read line = .ok a)
    (hsearch : a.search = false) (hlog : a.logFile = none) (env : Environment) (tree : FileTree) :
    Outcome env a tree (start env line (.start tree)) := by
  have hs : Untouched tree ⟨tree, ⟨.info, true, none⟩, []⟩ := ⟨rfl, rfl⟩
  unfold start
  rw [hread]
  dsimp only
  rw [hlog, Session.setUpLogging_start]
  dsimp only
  cases hvalid : a.configuration.validate tree with
  | error stop =>
    cases stop with
    | invalid e => exact .stopped (hs.say _).tree (.inl rfl)
    | file e =>
      refine .unanswered hs.tree fun hanswers => ?_
      obtain ⟨texts, htexts, hasked⟩ := Configuration.asks_of_validate hvalid
      obtain ⟨isThere, hanswer⟩ := (hanswers texts htexts).1
      rw [hasked] at hanswer
      cases hanswer
  | ok checked => exact outcome_findFiles hs hsearch hvalid

/-! ## A directory that cannot be asked for -/

/-- A program that cannot be told whether its directory is there gives up. -/
theorem start_of_unanswered {line : List String} (hread : BuildArguments.read line = .ok a)
    (hlog : a.logFile = none) {e : FileError}
    (hvalid : a.configuration.validate tree = .error (.file e)) :
    (start env line (.start tree)).2 = .stop (.broken (.write (.file e))) := by
  unfold start
  rw [hread]
  dsimp only
  rw [hlog, Session.setUpLogging_start]
  dsimp only
  rw [hvalid]

/-- A single word that does not begin with a dash names the directory of the texts. -/
theorem read_single {name : String} {c : Char} {rest : List Char} (hname : name.toList = c :: rest)
    (hc : c ≠ '-') :
    BuildArguments.read [name] =
      .ok { configuration := { textsDirectory := some (pathText name) } } := by
  have hdivider : name ≠ "--" := by
    rintro rfl
    exact hc (List.cons.inj hname).1.symm
  have hword : BuildArguments.usage.word name = .ok (.positional name) := by
    unfold Usage.word
    rw [hname]
    split
    · next h => exact absurd (List.cons.inj h).1 hc
    · next h => exact absurd (List.cons.inj h).1 hc
    · next h => exact absurd (List.cons.inj h).1 hc
    · next h => exact absurd (List.cons.inj h).1 hc
    · rfl
  unfold BuildArguments.read Usage.read Usage.words Usage.words
  rw [if_neg hdivider, hword]
  rfl

/-- A name of more letters than a file system takes is not looked for. -/
theorem start_longName (env : Environment) {tree : FileTree} {n : Nat}
    (hlong : FileTree.nameLimit < n) (hshort : n ≤ FileTree.pathLimit)
    (hhome : tree.node? tree.home = some .directory) (hopen : tree.home ∉ tree.locked) :
    let name := String.ofList (List.replicate n 'a')
    (start env [name] (.start tree)).2 = .stop (.broken (.write (.file ⟨.nameTooLong, name⟩))) := by
  intro name
  obtain ⟨m, rfl⟩ := Nat.exists_eq_add_one_of_ne_zero (Nat.ne_zero_of_lt hlong)
  have hlist : name.toList = 'a' :: List.replicate m 'a' := String.toList_ofList
  have hsize : name.utf8ByteSize = m + 1 := utf8ByteSize_letters (m + 1)
  have hletters : ∀ c ≠ 'a', c ∉ name.toList := by
    intro c hc hmem
    rw [hlist, ← List.replicate_succ] at hmem
    exact hc (List.eq_of_mem_replicate hmem)
  have hfirst : ∀ s : String, s.toList.head? ≠ some 'a' → name ≠ s := by
    rintro s hs h
    rw [← h, hlist] at hs
    exact hs rfl
  have hpath : Path.ofString name = ⟨"", [name]⟩ :=
    Path.ofString_name (hletters _ (by decide)) (hfirst _ (by decide)) (hfirst _ (by decide))
  have htext : pathText name = name := by
    unfold pathText
    rw [hpath, Path.text_name (hfirst _ (by decide))]
  have hnamed : Configuration.named (some name) = some name := by
    have hblank : Text.isBlankText name = false := by
      unfold Text.isBlankText Text.allBlank
      rw [hlist, List.all_cons, show Text.isBlank 'a' = false by decide, Bool.false_and]
    unfold Configuration.named
    simp [hblank]
  have hnull : name.toList.contains '\x00' = false := by
    rw [Bool.eq_false_iff, ne_eq, List.contains_iff_mem]
    exact hletters _ (by decide)
  have hasked : tree.asksDirectory ⟨"", [name]⟩ = .error ⟨.nameTooLong, name⟩ :=
    FileTree.asksDirectory_longName hnull (hfirst _ (by decide)) (hsize ▸ hlong) (hsize ▸ hshort) hhome hopen
  have hvalid : Configuration.validate tree { textsDirectory := some name } =
      .error (.file ⟨.nameTooLong, name⟩) := by
    unfold Configuration.validate
    rw [hnamed]
    dsimp only
    rw [hpath, hasked]
  have hread := read_single hlist (by decide)
  rw [htext] at hread
  exact start_of_unanswered hread rfl hvalid

end BuildProgram

end BooleanRetrieval
