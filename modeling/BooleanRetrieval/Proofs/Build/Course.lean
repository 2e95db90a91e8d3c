import BooleanRetrieval.Proofs.Build.Harvest

/-!
# The course of a build

What a build by one worker does is fixed by what happens at its files (`Visit`): what becomes of each file,
and the words and cancellations up to the end of its reading or to the first word that cannot be normalized
or that the stores refuse. These visits know nothing of the stores. The build files the words that come before the first cancellation, and nothing
behind it (`takeFiles_intake_of_visits`); without a cancellation it makes all visits and records each of
them (`takeFiles_report_of_visits`).
-/

set_option autoImplicit false

namespace BooleanRetrieval

open Text (isBlankText)

/-! ## Visits -/

/-- What happens at a file that a build takes in. -/
structure Visit where
  path : String
  /-- The words and cancellations up to the end of the reading or to a refused word. -/
  events : List ReadEvent
  outcome : FileOutcome
  deriving DecidableEq, Repr

namespace Visit

/-- The id of the document that the visited file holds. -/
def document (v : Visit) : String :=
  documentId v.path

/-- What happens at the file, each time with the document. -/
def happenings (v : Visit) : List (String × ReadEvent) :=
  v.events.map fun event => (v.document, event)

end Visit

/-- What happens in a row of visits. -/
def happenings (visits : List Visit) : List (String × ReadEvent) :=
  visits.flatMap Visit.happenings

/-- Whether something that happens is not a cancellation. -/
def isQuiet (happening : String × ReadEvent) : Bool :=
  happening.2 ≠ .cancel

/-- What is filed of something that happens: a word whose term is not blank. -/
def occurrence? (normalize : String → String) : String × ReadEvent → Option Occurrence
  | (doc, .word w) => if isBlankText (normalize w) then none else some ⟨normalize w, doc⟩
  | (_, .cancel) => none

/-- What is filed of what happens: the words with a term up to the first cancellation. -/
def filed (normalize : String → String) (hs : List (String × ReadEvent)) : List Occurrence :=
  (hs.takeWhile isQuiet).filterMap (occurrence? normalize)

/-- What is filed where nothing is cancelled are all words with a term. -/
theorem mem_filterMap_happenings {normalize : String → String} {visits : List Visit}
    {o : Occurrence} :
    o ∈ (happenings visits).filterMap (occurrence? normalize) ↔
      ∃ v ∈ visits, ∃ w, ReadEvent.word w ∈ v.events ∧ isBlankText (normalize w) = false ∧
        o = ⟨normalize w, v.document⟩ := by
  simp only [happenings, Visit.happenings, List.mem_filterMap, List.mem_flatMap, List.mem_map]
  constructor
  · rintro ⟨_, ⟨v, hv, event, hevent, rfl⟩, ho⟩
    cases event with
    | cancel => cases ho
    | word w =>
      rw [occurrence?] at ho
      cases hterm : isBlankText (normalize w) with
      | true =>
        rw [hterm] at ho
        cases ho
      | false =>
        rw [hterm] at ho
        exact ⟨v, hv, w, hevent, hterm, (Option.some.inj ho).symm⟩
  · rintro ⟨v, hv, w, hw, hterm, rfl⟩
    refine ⟨(v.document, .word w), ⟨v, hv, .word w, hw, rfl⟩, ?_⟩
    simp [occurrence?, hterm]

/-- What is filed of two stretches is filed of both, unless the first is cancelled. -/
theorem filed_append (normalize : String → String) (hs hs' : List (String × ReadEvent)) :
    filed normalize (hs ++ hs') =
      if hs.all isQuiet then filed normalize hs ++ filed normalize hs' else filed normalize hs := by
  unfold filed
  induction hs with
  | nil => rfl
  | cons h hs ih =>
    rw [List.cons_append, List.takeWhile_cons, List.takeWhile_cons, List.all_cons]
    cases isQuiet h with
    | false => rfl
    | true =>
      rw [if_pos rfl, if_pos rfl, Bool.true_and, List.filterMap_cons, List.filterMap_cons, ih]
      cases occurrence? normalize h <;> cases hs.all isQuiet <;> rfl

namespace Builder

/-- Why a word of a document is refused: it cannot be normalized, or it has a term and there is a matrix,
which refuses a document with a blank id. -/
def refusal (builder : Builder) (doc w : String) : Option FileFailure :=
  match builder.normalize w with
  | .error complaint => some (.normalizing complaint)
  | .ok t =>
    if builder.withMatrix && isBlankText doc && !isBlankText t then some (.cell .blankDocument) else none

/-- The part of a reading that is reached: all of it, or the part up to the first refused word. -/
def reached (builder : Builder) (doc : String) : List ReadEvent → List ReadEvent
  | [] => []
  | .cancel :: rest => .cancel :: builder.reached doc rest
  | .word w :: rest => .word w :: if (builder.refusal doc w).isSome then [] else builder.reached doc rest

/-- The visit to a file of a tree. -/
def visit (builder : Builder) (tree : FileTree) (path : String) : Visit :=
  match Reader.forFile builder.readers path with
  | none => ⟨path, [], .skipped⟩
  | some reader =>
    match tree.readText path with
    | .error e => ⟨path, [], .failed (.file e)⟩
    | .ok bytes =>
      let reading := reader.read bytes
      let outcome : FileOutcome :=
        match reading.words.findSome? (builder.refusal (documentId path)) with
        | some failure => .failed failure
        | none => reading.outcome
      ⟨path, builder.reached (documentId path) reading.events, outcome⟩

end Builder

/-- A file that is read is not skipped. -/
theorem Reading.outcome_ne_skipped (reading : Reading) : reading.outcome ≠ .skipped := by
  unfold outcome
  cases reading.error <;> simp

namespace Builder

/-- Nothing happens at a skipped file. -/
theorem events_of_skipped {builder : Builder} {tree : FileTree} {path : String}
    (h : (builder.visit tree path).outcome = .skipped) : (builder.visit tree path).events = [] := by
  unfold visit at h ⊢
  cases hreader : Reader.forFile builder.readers path with
  | none => rfl
  | some reader =>
    cases hread : tree.readText path with
    | error e => rfl
    | ok bytes =>
      simp only [hreader, hread] at h
      split at h
      · cases h
      · exact absurd h (reader.read bytes).outcome_ne_skipped

/-- The visit to a file has the path of the file. -/
theorem path_visit (builder : Builder) (tree : FileTree) (path : String) :
    (builder.visit tree path).path = path := by
  unfold visit
  split
  · rfl
  · split <;> rfl

/-- The visits to files in their order. What is logged about a file may change the ones behind it. -/
def visits (builder : Builder) (treeAfter : List LogRecord → FileTree) (log : List LogRecord) :
    List String → List Visit
  | [] => []
  | path :: rest =>
    let v := builder.visit (treeAfter log) path
    v :: builder.visits treeAfter (log ++ v.outcome.records path) rest

/-- Every visit is to a file of some tree. -/
theorem exists_of_mem_visits {builder : Builder} {treeAfter : List LogRecord → FileTree}
    {log : List LogRecord} {paths : List String} {v : Visit}
    (h : v ∈ builder.visits treeAfter log paths) :
    ∃ log' path, path ∈ paths ∧ v = builder.visit (treeAfter log') path := by
  induction paths generalizing log with
  | nil => cases h
  | cons path paths ih =>
    rcases List.mem_cons.mp h with rfl | h
    · exact ⟨log, path, List.mem_cons_self, rfl⟩
    · obtain ⟨log', path', hmem, hvisit⟩ := ih h
      exact ⟨log', path', List.mem_cons_of_mem _ hmem, hvisit⟩

/-- Each path is visited once, in their order. -/
theorem map_path_visits (builder : Builder) (treeAfter : List LogRecord → FileTree)
    (log : List LogRecord) (paths : List String) :
    (builder.visits treeAfter log paths).map Visit.path = paths := by
  induction paths generalizing log with
  | nil => rfl
  | cons path paths ih =>
    rw [visits, List.map_cons, path_visit, ih]

/-- The state in which a build with one worker ends. -/
def course (builder : Builder) (treeAfter : List LogRecord → FileTree) (paths : List String)
    (cancelled : Bool) : BuildState :=
  builder.takeFiles treeAfter
    ⟨⟨.empty builder.withMatrix, cancelled⟩, .empty, [opening paths.length 1]⟩ paths

end Builder

/-! ## Filing in both stores -/

namespace Stores

/-- Whether there is a matrix among the stores. -/
def hasMatrix (stores : Stores) : Bool :=
  stores.matrix.isSome

/-- The empty stores have a matrix as they were asked to. -/
theorem hasMatrix_empty (withMatrix : Bool) : (empty withMatrix).hasMatrix = withMatrix := by
  cases withMatrix <;> rfl

/-- Filing an occurrence neither adds nor removes the matrix. -/
theorem hasMatrix_fill (stores : Stores) (o : Occurrence) :
    (stores.fill o).hasMatrix = stores.hasMatrix :=
  Option.isSome_map

/-- Filing occurrences neither adds nor removes the matrix. -/
theorem hasMatrix_foldl_fill (stores : Stores) (os : List Occurrence) :
    (os.foldl fill stores).hasMatrix = stores.hasMatrix := by
  induction os generalizing stores with
  | nil => rfl
  | cons o os ih => rw [List.foldl_cons, ih, hasMatrix_fill]

/-- The matrix has taken each occurrence by a call. -/
theorem matrix_foldl_fill (stores : Stores) (os : List Occurrence) :
    (os.foldl fill stores).matrix =
      stores.matrix.map fun matrix => os.foldl IncidenceMatrix.call matrix := by
  induction os generalizing stores with
  | nil => exact Option.map_id'.symm
  | cons o os ih =>
    rw [List.foldl_cons, ih]
    unfold fill
    rw [Option.map_map]
    rfl

/-- The index of stores filled from the beginning is the one after the calls. -/
theorem index_fill_empty (withMatrix : Bool) (os : List Occurrence) :
    (os.foldl fill (.empty withMatrix)).index = .afterCalls (os.map CountedAdd.once) :=
  index_foldl_fill _ os

/-- The matrix of stores filled from the beginning is the one after the calls. -/
theorem matrix_fill_empty (withMatrix : Bool) (os : List Occurrence) :
    (os.foldl fill (.empty withMatrix)).matrix =
      if withMatrix then some (.afterCalls os) else none := by
  rw [matrix_foldl_fill]
  cases withMatrix <;> rfl

/-- A term that is not blank is filed in every store but a matrix that refuses the document. -/
theorem add_eq (stores : Stores) {t : String} (ht : isBlankText t = false) (doc : String) :
    stores.add t doc = (stores.fill ⟨t, doc⟩,
      if stores.hasMatrix && isBlankText doc then some .blankDocument else none) := by
  obtain ⟨index, matrix⟩ := stores
  cases matrix with
  | none => rfl
  | some matrix =>
    cases hdoc : isBlankText doc with
    | false => exact add_eq_fill ⟨index, some matrix⟩ ht hdoc
    | true =>
      have hcall : matrix.call ⟨t, doc⟩ = matrix := IncidenceMatrix.call_of_refused (by simp [hdoc])
      unfold add fill
      dsimp only
      rw [IncidenceMatrix.add_eq, ht, hdoc, Option.map_some, hcall]
      rfl

end Stores

namespace Builder

variable {builder : Builder}

/-- A word is filed under its term, in every store but a matrix that refuses its document. A word that
cannot be normalized has no term, and is filed nowhere. -/
theorem takeWord_eq_fill {stores : Stores} (hmatrix : stores.hasMatrix = builder.withMatrix)
    (doc w : String) :
    builder.takeWord doc stores w =
      (([(doc, ReadEvent.word w)].filterMap (occurrence? builder.termOf)).foldl Stores.fill stores,
        builder.refusal doc w) := by
  unfold takeWord refusal
  cases hnormalize : builder.normalize w with
  | error complaint =>
    have hterm : builder.termOf w = "" := by rw [termOf, hnormalize]
    have hblank : isBlankText "" = true := rfl
    simp [occurrence?, hterm, hblank]
  | ok t =>
    have hterm := termOf_of_normalize hnormalize
    cases hblank : isBlankText t with
    | true => simp [occurrence?, hterm, hblank]
    | false =>
      dsimp only
      rw [hblank, if_neg Bool.false_ne_true, Stores.add_eq stores hblank doc, hmatrix]
      cases builder.withMatrix && isBlankText doc <;> simp [occurrence?, hterm, hblank]

/-! ## One file -/

/-- Nothing is filed once the build is cancelled. -/
theorem takeEvents_cancelled (doc : String) (stores : Stores) (events : List ReadEvent) :
    (builder.takeEvents doc ⟨stores, true⟩ events).1 = ⟨stores, true⟩ := by
  induction events with
  | nil => rfl
  | cons event events ih =>
    cases event with
    | cancel => exact ih
    | word w => rfl

/-- Taking the events of a document files the occurrences up to the first cancellation. -/
theorem takeEvents_intake {stores : Stores} (hmatrix : stores.hasMatrix = builder.withMatrix)
    (doc : String) (events : List ReadEvent) :
    let hs := (builder.reached doc events).map fun event => (doc, event)
    (builder.takeEvents doc ⟨stores, false⟩ events).1 =
      ⟨(filed builder.termOf hs).foldl Stores.fill stores, !hs.all isQuiet⟩ := by
  induction events generalizing stores with
  | nil => rfl
  | cons event events ih =>
    cases event with
    | cancel => exact takeEvents_cancelled doc stores events
    | word w =>
      have hfiled : ∀ hs, filed builder.termOf ((doc, ReadEvent.word w) :: hs) =
          [(doc, ReadEvent.word w)].filterMap (occurrence? builder.termOf) ++
            filed builder.termOf hs :=
        fun hs => filed_append builder.termOf [(doc, .word w)] hs
      have hrest := (Stores.hasMatrix_foldl_fill stores
        ([(doc, ReadEvent.word w)].filterMap (occurrence? builder.termOf))).trans hmatrix
      rw [takeEvents, if_neg Bool.false_ne_true, takeWord_eq_fill hmatrix, reached]
      dsimp only
      rw [List.map_cons, hfiled, List.foldl_append]
      cases builder.refusal doc w with
      | some failure => rfl
      | none => exact ih hrest

/-- A reading without a cancellation is stopped by the first refused word only. -/
theorem takeEvents_stop {stores : Stores} (hmatrix : stores.hasMatrix = builder.withMatrix)
    (doc : String) {reading : Reading}
    (hquiet : ReadEvent.cancel ∉ builder.reached doc reading.events) :
    (builder.takeEvents doc ⟨stores, false⟩ reading.events).2 =
      (reading.words.findSome? (builder.refusal doc)).map .refused := by
  obtain ⟨events, error⟩ := reading
  dsimp only at hquiet ⊢
  induction events generalizing stores with
  | nil => rfl
  | cons event events ih =>
    cases event with
    | cancel => exact absurd List.mem_cons_self hquiet
    | word w =>
      have hrest := (Stores.hasMatrix_foldl_fill stores
        ([(doc, ReadEvent.word w)].filterMap (occurrence? builder.termOf))).trans hmatrix
      rw [takeEvents, if_neg Bool.false_ne_true, takeWord_eq_fill hmatrix, Reading.words_word,
        List.findSome?_cons]
      rw [reached] at hquiet
      cases hrefusal : builder.refusal doc w with
      | some failure => rfl
      | none =>
        rw [hrefusal, Option.isSome_none, if_neg Bool.false_ne_true, List.mem_cons, not_or] at hquiet
        exact ih hrest hquiet.2

/-- Events of a document are quiet when none of them is a cancellation. -/
theorem all_isQuiet_iff {doc : String} {events : List ReadEvent} :
    (events.map fun event => (doc, event)).all isQuiet = true ↔ ReadEvent.cancel ∉ events := by
  simp only [List.all_map, List.all_eq_true, Function.comp_apply, isQuiet, decide_eq_true_eq]
  exact ⟨fun h hmem => h _ hmem rfl, fun h event hmem heq => h (heq ▸ hmem)⟩

/-- What is filed of a file, and whether it cancels the build. -/
theorem takeFile_intake {stores : Stores} (hmatrix : stores.hasMatrix = builder.withMatrix)
    (tree : FileTree) (path : String) :
    (builder.takeFile tree ⟨stores, false⟩ path).1 =
      ⟨(filed builder.termOf (builder.visit tree path).happenings).foldl Stores.fill stores,
        !(builder.visit tree path).happenings.all isQuiet⟩ := by
  unfold takeFile visit
  cases Reader.forFile builder.readers path with
  | none => rfl
  | some reader =>
    cases tree.readText path with
    | error e => rfl
    | ok bytes =>
      have hevents := takeEvents_intake hmatrix (documentId path) (reader.read bytes).events
      dsimp only at hevents ⊢
      rw [if_neg Bool.false_ne_true]
      split
      · next hstop => rw [hstop] at hevents; exact hevents
      · next hstop => rw [hstop] at hevents; exact hevents
      · next hstop => rw [hstop] at hevents; exact hevents

/-- A file that does not cancel the build has the outcome of its visit. -/
theorem takeFile_outcome {stores : Stores} (hmatrix : stores.hasMatrix = builder.withMatrix)
    (tree : FileTree) {path : String}
    (hquiet : (builder.visit tree path).happenings.all isQuiet = true) :
    (builder.takeFile tree ⟨stores, false⟩ path).2 = some (builder.visit tree path).outcome := by
  unfold takeFile
  unfold visit at hquiet ⊢
  cases hreader : Reader.forFile builder.readers path with
  | none => rfl
  | some reader =>
    cases hread : tree.readText path with
    | error e => rfl
    | ok bytes =>
      simp only [hreader, hread] at hquiet
      have hstop := takeEvents_stop hmatrix (documentId path) (all_isQuiet_iff.mp hquiet)
      dsimp only
      rw [if_neg Bool.false_ne_true]
      cases htake : builder.takeEvents (documentId path) ⟨stores, false⟩
        (reader.read bytes).events with
      | mk intake stop =>
        rw [htake] at hstop
        dsimp only at hstop
        subst hstop
        cases (reader.read bytes).words.findSome? (builder.refusal (documentId path)) <;> rfl

/-- A file without a cancellation is filed as a whole, with the outcome of its visit. -/
theorem takeFile_of_quiet {stores : Stores} (hmatrix : stores.hasMatrix = builder.withMatrix)
    (tree : FileTree) {path : String}
    (hquiet : (builder.visit tree path).happenings.all isQuiet = true) :
    builder.takeFile tree ⟨stores, false⟩ path =
      (⟨(filed builder.termOf (builder.visit tree path).happenings).foldl Stores.fill stores,
        false⟩, some (builder.visit tree path).outcome) := by
  have hintake := takeFile_intake hmatrix tree path
  rw [hquiet] at hintake
  exact Prod.ext hintake (takeFile_outcome hmatrix tree hquiet)

/-! ## All files -/

/-- A cancelled build takes in no further file. -/
theorem takeFiles_cancelled (treeAfter : List LogRecord → FileTree) (stores : Stores)
    (report : BuildReport) (log : List LogRecord) (paths : List String) :
    builder.takeFiles treeAfter ⟨⟨stores, true⟩, report, log⟩ paths =
      ⟨⟨stores, true⟩, report, log⟩ := by
  cases paths <;> rfl

/-- What happens in the visits is what happens at the first file, and then at the others on the tree that its
records leave. -/
theorem happenings_visits_cons (treeAfter : List LogRecord → FileTree) (log : List LogRecord)
    (path : String) (paths : List String) :
    happenings (builder.visits treeAfter log (path :: paths)) =
      (builder.visit (treeAfter log) path).happenings ++
        happenings (builder.visits treeAfter
          (log ++ (builder.visit (treeAfter log) path).outcome.records path) paths) := by
  rw [visits]
  exact List.flatMap_cons

/-- A build files what comes before the first cancellation, and is cancelled exactly if there is one. -/
theorem takeFiles_intake_of_visits {stores : Stores} (hmatrix : stores.hasMatrix = builder.withMatrix)
    (treeAfter : List LogRecord → FileTree) (report : BuildReport) (log : List LogRecord)
    (paths : List String) :
    let hs := happenings (builder.visits treeAfter log paths)
    (builder.takeFiles treeAfter ⟨⟨stores, false⟩, report, log⟩ paths).intake =
      ⟨(filed builder.termOf hs).foldl Stores.fill stores, !hs.all isQuiet⟩ := by
  induction paths generalizing stores report log with
  | nil => rfl
  | cons path paths ih =>
    have hrest := (Stores.hasMatrix_foldl_fill stores (filed builder.termOf
      (builder.visit (treeAfter log) path).happenings)).trans hmatrix
    dsimp only
    rw [happenings_visits_cons, filed_append, List.all_append, takeFiles]
    cases hquiet : (builder.visit (treeAfter log) path).happenings.all isQuiet with
    | true =>
      rw [takeFile_of_quiet hmatrix (treeAfter log) hquiet, if_pos rfl, Bool.true_and,
        List.foldl_append]
      exact ih hrest _ _
    | false =>
      have hintake := takeFile_intake hmatrix (treeAfter log) path
      rw [hquiet] at hintake
      -- whatever the outcome of this file, none of those behind a cancellation is taken
      rw [if_neg Bool.false_ne_true, Bool.false_and]
      cases htake : builder.takeFile (treeAfter log) ⟨stores, false⟩ path with
      | mk intake outcome =>
        rw [htake] at hintake
        dsimp only at hintake
        subst hintake
        cases outcome with
        | none => rfl
        | some outcome =>
          dsimp only
          rw [Bool.not_false, takeFiles_cancelled]

/-- A file that does not cancel the build is recorded, and the build goes on behind it. -/
theorem takeFiles_cons_of_quiet {stores : Stores} (hmatrix : stores.hasMatrix = builder.withMatrix)
    (treeAfter : List LogRecord → FileTree) (report : BuildReport) (log : List LogRecord) {path : String}
    (paths : List String)
    (hquiet : (builder.visit (treeAfter log) path).happenings.all isQuiet = true) :
    ∃ filled : Stores, filled.hasMatrix = builder.withMatrix ∧
      builder.takeFiles treeAfter ⟨⟨stores, false⟩, report, log⟩ (path :: paths) =
        builder.takeFiles treeAfter
          ⟨⟨filled, false⟩, report.record path (builder.visit (treeAfter log) path).outcome,
            log ++ (builder.visit (treeAfter log) path).outcome.records path⟩ paths := by
  have hrest := (Stores.hasMatrix_foldl_fill stores (filed builder.termOf
    (builder.visit (treeAfter log) path).happenings)).trans hmatrix
  refine ⟨_, hrest, ?_⟩
  rw [takeFiles, takeFile_of_quiet hmatrix (treeAfter log) hquiet]

/-- A build without a cancellation makes all visits and records each of them. -/
theorem takeFiles_report_of_visits {stores : Stores}
    (hmatrix : stores.hasMatrix = builder.withMatrix) (treeAfter : List LogRecord → FileTree)
    (report : BuildReport) (log : List LogRecord) {paths : List String}
    (hquiet : (happenings (builder.visits treeAfter log paths)).all isQuiet = true) :
    (builder.takeFiles treeAfter ⟨⟨stores, false⟩, report, log⟩ paths).report =
      (builder.visits treeAfter log paths).foldl
        (fun report v => report.record v.path v.outcome) report := by
  induction paths generalizing stores report log with
  | nil => rfl
  | cons path paths ih =>
    rw [happenings_visits_cons, List.all_append, Bool.and_eq_true] at hquiet
    obtain ⟨filled, hfilled, hstep⟩ :=
      takeFiles_cons_of_quiet hmatrix treeAfter report log paths hquiet.1
    rw [hstep, visits]
    rw [List.foldl_cons, path_visit]
    exact ih hfilled _ _ hquiet.2

/-- A build without a cancellation logs what there is to log about each of its visits. -/
theorem takeFiles_log_of_visits {stores : Stores} (hmatrix : stores.hasMatrix = builder.withMatrix)
    (treeAfter : List LogRecord → FileTree) (report : BuildReport) (log : List LogRecord)
    {paths : List String}
    (hquiet : (happenings (builder.visits treeAfter log paths)).all isQuiet = true) :
    (builder.takeFiles treeAfter ⟨⟨stores, false⟩, report, log⟩ paths).log =
      log ++ (builder.visits treeAfter log paths).flatMap fun v => v.outcome.records v.path := by
  induction paths generalizing stores report log with
  | nil => exact (List.append_nil log).symm
  | cons path paths ih =>
    rw [happenings_visits_cons, List.all_append, Bool.and_eq_true] at hquiet
    obtain ⟨filled, hfilled, hstep⟩ :=
      takeFiles_cons_of_quiet hmatrix treeAfter report log paths hquiet.1
    rw [hstep, visits]
    rw [List.flatMap_cons, path_visit, ← List.append_assoc]
    exact ih hfilled _ _ hquiet.2

/-! ## The build -/

section

variable {treeAfter : List LogRecord → FileTree} {paths : List String} {cancelled : Bool}

/-- A build with one worker whose course ends cancelled is cancelled, with the log of the course. -/
theorem build_of_cancelled (h : (builder.course treeAfter paths cancelled).intake.cancelled = true) :
    builder.build treeAfter paths cancelled 1 =
      .error (.cancelled (builder.course treeAfter paths cancelled).log) :=
  if_pos h

/-- A build with one worker whose course ends without a cancellation returns its stores and its report. -/
theorem build_of_not_cancelled
    (h : (builder.course treeAfter paths cancelled).intake.cancelled = false) :
    ∃ built, builder.build treeAfter paths cancelled 1 = .ok built ∧
      built.stores = (builder.course treeAfter paths cancelled).intake.stores ∧
      built.report = (builder.course treeAfter paths cancelled).report :=
  ⟨_, if_neg (Bool.eq_false_iff.mp h), rfl, rfl⟩

end

/-- Where a build with one worker ends: the stores have what came before the first cancellation. -/
theorem course_intake (builder : Builder) (treeAfter : List LogRecord → FileTree)
    (paths : List String) (cancelled : Bool) :
    let hs := happenings (builder.visits treeAfter [opening paths.length 1] paths)
    (builder.course treeAfter paths cancelled).intake =
      ⟨(if cancelled then [] else filed builder.termOf hs).foldl Stores.fill
        (.empty builder.withMatrix), cancelled || !hs.all isQuiet⟩ := by
  unfold course
  cases cancelled with
  | true => rw [takeFiles_cancelled]; rfl
  | false => exact takeFiles_intake_of_visits (Stores.hasMatrix_empty _) treeAfter _ _ paths

/-- A build that returns was not cancelled, and its result is the state in which it ended, with one more
record. -/
theorem course_of_build_eq_ok {treeAfter : List LogRecord → FileTree} {paths : List String}
    {cancelled : Bool} {built : Built}
    (hbuild : builder.build treeAfter paths cancelled 1 = .ok built) :
    let s := builder.course treeAfter paths cancelled
    cancelled = false ∧
      (happenings (builder.visits treeAfter [opening paths.length 1] paths)).all isQuiet = true ∧
      built = ⟨s.intake.stores, s.report, s.log ++ [⟨.info, buildLogger, s.report.summary⟩]⟩ := by
  intro s
  cases hset : s.intake.cancelled with
  | true =>
    rw [build_of_cancelled hset] at hbuild
    cases hbuild
  | false =>
    have hresult := (if_neg (Bool.eq_false_iff.mp hset)).symm.trans hbuild
    have hcourse := course_intake builder treeAfter paths cancelled
    rw [show s.intake = _ from hcourse] at hset
    obtain ⟨hcancelled, hquiet⟩ := Bool.or_eq_false_iff.mp hset
    exact ⟨hcancelled, (Bool.not_eq_false' _).mp hquiet, (Except.ok.inj hresult).symm⟩

/-- A build that returns has made all its visits: it has recorded them, and it has filed everything that
happened. -/
theorem of_build_eq_ok {treeAfter : List LogRecord → FileTree} {paths : List String}
    {cancelled : Bool} {built : Built}
    (hbuild : builder.build treeAfter paths cancelled 1 = .ok built) :
    let visits := builder.visits treeAfter [opening paths.length 1] paths
    built.stores = ((happenings visits).filterMap (occurrence? builder.termOf)).foldl Stores.fill
        (.empty builder.withMatrix) ∧
      built.report = visits.foldl (fun report v => report.record v.path v.outcome) .empty := by
  intro visits
  obtain ⟨rfl, hquiet, rfl⟩ := course_of_build_eq_ok hbuild
  refine ⟨?_, takeFiles_report_of_visits (Stores.hasMatrix_empty _) _ _ _ hquiet⟩
  have hall : (happenings visits).takeWhile isQuiet = happenings visits := by
    have happend : (happenings visits ++ []).takeWhile isQuiet =
        happenings visits ++ [].takeWhile isQuiet :=
      List.takeWhile_append_of_pos (List.all_eq_true.mp hquiet)
    rwa [List.takeWhile_nil, List.append_nil] at happend
  dsimp only
  rw [course_intake]
  dsimp only
  rw [if_neg Bool.false_ne_true, filed, hall]

/-- The stores of a build that returns are those of an add for every word with a term. -/
theorem stores_of_build_eq_ok {treeAfter : List LogRecord → FileTree} {paths : List String}
    {cancelled : Bool} {built : Built}
    (hbuild : builder.build treeAfter paths cancelled 1 = .ok built) :
    let os := (happenings (builder.visits treeAfter [opening paths.length 1] paths)).filterMap
      (occurrence? builder.termOf)
    built.stores.index = .afterCalls (os.map CountedAdd.once) ∧
      ∀ matrix, built.stores.matrix = some matrix → matrix = .afterCalls os := by
  intro os
  obtain ⟨hstores, -⟩ := of_build_eq_ok hbuild
  refine ⟨by rw [hstores, Stores.index_fill_empty], fun matrix hmatrix => ?_⟩
  rw [hstores, Stores.matrix_fill_empty] at hmatrix
  split at hmatrix
  · exact (Option.some.inj hmatrix).symm
  · cases hmatrix

/-- A record is about one file. -/
theorem length_indexed_record_le (report : BuildReport) (path : String) (outcome : FileOutcome) :
    (report.record path outcome).indexed.length ≤ report.indexed.length + 1 := by
  cases outcome <;> simp [BuildReport.record]

/-- A build by one worker records each file at most once as indexed. -/
theorem length_indexed_takeFiles (treeAfter : List LogRecord → FileTree) (s : BuildState)
    (paths : List String) :
    (builder.takeFiles treeAfter s paths).report.indexed.length ≤
      s.report.indexed.length + paths.length := by
  induction paths generalizing s with
  | nil => exact Nat.le_refl _
  | cons path paths ih =>
    rw [takeFiles, List.length_cons]
    split
    · dsimp only
      omega
    · next intake outcome _ =>
      have hrest := ih ⟨intake, s.report.record path outcome, s.log ++ outcome.records path⟩
      have hstep := length_indexed_record_le s.report path outcome
      dsimp only at hrest
      omega

end Builder

/-! ## Reports on visits -/

namespace BuildReport

/-- A report has a path among those with an outcome. -/
def Knows (report : BuildReport) (path : String) : FileOutcome → Prop
  | .indexed => path ∈ report.indexed
  | .skipped => path ∈ report.skipped
  | .failed _ => path ∈ report.failed.keys

variable {report : BuildReport} {path : String} {outcome : FileOutcome}

/-- A report knows an outcome as soon as it is recorded. -/
theorem knows_record (report : BuildReport) (path : String) (outcome : FileOutcome) :
    (report.record path outcome).Knows path outcome := by
  cases outcome with
  | indexed => exact List.mem_append_right _ List.mem_cons_self
  | skipped => exact List.mem_append_right _ List.mem_cons_self
  | failed failure => exact OrderedMap.mem_keys_upsert.mpr (.inl rfl)

/-- A further record forgets nothing. -/
theorem Knows.record (h : report.Knows path outcome) (other : String) (outcome' : FileOutcome) :
    (report.record other outcome').Knows path outcome := by
  cases outcome with
  | indexed =>
    cases outcome' with
    | indexed => exact List.mem_append_left _ h
    | skipped => exact h
    | failed failure => exact h
  | skipped =>
    cases outcome' with
    | indexed => exact h
    | skipped => exact List.mem_append_left _ h
    | failed failure => exact h
  | failed failure =>
    cases outcome' with
    | indexed => exact h
    | skipped => exact h
    | failed failure' => exact OrderedMap.mem_keys_upsert.mpr (.inr h)

/-- What a report knows of a path is known to it behind further visits as well. -/
theorem Knows.foldl (h : report.Knows path outcome) (visits : List Visit) :
    (visits.foldl (fun report v => report.record v.path v.outcome) report).Knows path outcome := by
  induction visits generalizing report with
  | nil => exact h
  | cons v visits ih => exact ih (h.record v.path v.outcome)

/-- A report that was made of visits knows all of them. -/
theorem knows_foldl {visits : List Visit} {v : Visit} (h : v ∈ visits) (report : BuildReport) :
    (visits.foldl (fun report v => report.record v.path v.outcome) report).Knows v.path v.outcome := by
  induction visits generalizing report with
  | nil => cases h
  | cons first visits ih =>
    rcases List.mem_cons.mp h with rfl | h
    · exact (knows_record report v.path v.outcome).foldl visits
    · exact ih h _

end BuildReport

end BooleanRetrieval
