import BooleanRetrieval.Console.Session

/-!
# Sessions without a log file

Without a log file, logging writes on the console only: it changes neither the file tree nor the set-up
(`tree_logAll`, `logging_logAll`). What has been written stays written (`written_subset_logAll`), and a
record that is shown is among it (`mem_written_logAll`).
-/

set_option autoImplicit false

namespace BooleanRetrieval

/-- How a program ends that does not ask for queries. -/
def Continuation.ending? : Continuation → Option Ending
  | .stop ending => some ending
  | .ask _ _ => none

/-- A continuation has an ending when it stops with it. -/
theorem Continuation.ending?_eq_some_iff {next : Continuation} {ending : Ending} :
    next.ending? = some ending ↔ next = .stop ending := by
  cases next <;> simp [ending?]

namespace Logging

/-- Without a log file a record leaves the tree as it was. -/
theorem emit_tree {l : Logging} (h : l.file = none) (clock : Clock) (tree : FileTree)
    (record : LogRecord) : (l.emit clock tree record).1 = tree := by
  unfold emit
  rw [h]
  split
  · rfl
  · split
    · rfl
    · split <;> rfl

end Logging

namespace Session

/-- Logging a record does not change where records go. -/
theorem logging_log (clock : Clock) (s : Session) (record : LogRecord) :
    (s.log clock record).logging = s.logging := by
  unfold log
  dsimp only
  split <;> rfl

/-- Without a log file logging a record leaves the tree as it was. -/
theorem tree_log {s : Session} (h : s.logging.file = none) (clock : Clock) (record : LogRecord) :
    (s.log clock record).tree = s.tree := by
  have htree := Logging.emit_tree h clock s.tree record
  unfold log
  dsimp only
  split
  · exact htree
  · exact htree

/-- Logging records does not change where they go. -/
theorem logging_logAll (clock : Clock) (s : Session) (records : List LogRecord) :
    (s.logAll clock records).logging = s.logging := by
  induction records generalizing s with
  | nil => rfl
  | cons record records ih => exact (ih (s.log clock record)).trans (logging_log clock s record)

/-- Without a log file logging records leaves the tree as it was. -/
theorem tree_logAll {s : Session} (h : s.logging.file = none) (clock : Clock)
    (records : List LogRecord) : (s.logAll clock records).tree = s.tree := by
  induction records generalizing s with
  | nil => rfl
  | cons record records ih =>
    have hfile : (s.log clock record).logging.file = none := by rw [logging_log, h]
    exact (ih hfile).trans (tree_log h clock record)

/-- Without a log file the logging of a new session can always be set up. -/
theorem setUpLogging_start (tree : FileTree) (level : LogLevel) :
    (start tree).setUpLogging level none = .ok ⟨tree, ⟨level, true, none⟩, []⟩ := rfl

/-- Printing lines does not change where records go. -/
theorem logging_sayAll (s : Session) (lines : List String) : (s.sayAll lines).logging = s.logging := by
  induction lines generalizing s with
  | nil => rfl
  | cons line lines ih => exact ih (s.say line)

/-- Printing lines leaves the tree as it was. -/
theorem tree_sayAll (s : Session) (lines : List String) : (s.sayAll lines).tree = s.tree := by
  induction lines generalizing s with
  | nil => rfl
  | cons line lines ih => exact ih (s.say line)

/-! ## What has been written -/

/-- What was written stays written when a record is logged. -/
theorem written_subset_log (clock : Clock) (s : Session) (record : LogRecord) :
    s.written ⊆ (s.log clock record).written := by
  unfold log
  dsimp only
  split
  · exact List.Subset.refl _
  · exact List.subset_cons_self _ _

/-- What was written stays written when records are logged. -/
theorem written_subset_logAll (clock : Clock) (s : Session) (records : List LogRecord) :
    s.written ⊆ (s.logAll clock records).written := by
  induction records generalizing s with
  | nil => exact List.Subset.refl _
  | cons record records ih =>
    exact List.Subset.trans (written_subset_log clock s record) (ih (s.log clock record))

/-- What was written stays written when lines are printed. -/
theorem written_subset_sayAll (s : Session) (lines : List String) :
    s.written ⊆ (s.sayAll lines).written := by
  induction lines generalizing s with
  | nil => exact List.Subset.refl _
  | cons line lines ih => exact List.Subset.trans (List.subset_cons_self _ _) (ih (s.say line))

/-- A record of the program that is shown at all is written on the console. -/
theorem mem_written_log {s : Session} {record : LogRecord} (hready : s.logging.ready = true)
    (hshows : s.logging.shows record = true) (hown : Logging.isOwn record.logger = true)
    (clock : Clock) :
    (Channel.records, Logging.line clock record) ∈ (s.log clock record).written := by
  have htext : (s.logging.emit clock s.tree record).2 = Logging.line clock record := by
    unfold Logging.emit
    rw [hshows, hready, hown]
    dsimp only
    cases s.logging.file <;> rfl
  have hnonempty : ¬ (Logging.line clock record).isEmpty = true := by
    simp [Logging.line]
  unfold log
  dsimp only
  rw [htext, if_neg hnonempty]
  exact List.mem_cons_self

/-- A record that the console shows is written with all the others that are logged. -/
theorem mem_written_logAll {s : Session} {records : List LogRecord} {record : LogRecord}
    (hready : s.logging.ready = true) (hshows : s.logging.shows record = true)
    (hown : Logging.isOwn record.logger = true) (hmem : record ∈ records) (clock : Clock) :
    (Channel.records, Logging.line clock record) ∈ (s.logAll clock records).written := by
  induction records generalizing s with
  | nil => exact absurd hmem List.not_mem_nil
  | cons first records ih =>
    rcases List.mem_cons.mp hmem with rfl | hmem
    · exact written_subset_logAll clock _ records (mem_written_log hready hshows hown clock)
    · have hlogging := logging_log clock s first
      exact ih (hlogging ▸ hready) (hlogging ▸ hshows) hmem

end Session

end BooleanRetrieval
