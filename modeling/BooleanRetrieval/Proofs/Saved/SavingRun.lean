import BooleanRetrieval.Proofs.Files.Directories
import BooleanRetrieval.Proofs.Runs

/-!
# A run of saving

Saving writes its targets one after the other into a directory. A target that the file tree refuses is
reported and left as it is, and every other one becomes a file (`write_target`). Writing one target does not
change whether another is refused, so that this can be told beforehand, and what the run saves, reports and
leaves can be read off the targets (`foldlM_write`). In the tree that it leaves every target is as it should
be (`node?_saveTargets`), and nothing else has changed (`node?_saveTargets_of_not_mem`).
-/

set_option autoImplicit false

namespace BooleanRetrieval

/-- A file to be saved: its name and its text. -/
abbrev SaveTarget : Type := String × List Char

namespace SaveTarget

/-- The job of a target. -/
def job (target : SaveTarget) : SaveJob :=
  (target.1, .ok target.2)

/-- Why a target is not written into a directory at a place, if it is not: its path is too long, a directory
has its name, or it may not be made or changed. -/
def refusal? (tree : FileTree) (directory : Path) (place : Place) (target : SaveTarget) :
    Option FileFault :=
  tree.refusal? directory place target.1

/-- The entry for a target that is saved. -/
def savedFile (directory : Path) (target : SaveTarget) : SavedFile :=
  ⟨directory.child target.1, (Encoding.encodeUtf8 target.2).length⟩

end SaveTarget

/-- What is logged when a file cannot be saved. -/
def refusedRecord (path : Path) (fault : FileFault) : LogRecord :=
  ⟨.error, savingLogger,
    "Could not save " ++ path.text ++ ": " ++ FileError.message ⟨fault, path.text⟩⟩

/-- What is logged when a file has been saved. -/
def savedRecord (clock : Clock) (path : Path) : LogRecord :=
  ⟨.info, savingLogger, "Saved " ++ path.text ++ " in " ++ clock.saveSeconds ++ "s"⟩

/-- The tree in which a target is saved, unless it is refused. -/
def FileTree.saveTarget (directory : Path) (place : Place) (tree : FileTree) (target : SaveTarget) :
    FileTree :=
  if (target.refusal? tree directory place).isSome then tree
  else tree.put (place ++ [target.1]) (.file (Encoding.encodeUtf8 target.2))

/-- The tree in which targets are saved. -/
def FileTree.saveTargets (directory : Path) (place : Place) (tree : FileTree)
    (targets : List SaveTarget) : FileTree :=
  targets.foldl (saveTarget directory place) tree

namespace FileTree

variable {tree : FileTree} {directory : Path} {place : Place}

/-! ## The tree -/

/-- Where a target is not refused, no directory has its name. -/
theorem node?_of_not_refused {target : SaveTarget}
    (h : ¬ (target.refusal? tree directory place).isSome = true) :
    tree.node? (place ++ [target.1]) ≠ some .directory := by
  intro hnode
  have hrefusal := refusal?_of_isDirectory directory hnode
  rw [Option.not_isSome_iff_eq_none] at h
  exact hrefusal h

/-- Saving a target leaves the way to a directory. -/
theorem Opens.saveTarget (h : tree.Opens directory place) (target : SaveTarget) :
    (tree.saveTarget directory place target).Opens directory place := by
  unfold FileTree.saveTarget
  split
  · exact h
  · next hfree => exact h.put (node?_of_not_refused hfree) _

/-- And so does saving all targets. -/
theorem Opens.saveTargets (h : tree.Opens directory place) (targets : List SaveTarget) :
    (tree.saveTargets directory place targets).Opens directory place := by
  induction targets generalizing tree with
  | nil => exact h
  | cons target targets ih => exact ih (h.saveTarget target)

/-- Saving a target changes nothing else. -/
theorem node?_saveTarget_of_ne {target : SaveTarget} {q : Place} (hq : q ≠ place ++ [target.1]) :
    (tree.saveTarget directory place target).node? q = tree.node? q := by
  unfold saveTarget
  split
  · rfl
  · exact tree.node?_put_of_ne hq _

/-- Saving changes nothing but its targets. -/
theorem node?_saveTargets_of_not_mem {targets : List SaveTarget} {q : Place}
    (hq : ∀ target ∈ targets, q ≠ place ++ [target.1]) :
    (tree.saveTargets directory place targets).node? q = tree.node? q := by
  induction targets generalizing tree with
  | nil => rfl
  | cons target targets ih =>
    obtain ⟨htarget, hrest⟩ := List.forall_mem_cons.mp hq
    exact (ih hrest).trans (node?_saveTarget_of_ne htarget)

/-- Entries of different names are at different places. -/
theorem append_name_ne {name name' : String} (h : name ≠ name') :
    place ++ [name] ≠ place ++ [name'] := by
  simpa using h

/-- Saving one target does not change why another is refused. -/
theorem refusal?_saveTarget {target other : SaveTarget} (h : other.1 ≠ target.1) :
    other.refusal? (tree.saveTarget directory place target) directory place =
      other.refusal? tree directory place := by
  unfold saveTarget
  split
  · rfl
  · exact refusal?_put_of_ne (append_name_ne h) _ _

/-- Saving changes nothing about what may be entered. -/
theorem locked_saveTargets (targets : List SaveTarget) :
    (tree.saveTargets directory place targets).locked = tree.locked := by
  induction targets generalizing tree with
  | nil => rfl
  | cons target targets ih =>
    refine ih.trans ?_
    unfold saveTarget
    split
    · rfl
    · exact locked_put _ _ _

/-- Nor does it change anything about what may be changed. -/
theorem frozen_saveTargets (targets : List SaveTarget) :
    (tree.saveTargets directory place targets).frozen = tree.frozen := by
  induction targets generalizing tree with
  | nil => rfl
  | cons target targets ih =>
    refine ih.trans ?_
    unfold saveTarget
    split
    · rfl
    · exact frozen_put _ _ _

/-- Every target is a file with its text afterwards, or what it was before. -/
theorem node?_saveTargets (tree : FileTree) (directory : Path) (place : Place)
    {targets : List SaveTarget} (hnames : (targets.map Prod.fst).Nodup) {target : SaveTarget}
    (h : target ∈ targets) :
    (tree.saveTargets directory place targets).node? (place ++ [target.1]) =
      if (target.refusal? tree directory place).isSome then tree.node? (place ++ [target.1])
      else some (.file (Encoding.encodeUtf8 target.2)) := by
  induction targets generalizing tree with
  | nil => exact absurd h List.not_mem_nil
  | cons first targets ih =>
    rw [List.map_cons, List.nodup_cons] at hnames
    rcases List.mem_cons.mp h with rfl | h
    · have hrest : ∀ other ∈ targets, place ++ [target.1] ≠ place ++ [other.1] := by
        intro other hother
        apply append_name_ne
        rintro hname
        exact hnames.1 (hname ▸ List.mem_map_of_mem hother)
      refine (node?_saveTargets_of_not_mem hrest).trans ?_
      unfold saveTarget
      split
      · rfl
      · exact tree.node?_put_self (by simp) _
    · have hname : target.1 ≠ first.1 := by
        rintro hname
        exact hnames.1 (hname ▸ List.mem_map_of_mem h)
      have hrest := ih (tree.saveTarget directory place first) hnames.2 h
      rw [refusal?_saveTarget hname, node?_saveTarget_of_ne (append_name_ne hname)] at hrest
      exact hrest

/-- A target that is refused is refused still when the others have been saved. -/
theorem refusal?_saveTargets {targets : List SaveTarget} (hnames : (targets.map Prod.fst).Nodup)
    {target : SaveTarget} (h : target ∈ targets) {fault : FileFault}
    (hrefused : target.refusal? tree directory place = some fault) :
    target.refusal? (tree.saveTargets directory place targets) directory place = some fault := by
  have hnode := node?_saveTargets tree directory place hnames h
  rw [hrefused, Option.isSome_some, if_pos rfl] at hnode
  rw [← hrefused]
  unfold SaveTarget.refusal? refusal?
  rw [hnode, locked_saveTargets, frozen_saveTargets]

/-! ## One target -/

/-- Saving a text under a name fails exactly if the name is refused. -/
theorem Opens.saveText_child (h : tree.Opens directory place) {name : String}
    (hname : ProperName name) (text : List Char) :
    saveText tree (directory.child name) text =
      match tree.refusal? directory place name with
      | some fault => .error (.file ⟨fault, (directory.child name).text⟩)
      | none => .ok (tree.put (place ++ [name]) (.file (Encoding.encodeUtf8 text))) := by
  unfold saveText
  rw [Path.parent_child, makeDirectories_of_isDirectory h.isDirectory]
  change (tree.write (directory.child name) (Encoding.encodeUtf8 text)).mapError WriteError.file = _
  rw [h.write_child hname]
  cases tree.refusal? directory place name <;> rfl

end FileTree

namespace Saving

variable {clock : Clock} {directory : Path} {place : Place}

/-- The record for a target, refused or not. -/
def record (clock : Clock) (directory : Path) (tree : FileTree) (place : Place)
    (target : SaveTarget) : LogRecord :=
  match target.refusal? tree directory place with
  | some fault => refusedRecord (directory.child target.1) fault
  | none => savedRecord clock (directory.child target.1)

/-- One target is saved or reported. -/
theorem write_target {s : Saving} (h : s.tree.Opens directory place) {target : SaveTarget}
    (hname : ProperName target.1) :
    s.write clock directory target.job =
      .ok ⟨s.tree.saveTarget directory place target,
        if (target.refusal? s.tree directory place).isSome then s.saved
        else target.savedFile directory :: s.saved,
        record clock directory s.tree place target :: s.log⟩ := by
  unfold write SaveTarget.job
  dsimp only
  rw [h.saveText_child hname]
  unfold FileTree.saveTarget record SaveTarget.refusal?
  cases s.tree.refusal? directory place target.1 <;> rfl

/-- A run of saving never fails, whatever of its targets are refused. -/
theorem foldlM_write {s : Saving} (h : s.tree.Opens directory place) {targets : List SaveTarget}
    (hproper : ∀ target ∈ targets, ProperName target.1) (hnames : (targets.map Prod.fst).Nodup) :
    (targets.map SaveTarget.job).foldlM (write clock directory) s =
      .ok ⟨s.tree.saveTargets directory place targets,
        ((targets.filter fun target => (target.refusal? s.tree directory place).isNone).map
          (SaveTarget.savedFile directory)).reverse ++ s.saved,
        (targets.map (record clock directory s.tree place)).reverse ++ s.log⟩ := by
  induction targets generalizing s with
  | nil => rfl
  | cons target targets ih =>
    obtain ⟨hname, hrest⟩ := List.forall_mem_cons.mp hproper
    rw [List.map_cons, List.nodup_cons] at hnames
    -- the names are distinct, so saving one target leaves the answers about the others as they were
    have hrefusal : ∀ other ∈ targets,
        other.refusal? (s.tree.saveTarget directory place target) directory place =
          other.refusal? s.tree directory place := by
      intro other hother
      apply FileTree.refusal?_saveTarget
      rintro heq
      exact hnames.1 (heq ▸ List.mem_map_of_mem hother)
    have hfilter : (targets.filter fun other =>
        (other.refusal? (s.tree.saveTarget directory place target) directory place).isNone) =
          targets.filter fun other => (other.refusal? s.tree directory place).isNone :=
      List.filter_congr fun other hother => by rw [hrefusal other hother]
    have hrecords : targets.map (record clock directory (s.tree.saveTarget directory place target) place) =
        targets.map (record clock directory s.tree place) :=
      List.map_congr_left fun other hother => by rw [record, record, hrefusal other hother]
    have hrun := ih (s := ⟨s.tree.saveTarget directory place target,
        if (target.refusal? s.tree directory place).isSome then s.saved
        else target.savedFile directory :: s.saved,
        record clock directory s.tree place target :: s.log⟩) (h.saveTarget target) hrest hnames.2
    rw [List.map_cons, List.foldlM_cons, write_target h hname]
    refine hrun.trans ?_
    dsimp only
    rw [hfilter, hrecords]
    cases hfirst : target.refusal? s.tree directory place <;>
      simp [hfirst, FileTree.saveTargets, List.append_assoc]

end Saving

/-- Saving targets into a directory that can be made. -/
theorem saveStructures_eq {clock : Clock} {tree made : FileTree} {index : Option InvertedIndex}
    {matrix : Option IncidenceMatrix} {directory : Path} {place : Place} {targets : List SaveTarget}
    (hmade : tree.makeDirectories directory = .ok made) (hopens : made.Opens directory place)
    (hjobs : saveJobs index matrix = targets.map SaveTarget.job)
    (hproper : ∀ target ∈ targets, ProperName target.1) (hnames : (targets.map Prod.fst).Nodup) :
    saveStructures clock tree index matrix directory =
      .ok ⟨made.saveTargets directory place targets,
        (targets.filter fun target => (target.refusal? made directory place).isNone).map
          (SaveTarget.savedFile directory),
        targets.map (Saving.record clock directory made place)⟩ := by
  unfold saveStructures
  rw [hmade, hjobs]
  change ((targets.map SaveTarget.job).foldlM (Saving.write clock directory) ⟨made, [], []⟩ >>= _) = _
  rw [Saving.foldlM_write hopens hproper hnames]
  simp [bind, Except.bind]

/-! ## Failures -/

/-- Saving a text fails only where its file cannot be opened. -/
theorem exists_of_saveText_error {tree : FileTree} {path : Path} {text : List Char} {e : WriteError}
    (h : saveText tree path text = .error e) : ∃ e', e = .file e' := by
  unfold saveText at h
  cases hmade : tree.makeDirectories path.parent with
  | error e' =>
    rw [hmade] at h
    exact ⟨e', (Except.error.inj h).symm⟩
  | ok made =>
    rw [hmade] at h
    change (made.write path (Encoding.encodeUtf8 text)).mapError WriteError.file = .error e at h
    cases hwritten : made.write path (Encoding.encodeUtf8 text) with
    | error e' =>
      rw [hwritten] at h
      exact ⟨e', (Except.error.inj h).symm⟩
    | ok written =>
      rw [hwritten] at h
      cases h

/-- Whatever the tree refuses, only a text that cannot be written ends a saving. -/
theorem Saving.write_ok_iff (clock : Clock) (directory : Path) (s : Saving) (job : SaveJob) :
    (∃ s', s.write clock directory job = .ok s') ↔ ∃ text, job.2 = .ok text := by
  unfold write
  cases job.2 with
  | error e => simp
  | ok text =>
    refine ⟨fun _ => ⟨text, rfl⟩, fun _ => ?_⟩
    dsimp only
    cases hsaved : saveText s.tree (directory.child job.1) text with
    | ok tree => exact ⟨_, rfl⟩
    | error e =>
      obtain ⟨e', rfl⟩ := exists_of_saveText_error hsaved
      exact ⟨_, rfl⟩

/-- A saving is carried through when its directory can be made and each of its texts can be written. -/
theorem saveStructures_ok_iff {clock : Clock} {tree : FileTree} {index : Option InvertedIndex}
    {matrix : Option IncidenceMatrix} {directory : Path} :
    (∃ saving, saveStructures clock tree index matrix directory = .ok saving) ↔
      (∃ made, tree.makeDirectories directory = .ok made) ∧
        ∀ job ∈ saveJobs index matrix, ∃ text, job.2 = .ok text := by
  unfold saveStructures
  cases hmade : tree.makeDirectories directory with
  | error e =>
    constructor
    · rintro ⟨saving, h⟩
      cases h
    · rintro ⟨⟨made, h⟩, -⟩
      cases h
  | ok made =>
    change (∃ saving, ((saveJobs index matrix).foldlM (Saving.write clock directory) ⟨made, [], []⟩ >>= _) =
      .ok saving) ↔ _
    rw [← foldlM_ok_iff (Saving.write_ok_iff clock directory) (s := ⟨made, [], []⟩)]
    constructor
    · rintro ⟨saving, h⟩
      refine ⟨⟨made, rfl⟩, ?_⟩
      cases hrun : (saveJobs index matrix).foldlM (Saving.write clock directory) ⟨made, [], []⟩ with
      | ok s => exact ⟨s, rfl⟩
      | error e =>
        rw [hrun] at h
        cases h
    · rintro ⟨-, s, hrun⟩
      rw [hrun]
      exact ⟨_, rfl⟩

end BooleanRetrieval
