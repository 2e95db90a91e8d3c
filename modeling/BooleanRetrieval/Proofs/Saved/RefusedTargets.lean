import BooleanRetrieval.Proofs.Files.LongPaths
import BooleanRetrieval.Proofs.Saved.SavingRun
import BooleanRetrieval.Proofs.Saved.Survival

/-!
# Saving around failures

Saving the given stores into a directory is saving their targets there: two files of an index and two of a
matrix, each with the text of a format (`IndexTargets`, `matrixTargets`). The file tree may refuse some of the
targets, and other files may be there. What a run of saving tells and leaves is then complete
(`SavesAround`): every other target is saved with its text and its size, each refused one is reported, and no
other file is changed, neither by the writing nor by making the directory.
-/

set_option autoImplicit false

namespace BooleanRetrieval

/-! ## Targets of stores -/

/-- The targets of an index that may be there: its text as JSON and its text as lines. -/
inductive IndexTargets : Option InvertedIndex → List SaveTarget → Prop
  | none : IndexTargets none []
  | some {index : InvertedIndex} {json lines : List Char} (hjson : index.toText .json = .ok json)
    (hlines : index.toText .lines = .ok lines) :
    IndexTargets (some index) [(indexJsonName, json), (indexLinesName, lines)]

/-- The targets of a matrix that may be there. -/
def matrixTargets : Option IncidenceMatrix → List SaveTarget
  | none => []
  | some matrix =>
    [(matrixJsonName, matrix.toText .json), (matrixLinesName, matrix.toText .lines)]

/-- The names of all targets. -/
def targetNames : List String :=
  [indexJsonName, indexLinesName, matrixJsonName, matrixLinesName]

/-- The files of a saving have different names. -/
theorem nodup_targetNames : targetNames.Nodup := by
  decide

/-- Each file of a saving has a proper name. -/
theorem properName_of_mem_targetNames : ∀ name ∈ targetNames, ProperName name := by
  decide

section

variable {index : Option InvertedIndex} {targets : List SaveTarget}

/-- A saving has the targets of the index and then those of the matrix. -/
theorem IndexTargets.saveJobs_eq (h : IndexTargets index targets) (matrix : Option IncidenceMatrix) :
    saveJobs index matrix = (targets ++ matrixTargets matrix).map SaveTarget.job := by
  unfold saveJobs
  cases h with
  | none => cases matrix <;> rfl
  | some hjson hlines =>
    dsimp only
    rw [hjson, hlines]
    cases matrix <;> rfl

/-- The names of the targets are among the names of a saving, in their order. -/
theorem IndexTargets.names_sublist (h : IndexTargets index targets) (matrix : Option IncidenceMatrix) :
    ((targets ++ matrixTargets matrix).map Prod.fst).Sublist targetNames := by
  cases h with
  | none =>
    cases matrix with
    | none => exact List.nil_sublist _
    | some matrix => exact List.sublist_append_right [indexJsonName, indexLinesName] _
  | some hjson hlines =>
    cases matrix with
    | none => exact List.sublist_append_left _ [matrixJsonName, matrixLinesName]
    | some matrix => exact List.Sublist.refl _

/-- The targets of a saving have different names. -/
theorem IndexTargets.nodup_names (h : IndexTargets index targets) (matrix : Option IncidenceMatrix) :
    ((targets ++ matrixTargets matrix).map Prod.fst).Nodup :=
  (h.names_sublist matrix).nodup nodup_targetNames

/-- Each target of a saving has a proper name. -/
theorem IndexTargets.properName (h : IndexTargets index targets) {matrix : Option IncidenceMatrix} :
    ∀ target ∈ targets ++ matrixTargets matrix, ProperName target.1 := by
  intro target htarget
  have hname : target.1 ∈ targetNames := (h.names_sublist matrix).subset (List.mem_map_of_mem htarget)
  exact properName_of_mem_targetNames _ hname

end

/-- An index whose frequencies can be written has targets, and so has none. -/
theorem exists_indexTargets {calls : Option (List CountedAdd)}
    (h : ∀ c ∈ calls, (InvertedIndex.afterCalls c).FewDigits) :
    ∃ targets, IndexTargets (calls.map InvertedIndex.afterCalls) targets := by
  cases calls with
  | none => exact ⟨[], .none⟩
  | some calls =>
    obtain ⟨hbooks, hpos⟩ := InvertedIndex.books_addAll (InvertedIndex.addAll_accepted_empty calls)
    have hdigits := h calls rfl
    obtain ⟨json, hjson⟩ := (hbooks.exists_toText_iff hpos .json).mpr hdigits
    obtain ⟨lines, hlines⟩ := (hbooks.exists_toText_iff hpos .lines).mpr hdigits
    exact ⟨_, .some hjson hlines⟩

/-! ## What a run of saving tells and leaves -/

/-- The targets are saved into a directory, from the tree `tree` on, as far as they are not refused. `made` is
the tree in which the directory is there. -/
structure SavesAround (tree made : FileTree) (directory : Path) (place : Place)
    (targets : List SaveTarget) (saving : Saving) : Prop where
  /-- The targets that are not refused are told in order, with the sizes of their texts. -/
  saved : saving.saved =
    (targets.filter fun target => (target.refusal? made directory place).isNone).map
      (SaveTarget.savedFile directory)
  /-- Each of them is a file with its text and nothing else. -/
  written : ∀ target ∈ targets, target.refusal? made directory place = none →
    saving.tree.find (directory.child target.1) = .ok (.file (Encoding.encodeUtf8 target.2))
  /-- What stands in place of the others stays there. -/
  kept : ∀ target ∈ targets, target.refusal? made directory place ≠ none →
    saving.tree.node? (place ++ [target.1]) = made.node? (place ++ [target.1])
  /-- Each refused target is reported once with the reason, and there is no other error. -/
  errors : saving.log.filter (fun record => record.level = .error) =
    targets.filterMap fun target => (target.refusal? made directory place).map
      (refusedRecord (directory.child target.1))
  /-- No other file is changed, made or removed. -/
  others : ∀ q, (∀ target ∈ targets, q ≠ place ++ [target.1]) → ∀ bytes,
    saving.tree.node? q = some (.file bytes) ↔ tree.node? q = some (.file bytes)

/-- The errors that a run of saving reports are those of the refused targets. -/
theorem Saving.errors_record (clock : Clock) (directory : Path) (tree : FileTree) (place : Place)
    (targets : List SaveTarget) :
    (targets.map (record clock directory tree place)).filter (fun record => record.level = .error) =
      targets.filterMap fun target => (target.refusal? tree directory place).map
        (refusedRecord (directory.child target.1)) := by
  induction targets with
  | nil => rfl
  | cons target targets ih =>
    rw [List.map_cons, record, List.filterMap_cons]
    cases target.refusal? tree directory place with
    | some fault =>
      have herror : (refusedRecord (directory.child target.1) fault).level = .error := rfl
      rw [List.filter_cons_of_pos (by simpa using herror), ih]
      rfl
    | none =>
      have hinfo : (savedRecord clock (directory.child target.1)).level ≠ .error :=
        show LogLevel.info ≠ .error by decide
      rw [List.filter_cons_of_neg (by simpa using hinfo), ih]
      rfl

section

variable (clock : Clock) {tree made : FileTree} {directory : Path} {place : Place}

/-- A target that is not refused is found with its text when the run is over. -/
theorem FileTree.Opens.find_saveTargets (h : made.Opens directory place) {targets : List SaveTarget}
    (hproper : ∀ target ∈ targets, ProperName target.1) (hnodup : (targets.map Prod.fst).Nodup)
    {target : SaveTarget} (htarget : target ∈ targets)
    (hfree : target.refusal? made directory place = none) :
    (made.saveTargets directory place targets).find (directory.child target.1) =
      .ok (.file (Encoding.encodeUtf8 target.2)) := by
  have hnode := node?_saveTargets made directory place hnodup htarget
  rw [hfree] at hnode
  unfold SaveTarget.refusal? refusal? at hfree
  split at hfree
  · cases hfree
  · next hlength =>
    split at hfree
    · cases hfree
    · next hlocked =>
      refine (h.saveTargets targets).find_child (hproper target htarget) hlength ?_ hnode
      rwa [locked_saveTargets]

/-- What a run of saving comes to is complete. -/
theorem savesAround_saveTargets (hsame : made.SameFiles tree) (hopens : made.Opens directory place)
    {targets : List SaveTarget} (hproper : ∀ target ∈ targets, ProperName target.1)
    (hnodup : (targets.map Prod.fst).Nodup) :
    SavesAround tree made directory place targets
      ⟨made.saveTargets directory place targets,
        (targets.filter fun target => (target.refusal? made directory place).isNone).map
          (SaveTarget.savedFile directory),
        targets.map (Saving.record clock directory made place)⟩ where
  saved := rfl
  written _ htarget hfree := hopens.find_saveTargets hproper hnodup htarget hfree
  kept target htarget hrefused := by
    have hnode := FileTree.node?_saveTargets made directory place hnodup htarget
    rwa [if_pos (Option.isSome_iff_ne_none.mpr hrefused)] at hnode
  errors := Saving.errors_record clock directory made place targets
  others q hq bytes := by
    rw [FileTree.node?_saveTargets_of_not_mem hq]
    exact hsame q bytes

/-- Saving the given stores into a directory that is there or can be made never fails, whatever of its targets
the file tree refuses. -/
theorem saving_is_complete (index : Option (List CountedAdd)) (matrix : Option (List Occurrence))
    (hdigits : ∀ calls ∈ index, (InvertedIndex.afterCalls calls).FewDigits)
    (hmade : tree.makeDirectories directory = .ok made) (hopens : made.Opens directory place) :
    (tree.isDirectory directory = true → made = tree) ∧
      ∃ indexTargets saving, IndexTargets (index.map .afterCalls) indexTargets ∧
        saveStructures clock tree (index.map .afterCalls) (matrix.map .afterCalls) directory =
          .ok saving ∧
        SavesAround tree made directory place
          (indexTargets ++ matrixTargets (matrix.map .afterCalls)) saving := by
  constructor
  · intro hdirectory
    rw [FileTree.makeDirectories_of_isDirectory hdirectory] at hmade
    exact (Except.ok.inj hmade).symm
  · obtain ⟨targets, htargets⟩ := exists_indexTargets hdigits
    have hsame : made.SameFiles tree := FileTree.sameFiles_of_makeDirectoriesUpTo hmade
    exact ⟨targets, _, htargets,
      saveStructures_eq hmade hopens (htargets.saveJobs_eq _) htargets.properName (htargets.nodup_names _),
      savesAround_saveTargets clock hsame hopens htargets.properName (htargets.nodup_names _)⟩

end

/-- A directory stands in the way of the first file, a longer text in place of the third, and there is a file
that has nothing to do with the stores. -/
theorem saving_is_complete_blocked :
    let clock : Clock := ⟨"", "", "", "", ""⟩
    let directory : Path := ⟨"", ["out"]⟩
    let tree : FileTree := { entries := [(["out"], .directory), (["out", indexJsonName], .directory),
      (["out", matrixJsonName], .file (Encoding.encodeUtf8 "a text that is longer".toList)),
      (["out", "notes.txt"], .file (Encoding.encodeUtf8 "notes".toList))] }
    let calls : List CountedAdd := [(⟨"cat", "a.txt"⟩, 1)]
    let index := InvertedIndex.afterCalls calls
    let matrix := IncidenceMatrix.afterCalls []
    index.FewDigits ∧ tree.makeDirectories directory = .ok tree ∧ tree.Opens directory ["out"] ∧
      ∃ saving, saveStructures clock tree (some index) (some matrix) directory = .ok saving ∧
        saving.saved.map (fun file => (file.path.text, file.size)) =
          [("out/inverted_index_custom.txt", 14), ("out/term_document_matrix.json", 2),
            ("out/term_document_matrix_custom.txt", 0)] ∧
        saving.tree.node? ["out", indexJsonName] = some .directory ∧
        saving.tree.find (directory.child matrixJsonName) =
          .ok (.file (Encoding.encodeUtf8 "\x7b\x7d".toList)) ∧
        saving.log.filter (fun record => record.level = .error) =
          [refusedRecord (directory.child indexJsonName) .isDirectory] ∧
        saving.tree.node? ["out", "notes.txt"] = some (.file (Encoding.encodeUtf8 "notes".toList)) := by
  intro clock directory tree calls index matrix
  have hdigits : index.FewDigits := InvertedIndex.fewDigits_afterCalls (by decide +kernel)
  have hopens : tree.Opens directory ["out"] := ⟨by decide +kernel, rfl⟩
  have hmade := FileTree.makeDirectories_of_isDirectory hopens.isDirectory
  obtain ⟨-, targets, saving, htargets, hsaving, haround⟩ :=
    saving_is_complete clock (some calls) (some []) (fun _ hc => Option.some.inj hc ▸ hdigits) hmade hopens
  obtain ⟨saving', hsaving', hsaved⟩ : ∃ saving,
      saveStructures clock tree (some index) (some matrix) directory = .ok saving ∧
      saving.saved.map (fun file => (file.path.text, file.size)) =
        [("out/inverted_index_custom.txt", 14), ("out/term_document_matrix.json", 2),
          ("out/term_document_matrix_custom.txt", 0)] :=
    exists_eq_ok_of_toOption (by decide +kernel)
  obtain rfl : saving = saving' := Except.ok.inj (hsaving.symm.trans hsaving')
  have hjson : matrix.toText .json = "\x7b\x7d".toList := by decide +kernel
  have hrefusals : targetNames.map (tree.refusal? directory ["out"]) =
      [some .isDirectory, none, none, none] := by
    decide +kernel
  obtain ⟨hfirst, hrest⟩ := List.cons.inj hrefusals
  obtain ⟨hsecond, hrest⟩ := List.cons.inj hrest
  obtain ⟨hthird, hrest⟩ := List.cons.inj hrest
  obtain ⟨hfourth, -⟩ := List.cons.inj hrest
  have hnotes : saving.tree.node? ["out", "notes.txt"] =
      some (.file (Encoding.encodeUtf8 "notes".toList)) := by
    refine (haround.others ["out", "notes.txt"] (fun target htarget => ?_) _).mpr rfl
    have hnames : ∀ name ∈ targetNames, ["out", "notes.txt"] ≠ ["out"] ++ [name] := by decide
    exact hnames _ ((htargets.names_sublist (some matrix)).subset (List.mem_map_of_mem htarget))
  cases htargets with
  | @some _ json lines _ _ =>
    refine ⟨hdigits, hmade, hopens, saving, hsaving', hsaved, ?_, ?_, ?_, hnotes⟩
    · exact haround.kept (indexJsonName, json) (by simp) (by simp [SaveTarget.refusal?, hfirst])
    · rw [← hjson]
      exact haround.written (matrixJsonName, matrix.toText .json) (by simp [matrixTargets, matrix]) hthird
    · rw [haround.errors]
      simp [matrixTargets, SaveTarget.refusal?, hfirst, hsecond, hthird, hfourth]

/-- A run of saving in which every target is refused for one reason saves nothing and changes nothing. -/
theorem saveStructures_of_refused {clock : Clock} {tree made : FileTree} {index : Option InvertedIndex}
    {matrix : Option IncidenceMatrix} {directory : Path} {place : Place} {targets : List SaveTarget}
    {fault : FileFault} (hmade : tree.makeDirectories directory = .ok made)
    (hopens : made.Opens directory place) (hjobs : saveJobs index matrix = targets.map SaveTarget.job)
    (hproper : ∀ target ∈ targets, ProperName target.1) (hnames : (targets.map Prod.fst).Nodup)
    (hrefused : ∀ target ∈ targets, target.refusal? made directory place = some fault) :
    saveStructures clock tree index matrix directory =
      .ok ⟨made, [], (targets.map Prod.fst).map fun name => refusedRecord (directory.child name) fault⟩ := by
  have htree : made.saveTargets directory place targets = made := by
    clear hjobs hproper hnames
    induction targets with
    | nil => rfl
    | cons target targets ih =>
      obtain ⟨hfirst, hrest⟩ := List.forall_mem_cons.mp hrefused
      have hstep : made.saveTarget directory place target = made := by
        rw [FileTree.saveTarget, hfirst, Option.isSome_some, if_pos rfl]
      rw [FileTree.saveTargets, List.foldl_cons, hstep]
      exact ih hrest
  have hnone : (targets.filter fun target => (target.refusal? made directory place).isNone) = [] :=
    List.filter_eq_nil_iff.mpr fun target htarget => by simp [hrefused target htarget]
  have hrecords : targets.map (Saving.record clock directory made place) =
      (targets.map Prod.fst).map fun name => refusedRecord (directory.child name) fault := by
    rw [List.map_map]
    refine List.map_congr_left fun target htarget => ?_
    rw [Saving.record, hrefused target htarget]
    rfl
  rw [saveStructures_eq hmade hopens hjobs hproper hnames, htree, hnone, hrecords, List.map_nil]

/-- In a directory whose path is so long that no room is left for the names of the files, none of them is a
directory, but none is saved either. -/
theorem long_targets_are_not_saved :
    let clock : Clock := ⟨"", "", "", "", ""⟩
    let directory := Path.detour "a" 815
    let tree : FileTree := { entries := [(["a"], .directory)] }
    let index := InvertedIndex.afterCalls [(⟨"t", "d"⟩, 1)]
    let matrix := IncidenceMatrix.afterCalls [⟨"t", "d"⟩]
    index.FewDigits ∧ tree.isDirectory directory = true ∧
      (∀ name ∈ targetNames, tree.isDirectoryAt ["a", name] = false) ∧
      saveStructures clock tree (some index) (some matrix) directory =
        .ok ⟨tree, [], targetNames.map fun name => refusedRecord (directory.child name) .nameTooLong⟩ := by
  intro clock directory tree index matrix
  have hdigits : index.FewDigits := InvertedIndex.fewDigits_afterCalls (by decide +kernel)
  have hopens : tree.Opens directory ["a"] :=
    FileTree.opens_detour tree (by decide +kernel) (by decide) rfl List.not_mem_nil rfl
      List.not_mem_nil (by decide)
  have hlong : ∀ name ∈ targetNames,
      FileTree.pathLimit < (directory.child name).text.utf8ByteSize := by
    intro name hname
    rw [Path.utf8ByteSize_detour_child (by decide)]
    revert name
    decide
  have hcalls : ∀ c ∈ some [((⟨"t", "d"⟩, 1) : CountedAdd)], (InvertedIndex.afterCalls c).FewDigits :=
    fun _ hc => Option.some.inj hc ▸ hdigits
  obtain ⟨targets, htargets⟩ := exists_indexTargets hcalls
  have hnames : (targets ++ matrixTargets (some matrix)).map Prod.fst = targetNames := by
    cases htargets
    rfl
  -- what comes of the saving does not depend on how the path got so long
  have hsaved : ∀ d : Path, tree.Opens d ["a"] →
      (∀ name ∈ targetNames, FileTree.pathLimit < (d.child name).text.utf8ByteSize) →
      saveStructures clock tree (some index) (some matrix) d =
        .ok ⟨tree, [], targetNames.map fun name => refusedRecord (d.child name) .nameTooLong⟩ := by
    intro d hopens hlong
    rw [← hnames]
    refine saveStructures_of_refused (FileTree.makeDirectories_of_isDirectory hopens.isDirectory) hopens
      (htargets.saveJobs_eq _) htargets.properName (htargets.nodup_names _) fun target htarget => ?_
    exact if_pos (hlong _ (hnames ▸ List.mem_map_of_mem htarget))
  exact ⟨hdigits, hopens.isDirectory, by decide, hsaved directory hopens hlong⟩

end BooleanRetrieval
