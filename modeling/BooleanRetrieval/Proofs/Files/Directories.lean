import BooleanRetrieval.Proofs.Files.Written

/-!
# Files in a directory

A way is walked piece by piece (`walk_append`). So when a path leads to a directory at some place (`Opens`),
the path of an entry leads to the place of the entry (`Opens.resolve_child`), unless it is too long or the
directory may not be entered, and it is fixed beforehand why an entry is not written, if it is not
(`refusal?`, `Opens.write_child`). Putting nodes where no directory is leaves the ways to directories
(`Opens.put`). A directory that was made is there (`isDirectory_of_makeDirectories`), and making it again
changes nothing (`makeDirectories_of_isDirectory`).
-/

set_option autoImplicit false

namespace BooleanRetrieval

/-- A name that an entry of a directory can have: it is no step upwards, has no null character and is not
too long. -/
def ProperName (name : String) : Prop :=
  name ≠ ".." ∧ name.toList.contains '\x00' = false ∧ name.utf8ByteSize ≤ FileTree.nameLimit

instance (name : String) : Decidable (ProperName name) :=
  inferInstanceAs (Decidable (_ ∧ _))

/-- The path of an entry of a directory leads back to the directory. -/
theorem Path.parent_child (directory : Path) (name : String) :
    (directory.child name).parent = directory := by
  unfold child parent
  rw [List.dropLast_concat]

namespace FileTree

/-- A path leads to a directory at a place. -/
structure Opens (tree : FileTree) (directory : Path) (place : Place) : Prop where
  resolve : tree.resolve directory = .ok place
  node : tree.node? place = some .directory

/-- The place of a directory has one for a node. -/
theorem isDirectoryAt_iff {tree : FileTree} {place : Place} :
    tree.isDirectoryAt place = true ↔ tree.node? place = some .directory := by
  unfold isDirectoryAt
  split
  · next h => simp [h]
  · next h => simpa using h

/-- A path names a directory if it leads to one at some place. -/
theorem isDirectory_iff {tree : FileTree} {path : Path} :
    tree.isDirectory path = true ↔ ∃ place, tree.Opens path place := by
  unfold isDirectory
  cases hresolve : tree.resolve path with
  | error fault =>
    have hfind : tree.find path = .error fault := by
      unfold find
      rw [hresolve]
      rfl
    rw [hfind]
    refine iff_of_false Bool.false_ne_true ?_
    rintro ⟨place, hopens⟩
    rw [hopens.resolve] at hresolve
    cases hresolve
  | ok place =>
    rw [find_of_resolve hresolve]
    constructor
    · intro h
      cases hnode : tree.node? place with
      | none => simp [hnode] at h
      | some node =>
        cases node with
        | file bytes => simp [hnode] at h
        | directory => exact ⟨place, hresolve, hnode⟩
    · rintro ⟨place', hopens⟩
      obtain rfl := Except.ok.inj (hresolve.symm.trans hopens.resolve)
      rw [hopens.node]

/-! ## Making directories -/

/-- A directory that is there is not made again. -/
theorem makeDirectory_of_isDirectory {tree : FileTree} {path : Path}
    (h : tree.isDirectory path = true) : tree.makeDirectory path = .error .exists := by
  obtain ⟨place, hopens⟩ := isDirectory_iff.mp h
  simp [makeDirectory, hopens.resolve, hopens.node, bind, Except.bind]

/-- Making a directory is putting it where nothing is. -/
theorem exists_put_of_makeDirectory {tree made : FileTree} {path : Path}
    (h : tree.makeDirectory path = .ok made) :
    ∃ place, tree.resolve path = .ok place ∧ tree.node? place = none ∧
      tree.put place .directory = made := by
  cases hresolve : tree.resolve path with
  | error fault => simp [makeDirectory, hresolve, bind, Except.bind] at h
  | ok place =>
    cases hnode : tree.node? place with
    | some node => simp [makeDirectory, hresolve, hnode, bind, Except.bind] at h
    | none =>
      refine ⟨place, rfl, hnode, ?_⟩
      simp only [makeDirectory, hresolve, hnode, bind, Except.bind] at h
      exact put_of_make h

/-- A directory that was made is there. -/
theorem isDirectory_of_makeDirectory {tree made : FileTree} {path : Path}
    (h : tree.makeDirectory path = .ok made) : made.isDirectory path = true := by
  obtain ⟨place, hresolve, hnode, hput⟩ := exists_put_of_makeDirectory h
  unfold isDirectory
  rw [← hput, find_put (by simp [hnode]) hresolve]

/-- Making a directory that is there with those above it changes nothing. -/
theorem makeDirectories_of_isDirectory {tree : FileTree} {path : Path}
    (h : tree.isDirectory path = true) : tree.makeDirectories path = .ok tree := by
  obtain ⟨root, parts⟩ := path
  unfold makeDirectories
  dsimp only
  cases hparts : parts.reverse with
  | nil =>
    rw [List.reverse_eq_nil_iff] at hparts
    rw [hparts] at h
    rw [makeDirectoriesUpTo]
    exact if_pos h
  | cons part above =>
    have hreverse : (part :: above).reverse = parts := by rw [← hparts, List.reverse_reverse]
    have hexists := makeDirectory_of_isDirectory h
    rw [makeDirectoriesUpTo, hreverse, hexists]
    dsimp only
    rw [hexists]
    exact if_pos h

/-- A path that was made leads to a directory. -/
theorem isDirectory_of_makeDirectories {tree made : FileTree} {path : Path}
    (h : tree.makeDirectories path = .ok made) : made.isDirectory path = true := by
  obtain ⟨root, parts⟩ := path
  unfold makeDirectories at h
  dsimp only at h
  cases hparts : parts.reverse with
  | nil =>
    rw [hparts, makeDirectoriesUpTo] at h
    rw [List.reverse_eq_nil_iff.mp hparts]
    split at h
    · next hdirectory =>
      obtain rfl := Except.ok.inj h
      exact hdirectory
    · cases h
  | cons part above =>
    have hreverse : (part :: above).reverse = parts := by rw [← hparts, List.reverse_reverse]
    rw [hparts, makeDirectoriesUpTo, hreverse] at h
    split at h
    case' h_1 => split at h
    case h_2 => cases h
    -- whether the directories above had to be made first or not, the last step is the same
    all_goals
      dsimp only at h
      split at h
      · next hstep =>
        obtain rfl := Except.ok.inj h
        exact isDirectory_of_makeDirectory hstep
      · split at h
        · next hdirectory =>
          obtain rfl := Except.ok.inj h
          exact hdirectory
        · cases h

/-- Two trees have the same files. -/
def SameFiles (tree other : FileTree) : Prop :=
  ∀ q bytes, tree.node? q = some (.file bytes) ↔ other.node? q = some (.file bytes)

/-- A tree has the files of itself. -/
theorem SameFiles.refl (tree : FileTree) : tree.SameFiles tree :=
  fun _ _ => Iff.rfl

/-- Having the same files is transitive. -/
theorem SameFiles.trans {tree middle other : FileTree} (h : tree.SameFiles middle)
    (h' : middle.SameFiles other) : tree.SameFiles other :=
  fun q bytes => (h q bytes).trans (h' q bytes)

/-- Making a directory changes no file. -/
theorem sameFiles_of_makeDirectory {tree made : FileTree} {path : Path}
    (h : tree.makeDirectory path = .ok made) : made.SameFiles tree := by
  obtain ⟨place, -, hnode, rfl⟩ := exists_put_of_makeDirectory h
  intro q bytes
  by_cases hq : q = place
  · have hnonempty : place ≠ [] := by
      rintro rfl
      cases hnode
    rw [hq, tree.node?_put_self hnonempty, hnode]
    simp
  · rw [tree.node?_put_of_ne hq]

/-- Making directories makes and changes no file. -/
theorem sameFiles_of_makeDirectoriesUpTo {root : String} {parts : List String} {tree made : FileTree}
    (h : tree.makeDirectoriesUpTo root parts = .ok made) : made.SameFiles tree := by
  induction parts generalizing made with
  | nil =>
    rw [makeDirectoriesUpTo] at h
    split at h
    · obtain rfl := Except.ok.inj h
      exact .refl tree
    · cases h
  | cons part above ih =>
    rw [makeDirectoriesUpTo] at h
    split at h
    case' h_1 => split at h
    case h_2 => cases h
    case' h_1 middle hmiddle => have hsame : middle.SameFiles tree := ih hmiddle
    case' h_2 => have hsame : tree.SameFiles tree := .refl tree
    -- whether the directories above had to be made first or not, the last step is the same
    all_goals
      dsimp only at h
      split at h
      · next hstep =>
        obtain rfl := Except.ok.inj h
        exact (sameFiles_of_makeDirectory hstep).trans hsame
      · split at h
        · obtain rfl := Except.ok.inj h
          exact hsame
        · cases h

/-! ## Entries of a directory -/

/-- A way is walked by walking its front and then, from where that leads to, its back. -/
theorem walk_append (tree : FileTree) (here : Place) (front back : List String) :
    tree.walk here (front ++ back) =
      (tree.walk here front).bind fun place => tree.walk place.reverse back := by
  induction front generalizing here with
  | nil => rw [List.nil_append, walk, Except.bind, List.reverse_reverse]
  | cons part rest ih =>
    rw [List.cons_append, walk, walk]
    split
    · rfl
    · rfl
    · split
      · rfl
      · split
        · exact ih _
        · split
          · rfl
          · exact ih _

/-- Why an entry of a directory at a place is not written under a name, if it is not. -/
def refusal? (tree : FileTree) (directory : Path) (place : Place) (name : String) : Option FileFault :=
  if pathLimit < (directory.child name).text.utf8ByteSize then some .nameTooLong
  else if place ∈ tree.locked then some .denied
  else
    match tree.node? (place ++ [name]) with
    | some .directory => some .isDirectory
    | some (.file _) => if place ++ [name] ∈ tree.frozen then some .denied else none
    | none => if place ∈ tree.frozen then some .denied else none

/-- There are three reasons for that. -/
theorem mem_of_refusal? {tree : FileTree} {directory : Path} {place : Place} {name : String}
    {fault : FileFault} (h : tree.refusal? directory place name = some fault) :
    fault ∈ [FileFault.isDirectory, .nameTooLong, .denied] := by
  unfold refusal? at h
  repeat' split at h
  all_goals
    first
    | exact Option.some.inj h ▸ by decide
    | cases h

/-- A file is not written, whatever is to be written. -/
def Refuses (tree : FileTree) (path : Path) (fault : FileFault) : Prop :=
  ∀ bytes, tree.write path bytes = .error ⟨fault, path.text⟩

/-- What stands elsewhere does not count for that. -/
theorem refusal?_put_of_ne {tree : FileTree} {place q : Place} {name : String} (hq : place ++ [name] ≠ q)
    (node : FileNode) (directory : Path) :
    (tree.put q node).refusal? directory place name = tree.refusal? directory place name := by
  unfold refusal?
  rw [locked_put, frozen_put, tree.node?_put_of_ne hq]

/-- Where a directory has the name, the entry is not written. -/
theorem refusal?_of_isDirectory {tree : FileTree} (directory : Path) {place : Place} {name : String}
    (h : tree.node? (place ++ [name]) = some .directory) :
    tree.refusal? directory place name ≠ none := by
  unfold refusal?
  rw [h]
  split
  · simp
  · split <;> simp

namespace Opens

variable {tree : FileTree} {directory : Path} {place : Place}

/-- A path that opens a directory names it. -/
theorem isDirectory (h : tree.Opens directory place) : tree.isDirectory directory = true :=
  isDirectory_iff.mpr ⟨place, h⟩

/-- Where a path leads to below a directory is found by walking on from the place of the directory. -/
theorem resolve_below (h : tree.Opens directory place) {names : List String}
    (hnames : ∀ name ∈ names, ProperName name) :
    tree.resolve (directory.below names) =
      if pathLimit < (directory.below names).text.utf8ByteSize then .error .nameTooLong
      else tree.walk place.reverse names := by
  have hresolve := h.resolve
  unfold FileTree.resolve at hresolve ⊢
  split at hresolve
  · cases hresolve
  · next hparts =>
    have hbelow : ¬ (directory.below names).parts.any (·.toList.contains '\x00') = true := by
      unfold Path.below
      rw [List.any_append, Bool.or_eq_true, not_or]
      refine ⟨hparts, ?_⟩
      rw [List.any_eq_true]
      rintro ⟨name, hname, hnull⟩
      rw [(hnames name hname).2.1] at hnull
      cases hnull
    rw [if_neg hbelow]
    split at hresolve
    · cases hresolve
    · congr 1
      rw [Path.below, walk_append, hresolve]
      rfl

/-- An entry of a directory that may be entered is at the place below that of the directory. -/
theorem resolve_child (h : tree.Opens directory place) {name : String} (hname : ProperName name) :
    tree.resolve (directory.child name) =
      if pathLimit < (directory.child name).text.utf8ByteSize then .error .nameTooLong
      else if place ∈ tree.locked then .error .denied
      else .ok (place ++ [name]) := by
  have hbelow := h.resolve_below (List.forall_mem_singleton.mpr hname)
  rw [FileTree.walk, List.reverse_reverse, h.node] at hbelow
  dsimp only at hbelow
  rw [if_neg hname.1, if_neg (Nat.not_lt.mpr hname.2.2), FileTree.walk, List.reverse_cons,
    List.reverse_reverse] at hbelow
  exact hbelow

/-- Whatever is written, an entry is refused for the same reason. -/
theorem write_child (h : tree.Opens directory place) {name : String} (hname : ProperName name)
    (bytes : List UInt8) :
    tree.write (directory.child name) bytes =
      match tree.refusal? directory place name with
      | some fault => .error ⟨fault, (directory.child name).text⟩
      | none => .ok (tree.put (place ++ [name]) (.file bytes)) := by
  have hdrop : (place ++ [name]).dropLast = place := List.dropLast_concat
  unfold FileTree.write refusal?
  rw [h.resolve_child hname]
  split
  · rfl
  · split
    · rfl
    · change (tree.writeAt (place ++ [name]) bytes).mapError _ = _
      unfold writeAt make
      rw [hdrop, h.node]
      cases tree.node? (place ++ [name]) with
      | none =>
        dsimp only
        split <;> rfl
      | some node =>
        cases node with
        | directory => rfl
        | file old =>
          dsimp only
          split <;> rfl

/-- An entry for which there is such a reason is refused. -/
theorem refuses_child (h : tree.Opens directory place) {name : String} (hname : ProperName name)
    {fault : FileFault} (hrefused : tree.refusal? directory place name = some fault) :
    tree.Refuses (directory.child name) fault := by
  intro bytes
  rw [h.write_child hname, hrefused]

/-- An entry is found if it may be reached and is there. -/
theorem find_child (h : tree.Opens directory place) {name : String} (hname : ProperName name)
    (hlength : ¬ pathLimit < (directory.child name).text.utf8ByteSize) (hplace : place ∉ tree.locked)
    {node : FileNode} (hnode : tree.node? (place ++ [name]) = some node) :
    tree.find (directory.child name) = .ok node := by
  refine find_of_node? ?_ hnode
  rw [h.resolve_child hname, if_neg hlength, if_neg hplace]

/-- A node that is put where no directory stands leaves the way to a directory. -/
theorem put (h : tree.Opens directory place) {q : Place} (hq : tree.node? q ≠ some .directory)
    (node : FileNode) : (tree.put q node).Opens directory place where
  resolve := resolve_put hq node h.resolve
  node := by
    rw [tree.node?_put_of_ne, h.node]
    rintro rfl
    exact hq h.node

end Opens

end FileTree

end BooleanRetrieval
