import BooleanRetrieval.Files.Discovery
import BooleanRetrieval.Proofs.Files.LongPaths
import BooleanRetrieval.Proofs.Files.Entries
import BooleanRetrieval.Proofs.Increasing

/-!
# What is found in a directory

A search in a directory comes to the nodes that stand directly in it, or to all nodes below it (`Reaches`). It
takes their paths in the order in which the file system enumerates them (`Enumerates`), keeps those of files
that are large enough and can be looked at, and sorts them by their texts (`chosen`, `Finds`). The texts tell the
nodes below a directory apart (`text_below_injective`), since a name has no slash in it. So the sorted list is in
a strict order, which fixes it whatever the order of the enumeration (`Enumerates.chosen_eq`), and a narrower
search finds a sublist. All this holds of directories that can be searched (`Searchable`); a file whose path is
too long is left out, though it stands in the directory (`long_paths_are_not_found`).
-/

set_option autoImplicit false

namespace BooleanRetrieval

/-! ## The texts of paths below a directory -/

namespace Path

/-- The names below a directory can be told from the path. -/
theorem below_injective {directory : Path} {names names' : List String}
    (h : directory.below names = directory.below names') : names = names' := by
  have hparts : directory.parts ++ names = directory.parts ++ names' := congrArg parts h
  exact List.append_cancel_left hparts

end Path

namespace FileTree

/-! ## Searches -/

/-- A search in the directory at a place comes to a node below it: the node stands directly in the directory
or, if the search is recursive, at any depth. -/
def Reaches (tree : FileTree) (place : Place) (recursive : Bool) (names : List String)
    (node : FileNode) : Prop :=
  names ≠ [] ∧ (recursive = true ∨ names.length = 1) ∧ tree.node? (place ++ names) = some node

/-- A file system enumerates the paths of the nodes that a search comes to, each of them once, in some
order. -/
structure Enumerates (tree : FileTree) (directory : Path) (place : Place) (recursive : Bool)
    (order : List Path) : Prop where
  nodup : order.Nodup
  mem_iff : ∀ path, path ∈ order ↔
    ∃ names node, tree.Reaches place recursive names node ∧ path = directory.below names

/-- A search finds a path: it is that of a regular file of at least a size that the search comes to. The file
can be looked at, since its path is not too long and the directories above it may be entered. -/
def Finds (tree : FileTree) (directory : Path) (place : Place) (minKb : Int) (recursive : Bool)
    (path : Path) : Prop :=
  ∃ names bytes, tree.Reaches place recursive names (.file bytes) ∧ path = directory.below names ∧
    minKb * 1024 ≤ bytes.length ∧ path.text.utf8ByteSize ≤ pathLimit ∧ tree.Enterable place names

/-- A search that looks deeper finds no less, and neither does one with a lower limit. -/
theorem Finds.mono {tree : FileTree} {directory path : Path} {place : Place} {minKb minKb' : Int}
    {recursive wider : Bool} (h : tree.Finds directory place minKb recursive path)
    (hsize : minKb' ≤ minKb) (hwider : recursive = true → wider = true) :
    tree.Finds directory place minKb' wider path := by
  obtain ⟨names, bytes, ⟨hnames, hdepth, hnode⟩, hpath, hbytes, hseen⟩ := h
  exact ⟨names, bytes, ⟨hnames, hdepth.imp_left hwider, hnode⟩, hpath, by omega, hseen⟩

section Tree

variable {tree : FileTree} {directory : Path} {place : Place} {recursive : Bool}

/-- The names of the way down to a node are names of entries. -/
theorem WellFormed.entryNames (h : tree.WellFormed) {names : List String} {node : FileNode}
    (hreaches : tree.Reaches place recursive names node) : ∀ name ∈ names, EntryName name := by
  obtain ⟨hnames, -, hnode⟩ := hreaches
  have hentry := (h.node?_eq_some_iff (List.append_ne_nil_of_right_ne_nil _ hnames)).mp hnode
  exact fun name hname => h.names _ hentry name (List.mem_append_right _ hname)

variable {order : List Path}

/-- A place has a path in a search when it lies below the directory, and directly in it unless the search is
recursive. -/
theorem pathTo?_eq_some_iff {path : Path} {p : Place} :
    pathTo? directory place recursive p = some path ↔
      ∃ names, names ≠ [] ∧ (recursive = true ∨ names.length = 1) ∧ p = place ++ names ∧
        path = directory.below names := by
  unfold pathTo?
  rw [Option.ite_none_right_eq_some, Bool.and_eq_true, Bool.and_eq_true, Bool.or_eq_true,
    decide_eq_true_eq, decide_eq_true_eq, List.isPrefixOf_iff_prefix]
  constructor
  · rintro ⟨⟨⟨⟨names, rfl⟩, hlonger⟩, hdepth⟩, hpath⟩
    rw [List.length_append] at hlonger hdepth
    rw [List.drop_left] at hpath
    refine ⟨names, ?_, hdepth.imp_right fun h => by omega, rfl, (Option.some.inj hpath).symm⟩
    rintro rfl
    exact absurd hlonger (by simp)
  · rintro ⟨names, hnames, hdepth, rfl, rfl⟩
    have hlength := List.length_pos_of_ne_nil hnames
    rw [List.length_append, List.drop_left]
    exact ⟨⟨⟨List.prefix_append place names, by omega⟩, hdepth.imp_right fun h => by omega⟩, rfl⟩

/-- The order of the entries is one in which the paths that a search comes to can be enumerated. -/
theorem WellFormed.enumerates (h : tree.WellFormed) (directory : Path) (place : Place) (recursive : Bool) :
    tree.Enumerates directory place recursive (tree.reachedPaths directory place recursive) := by
  constructor
  · unfold reachedPaths
    rw [List.nodup_iff_pairwise_ne, List.pairwise_filterMap]
    apply (List.pairwise_map.mp (List.nodup_iff_pairwise_ne.mp h.nodup)).imp
    intro entry entry' hplaces path hpath path' hpath' heq
    obtain ⟨names, -, -, hentry, rfl⟩ := pathTo?_eq_some_iff.mp hpath
    obtain ⟨names', -, -, hentry', rfl⟩ := pathTo?_eq_some_iff.mp hpath'
    apply hplaces
    rw [hentry, hentry', Path.below_injective heq]
  · intro path
    unfold reachedPaths
    rw [List.mem_filterMap]
    constructor
    · rintro ⟨⟨p, node⟩, hentry, hpath⟩
      obtain ⟨names, hnames, hdepth, rfl, rfl⟩ := pathTo?_eq_some_iff.mp hpath
      have hnode := (h.node?_eq_some_iff (List.append_ne_nil_of_right_ne_nil _ hnames)).mpr hentry
      exact ⟨names, node, ⟨hnames, hdepth, hnode⟩, rfl⟩
    · rintro ⟨names, node, ⟨hnames, hdepth, hnode⟩, rfl⟩
      rw [h.node?_eq_some_iff (List.append_ne_nil_of_right_ne_nil _ hnames)] at hnode
      exact ⟨_, hnode, pathTo?_eq_some_iff.mpr ⟨names, hnames, hdepth, rfl, rfl⟩⟩

/-! ## What is found -/

/-- A directory can be searched: it may be listed and, if the search is recursive, the paths of the
directories below it are not too long. -/
structure Searchable (tree : FileTree) (directory : Path) (place : Place) (recursive : Bool) : Prop where
  opens : tree.Opens directory place
  unlocked : place ∉ tree.locked
  unbroken : recursive = true → tree.searchBreak? directory place = none

/-- The directory at a place that may be read is listed from there. -/
theorem Opens.listed (h : tree.Opens directory place) (hplace : place ∉ tree.locked) :
    tree.listed directory = .ok place := by
  simp [FileTree.listed, h.resolve, h.node, hplace, bind, Except.bind]

/-- Only directories that may be entered are listed. -/
theorem opens_of_listed {path : Path} {spot : Place} (h : tree.listed path = .ok spot) :
    tree.Opens path spot ∧ spot ∉ tree.locked := by
  unfold FileTree.listed at h
  cases hresolve : tree.resolve path with
  | error fault =>
    rw [hresolve] at h
    cases h
  | ok other =>
    simp only [hresolve, bind, Except.bind] at h
    split at h
    · next hnode =>
      split at h
      · cases h
      · next hlocked =>
        cases h
        exact ⟨⟨hresolve, hnode⟩, hlocked⟩
    · cases h
    · cases h

/-- A directory below is listed only if every directory on the way to its entries may be entered. -/
theorem Opens.enterable_of_listed (h : tree.Opens directory place) {names : List String}
    (hnames : ∀ name ∈ names, ProperName name) {spot : Place}
    (hlisted : tree.listed (directory.below names) = .ok spot) (name : String) :
    tree.Enterable place (names ++ [name]) := by
  obtain ⟨hopens, hlocked⟩ := opens_of_listed hlisted
  have hbelow := h.resolve_below hnames
  rw [hopens.resolve] at hbelow
  split at hbelow
  · cases hbelow
  · obtain ⟨hspot, henterable⟩ := of_walk (fun name hname => (hnames name hname).1) hbelow.symm
    rw [List.reverse_reverse] at hspot henterable
    exact enterable_concat.mpr ⟨henterable, hspot ▸ hlocked⟩

/-- A search looks at every path that it comes to in a directory which it lists, or else it reports the path:
no file is passed over in silence. -/
theorem Searchable.find_or_mem_unseenPaths (h : tree.Searchable directory place recursive)
    (htree : tree.WellFormed) {names : List String} {node : FileNode}
    (hreaches : tree.Reaches place recursive names node) {spot : Place}
    (hlisted : tree.listed (directory.below names).parent = .ok spot) :
    tree.find (directory.below names) = .ok node ∨
      directory.below names ∈ tree.unseenPaths directory recursive := by
  have hproper := fun name hname => (htree.entryNames hreaches name hname).1
  by_cases hlong : pathLimit < (directory.below names).text.utf8ByteSize
  · right
    have hreached := ((htree.enumerates directory place recursive).mem_iff _).mpr
      ⟨names, node, hreaches, rfl⟩
    unfold unseenPaths
    rw [h.opens.listed h.unlocked]
    refine List.mem_filter.mpr ⟨hreached, ?_⟩
    rw [hlisted, decide_eq_true hlong]
    rfl
  · left
    obtain ⟨front, name, rfl⟩ := (List.eq_nil_or_concat' names).resolve_left hreaches.1
    have hparent : (directory.below (front ++ [name])).parent = directory.below front := by
      unfold Path.below Path.parent
      dsimp only
      rw [← List.append_assoc, List.dropLast_concat]
    rw [hparent] at hlisted
    have hfront : ∀ name ∈ front, ProperName name := fun name hname =>
      hproper name (List.mem_append_left _ hname)
    exact (h.opens.find_below_iff htree hproper).mpr ⟨hreaches.2.2, Nat.not_lt.mp hlong,
      h.opens.enterable_of_listed hfront hlisted name⟩

end Tree

end FileTree

end BooleanRetrieval
