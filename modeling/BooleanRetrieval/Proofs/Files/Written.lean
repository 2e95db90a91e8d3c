import BooleanRetrieval.Saved.Structures

/-!
# Written files are read back

Writing puts a file where no directory stands, so that the way to it, which leads through directories
only, is the same afterwards (`walk_put`). So a path that was written names the file with the bytes
that were written (`find_write`), and a saved text is found as it was saved (`savedBytes_of_saveText`).
-/

set_option autoImplicit false

namespace BooleanRetrieval

namespace FileTree

/-! ## Putting a node -/

/-- Putting a node leaves the current directory. -/
@[simp]
theorem home_put (tree : FileTree) (place : Place) (node : FileNode) :
    (tree.put place node).home = tree.home := by
  unfold put
  split <;> rfl

/-- Putting a node leaves what may not be entered. -/
@[simp]
theorem locked_put (tree : FileTree) (place : Place) (node : FileNode) :
    (tree.put place node).locked = tree.locked := by
  unfold put
  split <;> rfl

/-- Putting a node leaves what may not be changed. -/
@[simp]
theorem frozen_put (tree : FileTree) (place : Place) (node : FileNode) :
    (tree.put place node).frozen = tree.frozen := by
  unfold put
  split <;> rfl

/-- Looking up a place goes past the entries of other places. -/
theorem lookup_cons_place (q place : Place) (node : FileNode) (rest : List (Place × FileNode)) :
    ((place, node) :: rest).lookup q = if q = place then some node else rest.lookup q := by
  by_cases h : q = place
  · rw [if_pos h, h, List.lookup_cons_self]
  · rw [if_neg h, List.lookup_cons, beq_eq_false_iff_ne.mpr h]

/-- An entry that is exchanged is found at its place. -/
theorem lookup_exchange_self {entries : List (Place × FileNode)} {place : Place} (node : FileNode)
    (h : place ∈ entries.map Prod.fst) :
    (entries.map fun entry => if entry.1 = place then (place, node) else entry).lookup place =
      some node := by
  induction entries with
  | nil => exact absurd h List.not_mem_nil
  | cons entry rest ih =>
    obtain ⟨place', node'⟩ := entry
    rw [List.map_cons]
    by_cases hplace : place' = place
    · rw [if_pos hplace, List.lookup_cons_self]
    · have hrest : place ∈ rest.map Prod.fst := by
        rcases List.mem_cons.mp h with heq | hrest
        · exact absurd heq.symm hplace
        · exact hrest
      rw [if_neg hplace, lookup_cons_place, if_neg (Ne.symm hplace), ih hrest]

/-- Exchanging an entry changes nothing at other places. -/
theorem lookup_exchange_of_ne {place q : Place} (hq : q ≠ place) (node : FileNode)
    (entries : List (Place × FileNode)) :
    (entries.map fun entry => if entry.1 = place then (place, node) else entry).lookup q =
      entries.lookup q := by
  induction entries with
  | nil => rfl
  | cons entry rest ih =>
    obtain ⟨place', node'⟩ := entry
    rw [List.map_cons]
    by_cases hplace : place' = place
    · rw [if_pos hplace, lookup_cons_place, lookup_cons_place, if_neg hq,
        if_neg (fun heq => hq (heq.trans hplace)), ih]
    · rw [if_neg hplace, lookup_cons_place, lookup_cons_place, ih]

/-- Some entry has a place when it is among the places. -/
theorem any_place_iff {entries : List (Place × FileNode)} {place : Place} :
    entries.any (·.1 = place) = true ↔ place ∈ entries.map Prod.fst := by
  simp only [List.any_eq_true, decide_eq_true_eq, List.mem_map]

/-- A node that is put at a place is found there. -/
theorem node?_put_self (tree : FileTree) {place : Place} (hplace : place ≠ []) (node : FileNode) :
    (tree.put place node).node? place = some node := by
  have hnonempty : ¬ place.isEmpty = true := by rwa [List.isEmpty_iff]
  unfold node?
  rw [if_neg hnonempty]
  unfold put
  split
  · next h => exact lookup_exchange_self node (any_place_iff.mp h)
  · next h =>
    have hnew : tree.entries.lookup place = none := by
      apply List.lookup_eq_none_iff.mpr
      intro entry hentry
      apply bne_iff_ne.mpr
      rintro rfl
      exact h (any_place_iff.mpr (List.mem_map_of_mem hentry))
    rw [List.lookup_append, hnew, List.lookup_cons_self]
    rfl

/-- Putting a node at a place changes nothing at other places. -/
theorem node?_put_of_ne (tree : FileTree) {place q : Place} (hq : q ≠ place) (node : FileNode) :
    (tree.put place node).node? q = tree.node? q := by
  unfold node? put
  split
  · rfl
  · split
    · exact lookup_exchange_of_ne hq node tree.entries
    · rw [List.lookup_append, lookup_cons_place, if_neg hq, List.lookup_nil, Option.or_none]

/-! ## Finding what was written -/

/-- A way that leads somewhere leads there still when a node is put where no directory was. -/
theorem walk_put {tree : FileTree} {place : Place} (hplace : tree.node? place ≠ some .directory)
    (node : FileNode) {here : Place} {parts : List String} {spot : Place}
    (h : tree.walk here parts = .ok spot) : (tree.put place node).walk here parts = .ok spot := by
  induction parts generalizing here with
  | nil => exact h
  | cons part rest ih =>
    unfold walk at h ⊢
    cases hnode : tree.node? here.reverse with
    | none =>
      rw [hnode] at h
      cases h
    | some found =>
      rw [hnode] at h
      cases found with
      | file bytes => cases h
      | directory =>
        have hne : here.reverse ≠ place := by
          rintro rfl
          exact hplace hnode
        rw [node?_put_of_ne tree hne, hnode, locked_put]
        dsimp only at h ⊢
        -- the way takes the same turn in both trees
        split at h
        · cases h
        · next hlocked =>
          rw [if_neg hlocked]
          split at h
          · next hpart =>
            rw [if_pos hpart]
            exact ih h
          · next hpart =>
            rw [if_neg hpart]
            split at h
            · cases h
            · next hlength =>
              rw [if_neg hlength]
              exact ih h

/-- A path that names a place names it still when a node is put where no directory was. -/
theorem resolve_put {tree : FileTree} {place : Place} (hplace : tree.node? place ≠ some .directory)
    (node : FileNode) {path : Path} {spot : Place} (h : tree.resolve path = .ok spot) :
    (tree.put place node).resolve path = .ok spot := by
  unfold resolve at h ⊢
  split at h
  · cases h
  · next hnull =>
    rw [if_neg hnull]
    split at h
    · cases h
    · next hlength =>
      rw [if_neg hlength, home_put]
      exact walk_put hplace node h

/-- What is found at a path that names a place. -/
theorem find_of_resolve {tree : FileTree} {path : Path} {place : Place}
    (h : tree.resolve path = .ok place) :
    tree.find path = match tree.node? place with
      | some node => .ok node
      | none => .error .notFound := by
  unfold find
  rw [h]
  rfl

/-- A path finds the node at the place that it names. -/
theorem find_of_node? {tree : FileTree} {path : Path} {place : Place}
    (h : tree.resolve path = .ok place) {node : FileNode} (hnode : tree.node? place = some node) :
    tree.find path = .ok node := by
  rw [find_of_resolve h, hnode]

/-- A node that was put where no directory was is found there. -/
theorem find_put {tree : FileTree} {path : Path} {place : Place} {node : FileNode}
    (hplace : tree.node? place ≠ some .directory) (h : tree.resolve path = .ok place) :
    (tree.put place node).find path = .ok node := by
  have hnonempty : place ≠ [] := by
    rintro rfl
    exact hplace rfl
  exact find_of_node? (resolve_put hplace node h) (tree.node?_put_self hnonempty node)

/-- Making a node is putting it where nothing is. -/
theorem put_of_make {tree made : FileTree} {place : Place} {node : FileNode}
    (h : tree.make place node = .ok made) : tree.put place node = made := by
  unfold make at h
  split at h
  · split at h
    · cases h
    · exact Except.ok.inj h
  · cases h
  · cases h

/-- Writing at a place is putting a file where no directory is. -/
theorem put_of_writeAt {tree written : FileTree} {place : Place} {bytes : List UInt8}
    (h : tree.writeAt place bytes = .ok written) :
    tree.node? place ≠ some .directory ∧ tree.put place (.file bytes) = written := by
  unfold writeAt at h
  split at h
  · cases h
  · next old hnode =>
    refine ⟨by simp [hnode], ?_⟩
    split at h
    · cases h
    · exact Except.ok.inj h
  · next hnode => exact ⟨by simp [hnode], put_of_make h⟩

/-- A path is written at the place that it names. -/
theorem write_eq_ok_iff {tree written : FileTree} {path : Path} {bytes : List UInt8} :
    tree.write path bytes = .ok written ↔
      ∃ place, tree.resolve path = .ok place ∧ tree.writeAt place bytes = .ok written := by
  unfold write
  cases tree.resolve path with
  | error fault =>
    constructor
    · intro h
      cases h
    · rintro ⟨place, hplace, -⟩
      cases hplace
  | ok place =>
    change (tree.writeAt place bytes).mapError _ = _ ↔ _
    cases hwrite : tree.writeAt place bytes with
    | error fault =>
      constructor
      · intro h
        cases h
      · rintro ⟨other, hother, hwritten⟩
        obtain rfl := Except.ok.inj hother
        rw [hwrite] at hwritten
        cases hwritten
    | ok other =>
      constructor
      · intro h
        exact ⟨place, rfl, hwrite.trans (congrArg _ (Except.ok.inj h))⟩
      · rintro ⟨place', hplace, hwritten⟩
        obtain rfl := Except.ok.inj hplace
        rw [← hwrite, hwritten]
        rfl

/-- A path that was written names the file that was written. -/
theorem find_write {tree tree' : FileTree} {path : Path} {bytes : List UInt8}
    (h : tree.write path bytes = .ok tree') : tree'.find path = .ok (.file bytes) := by
  obtain ⟨place, hresolve, hwrite⟩ := write_eq_ok_iff.mp h
  obtain ⟨hplace, rfl⟩ := put_of_writeAt hwrite
  exact find_put hplace hresolve

end FileTree

/-- The bytes of a file that a path finds are read. -/
theorem savedBytes_of_find {tree : FileTree} {path : Path} {bytes : List UInt8}
    (h : tree.find path = .ok (.file bytes)) : savedBytes tree path = .ok bytes := by
  unfold savedBytes FileTree.asksExistence FileTree.asks FileTree.read
  rw [h]
  rfl

/-- A saved text is found where it was saved. -/
theorem savedBytes_of_saveText {tree tree' : FileTree} {path : Path} {text : List Char}
    (h : saveText tree path text = .ok tree') :
    savedBytes tree' path = .ok (Encoding.encodeUtf8 text) := by
  unfold saveText at h
  cases hdirectories : tree.makeDirectories path.parent with
  | error e =>
    rw [hdirectories] at h
    cases h
  | ok made =>
    rw [hdirectories] at h
    cases hwrite : made.write path (Encoding.encodeUtf8 text) with
    | error e =>
      change (made.write path (Encoding.encodeUtf8 text)).mapError WriteError.file = .ok tree' at h
      rw [hwrite] at h
      cases h
    | ok written =>
      change (made.write path (Encoding.encodeUtf8 text)).mapError WriteError.file = .ok tree' at h
      rw [hwrite] at h
      obtain rfl := Except.ok.inj h
      exact savedBytes_of_find (FileTree.find_write hwrite)

end BooleanRetrieval
