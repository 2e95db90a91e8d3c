import BooleanRetrieval.Proofs.Files.Directories

/-!
# Paths that are too long

A path may lead into a directory, out of it by a double dot and into it again, as often as one likes
(`Path.detour`). It opens the directory all the same (`opens_detour`), but its text gets longer each time
(`Path.utf8ByteSize_detour`), and in the end there is no room left for the name of an entry. So a path that
names a directory need not have paths to the entries of that directory. And of a name that is too long by
itself it cannot even be asked whether it names a directory (`asksDirectory_longName`).
-/

set_option autoImplicit false

namespace BooleanRetrieval

namespace Path

/-- The relative path that leads into a directory and, a number of times before that, into it and out of it
again. -/
def detour (name : String) (n : Nat) : Path :=
  ⟨"", (List.replicate n [name, ".."]).flatten ++ [name]⟩

/-- A path whose first component is not empty is written as it is. -/
theorem text_of_size_pos {p : Path} (h : 0 < ("/".intercalate p.parts).utf8ByteSize) :
    p.text = p.root ++ "/".intercalate p.parts := by
  have hnonempty : (p.root ++ "/".intercalate p.parts).isEmpty = false := by
    rw [Bool.eq_false_iff, ne_eq, String.isEmpty_iff_utf8ByteSize_eq_zero, String.utf8ByteSize_append]
    omega
  unfold text
  dsimp only
  rw [hnonempty, if_neg Bool.false_ne_true]

/-- Each time costs as many bytes as the name, the double dot and two slashes have. -/
theorem utf8ByteSize_intercalate_detour (name : String) (n : Nat) {rest : List String} (hrest : rest ≠ []) :
    ("/".intercalate ((List.replicate n [name, ".."]).flatten ++ rest)).utf8ByteSize =
      n * (name.utf8ByteSize + 4) + ("/".intercalate rest).utf8ByteSize := by
  have hslash : ("/" : String).utf8ByteSize = 1 := by decide
  have hdots : (".." : String).utf8ByteSize = 2 := by decide
  induction n with
  | zero => rw [List.replicate_zero, List.flatten_nil, List.nil_append, Nat.zero_mul, Nat.zero_add]
  | succ n ih =>
    have hmore : (List.replicate n [name, ".."]).flatten ++ rest ≠ [] :=
      List.append_ne_nil_of_right_ne_nil _ hrest
    rw [List.replicate_succ, List.flatten_cons, List.append_assoc]
    rw [String.intercalate_append_of_ne_nil (List.cons_ne_nil _ _) hmore, String.intercalate_cons_cons,
      String.intercalate_singleton]
    simp only [String.utf8ByteSize_append, hslash, hdots, ih]
    rw [Nat.succ_mul]
    omega

/-- The bytes of the text of a path with a detour. -/
theorem utf8ByteSize_detour {name : String} (hname : 0 < name.utf8ByteSize) (n : Nat) :
    (detour name n).text.utf8ByteSize = n * (name.utf8ByteSize + 4) + name.utf8ByteSize := by
  have hsize := utf8ByteSize_intercalate_detour name n (List.cons_ne_nil name [])
  rw [String.intercalate_singleton] at hsize
  rw [text_of_size_pos (show 0 < ("/".intercalate (detour name n).parts).utf8ByteSize by
    change 0 < ("/".intercalate (_ ++ [name])).utf8ByteSize
    omega)]
  rw [String.utf8ByteSize_append]
  change String.utf8ByteSize "" + ("/".intercalate (_ ++ [name])).utf8ByteSize = _
  rw [hsize, String.utf8ByteSize_empty, Nat.zero_add]

/-- The bytes of the text of the path of an entry behind a detour. -/
theorem utf8ByteSize_detour_child {name : String} (hname : 0 < name.utf8ByteSize) (n : Nat)
    (entry : String) :
    ((detour name n).child entry).text.utf8ByteSize =
      n * (name.utf8ByteSize + 4) + name.utf8ByteSize + 1 + entry.utf8ByteSize := by
  have hslash : ("/" : String).utf8ByteSize = 1 := by decide
  have hparts : ((detour name n).child entry).parts =
      (List.replicate n [name, ".."]).flatten ++ [name, entry] := by
    unfold child detour
    rw [List.append_assoc, List.singleton_append]
  have hsize := utf8ByteSize_intercalate_detour name n (List.cons_ne_nil name [entry])
  rw [String.intercalate_cons_cons, String.intercalate_singleton, String.utf8ByteSize_append,
    String.utf8ByteSize_append, hslash] at hsize
  rw [text_of_size_pos (by rw [hparts]; omega), String.utf8ByteSize_append, hparts, hsize]
  change String.utf8ByteSize "" + _ = _
  rw [String.utf8ByteSize_empty]
  omega

end Path

namespace FileTree

variable {tree : FileTree} {name : String}

/-- A detour leads back to where it began. -/
theorem walk_detour {here : Place} (hname : ProperName name) (hhere : tree.node? here.reverse = some .directory)
    (hlocked : here.reverse ∉ tree.locked) (hnode : tree.node? (here.reverse ++ [name]) = some .directory)
    (hlocked' : here.reverse ++ [name] ∉ tree.locked) (n : Nat) (rest : List String) :
    tree.walk here ((List.replicate n [name, ".."]).flatten ++ rest) = tree.walk here rest := by
  induction n with
  | zero => rw [List.replicate_zero, List.flatten_nil, List.nil_append]
  | succ n ih =>
    rw [List.replicate_succ, List.flatten_cons, List.append_assoc, List.cons_append, List.singleton_append,
      walk, hhere]
    dsimp only
    rw [if_neg hlocked, if_neg hname.1, if_neg (Nat.not_lt.mpr hname.2.2), walk, List.reverse_cons, hnode]
    dsimp only
    rw [if_neg hlocked', if_pos rfl]
    exact ih

/-- A path with a detour opens the directory that it leads into, if the detour is not too long. -/
theorem opens_detour (tree : FileTree) (hname : ProperName name) (hpos : 0 < name.utf8ByteSize)
    (hhere : tree.node? tree.home = some .directory) (hlocked : tree.home ∉ tree.locked)
    (hnode : tree.node? (tree.home ++ [name]) = some .directory)
    (hlocked' : tree.home ++ [name] ∉ tree.locked) {n : Nat}
    (hlength : n * (name.utf8ByteSize + 4) + name.utf8ByteSize ≤ pathLimit) :
    tree.Opens (.detour name n) (tree.home ++ [name]) := by
  refine ⟨?_, hnode⟩
  have hnull : ¬ (Path.detour name n).parts.any (·.toList.contains '\x00') = true := by
    rw [List.any_eq_true]
    rintro ⟨part, hpart, hnull⟩
    have hpart' : part = name ∨ part = ".." := by
      unfold Path.detour at hpart
      simp only [List.mem_append, List.mem_flatten, List.mem_replicate, List.mem_singleton] at hpart
      rcases hpart with ⟨parts, ⟨-, rfl⟩, hmem⟩ | hmem
      · simpa using hmem
      · exact .inl hmem
    rcases hpart' with rfl | rfl
    · rw [hname.2.1] at hnull
      cases hnull
    · revert hnull
      decide
  unfold resolve
  rw [if_neg hnull, Path.utf8ByteSize_detour hpos, if_neg (Nat.not_lt.mpr hlength)]
  change tree.walk tree.home.reverse _ = _
  unfold Path.detour
  dsimp only
  rw [walk_detour hname (by rwa [List.reverse_reverse]) (by rwa [List.reverse_reverse])
    (by rwa [List.reverse_reverse]) (by rwa [List.reverse_reverse]), walk, List.reverse_reverse, hhere]
  dsimp only
  rw [if_neg hlocked, if_neg hname.1, if_neg (Nat.not_lt.mpr hname.2.2), walk, List.reverse_cons,
    List.reverse_reverse]

end FileTree

/-! ## Long names -/

/-- A letter repeated takes one byte each time. -/
theorem utf8ByteSize_letters (n : Nat) : (String.ofList (List.replicate n 'a')).utf8ByteSize = n := by
  induction n with
  | zero => rfl
  | succ n ih =>
    have hletter : (String.ofList ['a']).utf8ByteSize = 1 := by decide
    rw [List.replicate_succ', String.ofList_append, String.utf8ByteSize_append, ih, hletter]

/-- The text of a single name writes the path of that name. -/
theorem Path.ofString_name {name : String} (hslash : '/' ∉ name.toList) (hname : name ≠ "")
    (hdot : name ≠ ".") : Path.ofString name = ⟨"", [name]⟩ := by
  have hroot : rootOf name.toList = "" := by
    unfold rootOf
    split
    · next h => exact absurd (h ▸ List.mem_cons_self) hslash
    · next h => exact absurd (h ▸ List.mem_cons_self) hslash
    · next h => exact absurd (h ▸ List.mem_cons_self) hslash
    · rfl
  have hsplit : name.toList.splitOn '/' = [name.toList] := by
    rw [List.splitOn, List.splitOnP_eq_singleton fun c hc => by
      simpa using ne_of_mem_of_not_mem hc hslash]
  unfold ofString partsOf
  rw [hroot, hsplit, List.map_singleton, String.ofList_toList]
  simp [hname, hdot]

/-- And it is the text of that path. -/
theorem Path.text_name {name : String} (hname : name ≠ "") : Path.text ⟨"", [name]⟩ = name := by
  unfold text
  simp [hname]

/-- Of a name that is too long it cannot be told whether it names a directory. -/
theorem FileTree.asksDirectory_longName {tree : FileTree} {name : String}
    (hnull : name.toList.contains '\x00' = false) (hdots : name ≠ "..")
    (hname : nameLimit < name.utf8ByteSize) (hpath : name.utf8ByteSize ≤ pathLimit)
    (hhome : tree.node? tree.home = some .directory) (hopen : tree.home ∉ tree.locked) :
    tree.asksDirectory ⟨"", [name]⟩ = .error ⟨.nameTooLong, name⟩ := by
  have hnonempty : name ≠ "" := by
    rintro rfl
    cases hname
  have hresolve : tree.resolve ⟨"", [name]⟩ = .error .nameTooLong := by
    unfold resolve
    rw [Path.text_name hnonempty]
    simp only [List.any_cons, List.any_nil, hnull, Bool.or_false]
    rw [if_neg Bool.false_ne_true, if_neg (Nat.not_lt.mpr hpath)]
    change tree.walk tree.home.reverse [name] = _
    rw [walk, List.reverse_reverse, hhome]
    dsimp only
    rw [if_neg hopen, if_neg hdots, if_pos hname]
  have hfind : tree.find ⟨"", [name]⟩ = .error .nameTooLong := by
    unfold find
    rw [hresolve]
    rfl
  unfold asksDirectory asks
  rw [hfind, Path.text_name hnonempty]
  rfl

end BooleanRetrieval
