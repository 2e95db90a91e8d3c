/-!
# Search trees over ranges of code points

A table of a character property is written as rows of code point ranges in increasing order. For
look-up the rows are arranged in a balanced tree. Arranging loses no row and keeps their order
(`toRows_fill`), so a look-up in the tree answers for the rows as written.
-/

set_option autoImplicit false

namespace BooleanRetrieval.Text

/-- A binary tree of ranges `first … last`, each with a value. -/
inductive RangeTree (α : Type) where
  | leaf
  | node (left : RangeTree α) (first last : Nat) (value : α) (right : RangeTree α)

namespace RangeTree

variable {α : Type}

/-- The rows of a tree from left to right. -/
def toRows : RangeTree α → List (Nat × Nat × α)
  | leaf => []
  | node left first last value right => left.toRows ++ (first, last, value) :: right.toRows

/-- The value of the range that holds a number. -/
def find? (n : Nat) : RangeTree α → Option α
  | leaf => none
  | node left first last value right =>
    if n < first then left.find? n else if n ≤ last then some value else right.find? n

/-- Whether some range holds a number. -/
def contains (tree : RangeTree α) (n : Nat) : Bool :=
  (tree.find? n).isSome

/-- A tree of at most the given depth over the first rows, and the rows that did not fit. -/
def fill : Nat → List (Nat × Nat × α) → RangeTree α × List (Nat × Nat × α)
  | 0, rows => (leaf, rows)
  | depth + 1, rows =>
    match fill depth rows with
    | (left, []) => (left, [])
    | (left, (first, last, value) :: rest) =>
      let (right, rest) := fill depth rest
      (node left first last value right, rest)

/-- The balanced tree over rows that are in increasing order. -/
def ofRows (rows : List (Nat × Nat × α)) : RangeTree α :=
  (fill (rows.length.log2 + 1) rows).1

/-- The balanced tree over plain ranges that are in increasing order. -/
def ofRanges (ranges : List (Nat × Nat)) : RangeTree Unit :=
  ofRows (ranges.map fun (first, last) => (first, last, ()))

/-- Arranging rows in a tree keeps every row and their order. -/
theorem toRows_fill (depth : Nat) (rows : List (Nat × Nat × α)) :
    (fill depth rows).1.toRows ++ (fill depth rows).2 = rows := by
  induction depth generalizing rows with
  | zero => rfl
  | succ depth ih =>
    have hleft := ih rows
    unfold fill
    split
    · next left hfill => simpa [hfill] using hleft
    · next left first last value rest hfill =>
      have hright := ih rest
      rw [hfill] at hleft
      simp only [toRows, List.append_assoc, List.cons_append]
      rw [hright]
      exact hleft

/-- A look-up answers with the value of a row that holds the number. -/
theorem exists_row_of_find? {tree : RangeTree α} {n : Nat} {value : α}
    (h : tree.find? n = some value) :
    ∃ first last, (first, last, value) ∈ tree.toRows ∧ first ≤ n ∧ n ≤ last := by
  induction tree with
  | leaf => cases h
  | node left first last v right ihleft ihright =>
    unfold find? at h
    split at h
    · obtain ⟨first', last', hmem, hbounds⟩ := ihleft h
      exact ⟨first', last', List.mem_append_left _ hmem, hbounds⟩
    · next hfirst =>
      split at h
      · next hlast =>
        obtain rfl := Option.some.inj h
        refine ⟨first, last, ?_, Nat.not_lt.mp hfirst, hlast⟩
        exact List.mem_append_right _ List.mem_cons_self
      · obtain ⟨first', last', hmem, hbounds⟩ := ihright h
        exact ⟨first', last', List.mem_append_right _ (List.mem_cons_of_mem _ hmem), hbounds⟩

/-- A look-up in a table answers with the value of a row as written. -/
theorem exists_row_of_find?_ofRows {rows : List (Nat × Nat × α)} {n : Nat} {value : α}
    (h : (ofRows rows).find? n = some value) :
    ∃ first last, (first, last, value) ∈ rows ∧ first ≤ n ∧ n ≤ last := by
  obtain ⟨first, last, hmem, hbounds⟩ := exists_row_of_find? h
  have hrows : (first, last, value) ∈ rows := by
    rw [← toRows_fill (rows.length.log2 + 1) rows]
    exact List.mem_append_left _ hmem
  exact ⟨first, last, hrows, hbounds⟩

/-- A look-up in a table of single code points answers with their own rows. -/
theorem mem_of_find?_ofRows {rows : List (Nat × α)} {n : Nat} {value : α}
    (h : (ofRows (rows.map fun (c, value) => (c, c, value))).find? n = some value) :
    (n, value) ∈ rows := by
  obtain ⟨first, last, hmem, hfirst, hlast⟩ := exists_row_of_find?_ofRows h
  obtain ⟨⟨c, v⟩, hrow, heq⟩ := List.mem_map.mp hmem
  cases heq
  have hself : first = n := Nat.le_antisymm hfirst hlast
  rwa [hself] at hrow

end RangeTree

end BooleanRetrieval.Text
