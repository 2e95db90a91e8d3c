/-!
# Sets of documents

A set of document ids is kept as its strictly increasing list of ids, by code points. Two sets with
the same members are therefore equal, and the list is the order in which answers are shown.
-/

set_option autoImplicit false

namespace BooleanRetrieval

/-- Put a string into a strictly increasing list, unless it is there. -/
def insertSorted (s : String) : List String → List String
  | [] => [s]
  | t :: rest =>
    if s < t then s :: t :: rest
    else if t < s then t :: insertSorted s rest
    else t :: rest

/-- The members of a list after an insertion are the old ones and the new one. -/
theorem mem_insertSorted {x s : String} {l : List String} :
    x ∈ insertSorted s l ↔ x = s ∨ x ∈ l := by
  induction l with
  | nil => simp [insertSorted]
  | cons t rest ih =>
    unfold insertSorted
    split
    · simp
    · split
      · simp [ih, or_left_comm]
      · next hst hts =>
        have heq : s = t := String.le_antisymm (String.not_lt.mp hts) (String.not_lt.mp hst)
        simp [heq]

/-- Insertion keeps a list strictly increasing. -/
theorem pairwise_insertSorted {s : String} {l : List String} (h : l.Pairwise (· < ·)) :
    (insertSorted s l).Pairwise (· < ·) := by
  induction l with
  | nil => simp [insertSorted]
  | cons t rest ih =>
    obtain ⟨hhead, htail⟩ := List.pairwise_cons.mp h
    unfold insertSorted
    split
    · next hst =>
      refine List.pairwise_cons.mpr ⟨fun x hx => ?_, h⟩
      rcases List.mem_cons.mp hx with rfl | hx
      · exact hst
      · exact String.lt_trans hst (hhead x hx)
    · split
      · next hts =>
        refine List.pairwise_cons.mpr ⟨fun x hx => ?_, ih htail⟩
        rcases mem_insertSorted.mp hx with rfl | hx
        · exact hts
        · exact hhead x hx
      · exact h

/-- A finite set of document ids. -/
@[ext] structure DocSet where
  /-- The members in increasing order. -/
  toList : List String
  /-- Each member stands once, in its place. -/
  increasing : toList.Pairwise (· < ·)

namespace DocSet

/-- The set without members. -/
def empty : DocSet := ⟨[], .nil⟩

/-- Whether the set has no member. -/
def isEmpty (s : DocSet) : Bool :=
  s.toList.isEmpty

/-- The number of members. -/
def size (s : DocSet) : Nat :=
  s.toList.length

/-- Whether a document is a member. -/
def contains (s : DocSet) (d : String) : Bool :=
  s.toList.contains d

instance : Membership String DocSet where
  mem s d := d ∈ s.toList

/-- The set with one more member. -/
def insert (s : DocSet) (d : String) : DocSet :=
  ⟨insertSorted d s.toList, pairwise_insertSorted s.increasing⟩

/-- The set of the documents in a list. -/
def ofList (ds : List String) : DocSet :=
  ds.foldl insert empty

/-- The documents that are in one of two sets. -/
def union (s t : DocSet) : DocSet :=
  t.toList.foldl insert s

/-- The documents that are in both of two sets. -/
def inter (s t : DocSet) : DocSet :=
  ⟨s.toList.filter t.contains, s.increasing.filter _⟩

/-- The documents of one set that are not in another. -/
def diff (s t : DocSet) : DocSet :=
  ⟨s.toList.filter (!t.contains ·), s.increasing.filter _⟩

/-- The members of a set are those of its list. -/
theorem mem_iff {s : DocSet} {d : String} : d ∈ s ↔ d ∈ s.toList := Iff.rfl

/-- No document stands twice in the list of a set. -/
theorem nodup_toList (s : DocSet) : s.toList.Nodup := by
  refine List.Pairwise.imp ?_ s.increasing
  rintro a b hlt rfl
  exact String.lt_irrefl a hlt

/-- Sets with the same members are equal. -/
theorem ext_mem {s t : DocSet} (h : ∀ d, d ∈ s ↔ d ∈ t) : s = t := by
  have hperm : s.toList.Perm t.toList :=
    (List.perm_ext_iff_of_nodup s.nodup_toList t.nodup_toList).mpr h
  refine DocSet.ext (hperm.eq_of_pairwise ?_ s.increasing t.increasing)
  intro a b _ _ hab hba
  exact absurd (String.lt_trans hab hba) (String.lt_irrefl a)

/-- The empty set has no members. -/
@[simp] theorem notMem_empty (d : String) : d ∉ empty := List.not_mem_nil

/-- A set is empty when it has no members. -/
theorem isEmpty_iff {s : DocSet} : s.isEmpty = true ↔ ∀ d, d ∉ s := by
  unfold isEmpty
  rw [List.isEmpty_iff, List.eq_nil_iff_forall_not_mem]
  exact Iff.rfl

/-- Inserting adds the new document. -/
@[simp] theorem mem_insert {s : DocSet} {d new : String} :
    d ∈ s.insert new ↔ d = new ∨ d ∈ s :=
  mem_insertSorted

/-- Inserting a list of documents adds each of them. -/
theorem mem_foldl_insert {ds : List String} {s : DocSet} {d : String} :
    d ∈ ds.foldl insert s ↔ d ∈ ds ∨ d ∈ s := by
  induction ds generalizing s with
  | nil => simp
  | cons new ds ih => rw [List.foldl_cons, ih, mem_insert, List.mem_cons, or_left_comm, or_assoc]

/-- The set of a list has its members. -/
@[simp] theorem mem_ofList {ds : List String} {d : String} : d ∈ ofList ds ↔ d ∈ ds := by
  unfold ofList
  rw [mem_foldl_insert]
  simp

/-- A union has the members of both sets. -/
@[simp] theorem mem_union {s t : DocSet} {d : String} : d ∈ s.union t ↔ d ∈ s ∨ d ∈ t := by
  unfold union
  rw [mem_foldl_insert, or_comm]
  exact Iff.rfl

/-- An intersection has the members that both sets have. -/
@[simp] theorem mem_inter {s t : DocSet} {d : String} : d ∈ s.inter t ↔ d ∈ s ∧ d ∈ t := by
  rw [mem_iff, inter, List.mem_filter, contains, List.contains_iff_mem]
  exact Iff.rfl

/-- A difference has the members of one set that the other lacks. -/
@[simp] theorem mem_diff {s t : DocSet} {d : String} : d ∈ s.diff t ↔ d ∈ s ∧ d ∉ t := by
  rw [mem_iff, diff, List.mem_filter, Bool.not_eq_true', contains, ← Bool.not_eq_true,
    List.contains_iff_mem]
  exact Iff.rfl

end DocSet

end BooleanRetrieval
