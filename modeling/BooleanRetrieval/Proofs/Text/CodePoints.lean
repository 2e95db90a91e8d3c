import BooleanRetrieval.Proofs.Text.Composing
import BooleanRetrieval.Text.Letter
import BooleanRetrieval.Text.LetterCase

/-!
# Properties of characters by their code points

Facts on all rows of a table are shown by evaluating them in the kernel. For this every property of
characters is read here from the code point alone, with a look-up that goes through a tree by its
recursor (`RangeTree.search`). The readings agree with the properties themselves.
-/

set_option autoImplicit false

namespace BooleanRetrieval.Text

/-! ## Look-up -/

namespace RangeTree

variable {α : Type}

/-- The value of the range that holds a number, by the recursor of trees: it unfolds in few steps. -/
noncomputable def search (tree : RangeTree α) (n : Nat) : Option α :=
  RangeTree.rec none
    (fun _ first last value _ inLeft inRight =>
      bif Nat.blt n first then inLeft else bif Nat.ble n last then some value else inRight) tree

/-- Looking a number up is a search over plain comparisons, which the kernel evaluates fast. -/
theorem find?_eq_search (tree : RangeTree α) (n : Nat) : tree.find? n = tree.search n := by
  induction tree with
  | leaf => rfl
  | node left first last value right ihleft ihright =>
    change _ = bif Nat.blt n first then left.search n else
      bif Nat.ble n last then some value else right.search n
    rw [find?, ihleft, ihright]
    by_cases hfirst : n < first
    · rw [if_pos hfirst, Nat.blt_eq.mpr hfirst, cond_true]
    · have hblt : Nat.blt n first = false := Bool.eq_false_iff.mpr (mt Nat.blt_eq.mp hfirst)
      rw [if_neg hfirst, hblt, cond_false]
      by_cases hlast : n ≤ last
      · rw [if_pos hlast, Nat.ble_eq.mpr hlast, cond_true]
      · have hble : Nat.ble n last = false := Bool.eq_false_iff.mpr (mt Nat.ble_eq.mp hlast)
        rw [if_neg hlast, hble, cond_false]

/-- A look-up depends only on how a number compares to the bounds of the rows. -/
theorem find?_congr {tree : RangeTree α} {m n : Nat}
    (h : ∀ row ∈ tree.toRows, (m < row.1 ↔ n < row.1) ∧ (m ≤ row.2.1 ↔ n ≤ row.2.1)) :
    tree.find? m = tree.find? n := by
  induction tree with
  | leaf => rfl
  | node left first last value right ihleft ihright =>
    obtain ⟨hleft, hnode, hright⟩ := by
      simpa only [toRows, List.forall_mem_append, List.forall_mem_cons] using h
    rw [find?, find?, ihleft hleft, ihright hright]
    simp only [hnode.1, hnode.2]

/-- Two numbers that stand on the same sides of all rows are looked up alike. -/
theorem find?_ofRows_congr {rows : List (Nat × Nat × α)} {m n : Nat}
    (h : ∀ row ∈ rows, (m < row.1 ↔ n < row.1) ∧ (m ≤ row.2.1 ↔ n ≤ row.2.1)) :
    (ofRows rows).find? m = (ofRows rows).find? n := by
  refine find?_congr fun row hrow => h row ?_
  rw [← toRows_fill (rows.length.log2 + 1) rows]
  exact List.mem_append_left _ hrow

end RangeTree

/-! ## Code points -/

/-- A valid code point is that of its character. -/
theorem toNat_ofNat {n : Nat} (h : n.isValidChar) : (Char.ofNat n).toNat = n := by
  unfold Char.ofNat
  rw [dif_pos h]
  rfl

/-! ## Letters, combining classes and composition -/

/-- Whether a code point is that of a letter. -/
noncomputable def isLetterCode (n : Nat) : Bool :=
  (letterTree.search n).isSome

/-- Whether a character is a letter is read off its code point. -/
theorem isLetter_eq (c : Char) : isLetter c = isLetterCode c.toNat := by
  unfold isLetter RangeTree.contains isLetterCode
  rw [RangeTree.find?_eq_search]

/-- No row of the letters reaches a surrogate or leaves Unicode. -/
theorem letterRows_valid :
    ∀ row ∈ letterRows, row.2 < 0xD800 ∨ 0xDFFF < row.1 ∧ row.2 < 0x110000 := by
  decide +kernel

/-- So the code point of a letter is valid. -/
theorem isValidChar_of_isLetterCode {n : Nat} (h : isLetterCode n = true) : n.isValidChar := by
  obtain ⟨value, hvalue⟩ := Option.isSome_iff_exists.mp h
  rw [← RangeTree.find?_eq_search] at hvalue
  obtain ⟨first, last, hmem, hfirst, hlast⟩ := RangeTree.exists_row_of_find?_ofRows hvalue
  obtain ⟨row, hrow, heq⟩ := List.mem_map.mp hmem
  cases heq
  have hvalid := letterRows_valid row hrow
  unfold Nat.isValidChar
  omega

/-- The combining class of a code point. -/
noncomputable def classOfCode (n : Nat) : Nat :=
  (combiningTree.search n).getD 0

/-- The combining class of a character is read off its code point. -/
theorem combiningClass_eq (c : Char) : combiningClass c = classOfCode c.toNat := by
  unfold combiningClass classOfCode
  rw [RangeTree.find?_eq_search]

/-- The listed decomposition of a code point, which is the code point itself if none is listed. -/
noncomputable def partsOfCode (n : Nat) : List Nat :=
  (decompositionTree.search n).getD [n]

/-- A character that is no Hangul syllable is decomposed by the table. -/
theorem decompose_eq {c : Char} (h : isHangulSyllable c.toNat = false) :
    decompose c = (partsOfCode c.toNat).map Char.ofNat := by
  unfold decompose partsOfCode
  rw [h, if_neg Bool.false_ne_true, RangeTree.find?_eq_search]
  cases decompositionTree.search c.toNat with
  | none => rw [Option.getD_none, List.map_singleton, Char.ofNat_toNat]
  | some parts => rfl

/-- The listed composite of two code points. -/
noncomputable def pairOfCodes? (first second : Nat) : Option Nat :=
  (compositionTree.search first).bind (List.lookup second)

/-- A character that begins no Hangul syllable is composed by the table. -/
theorem compose?_eq {a b : Char} (h : isHangulFirst a.toNat = false) :
    compose? a b = (pairOfCodes? a.toNat b.toNat).map Char.ofNat := by
  have hnone : composeHangul? a.toNat b.toNat = none := by
    cases hsome : composeHangul? a.toNat b.toNat with
    | none => rfl
    | some n =>
      rw [(isHangul_of_composeHangul? hsome).1] at h
      cases h
  unfold compose? pairOfCodes?
  rw [hnone, RangeTree.find?_eq_search]

/-! ## Letter case -/

/-- The image of a code point under a case mapping. -/
noncomputable def caseCodes (expansions : RangeTree (List Nat)) (runs : RangeTree CaseRun)
    (n : Nat) : List Nat :=
  match expansions.search n with
  | some image => image
  | none =>
    match runs.search n with
    | some run => [(run.imageAt? n).getD n]
    | none => [n]

/-- The case image of a character is read off its code point. -/
theorem mapCase_eq (expansions : RangeTree (List Nat)) (runs : RangeTree CaseRun) (c : Char) :
    mapCase expansions runs c = (caseCodes expansions runs c.toNat).map Char.ofNat := by
  unfold mapCase caseCodes
  rw [RangeTree.find?_eq_search, RangeTree.find?_eq_search]
  cases expansions.search c.toNat with
  | some image => rfl
  | none =>
    cases runs.search c.toNat with
    | none => simp [Char.ofNat_toNat]
    | some run => cases h : run.imageAt? c.toNat <;> simp [h, Char.ofNat_toNat]

end BooleanRetrieval.Text
