import BooleanRetrieval.Proofs.Text.TermLetters
import BooleanRetrieval.Query.Token
import Mathlib.Data.List.Forall2

/-!
# Operators in any letter case

A run of characters is an operator if its upper case is one of three words. Several characters can have
one upper case, and one character can have several in its upper case; yet of all characters only the
capital and the small letter have a letter of these words as their upper case. So the operators are the
three words with each letter in either case (`upper_eq_iff_inAnyCase`).
-/

set_option autoImplicit false

namespace BooleanRetrieval

namespace Text

/-- The letters of the operators. -/
def operatorLetters : List Char :=
  ['A', 'D', 'N', 'O', 'R', 'T']

/-- Besides capitals, only their small forms have letters of operators as their upper case. -/
theorem operatorLetters_tables :
    (∀ row ∈ upperExpansions, ∃ n ∈ row.2, Char.ofNat n ∉ operatorLetters) ∧
    (∀ row ∈ upperRows, ∀ i < row.2.1 - row.1 + 1, i % row.2.2.1 = 0 →
      row.2.2.2 + i ∈ operatorLetters.map Char.toNat → row.1 + i = row.2.2.2 + i + 0x20) ∧
    operatorLetters.Forall fun u => foldChar u ≠ [u] ∧ u.toNat ≠ 0 ∧
      Char.ofNat (u.toNat + 0x20) = u.toLower ∧ upperChar u = [u] ∧ upperChar u.toLower = [u] := by
  decide +kernel

/-- A code point of a character that is not zero is that of the character. -/
theorem eq_toNat_of_ofNat_eq {n : Nat} {c : Char} (h : Char.ofNat n = c) (hc : c.toNat ≠ 0) :
    n = c.toNat := by
  by_cases hvalid : n.isValidChar
  · rw [← h, toNat_ofNat hvalid]
  · refine absurd ?_ hc
    rw [← h, Char.ofNat, dif_neg hvalid]
    rfl

/-- A character whose upper case is made of letters of operators is one of them, or its small form. -/
theorem eq_or_eq_toLower_of_upperChar {c : Char} (h : ∀ u ∈ upperChar c, u ∈ operatorLetters) :
    ∃ u, upperChar c = [u] ∧ (c = u ∨ c = u.toLower) := by
  rcases mapCase_cases upperExpansions upperRows c with ⟨image, hrow, himage⟩ |
    ⟨row, hrow, hbounds, hstep, himage⟩ | himage
  · obtain ⟨n, hn, hother⟩ := operatorLetters_tables.1 _ hrow
    refine absurd (h (Char.ofNat n) ?_) hother
    rw [upperChar, upperExpansionTree, upperTree, himage]
    exact List.mem_map_of_mem hn
  · have hletter := h (Char.ofNat (row.2.2.2 + (c.toNat - row.1))) (by
      rw [upperChar, upperExpansionTree, upperTree, himage]
      exact List.mem_cons_self)
    obtain ⟨-, hpositive, hlower, -⟩ :=
      List.forall_iff_forall_mem.mp operatorLetters_tables.2.2 _ hletter
    have hcode := eq_toNat_of_ofNat_eq rfl hpositive
    have hsmall := operatorLetters_tables.2.1 row hrow (c.toNat - row.1)
      (Nat.lt_succ_of_le (Nat.sub_le_sub_right hbounds.2 _)) hstep
      (by rw [hcode]; exact List.mem_map_of_mem hletter)
    refine ⟨_, himage, .inr ?_⟩
    rw [← hlower, ← hcode, ← hsmall, Nat.add_sub_cancel' hbounds.1, Char.ofNat_toNat]
  · exact ⟨c, himage, .inl rfl⟩

/-- A text has letters of operators as its upper case exactly if it has each of them as a capital or
small letter. -/
theorem upper_eq_iff_forall₂ {letters : List Char} (h : ∀ u ∈ letters, u ∈ operatorLetters)
    {text : List Char} :
    upper text = letters ↔ List.Forall₂ (fun u c => c = u ∨ c = u.toLower) letters text := by
  induction text generalizing letters with
  | nil =>
    rw [List.forall₂_nil_right_iff]
    exact eq_comm
  | cons c text ih =>
    have hupper : upper (c :: text) = upperChar c ++ upper text := List.flatMap_cons
    rw [hupper, List.forall₂_cons_right_iff]
    constructor
    · rintro rfl
      obtain ⟨hfirst, hrest⟩ := List.forall_mem_append.mp h
      obtain ⟨u, hu, hcase⟩ := eq_or_eq_toLower_of_upperChar hfirst
      exact ⟨u, upper text, hcase, (ih hrest).mp rfl, by rw [hu, List.singleton_append]⟩
    · rintro ⟨u, letters, hcase, hrest, rfl⟩
      obtain ⟨hfirst, hletters⟩ := List.forall_mem_cons.mp h
      obtain ⟨-, -, -, hcapital, hsmall⟩ :=
        List.forall_iff_forall_mem.mp operatorLetters_tables.2.2 _ hfirst
      have hu : upperChar c = [u] := by
        rcases hcase with rfl | rfl
        · exact hcapital
        · exact hsmall
      rw [hu, (ih hletters).mpr hrest, List.singleton_append]

end Text

namespace Token

/-- The texts that read as operators when they are put in upper case. -/
def operatorTexts : List String :=
  ["AND", "OR", "NOT"]

/-- A text is a word with each letter as a capital or small letter. -/
def InAnyCase (word : String) (text : List Char) : Prop :=
  List.Forall₂ (fun letter c => c = letter ∨ c = letter.toLower) word.toList text

/-- The letters of an operator are among the letters of all operators. -/
theorem mem_operatorLetters_of_mem {word : String} (h : word ∈ operatorTexts) :
    ∀ letter ∈ word.toList, letter ∈ Text.operatorLetters := by
  have hall : operatorTexts.all (fun word => word.toList.all Text.operatorLetters.contains) =
      true := by
    decide
  intro letter hletter
  have hword := List.all_eq_true.mp hall word h
  exact List.contains_iff_mem.mp (List.all_eq_true.mp hword letter hletter)

/-- A text reads as an operator exactly if it is the operator in any letter case. -/
theorem upper_eq_iff_inAnyCase {word : String} (h : word ∈ operatorTexts) {text : List Char} :
    Text.upper text = word.toList ↔ InAnyCase word text :=
  Text.upper_eq_iff_forall₂ (mem_operatorLetters_of_mem h)

/-- A folded text that is an operator in any letter case is that in small letters. -/
theorem InAnyCase.eq_map_toLower {word : String} {text : List Char} (h : InAnyCase word text)
    (hword : word ∈ operatorTexts) (hfold : ∀ c ∈ text, Text.foldChar c = [c]) :
    text = word.toList.map Char.toLower := by
  have hletters := mem_operatorLetters_of_mem hword
  unfold InAnyCase at h
  generalize word.toList = letters at h hletters
  induction h with
  | nil => rfl
  | @cons letter c letters text hcase _ ih =>
    obtain ⟨hletter, hletters⟩ := List.forall_mem_cons.mp hletters
    obtain ⟨hc, htext⟩ := List.forall_mem_cons.mp hfold
    have hsmall : c = letter.toLower := by
      rcases hcase with rfl | hsmall
      · exact absurd hc (List.forall_iff_forall_mem.mp Text.operatorLetters_tables.2.2 _ hletter).1
      · exact hsmall
    rw [List.map_cons, ← hsmall, ← ih htext hletters]

end Token

end BooleanRetrieval
