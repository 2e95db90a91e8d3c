import BooleanRetrieval.Text.Blank
import BooleanRetrieval.Text.LetterCase
import BooleanRetrieval.Text.Term

/-!
# Case folding settles

Folding is a map of single characters, read from two tables. No image in these tables is blank, and
every one of them is left alone by folding (`foldChar_settles`). So a folded text is folded already, a
text that is not blank stays so, and folding neither makes nor removes the characters that break lines.
-/

set_option autoImplicit false

namespace BooleanRetrieval.Text

/-- A character that folding leaves alone and that is not blank. -/
def Settled (c : Char) : Prop :=
  foldChar c = [c] ∧ isBlank c = false

instance (c : Char) : Decidable (Settled c) :=
  inferInstanceAs (Decidable (_ ∧ _))

/-! ## The tables -/

/-- The images in the table of expansions are not empty and settled. -/
theorem settled_foldExpansions :
    ∀ row ∈ foldExpansions, row.2 ≠ [] ∧ ∀ n ∈ row.2, Settled (Char.ofNat n) := by
  decide +kernel

/-- And so are the images in the runs of the folding table. -/
theorem settled_foldRows :
    ∀ row ∈ foldRows, ∀ i < row.2.1 - row.1 + 1,
      i % row.2.2.1 = 0 → Settled (Char.ofNat (row.2.2.2 + i)) := by
  decide +kernel

/-- An expansion that is looked up is a row of its table. -/
theorem exists_of_find?_foldExpansionTree {n : Nat} {image : List Nat}
    (h : foldExpansionTree.find? n = some image) : ∃ row ∈ foldExpansions, row.2 = image := by
  obtain ⟨first, last, hmem, -⟩ := RangeTree.exists_row_of_find?_ofRows h
  obtain ⟨row, hrow, heq⟩ := List.mem_map.mp hmem
  exact ⟨row, hrow, congrArg (fun entry => entry.2.2) heq⟩

/-- A run that is looked up is a row of its table, and the code point lies in it. -/
theorem exists_of_find?_foldTree {n : Nat} {run : CaseRun} (h : foldTree.find? n = some run) :
    ∃ row ∈ foldRows, run = ⟨row.2.2.1, row.1, row.2.2.2⟩ ∧ row.1 ≤ n ∧ n ≤ row.2.1 := by
  obtain ⟨first, last, hmem, hfirst, hlast⟩ := RangeTree.exists_row_of_find?_ofRows h
  obtain ⟨row, hrow, heq⟩ := List.mem_map.mp hmem
  cases heq
  exact ⟨row, hrow, rfl, hfirst, hlast⟩

/-! ## Characters -/

/-- Folding leaves a character alone, or makes settled characters of it. -/
theorem foldChar_settles (c : Char) :
    foldChar c = [c] ∨ foldChar c ≠ [] ∧ ∀ x ∈ foldChar c, Settled x := by
  unfold foldChar mapCase
  split
  · next image himage =>
    obtain ⟨row, hrow, rfl⟩ := exists_of_find?_foldExpansionTree himage
    obtain ⟨hne, hsettled⟩ := settled_foldExpansions row hrow
    refine Or.inr ⟨by simpa using hne, ?_⟩
    intro x hx
    obtain ⟨n, hn, rfl⟩ := List.mem_map.mp hx
    exact hsettled n hn
  · split
    · next run hrun =>
      obtain ⟨row, hrow, rfl, hfirst, hlast⟩ := exists_of_find?_foldTree hrun
      unfold CaseRun.imageAt?
      split
      · next hstep =>
        have hsettled := settled_foldRows row hrow (c.toNat - row.1) (by omega) hstep
        refine Or.inr ⟨by simp, ?_⟩
        intro x hx
        obtain rfl := List.mem_singleton.mp hx
        exact hsettled
      · exact Or.inl rfl
    · exact Or.inl rfl

/-- A text whose characters fold to themselves folds to itself. -/
theorem fold_eq_self {cs : List Char} (h : ∀ c ∈ cs, foldChar c = [c]) : fold cs = cs := by
  induction cs with
  | nil => rfl
  | cons c cs ih =>
    obtain ⟨hc, hcs⟩ := List.forall_mem_cons.mp h
    have htail : fold cs = cs := ih hcs
    have hcons : fold (c :: cs) = foldChar c ++ fold cs := List.flatMap_cons
    rw [hcons, hc, htail, List.singleton_append]

/-- The folded form of a character folds to itself. -/
theorem fold_foldChar (c : Char) : fold (foldChar c) = foldChar c := by
  apply fold_eq_self
  intro x hx
  rcases foldChar_settles c with hc | ⟨-, hsettled⟩
  · rw [hc] at hx
    rwa [List.mem_singleton.mp hx]
  · exact (hsettled x hx).1

/-- Folding a character that is not blank gives some character that is not blank. -/
theorem allBlank_foldChar {c : Char} (h : allBlank (foldChar c) = true) : isBlank c = true := by
  rcases foldChar_settles c with hc | ⟨hne, hsettled⟩
  · simpa [allBlank, hc] using h
  · obtain ⟨x, hx⟩ := List.exists_mem_of_ne_nil _ hne
    have hblank : isBlank x = true := List.all_eq_true.mp h x hx
    rw [(hsettled x hx).2] at hblank
    cases hblank

/-- A blank character among the images of a character is that character. -/
theorem eq_of_isBlank_of_mem_foldChar {c x : Char} (hx : x ∈ foldChar c) (h : isBlank x = true) :
    x = c := by
  rcases foldChar_settles c with hc | ⟨-, hsettled⟩
  · rw [hc] at hx
    exact List.mem_singleton.mp hx
  · rw [(hsettled x hx).2] at h
    cases h

/-! ## Texts -/

/-- Folding twice is folding once. -/
theorem fold_fold (cs : List Char) : fold (fold cs) = fold cs := by
  induction cs with
  | nil => rfl
  | cons c cs ih =>
    have hcons : fold (c :: cs) = foldChar c ++ fold cs := List.flatMap_cons
    have happend : fold (foldChar c ++ fold cs) = fold (foldChar c) ++ fold (fold cs) :=
      List.flatMap_append
    rw [hcons, happend, ih, fold_foldChar]

/-- A folded text is folded already. -/
@[simp] theorem foldCase_foldCase (text : String) : foldCase (foldCase text) = foldCase text := by
  unfold foldCase
  rw [String.toList_ofList, fold_fold]

/-- Folding a text that is not blank gives a text that is not blank. -/
theorem isBlankText_foldCase {text : String} (h : isBlankText (foldCase text) = true) :
    isBlankText text = true := by
  unfold isBlankText foldCase at h
  rw [String.toList_ofList] at h
  refine List.all_eq_true.mpr fun c hc => allBlank_foldChar (List.all_eq_true.mpr fun x hx => ?_)
  exact List.all_eq_true.mp h x (List.mem_flatMap.mpr ⟨c, hc, hx⟩)

/-- What holds of all characters of the table of blank ones holds of every blank character. -/
theorem of_isBlank {P : Char → Prop}
    (h : ∀ row ∈ blankRows, ∀ i < row.2 - row.1 + 1, P (Char.ofNat (row.1 + i))) {c : Char}
    (hc : isBlank c = true) : P c := by
  unfold isBlank at hc
  obtain ⟨row, hrow, hbounds⟩ := List.any_eq_true.mp hc
  simp only [Bool.and_eq_true, decide_eq_true_eq] at hbounds
  have hself : Char.ofNat (row.1 + (c.toNat - row.1)) = c := by
    rw [Nat.add_sub_cancel' hbounds.1, Char.ofNat_toNat]
  rw [← hself]
  exact h row hrow (c.toNat - row.1) (by omega)

/-- Blank characters fold to themselves. -/
theorem foldChar_of_isBlank {c : Char} (h : isBlank c = true) : foldChar c = [c] :=
  of_isBlank (P := fun c => foldChar c = [c]) (by decide +kernel) h

/-- Folding neither makes nor removes what is not blank in a text. -/
theorem isBlankText_foldCase_eq (text : String) : isBlankText (foldCase text) = isBlankText text := by
  apply Bool.eq_iff_iff.mpr
  refine ⟨isBlankText_foldCase, fun h => ?_⟩
  have hblank : ∀ c ∈ text.toList, isBlank c = true := List.all_eq_true.mp h
  have hfold : foldCase text = text := by
    unfold foldCase
    rw [fold_eq_self fun c hc => foldChar_of_isBlank (hblank c hc), String.ofList_toList]
  rw [hfold, h]

/-- Whether a text is blank can be told from its folded form. -/
theorem isBlankText_congr {text text' : String} (h : foldCase text = foldCase text') :
    isBlankText text = isBlankText text' := by
  rw [← isBlankText_foldCase_eq text, h, isBlankText_foldCase_eq]

/-- The blank characters of a folded text are in the text. -/
theorem mem_of_isBlank_of_mem_foldCase {text : String} {x : Char} (hx : x ∈ (foldCase text).toList)
    (h : isBlank x = true) : x ∈ text.toList := by
  unfold foldCase at hx
  rw [String.toList_ofList] at hx
  obtain ⟨c, hc, hmem⟩ := List.mem_flatMap.mp hx
  rwa [eq_of_isBlank_of_mem_foldChar hmem h]

end BooleanRetrieval.Text
