import BooleanRetrieval.Proofs.Text.ComposedLetters
import BooleanRetrieval.Proofs.Text.Folding

/-!
# The letters of folded terms

A folded term is made letter by letter: a letter of the composed word is put in lower case, and the
result is folded (`fold_lower`). What becomes of one letter is a letter again, which is then left alone,
or one of the texts that folding expands letters to (`piece_termImage`).
-/

set_option autoImplicit false

namespace BooleanRetrieval.Text

/-! ## Case mappings -/

/-- A character is expanded by a case mapping, or is a member of a run, or is left alone. -/
theorem mapCase_cases (expansions : List (Nat × List Nat)) (rows : List (Nat × Nat × Nat × Nat))
    (c : Char) :
    (∃ image, (c.toNat, image) ∈ expansions ∧
      mapCase (expansionTree expansions) (caseTree rows) c = image.map Char.ofNat) ∨
    (∃ row ∈ rows, (row.1 ≤ c.toNat ∧ c.toNat ≤ row.2.1) ∧ (c.toNat - row.1) % row.2.2.1 = 0 ∧
      mapCase (expansionTree expansions) (caseTree rows) c =
        [Char.ofNat (row.2.2.2 + (c.toNat - row.1))]) ∨
    mapCase (expansionTree expansions) (caseTree rows) c = [c] := by
  unfold mapCase
  split
  · next image himage => exact Or.inl ⟨image, RangeTree.mem_of_find?_ofRows himage, rfl⟩
  · split
    · next run hrun =>
      obtain ⟨first, last, hmem, hfirst, hlast⟩ := RangeTree.exists_row_of_find?_ofRows hrun
      obtain ⟨row, hrow, heq⟩ := List.mem_map.mp hmem
      cases heq
      unfold CaseRun.imageAt?
      split
      · next hstep =>
        exact Or.inr (Or.inl ⟨row, hrow, ⟨hfirst, hlast⟩, hstep, rfl⟩)
      · exact Or.inr (Or.inr rfl)
    · exact Or.inr (Or.inr rfl)

/-! ## Pieces of folded terms -/

/-- What becomes of one letter of a composed word in its folded term. -/
def termImage (c : Char) : List Char :=
  fold (lowerChar c)

/-- What one letter of a composed word may become in a folded term. -/
inductive Piece : List Char → Prop where
  /-- A letter that is left alone. -/
  | letter {c : Char} (hletter : isLetter c = true) (hstanding : Standing c)
      (himage : termImage c = [c]) : Piece [c]
  /-- A text that folding expands a letter to. -/
  | expanded {row : Nat × List Nat} (hrow : row ∈ foldExpansions) : Piece (row.2.map Char.ofNat)

/-! ## Folding letter by letter -/

/-- Folding one character is its own fold. -/
theorem fold_singleton (c : Char) : fold [c] = foldChar c :=
  List.flatMap_singleton foldChar c

/-- Both small forms of sigma are folded to one. -/
theorem fold_finalSigma : fold [finalSigma] = termImage capitalSigma := by
  decide +kernel

/-- Lower-casing and folding gives each letter the image it has in a term, whatever stands before it. -/
theorem fold_lowerRest (casedBefore : Bool) (done cs : List Char) :
    fold (lowerRest casedBefore done cs) = fold done.reverse ++ cs.flatMap termImage := by
  have happend (xs ys : List Char) : fold (xs ++ ys) = fold xs ++ fold ys := List.flatMap_append
  fun_induction lowerRest casedBefore done cs with
  | case1 casedBefore done => simp
  | case2 casedBefore done c rest image casedBefore' ih =>
    have himage : fold image = termImage c := by
      unfold image
      split
      · next hsigma =>
        simp only [Bool.and_eq_true, decide_eq_true_eq] at hsigma
        rw [hsigma.1.1, fold_finalSigma]
      · rfl
    rw [ih, List.reverse_append, List.reverse_reverse, happend, himage, List.flatMap_cons,
      List.append_assoc]

/-- A text in lower case is folded letter by letter, although a sigma is put in lower case by its
neighbours. -/
theorem fold_lower (cs : List Char) : fold (lower cs) = cs.flatMap termImage :=
  fold_lowerRest false [] cs

/-! ## The tables -/

/-- The lower case of a code point. -/
noncomputable def lowerCodes (n : Nat) : List Nat :=
  caseCodes lowerExpansionTree lowerTree n

/-- The case folding of a code point. -/
noncomputable def foldCodes (n : Nat) : List Nat :=
  caseCodes foldExpansionTree foldTree n

/-- Whether a code point is that of a letter that composing puts together again. -/
noncomputable def isStandingLetter (n : Nat) : Bool :=
  isLetterCode n && isRejoined n

/-- Whether a code point is a standing letter in lower case. -/
noncomputable def isLowered (n : Nat) : Bool :=
  isStandingLetter n && lowerCodes n == [n]

/-- Whether a code point is a standing letter that is folded from its lower case. -/
noncomputable def isRefolded (n : Nat) : Bool :=
  isStandingLetter n &&
    match lowerCodes n with
    | [m] => isLetterCode m && foldCodes m == [n]
    | _ => false

/-- A case mapping makes standing letters of standing letters: lower case ones, or folded ones. -/
theorem caseRows_tables :
    (∀ row ∈ lowerRows, ∀ i < row.2.1 - row.1 + 1, i % row.2.2.1 = 0 →
      (!isLetterCode (row.1 + i) || isLowered (row.2.2.2 + i) || !isRejoined (row.1 + i)) = true) ∧
    ∀ row ∈ foldRows, ∀ i < row.2.1 - row.1 + 1, i % row.2.2.1 = 0 →
      (!isLetterCode (row.1 + i) || isRefolded (row.2.2.2 + i) || !isRejoined (row.1 + i)) = true := by
  decide +kernel

/-- Hangul syllables have no case, and no row of letters begins or ends among them. -/
theorem syllables_tables :
    (∀ row ∈ lowerExpansions ++ foldExpansions, isHangulSyllable row.1 = false) ∧
    (∀ row ∈ lowerRows ++ foldRows, row.2.1 < 0xAC00 ∨ 0xD7A3 < row.1) ∧
    ∀ row ∈ letterRows, (0xAC00 < row.1 ↔ 0xD7A3 < row.1) ∧ (0xAC00 ≤ row.2 ↔ 0xD7A3 ≤ row.2) := by
  decide +kernel

/-- A case mapping without rows for Hangul syllables leaves them alone. -/
theorem mapCase_of_isHangulSyllable {expansions : List (Nat × List Nat)}
    {rows : List (Nat × Nat × Nat × Nat)} {c : Char} (h : isHangulSyllable c.toNat = true)
    (hexpansions : ∀ row ∈ expansions, isHangulSyllable row.1 = false)
    (hrows : ∀ row ∈ rows, row.2.1 < 0xAC00 ∨ 0xD7A3 < row.1) :
    mapCase (expansionTree expansions) (caseTree rows) c = [c] := by
  rcases mapCase_cases expansions rows c with ⟨image, hrow, -⟩ | ⟨row, hrow, hbounds, -, -⟩ | himage
  · have hother := hexpansions _ hrow
    rw [h] at hother
    cases hother
  · have hsyllable := isHangulSyllable_iff.mp h
    have hapart := hrows row hrow
    omega
  · exact himage

/-! ## Images of letters -/

/-- A number of the table of standing letters is the code point of a letter that stands by itself. -/
theorem isLetter_and_standing {n : Nat} (h : isStandingLetter n = true) :
    (Char.ofNat n).toNat = n ∧ isLetter (Char.ofNat n) = true ∧ Standing (Char.ofNat n) := by
  obtain ⟨hletter, hrejoined⟩ := Bool.and_eq_true_iff.mp h
  have hself : (Char.ofNat n).toNat = n := toNat_ofNat (isValidChar_of_isLetterCode hletter)
  refine ⟨hself, ?_, ?_⟩
  · rw [isLetter_eq, hself, hletter]
  · unfold Standing
    rw [hself, hrejoined]

/-- A number of the table of lowered letters is the code point of a letter that lower-casing keeps. -/
theorem lowerChar_of_isLowered {n : Nat} (h : isLowered n = true) :
    isLetter (Char.ofNat n) = true ∧ Standing (Char.ofNat n) ∧
      lowerChar (Char.ofNat n) = [Char.ofNat n] := by
  obtain ⟨hstanding, hlower⟩ := Bool.and_eq_true_iff.mp h
  obtain ⟨hself, hletter, hstanding⟩ := isLetter_and_standing hstanding
  refine ⟨hletter, hstanding, ?_⟩
  rw [lowerChar, mapCase_eq, hself]
  exact congrArg (List.map Char.ofNat) (beq_iff_eq.mp hlower)

/-- A number of the table of refolded letters is the code point of a letter that is its own image. -/
theorem termImage_of_isRefolded {n : Nat} (h : isRefolded n = true) :
    isLetter (Char.ofNat n) = true ∧ Standing (Char.ofNat n) ∧
      termImage (Char.ofNat n) = [Char.ofNat n] := by
  obtain ⟨hstanding, himage⟩ := Bool.and_eq_true_iff.mp h
  obtain ⟨hself, hletter, hstanding⟩ := isLetter_and_standing hstanding
  refine ⟨hletter, hstanding, ?_⟩
  split at himage
  · next m hm =>
    obtain ⟨hlower, hfold⟩ := Bool.and_eq_true_iff.mp himage
    have hself' : (Char.ofNat m).toNat = m := toNat_ofNat (isValidChar_of_isLetterCode hlower)
    have hlowerChar : lowerChar (Char.ofNat n) = [Char.ofNat m] := by
      rw [lowerChar, mapCase_eq, hself]
      exact congrArg (List.map Char.ofNat) hm
    rw [termImage, hlowerChar, fold_singleton, foldChar, mapCase_eq, hself']
    exact congrArg (List.map Char.ofNat) (beq_iff_eq.mp hfold)
  · cases himage

/-- The lower case of a letter of a composed word is a letter, but for the dotted capital I. -/
theorem lowerChar_of_standing {c : Char} (hletter : isLetter c = true) (hstanding : Standing c) :
    (∃ x, lowerChar c = [x] ∧ isLetter x = true ∧ Standing x ∧ lowerChar x = [x]) ∨
      lowerChar c = ['i', '\u0307'] := by
  rcases mapCase_cases lowerExpansions lowerRows c with ⟨image, hrow, himage⟩ |
    ⟨row, hrow, hbounds, hstep, himage⟩ | himage
  · obtain ⟨-, rfl⟩ := Prod.mk.inj (List.mem_singleton.mp hrow)
    exact Or.inr himage
  · have hlowered := caseRows_tables.1 row hrow (c.toNat - row.1)
      (Nat.lt_succ_of_le (Nat.sub_le_sub_right hbounds.2 _)) hstep
    rw [isLetter_eq] at hletter
    unfold Standing at hstanding
    rw [Nat.add_sub_cancel' hbounds.1, hletter, hstanding, Bool.not_true, Bool.false_or,
      Bool.or_false] at hlowered
    obtain ⟨hletter, hstanding, hlower⟩ := lowerChar_of_isLowered hlowered
    exact Or.inl ⟨_, himage, hletter, hstanding, hlower⟩
  · exact Or.inl ⟨c, himage, hletter, hstanding, himage⟩

/-- The fold of a standing letter is the letter itself, one letter that is its own image, or a row of the
expansions. -/
theorem foldChar_of_standing {c : Char} (hletter : isLetter c = true) (hstanding : Standing c) :
    foldChar c = [c] ∨
      (∃ y, foldChar c = [y] ∧ isLetter y = true ∧ Standing y ∧ termImage y = [y]) ∨
      ∃ row ∈ foldExpansions, foldChar c = row.2.map Char.ofNat := by
  rcases mapCase_cases foldExpansions foldRows c with ⟨image, hrow, himage⟩ |
    ⟨row, hrow, hbounds, hstep, himage⟩ | himage
  · exact Or.inr (Or.inr ⟨_, hrow, himage⟩)
  · have hrefolded := caseRows_tables.2 row hrow (c.toNat - row.1)
      (Nat.lt_succ_of_le (Nat.sub_le_sub_right hbounds.2 _)) hstep
    rw [isLetter_eq] at hletter
    unfold Standing at hstanding
    rw [Nat.add_sub_cancel' hbounds.1, hletter, hstanding, Bool.not_true, Bool.false_or,
      Bool.or_false] at hrefolded
    obtain ⟨hletter, hstanding, himage'⟩ := termImage_of_isRefolded hrefolded
    exact Or.inr (Or.inl ⟨_, himage, hletter, hstanding, himage'⟩)
  · exact Or.inl himage

/-! ## Letters give pieces -/

/-- The image of a standing letter is one of the pieces a term is made of. -/
theorem piece_termImage {c : Char} (hletter : isLetter c = true) (hstanding : Standing c) :
    Piece (termImage c) := by
  rcases lowerChar_of_standing hletter hstanding with ⟨x, hlower, hletter, hstanding, hlowered⟩ | hdotted
  · have himage : termImage c = foldChar x := by rw [termImage, hlower, fold_singleton]
    rw [himage]
    rcases foldChar_of_standing hletter hstanding with hfold |
      ⟨y, hfold, hletter, hstanding, hrefolded⟩ | ⟨row, hrow, hfold⟩
    · rw [hfold]
      refine .letter hletter hstanding ?_
      rw [termImage, hlowered, fold_singleton, hfold]
    · rw [hfold]
      exact .letter hletter hstanding hrefolded
    · rw [hfold]
      exact .expanded hrow
  · -- the dotted capital I has the same expansion in both tables
    have hrow : (0x0130, [0x0069, 0x0307]) ∈ foldExpansions := by decide
    have himage : termImage c = [0x0069, 0x0307].map Char.ofNat := by
      rw [termImage, hdotted]
      decide +kernel
    rw [himage]
    exact .expanded hrow

/-- A Hangul syllable is a letter. -/
theorem isLetter_of_isHangulSyllable {c : Char} (h : isHangulSyllable c.toNat = true) :
    isLetter c = true := by
  have hbounds := isHangulSyllable_iff.mp h
  have hsame : letterTree.find? c.toNat = letterTree.find? 0xAC00 := by
    refine RangeTree.find?_ofRows_congr fun row hrow => ?_
    obtain ⟨range, hrange, rfl⟩ := List.mem_map.mp hrow
    have hapart := syllables_tables.2.2 range hrange
    dsimp only
    omega
  unfold isLetter RangeTree.contains
  rw [hsame]
  decide +kernel

/-- A Hangul syllable is left alone. -/
theorem piece_of_isHangulSyllable {c : Char} (h : isHangulSyllable c.toNat = true) : Piece [c] := by
  obtain ⟨hexpansions, hrows, -⟩ := syllables_tables
  obtain ⟨hlowerExpansions, hfoldExpansions⟩ := List.forall_mem_append.mp hexpansions
  obtain ⟨hlowerRows, hfoldRows⟩ := List.forall_mem_append.mp hrows
  have hlower : lowerChar c = [c] := mapCase_of_isHangulSyllable h hlowerExpansions hlowerRows
  have hfold : foldChar c = [c] := mapCase_of_isHangulSyllable h hfoldExpansions hfoldRows
  refine .letter (isLetter_of_isHangulSyllable h) (standing_of_isHangulSyllable h) ?_
  rw [termImage, hlower, fold_singleton, hfold]

end BooleanRetrieval.Text
