import BooleanRetrieval.Proofs.Text.CodePoints
import BooleanRetrieval.Proofs.Text.Hangul

/-!
# The characters of composed text

Composing takes a character apart and puts it together again. Some characters come out changed, and
these are never part of a composed text: every character of a composed text stands as it is
(`standing_of_mem_composed`). Letters are starters, and only Hangul letters join the character in
front of them.
-/

set_option autoImplicit false

namespace BooleanRetrieval.Text

/-! ## The tables -/

/-- Whether no mark comes directly behind a mark of a higher combining class. -/
noncomputable def inClassOrder : List Nat → Bool
  | [] => true
  | m :: ns =>
    (match ns with
      | [] => true
      | n :: _ => Nat.beq (classOfCode n) 0 || Nat.ble (classOfCode m) (classOfCode n))
      && inClassOrder ns

/-- Whether the listed decomposition of a code point, if it has one, is joined to it again. -/
noncomputable def isRejoined (n : Nat) : Bool :=
  match decompositionTree.search n with
  | none => true
  | some [] => false
  | some (first :: rest) =>
    Nat.beq (classOfCode first) 0 && inClassOrder (first :: rest)
      && (match rest.foldlM pairOfCodes? first with
        | some m => Nat.beq m n
        | none => false)

/-- No row is of a Hangul syllable, no part of a row decomposes, and the row of a letter begins with a
letter that joins nothing in front of it. -/
theorem decompositionRows_tables :
    ∀ row ∈ decompositionRows, isHangulSyllable row.1 = false ∧
      (∀ n ∈ row.2,
        n.isValidChar ∧ isHangulSyllable n = false ∧ (decompositionTree.search n).isNone = true) ∧
      (isLetterCode row.1 = true →
        ∃ first ∈ row.2.head?, isLetterCode first = true ∧ isHangulSecond first = false) := by
  decide +kernel

/-- No listed pair ends with a letter, and every composite is joined from its decomposition. -/
theorem compositionRows_tables :
    ∀ row ∈ compositionRows, isHangulFirst row.1 = false ∧
      ∀ pair ∈ row.2, isLetterCode pair.1 = false ∧ pair.2.isValidChar ∧ isRejoined pair.2 = true := by
  decide +kernel

/-- No mark is a letter; the conjoining letters of Hangul are letters, and they do not decompose. -/
theorem letters_tables :
    (∀ row ∈ combiningRows, ∀ i < row.2.1 - row.1 + 1, isLetterCode (row.1 + i) = false) ∧
      ∀ i < 0x100, isLetterCode (0x1100 + i) = true ∧
        (decompositionTree.search (0x1100 + i)).isNone = true := by
  decide +kernel

/-! ## Decomposition -/

/-- A character that does not decompose. -/
structure Undecomposed (c : Char) : Prop where
  isHangulSyllable_eq : isHangulSyllable c.toNat = false
  search_eq : decompositionTree.search c.toNat = none

/-- An undecomposed character has itself as its only part. -/
theorem Undecomposed.decompose_eq {c : Char} (h : Undecomposed c) : decompose c = [c] := by
  rw [Text.decompose_eq h.isHangulSyllable_eq, partsOfCode, h.search_eq, Option.getD_none,
    List.map_singleton, Char.ofNat_toNat]

/-- The Hangul letters that are joined to syllables are letters and have no parts. -/
theorem undecomposed_of_conjoining {n : Nat} (hfirst : 0x1100 ≤ n) (hlast : n < 0x1200) :
    Undecomposed (Char.ofNat n) ∧ isLetter (Char.ofNat n) = true := by
  have hself : (Char.ofNat n).toNat = n := toNat_ofNat (Or.inl (by omega))
  obtain ⟨hletter, hsearch⟩ := letters_tables.2 (n - 0x1100) (by omega)
  rw [Nat.add_sub_cancel' hfirst] at hletter hsearch
  refine ⟨⟨?_, ?_⟩, ?_⟩
  · rw [hself, isHangulSyllable, hangulBase]
    simp only [Bool.and_eq_false_iff, decide_eq_false_iff_not]
    omega
  · rw [hself]
    exact Option.isNone_iff_eq_none.mp hsearch
  · rw [isLetter_eq, hself, hletter]

namespace SyllablePlaces

variable {lead vowel trail : Nat}

/-- The letters of a syllable are valid, have no parts and are letters. -/
theorem letters (h : SyllablePlaces lead vowel trail) :
    ∀ n ∈ [hangulLeadBase + lead, hangulVowelBase + vowel, hangulTrailBase + trail],
      (Char.ofNat n).toNat = n ∧ Undecomposed (Char.ofNat n) ∧ isLetter (Char.ofNat n) = true := by
  intro n hn
  obtain ⟨hfirst, hlast⟩ := h.conjoining n hn
  exact ⟨toNat_ofNat (Or.inl (by omega)), undecomposed_of_conjoining hfirst hlast⟩

/-- A syllable is decomposed to its lead, its vowel and, if it has one, its trail. -/
theorem decompose_eq (h : SyllablePlaces lead vowel trail) :
    decompose (Char.ofNat (syllableCode lead vowel trail)) =
      Char.ofNat (hangulLeadBase + lead) :: Char.ofNat (hangulVowelBase + vowel) ::
        (if trail = 0 then [] else [Char.ofNat (hangulTrailBase + trail)]) := by
  unfold decompose
  rw [toNat_ofNat h.isValidChar, if_pos h.isHangulSyllable, h.hangulParts_eq]
  split <;> rfl

/-- All of these parts are undecomposed letters. -/
theorem of_mem_decompose (h : SyllablePlaces lead vowel trail) {x : Char}
    (hx : x ∈ decompose (Char.ofNat (syllableCode lead vowel trail))) :
    Undecomposed x ∧ isLetter x = true := by
  have hmem : x ∈ [hangulLeadBase + lead, hangulVowelBase + vowel, hangulTrailBase + trail].map
      Char.ofNat := by
    rw [h.decompose_eq] at hx
    split at hx
    · exact List.mem_of_mem_take (show x ∈ List.take 2 _ from hx)
    · exact hx
  obtain ⟨n, hn, rfl⟩ := List.mem_map.mp hmem
  exact (h.letters n hn).2

end SyllablePlaces

/-- A syllable decomposes as the pair that it is made of. -/
theorem decompose_of_composeHangul? {x y : Char} {n : Nat}
    (h : composeHangul? x.toNat y.toNat = some n) :
    decompose (Char.ofNat n) = decompose x ++ decompose y := by
  have hx : Char.ofNat x.toNat = x := Char.ofNat_toNat x
  have hy : Char.ofNat y.toNat = y := Char.ofNat_toNat y
  generalize x.toNat = m at h hx
  generalize y.toNat = k at h hy
  subst hx hy
  cases composeHangul?_eq_some_iff.mp h with
  | @vowel lead vowel hplaces =>
    have hletters := hplaces.letters
    simp only [List.forall_mem_cons] at hletters
    obtain ⟨⟨-, hlead, -⟩, ⟨-, hvowel, -⟩, -⟩ := hletters
    rw [hplaces.decompose_eq, hlead.decompose_eq, hvowel.decompose_eq]
    rfl
  | @trail lead vowel trail hplaces hpos =>
    have hletters := hplaces.letters
    simp only [List.forall_mem_cons] at hletters
    obtain ⟨-, -, ⟨-, htrail, -⟩, -⟩ := hletters
    rw [hplaces.decompose_eq, hplaces.opened.decompose_eq, htrail.decompose_eq, if_neg hpos, if_pos rfl]
    rfl

/-- A character is one part of its decomposition, or it decomposes into parts that do not. -/
theorem undecomposed_of_mem_decompose {c x : Char} (hx : x ∈ decompose c) : Undecomposed x := by
  cases hsyllable : isHangulSyllable c.toNat with
  | true =>
    obtain ⟨lead, vowel, trail, hplaces, hcode⟩ := exists_syllableCode hsyllable
    rw [← Char.ofNat_toNat c, hcode] at hx
    exact (hplaces.of_mem_decompose hx).1
  | false =>
    rw [decompose_eq hsyllable, partsOfCode] at hx
    obtain ⟨n, hn, rfl⟩ := List.mem_map.mp hx
    cases hsearch : decompositionTree.search c.toNat with
    | none =>
      rw [hsearch, Option.getD_none, List.mem_singleton] at hn
      rw [hn, Char.ofNat_toNat]
      exact ⟨hsyllable, hsearch⟩
    | some parts =>
      rw [hsearch, Option.getD_some] at hn
      rw [← RangeTree.find?_eq_search] at hsearch
      have hrow := RangeTree.mem_of_find?_ofRows hsearch
      obtain ⟨hvalid, hnone, hundecomposed⟩ := (decompositionRows_tables _ hrow).2.1 n hn
      refine ⟨?_, ?_⟩
      · rw [toNat_ofNat hvalid, hnone]
      · rw [toNat_ofNat hvalid]
        exact Option.isNone_iff_eq_none.mp hundecomposed

/-! ## Letters -/

/-- Letters are starters. -/
theorem combiningClass_of_isLetter {c : Char} (h : isLetter c = true) : combiningClass c = 0 := by
  unfold combiningClass
  cases hfind : combiningTree.find? c.toNat with
  | none => rfl
  | some combining =>
    obtain ⟨first, last, hrow, hfirst, hlast⟩ := RangeTree.exists_row_of_find?_ofRows hfind
    have hmark := letters_tables.1 _ hrow (c.toNat - first) (by dsimp only; omega)
    rw [Nat.add_sub_cancel' hfirst, ← isLetter_eq, h] at hmark
    cases hmark

/-- Only Hangul letters join the character in front of them. -/
theorem compose?_eq_none_of_isLetter {x y : Char} (hy : isLetter y = true)
    (h : composeHangul? x.toNat y.toNat = none) : compose? x y = none := by
  cases hsome : compose? x y with
  | none => rfl
  | some z =>
    cases composite_of_compose? hsome with
    | hangul hn =>
      rw [h] at hn
      cases hn
    | listed hrow hpair =>
      obtain ⟨hletter, -⟩ := (compositionRows_tables _ hrow).2 _ hpair
      rw [← isLetter_eq, hy] at hletter
      cases hletter

/-- The decomposition of a letter begins with a letter. It begins with one that joins what is in
front of it only if the letter itself does so. -/
theorem exists_head?_decompose {c : Char} (h : isLetter c = true) :
    ∃ y, (decompose c).head? = some y ∧ isLetter y = true ∧
      (y = c ∨ isHangulSecond y.toNat = false) := by
  cases hsyllable : isHangulSyllable c.toNat with
  | true =>
    obtain ⟨lead, vowel, trail, hplaces, hcode⟩ := exists_syllableCode hsyllable
    obtain ⟨hself, -, hletter⟩ := hplaces.letters _ List.mem_cons_self
    refine ⟨Char.ofNat (hangulLeadBase + lead), ?_, hletter, Or.inr ?_⟩
    · rw [← Char.ofNat_toNat c, hcode, hplaces.decompose_eq]
      rfl
    · rw [hself, hplaces.not_isHangulSecond_lead]
  | false =>
    rw [decompose_eq hsyllable, partsOfCode]
    cases hsearch : decompositionTree.search c.toNat with
    | none => exact ⟨c, by simp [Char.ofNat_toNat], h, Or.inl rfl⟩
    | some parts =>
      rw [← RangeTree.find?_eq_search] at hsearch
      have hrow := RangeTree.mem_of_find?_ofRows hsearch
      rw [isLetter_eq] at h
      obtain ⟨n, hn, hletter, hsecond⟩ := (decompositionRows_tables _ hrow).2.2 h
      have hvalid := ((decompositionRows_tables _ hrow).2.1 n (List.mem_of_head? hn)).1
      refine ⟨Char.ofNat n, ?_, ?_, Or.inr ?_⟩
      · rw [Option.getD_some, List.head?_map, Option.mem_def.mp hn, Option.map_some]
      · rw [isLetter_eq, toNat_ofNat hvalid, hletter]
      · rw [toNat_ofNat hvalid, hsecond]

/-! ## Composing one character -/

/-- A character that is joined to the starter takes its place. -/
theorem Composing.push_joined {a b z : Char} (h : compose? a b = some z) :
    Composing.push ⟨[], some a, []⟩ b = ⟨[], some z, []⟩ := by
  have hcomposite : Composing.composite? ⟨[], some a, []⟩ b = some z := h
  rw [push, hcomposite]

/-- A starter opens an empty composition. -/
theorem Composing.empty_push {c : Char} (h : combiningClass c = 0) :
    Composing.empty.push c = ⟨[], some c, []⟩ := by
  unfold push
  exact if_pos h

/-- A single character is recomposed to itself. -/
theorem recompose_singleton (c : Char) : recompose [c] = [c] := by
  have hpush : Composing.empty.push c =
      if combiningClass c = 0 then ⟨[], some c, []⟩ else ⟨[], none, [c]⟩ := rfl
  unfold recompose
  rw [List.foldl_cons, List.foldl_nil, hpush]
  split <;> rfl

/-- Starters stay where they are in canonical order. -/
theorem canonicalOrder_of_starters {cs : List Char} (h : ∀ c ∈ cs, combiningClass c = 0) :
    canonicalOrder cs = cs := by
  induction cs with
  | nil => rfl
  | cons c cs ih =>
    obtain ⟨hc, hcs⟩ := List.forall_mem_cons.mp h
    rw [canonicalOrder_of_starter hc, ih hcs]

/-- So do code points that a table has in the order of their classes. -/
theorem canonicalOrder_of_inClassOrder {ns : List Nat} (hvalid : ∀ n ∈ ns, n.isValidChar)
    (h : inClassOrder ns = true) : canonicalOrder (ns.map Char.ofNat) = ns.map Char.ofNat := by
  induction ns with
  | nil => rfl
  | cons m ns ih =>
    obtain ⟨hm, hns⟩ := List.forall_mem_cons.mp hvalid
    unfold inClassOrder at h
    obtain ⟨hnext, hrest⟩ := Bool.and_eq_true_iff.mp h
    rw [List.map_cons, canonicalOrder_cons, ih hns hrest]
    cases ns with
    | nil => rfl
    | cons n ns =>
      have hn : n.isValidChar := hns n List.mem_cons_self
      have hclasses : ¬(0 < combiningClass (Char.ofNat n)
          && combiningClass (Char.ofNat n) < combiningClass (Char.ofNat m)) = true := by
        rw [combiningClass_eq, combiningClass_eq, toNat_ofNat hm, toNat_ofNat hn]
        dsimp only at hnext
        simp only [Bool.or_eq_true, Nat.beq_eq, Nat.ble_eq] at hnext
        simp only [Bool.and_eq_true, decide_eq_true_eq]
        omega
      rw [List.map_cons, insertMark, if_neg hclasses]

/-- Two Hangul letters that compose to a syllable do so as characters. -/
theorem compose?_of_composeHangul? {a b : Char} {n : Nat}
    (h : composeHangul? a.toNat b.toNat = some n) : compose? a b = some (Char.ofNat n) := by
  unfold compose?
  rw [h]

/-- A pair of the composition table composes as characters, to a valid one. -/
theorem compose?_of_pairOfCodes? {a b n : Nat} (ha : a.isValidChar) (hb : b.isValidChar)
    (h : pairOfCodes? a b = some n) :
    compose? (Char.ofNat a) (Char.ofNat b) = some (Char.ofNat n) ∧ n.isValidChar := by
  obtain ⟨seconds, hsearch, hlookup⟩ := Option.bind_eq_some_iff.mp h
  rw [← RangeTree.find?_eq_search] at hsearch
  obtain ⟨hfirst, hpairs⟩ := compositionRows_tables _ (RangeTree.mem_of_find?_ofRows hsearch)
  obtain ⟨before, after, hseconds, -⟩ := List.lookup_eq_some_iff.mp hlookup
  have hpair : (b, n) ∈ seconds := by
    rw [hseconds]
    exact List.mem_append_right _ List.mem_cons_self
  refine ⟨?_, (hpairs _ hpair).2.1⟩
  rw [compose?_eq (by rw [toNat_ofNat ha, hfirst]), toNat_ofNat ha, toNat_ofNat hb, h, Option.map_some]

/-- Code points that are joined one after the other end in the one starter. -/
theorem foldl_push_of_joined {first m : Nat} {rest : List Nat} (hfirst : first.isValidChar)
    (hrest : ∀ n ∈ rest, n.isValidChar) (h : rest.foldlM pairOfCodes? first = some m) :
    (rest.map Char.ofNat).foldl Composing.push ⟨[], some (Char.ofNat first), []⟩ =
      ⟨[], some (Char.ofNat m), []⟩ := by
  induction rest generalizing first with
  | nil =>
    obtain rfl := Option.some.inj h
    rfl
  | cons n rest ih =>
    obtain ⟨hn, hrest⟩ := List.forall_mem_cons.mp hrest
    rw [List.foldlM_cons] at h
    obtain ⟨k, hk, hjoined⟩ := Option.bind_eq_some_iff.mp h
    obtain ⟨hcompose, hvalid⟩ := compose?_of_pairOfCodes? hfirst hn hk
    rw [List.map_cons, List.foldl_cons, Composing.push_joined hcompose, ih hvalid hrest hjoined]

/-- A character without parts is its own composed form. -/
theorem Undecomposed.composed_eq {c : Char} (h : Undecomposed c) : composed [c] = [c] := by
  unfold composed decomposed
  rw [List.flatMap_singleton, h.decompose_eq]
  exact recompose_singleton c

/-- A listed decomposition is put together again if its marks are in order and each of them joins. -/
theorem composed_of_isRejoined {c : Char} (hsyllable : isHangulSyllable c.toNat = false)
    (h : isRejoined c.toNat = true) : composed [c] = [c] := by
  unfold isRejoined at h
  split at h
  · next hsearch => exact Undecomposed.composed_eq ⟨hsyllable, hsearch⟩
  · cases h
  · next first rest hsearch =>
    obtain ⟨hordered, hjoined⟩ := Bool.and_eq_true_iff.mp h
    obtain ⟨hstarter, hordered⟩ := Bool.and_eq_true_iff.mp hordered
    have hvalid : ∀ n ∈ first :: rest, n.isValidChar := fun n hn =>
      ((decompositionRows_tables _
        (RangeTree.mem_of_find?_ofRows (RangeTree.find?_eq_search _ _ ▸ hsearch))).2.1 n hn).1
    obtain ⟨hfirst, hrest⟩ := List.forall_mem_cons.mp hvalid
    have hclass : combiningClass (Char.ofNat first) = 0 := by
      rw [combiningClass_eq, toNat_ofNat hfirst]
      exact Nat.beq_eq.mp hstarter
    have hparts : decompose c = (first :: rest).map Char.ofNat := by
      rw [decompose_eq hsyllable, partsOfCode, hsearch, Option.getD_some]
    split at hjoined
    · next m hm =>
      have hself : Char.ofNat m = c := by rw [Nat.beq_eq.mp hjoined, Char.ofNat_toNat]
      unfold composed decomposed recompose
      rw [List.flatMap_singleton, hparts, canonicalOrder_of_inClassOrder hvalid hordered, List.map_cons,
        List.foldl_cons, Composing.empty_push hclass, foldl_push_of_joined hfirst hrest hm, hself]
      rfl
    · cases hjoined

/-- A Hangul syllable is put together again from its consonants and its vowel. -/
theorem composed_of_isHangulSyllable {c : Char} (h : isHangulSyllable c.toNat = true) :
    composed [c] = [c] := by
  obtain ⟨lead, vowel, trail, hplaces, hcode⟩ := exists_syllableCode h
  have hletters := hplaces.letters
  simp only [List.forall_mem_cons] at hletters
  obtain ⟨⟨hleadCode, -, hlead⟩, ⟨hvowelCode, -, hvowel⟩, ⟨htrailCode, -, htrail⟩, -⟩ := hletters
  have hopened : compose? (Char.ofNat (hangulLeadBase + lead)) (Char.ofNat (hangulVowelBase + vowel)) =
      some (Char.ofNat (syllableCode lead vowel 0)) := by
    apply compose?_of_composeHangul?
    rw [hleadCode, hvowelCode]
    exact composeHangul?_eq_some_iff.mpr (.vowel hplaces.opened)
  have hstarters : ∀ x ∈ decompose c, combiningClass x = 0 := fun x hx => by
    rw [← Char.ofNat_toNat c, hcode] at hx
    exact combiningClass_of_isLetter (hplaces.of_mem_decompose hx).2
  unfold composed decomposed recompose
  rw [List.flatMap_singleton, canonicalOrder_of_starters hstarters, ← Char.ofNat_toNat c, hcode,
    hplaces.decompose_eq, List.foldl_cons, Composing.empty_push (combiningClass_of_isLetter hlead),
    List.foldl_cons, Composing.push_joined hopened]
  by_cases hpos : trail = 0
  · rw [if_pos hpos, hpos]
    rfl
  · have hclosed : compose? (Char.ofNat (syllableCode lead vowel 0))
        (Char.ofNat (hangulTrailBase + trail)) = some (Char.ofNat (syllableCode lead vowel trail)) := by
      apply compose?_of_composeHangul?
      rw [toNat_ofNat hplaces.opened.isValidChar, htrailCode]
      exact composeHangul?_eq_some_iff.mpr (.trail hplaces hpos)
    rw [if_neg hpos, List.foldl_cons, Composing.push_joined hclosed]
    rfl

/-! ## Composed texts -/

/-- A character that composing takes apart and puts together again. -/
def Standing (c : Char) : Prop :=
  isRejoined c.toNat = true

/-- And so is a character that stands, whether it has parts or not. -/
theorem Standing.composed_eq {c : Char} (h : Standing c) : composed [c] = [c] := by
  cases hsyllable : isHangulSyllable c.toNat with
  | true => exact composed_of_isHangulSyllable hsyllable
  | false => exact composed_of_isRejoined hsyllable h

/-- A character outside the table of decompositions stands, even if it is a Hangul syllable. -/
theorem standing_of_search_eq_none {c : Char} (h : decompositionTree.search c.toNat = none) :
    Standing c := by
  unfold Standing isRejoined
  rw [h]

/-- Hangul syllables stand: their letters are joined again. -/
theorem standing_of_isHangulSyllable {c : Char} (h : isHangulSyllable c.toNat = true) :
    Standing c := by
  apply standing_of_search_eq_none
  rw [← RangeTree.find?_eq_search]
  cases hfind : decompositionTree.find? c.toNat with
  | none => rfl
  | some parts =>
    have hother := (decompositionRows_tables _ (RangeTree.mem_of_find?_ofRows hfind)).1
    rw [h] at hother
    cases hother

/-- What two characters compose to stands. -/
theorem standing_of_compose? {a b z : Char} (h : compose? a b = some z) : Standing z := by
  cases composite_of_compose? h with
  | hangul hn =>
    obtain ⟨hsyllable, hvalid⟩ := syllable_of_composeHangul? hn
    exact standing_of_isHangulSyllable (by rw [toNat_ofNat hvalid, hsyllable])
  | listed hrow hpair =>
    obtain ⟨-, hvalid, hrejoined⟩ := (compositionRows_tables _ hrow).2 _ hpair
    unfold Standing
    rw [toNat_ofNat hvalid, hrejoined]

/-- A character of a state after a step was there before, or is the one read, or a composite. -/
theorem Composing.mem_flush_push {s : Composing} {c x : Char} (hx : x ∈ (s.push c).flush) :
    x ∈ s.flush ∨ x = c ∨ ∃ a, compose? a c = some x := by
  unfold push at hx
  split at hx
  · next z hz =>
    unfold composite? at hz
    split at hz
    · cases hz
    · obtain ⟨a, -, hcompose⟩ := Option.bind_eq_some_iff.mp hz
      simp only [flush, List.mem_append, Option.mem_toList, Option.some.injEq] at hx ⊢
      rcases hx with hx | rfl | hx
      · exact .inl (.inl hx)
      · exact .inr (.inr ⟨a, hcompose⟩)
      · exact .inl (.inr (.inr hx))
  · split at hx
    · simp only [flush, List.nil_append, Option.toList_some, List.singleton_append, List.mem_cons] at hx
      rcases hx with rfl | hx
      · exact .inr (.inl rfl)
      · exact .inl hx
    · rcases List.mem_cons.mp hx with rfl | hx
      · exact .inr (.inl rfl)
      · exact .inl hx

/-- Reading characters that stand makes no others. -/
theorem Composing.standing_foldl {cs : List Char} (hcs : ∀ c ∈ cs, Standing c) {s : Composing}
    (hs : ∀ x ∈ s.flush, Standing x) : ∀ x ∈ (cs.foldl push s).flush, Standing x := by
  induction cs generalizing s with
  | nil => exact hs
  | cons c cs ih =>
    obtain ⟨hc, hcs⟩ := List.forall_mem_cons.mp hcs
    refine ih hcs fun x hx => ?_
    rcases mem_flush_push hx with hx | rfl | ⟨a, hcompose⟩
    · exact hs x hx
    · exact hc
    · exact standing_of_compose? hcompose

/-- Every character of a composed text stands. -/
theorem standing_of_mem_composed {cs : List Char} {c : Char} (h : c ∈ composed cs) : Standing c := by
  have hdecomposed : ∀ x ∈ decomposed cs, Standing x := fun x hx => by
    obtain ⟨d, -, hpart⟩ := mem_decomposed.mp hx
    exact standing_of_search_eq_none (undecomposed_of_mem_decompose hpart).search_eq
  exact Composing.standing_foldl hdecomposed (fun x hx => absurd hx List.not_mem_nil) c
    (List.mem_reverse.mp h)

end BooleanRetrieval.Text
