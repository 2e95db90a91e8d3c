import BooleanRetrieval.Proofs.Text.ComposedLetters
import Mathlib.Data.List.Chain
import Mathlib.Data.List.Induction

/-!
# Composed texts

Composing a text loses nothing: the composed form decomposes to what the text decomposes to
(`decomposed_recompose`). The proof goes through the text from left to right. Behind each beginning of it,
the starter, the pending marks and what is finished decompose to this beginning (`Composing.Reads`): a
character that is joined to the starter only moves over marks of lower classes, which the canonical order
moves back. So a composed text is its own composed form (`composed_composed`).

A composed text is cut into composed parts in front of a starter (`composed_cut`), and it stays composed
when its first character is taken away (`composed_tail`). The second holds even where marks are left without
their starter: marks that stand in a composed text do not decompose (`Standing.undecomposed`), and there is
nothing in front of them to be joined to.
-/

set_option autoImplicit false

namespace BooleanRetrieval.Text

/-! ## Texts in canonical order -/

/-- The second of two neighbours is no mark of a lower combining class. -/
def InOrder (a b : Char) : Prop :=
  combiningClass b = 0 ∨ combiningClass a ≤ combiningClass b

/-- A starter may stand in front of anything. -/
theorem InOrder.of_starter {a b : Char} (h : combiningClass a = 0) : InOrder a b :=
  .inr (h.trans_le (Nat.zero_le _))

/-- Inserting a mark brings nothing to the front but the mark. -/
theorem head?_insertMark {c x : Char} {cs : List Char} (h : x ∈ (insertMark c cs).head?) :
    x = c ∨ x ∈ cs.head? := by
  cases cs with
  | nil => exact .inl (Option.some.inj h).symm
  | cons d cs =>
    rw [insertMark] at h
    split at h
    · exact .inr h
    · exact .inl (Option.some.inj h).symm

/-- Inserting a mark keeps a text in order. -/
theorem isChain_insertMark (c : Char) {cs : List Char} (h : cs.IsChain InOrder) :
    (insertMark c cs).IsChain InOrder := by
  induction cs with
  | nil => exact List.isChain_singleton c
  | cons d cs ih =>
    obtain ⟨hd, hcs⟩ := List.isChain_cons.mp h
    rw [insertMark]
    split
    · next hlower =>
      simp only [Bool.and_eq_true, decide_eq_true_eq] at hlower
      refine List.isChain_cons.mpr ⟨fun x hx => ?_, ih hcs⟩
      rcases head?_insertMark hx with rfl | hx
      · exact .inr hlower.2.le
      · exact hd x hx
    · next hlower =>
      simp only [Bool.and_eq_true, decide_eq_true_eq] at hlower
      refine List.isChain_cons_cons.mpr ⟨?_, h⟩
      unfold InOrder
      omega

/-- The canonical order of a text is in order. -/
theorem isChain_canonicalOrder (cs : List Char) : (canonicalOrder cs).IsChain InOrder := by
  induction cs with
  | nil => exact .nil
  | cons c cs ih => exact isChain_insertMark c ih

/-- And a text in order is its own canonical order. -/
theorem canonicalOrder_of_isChain {cs : List Char} (h : cs.IsChain InOrder) :
    canonicalOrder cs = cs := by
  induction cs with
  | nil => rfl
  | cons c cs ih =>
    obtain ⟨hc, hcs⟩ := List.isChain_cons.mp h
    rw [canonicalOrder_cons, ih hcs]
    cases cs with
    | nil => rfl
    | cons d cs =>
      have horder : InOrder c d := hc d rfl
      unfold InOrder at horder
      rw [insertMark, if_neg]
      simp only [Bool.and_eq_true, decide_eq_true_eq]
      omega

/-- Two marks of different classes can be put in front of a text in any order. -/
theorem insertMark_comm {c d : Char} (hpos : 0 < combiningClass d)
    (hlt : combiningClass d < combiningClass c) (cs : List Char) :
    insertMark d (insertMark c cs) = insertMark c (insertMark d cs) := by
  have hcd : insertMark c [d] = [d, c] := by simp [insertMark, hpos, hlt]
  have hfront (rest : List Char) : insertMark d (c :: rest) = d :: c :: rest := by
    rw [insertMark, if_neg]
    simp only [Bool.and_eq_true, decide_eq_true_eq]
    omega
  have hbehind (rest : List Char) : insertMark c (d :: rest) = d :: insertMark c rest := by
    rw [insertMark, if_pos (by simp [hpos, hlt])]
  -- every mark that `d` goes behind is one that `c` goes behind
  induction cs with
  | nil => exact (hfront []).trans hcd.symm
  | cons e cs ih =>
    rw [insertMark, insertMark.eq_2 d]
    by_cases hed : (0 < combiningClass e && combiningClass e < combiningClass d) = true
    · have hec : (0 < combiningClass e && combiningClass e < combiningClass c) = true := by
        simp only [Bool.and_eq_true, decide_eq_true_eq] at hed ⊢
        omega
      rw [if_pos hed, if_pos hec, insertMark, if_pos hed, insertMark, if_pos hec, ih]
    · rw [if_neg hed, hbehind]
      by_cases hec : (0 < combiningClass e && combiningClass e < combiningClass c) = true
      · rw [if_pos hec, insertMark, if_neg hed, insertMark, if_pos hec]
      · rw [if_neg hec, hfront, insertMark, if_neg hec]

/-- A mark that is inserted at the front is inserted into the order of a longer text. -/
theorem canonicalOrder_insertMark_append (c : Char) (xs ys : List Char) :
    canonicalOrder (insertMark c xs ++ ys) = insertMark c (canonicalOrder (xs ++ ys)) := by
  induction xs with
  | nil => rfl
  | cons d xs ih =>
    rw [insertMark]
    split
    · next hlower =>
      simp only [Bool.and_eq_true, decide_eq_true_eq] at hlower
      rw [List.cons_append, canonicalOrder_cons, ih, insertMark_comm hlower.1 hlower.2, List.cons_append,
        canonicalOrder_cons]
    · rfl

/-- It does not matter whether the first part of a text has been put in order already. -/
theorem canonicalOrder_canonicalOrder_append (xs ys : List Char) :
    canonicalOrder (canonicalOrder xs ++ ys) = canonicalOrder (xs ++ ys) := by
  induction xs with
  | nil => rfl
  | cons x xs ih =>
    rw [canonicalOrder_cons, canonicalOrder_insertMark_append, ih, List.cons_append, canonicalOrder_cons]

/-- A mark may stand in front of marks of lower classes or behind them. -/
theorem canonicalOrder_concat_mark {c : Char} {marks : List Char}
    (h : ∀ m ∈ marks, 0 < combiningClass m ∧ combiningClass m < combiningClass c) :
    canonicalOrder (marks ++ [c]) = canonicalOrder (c :: marks) := by
  induction marks with
  | nil => rfl
  | cons m marks ih =>
    obtain ⟨⟨hpos, hlt⟩, hmarks⟩ := List.forall_mem_cons.mp h
    rw [List.cons_append, canonicalOrder_cons, ih hmarks, canonicalOrder_cons, insertMark_comm hpos hlt,
      canonicalOrder_cons, canonicalOrder_cons]

/-! ## Decomposed texts -/

/-- A text of characters that do not decompose, in canonical order. -/
structure Decomposed (cs : List Char) : Prop where
  ordered : cs.IsChain InOrder
  undecomposed : ∀ c ∈ cs, Undecomposed c

/-- Undecomposed characters are their own parts. -/
theorem flatMap_decompose {cs : List Char} (h : ∀ c ∈ cs, Undecomposed c) :
    cs.flatMap decompose = cs := by
  rw [List.flatMap_congr fun c hc => (h c hc).decompose_eq]
  exact List.flatMap_singleton' cs

/-- A decomposed text is its own decomposed form. -/
theorem Decomposed.decomposed_eq {cs : List Char} (h : Decomposed cs) : decomposed cs = cs := by
  unfold decomposed
  rw [flatMap_decompose h.undecomposed, canonicalOrder_of_isChain h.ordered]

/-- The decomposed form of a text is decomposed. -/
theorem decomposed_decomposed (cs : List Char) : Decomposed (decomposed cs) := by
  refine ⟨isChain_canonicalOrder _, fun c hc => ?_⟩
  obtain ⟨d, -, hd⟩ := mem_decomposed.mp hc
  exact undecomposed_of_mem_decompose hd

/-- A text that goes on has its decomposed form put in order with what comes behind it. -/
theorem decomposed_append_eq (xs ys : List Char) :
    decomposed (xs ++ ys) = canonicalOrder (decomposed xs ++ ys.flatMap decompose) := by
  unfold decomposed
  rw [canonicalOrder_canonicalOrder_append, List.flatMap_append]

/-! ## Composites -/

/-- Composites are starters that are made of starters. A listed one decomposes as its pair, of which the
second character does not decompose. -/
theorem compositionRows_parts :
    ∀ row ∈ compositionRows, isHangulSyllable row.1 = false ∧ classOfCode row.1 = 0 ∧
      ∀ pair ∈ row.2, isHangulSyllable pair.1 = false ∧
        (decompositionTree.search pair.1).isNone = true ∧ isHangulSyllable pair.2 = false ∧
        classOfCode pair.2 = 0 ∧ partsOfCode pair.2 = partsOfCode row.1 ++ [pair.1] := by
  decide +kernel

/-- No mark is a leading consonant or a syllable of Hangul. -/
theorem combiningRows_hangul :
    ∀ row ∈ combiningRows,
      row.2.1 < 0x1100 ∨ 0x1112 < row.1 ∧ row.2.1 < 0xAC00 ∨ 0xD7A3 < row.1 := by
  decide +kernel

/-- The Hangul characters that are joined to what follows them are starters. -/
theorem combiningClass_of_hangul {c : Char}
    (h : 0x1100 ≤ c.toNat ∧ c.toNat ≤ 0x1112 ∨ isHangulSyllable c.toNat = true) :
    combiningClass c = 0 := by
  rw [isHangulSyllable_iff] at h
  unfold combiningClass
  cases hfind : combiningTree.find? c.toNat with
  | none => rfl
  | some combining =>
    obtain ⟨first, last, hrow, hfirst, hlast⟩ := RangeTree.exists_row_of_find?_ofRows hfind
    have hapart := combiningRows_hangul _ hrow
    dsimp only at hapart
    omega

/-- What two characters are composed to is a starter, as the first of them is, and it decomposes as they
do. -/
structure Joined (a b z : Char) : Prop where
  first : combiningClass a = 0
  composite : combiningClass z = 0
  decompose_eq : decompose z = decompose a ++ decompose b

/-- What is joined by the rule for Hangul decomposes to what it was joined from. -/
theorem joined_of_composeHangul? {a b : Char} {n : Nat}
    (h : composeHangul? a.toNat b.toNat = some n) : Joined a b (Char.ofNat n) := by
  obtain ⟨hsyllable, hvalid⟩ := syllable_of_composeHangul? h
  refine ⟨combiningClass_of_hangul ?_, combiningClass_of_hangul (.inr ?_),
    decompose_of_composeHangul? h⟩
  · have hfirst := (isHangul_of_composeHangul? h).1
    unfold isHangulFirst hangulLeadBase hangulLeads at hfirst
    simp only [Bool.or_eq_true, Bool.and_eq_true, decide_eq_true_eq] at hfirst
    rcases hfirst with hlead | hopen
    · exact .inl (by omega)
    · exact .inr hopen.1
  · rw [toNat_ofNat hvalid, hsyllable]

/-- So does every character that is composed. -/
theorem joined_of_compose? {a b z : Char} (h : compose? a b = some z) : Joined a b z := by
  cases composite_of_compose? h with
  | hangul hn => exact joined_of_composeHangul? hn
  | @listed seconds n hrow hpair =>
    obtain ⟨ha, hclass, hpairs⟩ := compositionRows_parts _ hrow
    obtain ⟨hb, hsearch, hz, hcomposite, hparts⟩ := hpairs _ hpair
    have hvalid := ((compositionRows_tables _ hrow).2 _ hpair).2.1
    have hself := toNat_ofNat hvalid
    have hsecond : decompose b = [b] :=
      Undecomposed.decompose_eq ⟨hb, Option.isNone_iff_eq_none.mp hsearch⟩
    refine ⟨?_, ?_, ?_⟩
    · rw [combiningClass_eq, hclass]
    · rw [combiningClass_eq, hself, hcomposite]
    · rw [Text.decompose_eq (by rw [hself, hz]), hself, hparts, List.map_append, List.map_singleton,
        Char.ofNat_toNat, ← Text.decompose_eq ha, hsecond]

/-! ## Reading a decomposed text -/

namespace Composing

/-- What reading a character does to a state. -/
inductive Step (s : Composing) (c : Char) : Composing → Prop where
  /-- The character is joined to the starter. -/
  | joined {a z : Char} (hstarter : s.starter = some a)
    (hfree : s.blocks (combiningClass c) = false) (hcompose : compose? a c = some z) :
    Step s c { s with starter := some z }
  /-- The character is the next starter. -/
  | opened (hclass : combiningClass c = 0) (hnone : s.composite? c = none) :
    Step s c ⟨s.flush, some c, []⟩
  /-- The character is a mark that is not joined. -/
  | kept (hpos : 0 < combiningClass c) : Step s c { s with marks := c :: s.marks }

/-- Reading a character is one of the steps. -/
theorem step_push (s : Composing) (c : Char) : Step s c (s.push c) := by
  unfold push
  cases hcomposite : s.composite? c with
  | none =>
    dsimp only
    split
    · next hclass => exact .opened hclass hcomposite
    · next hclass => exact .kept (Nat.pos_of_ne_zero hclass)
  | some z =>
    unfold composite? at hcomposite
    split at hcomposite
    · cases hcomposite
    · next hfree =>
      obtain ⟨a, hstarter, hcompose⟩ := Option.bind_eq_some_iff.mp hcomposite
      exact .joined hstarter (Bool.eq_false_iff.mpr hfree) hcompose

/-- The characters so far in their order. -/
def text (s : Composing) : List Char :=
  s.flush.reverse

/-- The text of a composition with a starter. -/
theorem text_of_starter {s : Composing} {a : Char} (h : s.starter = some a) :
    s.text = s.finished.reverse ++ a :: s.marks.reverse := by
  unfold text flush
  rw [h]
  simp

/-- A mark that is kept comes last in the text of a composition. -/
theorem text_kept (s : Composing) (c : Char) :
    ({ s with marks := c :: s.marks } : Composing).text = s.text ++ [c] := by
  simp [text, flush]

/-- And so does a starter that is opened. -/
theorem text_opened (s : Composing) (c : Char) :
    (⟨s.flush, some c, []⟩ : Composing).text = s.text ++ [c] := by
  simp [text, flush]

/-- What is known of the state behind the beginning `read` of a decomposed text. -/
structure Reads (read : List Char) (s : Composing) : Prop where
  /-- Nothing of the text is lost. -/
  decomposed_eq : decomposed s.text = read
  ordered : s.text.IsChain InOrder
  starter : ∀ a ∈ s.starter, combiningClass a = 0
  finished : s.starter = none → s.finished = []
  marks : ∀ m ∈ s.marks, Undecomposed m ∧ 0 < combiningClass m
  sorted : s.marks.Pairwise fun m n => combiningClass n ≤ combiningClass m
  /-- The last character read is no mark of a lower class than the pending ones. -/
  last : ∀ m ∈ s.marks, ∃ c ∈ read.getLast?, combiningClass m ≤ combiningClass c

/-- Where nothing has been read, nothing is held. -/
theorem reads_empty : Reads [] empty where
  decomposed_eq := rfl
  ordered := .nil
  starter := fun _ h => nomatch h
  finished := fun _ => rfl
  marks := fun _ h => absurd h List.not_mem_nil
  sorted := .nil
  last := fun _ h => absurd h List.not_mem_nil

/-- A mark blocks another unless its class is lower. -/
theorem blocks_eq_false_iff {s : Composing} {n : Nat} :
    s.blocks n = false ↔ ∀ m ∈ s.marks.head?, combiningClass m < n := by
  unfold blocks
  cases s.marks with
  | nil => simp
  | cons m marks => simp

variable {read : List Char} {s : Composing} {c : Char}

/-- The text of a composition ends in one of its marks or in a starter. -/
theorem Reads.getLast?_text (h : Reads read s) {x : Char} (hx : x ∈ s.text.getLast?) :
    x ∈ s.marks ∨ combiningClass x = 0 := by
  unfold text at hx
  rw [List.getLast?_reverse] at hx
  unfold flush at hx
  cases hmarks : s.marks with
  | cons m marks =>
    rw [hmarks] at hx
    exact .inl (Option.some.inj hx ▸ List.mem_cons_self)
  | nil =>
    rw [hmarks] at hx
    cases hstarter : s.starter with
    | some a =>
      rw [hstarter] at hx
      exact .inr (Option.some.inj hx ▸ h.starter a hstarter)
    | none =>
      rw [hstarter, h.finished hstarter] at hx
      exact nomatch hx

/-- The pending marks that do not block a character have lower classes than it has. -/
theorem Reads.lt_of_free (h : Reads read s) (hfree : s.blocks (combiningClass c) = false) :
    ∀ m ∈ s.marks, 0 < combiningClass m ∧ combiningClass m < combiningClass c := by
  intro m hm
  refine ⟨(h.marks m hm).2, ?_⟩
  have hhead := blocks_eq_false_iff.mp hfree
  have hsorted := h.sorted
  cases hmarks : s.marks with
  | nil =>
    rw [hmarks] at hm
    exact absurd hm List.not_mem_nil
  | cons first rest =>
    rw [hmarks] at hm hhead hsorted
    have hfirst : combiningClass first < combiningClass c := hhead first rfl
    rcases List.mem_cons.mp hm with rfl | hm
    · exact hfirst
    · exact ((List.pairwise_cons.mp hsorted).1 m hm).trans_lt hfirst

/-- What is not joined stands at the end of the text. -/
theorem Reads.decomposed_concat (h : Reads read s) (hread : Decomposed (read ++ [c])) :
    decomposed (s.text ++ [c]) = read ++ [c] := by
  have hc : Undecomposed c := hread.undecomposed c (by simp)
  rw [decomposed_append_eq, h.decomposed_eq, List.flatMap_singleton, hc.decompose_eq,
    canonicalOrder_of_isChain hread.ordered]

/-- Joining a character to the starter moves it over the pending marks, which is no loss. -/
theorem Reads.decomposed_joined (h : Reads read s) (hread : Decomposed (read ++ [c])) {a z : Char}
    (hstarter : s.starter = some a) (hfree : s.blocks (combiningClass c) = false)
    (hcompose : compose? a c = some z) :
    decomposed ({ s with starter := some z } : Composing).text = read ++ [c] := by
  have hc : Undecomposed c := hread.undecomposed c (by simp)
  have hmarks : ∀ m ∈ s.marks.reverse, Undecomposed m := fun m hm => (h.marks m (by simpa using hm)).1
  have hlower : ∀ m ∈ s.marks.reverse, 0 < combiningClass m ∧ combiningClass m < combiningClass c :=
    fun m hm => h.lt_of_free hfree m (by simpa using hm)
  have hparts : (s.finished.reverse ++ z :: s.marks.reverse).flatMap decompose =
      (s.finished.reverse ++ [a]).flatMap decompose ++ c :: s.marks.reverse := by
    simp [(joined_of_compose? hcompose).decompose_eq, hc.decompose_eq, flatMap_decompose hmarks]
  have hself : (s.text ++ [c]).flatMap decompose =
      (s.finished.reverse ++ [a]).flatMap decompose ++ (s.marks.reverse ++ [c]) := by
    simp [text_of_starter hstarter, hc.decompose_eq, flatMap_decompose hmarks]
  -- the two texts differ only in the places of `c` and the pending marks
  rw [← h.decomposed_concat hread, text_of_starter rfl]
  unfold decomposed
  rw [hparts, hself]
  unfold canonicalOrder
  rw [List.foldr_append, List.foldr_append]
  congr 1
  exact (canonicalOrder_concat_mark hlower).symm

/-- Reading one more character keeps what is read and what is held together. -/
theorem Reads.push (h : Reads read s) (hread : Decomposed (read ++ [c])) :
    Reads (read ++ [c]) (s.push c) := by
  -- the text is in canonical order, so a mark has no lower class than the last character read
  have hle : 0 < combiningClass c → ∀ m ∈ s.marks, combiningClass m ≤ combiningClass c := by
    intro hpos m hm
    obtain ⟨x, hx, hmx⟩ := h.last m hm
    rcases (List.isChain_append.mp hread.ordered).2.2 x hx c rfl with hstarter | hxc
    · omega
    · exact hmx.trans hxc
  have hstep := step_push s c
  generalize s.push c = next at hstep
  cases hstep with
  | @joined a z hstarter hfree hcompose =>
    have hz : combiningClass z = 0 := (joined_of_compose? hcompose).composite
    refine ⟨h.decomposed_joined hread hstarter hfree hcompose, ?_, ?_, ?_, h.marks, h.sorted, ?_⟩
    · have hordered := h.ordered
      rw [text_of_starter hstarter, List.isChain_append, List.isChain_cons] at hordered
      rw [text_of_starter rfl, List.isChain_append, List.isChain_cons]
      refine ⟨hordered.1, ⟨fun m _ => .of_starter hz, hordered.2.1.2⟩, ?_⟩
      rintro x - _ ⟨⟩
      exact .inl hz
    · rintro _ ⟨⟩
      exact hz
    · intro hnone
      cases hnone
    · exact fun m hm => ⟨c, by simp, (h.lt_of_free hfree m hm).2.le⟩
  | opened hclass hnone =>
    refine ⟨?_, ?_, ?_, ?_, ?_, .nil, ?_⟩
    · rw [text_opened, h.decomposed_concat hread]
    · rw [text_opened, List.isChain_append]
      refine ⟨h.ordered, List.isChain_singleton c, ?_⟩
      rintro x - _ ⟨⟩
      exact .inl hclass
    · rintro _ ⟨⟩
      exact hclass
    · intro hnone
      cases hnone
    · exact fun m hm => absurd hm List.not_mem_nil
    · exact fun m hm => absurd hm List.not_mem_nil
  | kept hpos =>
    refine ⟨?_, ?_, h.starter, h.finished, ?_, ?_, ?_⟩
    · rw [text_kept, h.decomposed_concat hread]
    · rw [text_kept, List.isChain_append]
      refine ⟨h.ordered, List.isChain_singleton c, ?_⟩
      rintro x hx _ ⟨⟩
      rcases h.getLast?_text hx with hmark | hstarter
      · exact .inr (hle hpos x hmark)
      · exact .of_starter hstarter
    · exact List.forall_mem_cons.mpr ⟨⟨hread.undecomposed c (by simp), hpos⟩, h.marks⟩
    · exact List.pairwise_cons.mpr ⟨hle hpos, h.sorted⟩
    · exact List.forall_mem_cons.mpr ⟨⟨c, by simp, le_rfl⟩, fun m hm => ⟨c, by simp, hle hpos m hm⟩⟩

end Composing

open Composing

/-- The pieces of a decomposed text are decomposed. -/
theorem Decomposed.append {xs ys : List Char} (h : Decomposed (xs ++ ys)) :
    Decomposed xs ∧ Decomposed ys := by
  obtain ⟨hxs, hys, -⟩ := List.isChain_append.mp h.ordered
  exact ⟨⟨hxs, fun c hc => h.undecomposed c (List.mem_append_left _ hc)⟩,
    ⟨hys, fun c hc => h.undecomposed c (List.mem_append_right _ hc)⟩⟩

/-- A decomposed text that is read is what the composition decomposes to. -/
theorem reads_foldl {cs : List Char} (h : Decomposed cs) : Reads cs (cs.foldl push .empty) := by
  induction cs using List.reverseRecOn with
  | nil => exact reads_empty
  | append_singleton cs c ih =>
    rw [List.foldl_concat]
    exact (ih h.append.1).push h

/-- Composing again what is decomposed loses nothing of it. -/
theorem decomposed_recompose {cs : List Char} (h : Decomposed cs) : decomposed (recompose cs) = cs :=
  (reads_foldl h).decomposed_eq

/-- A composed text is its own composed form. -/
theorem composed_composed (cs : List Char) : composed (composed cs) = composed cs := by
  unfold composed
  rw [decomposed_recompose (decomposed_decomposed cs)]

/-! ## Cuts -/

namespace Composing

/-- A place at which a text can be cut: there is a starter behind the beginning `before`. -/
def CutAt (before cs : List Char) : Prop :=
  ∃ c after, cs = before ++ c :: after ∧ combiningClass c = 0

/-- A text that is one character longer can be cut where the text can, or behind it if the character is a
starter. -/
theorem cutAt_concat {before cs : List Char} {x : Char} (h : CutAt before (cs ++ [x])) :
    CutAt before cs ∨ before = cs ∧ combiningClass x = 0 := by
  obtain ⟨c, after, heq, hc⟩ := h
  rcases List.eq_nil_or_concat after with rfl | ⟨after, y, rfl⟩
  · obtain ⟨rfl, hx⟩ := List.append_inj' heq rfl
    obtain rfl := List.singleton_inj.mp hx
    exact .inr ⟨rfl, hc⟩
  · rw [List.concat_eq_append, ← List.cons_append, ← List.append_assoc] at heq
    exact .inl ⟨c, after, (List.append_inj' heq rfl).1, hc⟩

/-- A text can be cut in front of a composed starter where it could be before the starter was composed. -/
theorem cutAt_joined {before front marks : List Char} {a z : Char} (ha : combiningClass a = 0)
    (hmarks : ∀ m ∈ marks, 0 < combiningClass m) (h : CutAt before (front ++ z :: marks)) :
    CutAt before (front ++ a :: marks) := by
  obtain ⟨c, after, heq, hc⟩ := h
  -- the cut is in front of the composite at the latest, since only marks follow
  rcases List.append_eq_append_iff.mp heq with ⟨middle, rfl, hrest⟩ | ⟨middle, rfl, hrest⟩
  · cases middle with
    | nil => exact ⟨a, marks, by simp, ha⟩
    | cons y middle =>
      have hmem : c ∈ marks := by
        rw [(List.cons.inj hrest).2]
        simp
      have hpos := hmarks c hmem
      omega
  · cases middle with
    | nil => exact ⟨a, marks, by simp, ha⟩
    | cons y middle =>
      obtain ⟨rfl, -⟩ := List.cons.inj hrest
      exact ⟨c, middle ++ a :: marks, by simp, hc⟩

/-- A cut of the text behind a character was there before, or the character begins anew. -/
theorem Reads.cutAt_push {read before : List Char} {s : Composing} {x : Char} (h : Reads read s)
    (hcut : CutAt before (s.push x).text) :
    CutAt before s.text ∨ before = s.text ∧ s.push x = (empty.push x).above s.flush := by
  have hstep := step_push s x
  generalize hnext : s.push x = next at hstep hcut
  cases hstep with
  | @joined a z hstarter hfree hcompose =>
    left
    rw [text_of_starter rfl] at hcut
    rw [text_of_starter hstarter]
    exact cutAt_joined (h.starter a hstarter) (fun m hm => (h.marks m (by simpa using hm)).2) hcut
  | opened hclass hnone =>
    rw [text_opened] at hcut
    refine (cutAt_concat hcut).imp_right fun hend => ⟨hend.1, ?_⟩
    rw [← hnext]
    exact push_of_starter hclass hnone
  | kept hpos =>
    rw [text_kept] at hcut
    left
    exact (cutAt_concat hcut).resolve_right fun hend => by omega

end Composing

/-- Wherever a composed text has a starter, reading it can be cut in two: the part in front of the starter
is made of the beginning of what is read, and the part from the starter on is made of the rest. -/
theorem exists_cut {cs before : List Char} (h : Decomposed cs) (hcut : CutAt before (recompose cs)) :
    ∃ first second, cs = first ++ second ∧ recompose first = before ∧
      cs.foldl push .empty = (second.foldl push .empty).above before.reverse := by
  induction cs using List.reverseRecOn with
  | nil =>
    obtain ⟨c, after, heq, -⟩ := hcut
    exact absurd heq.symm (List.append_ne_nil_of_right_ne_nil _ (List.cons_ne_nil c after))
  | append_singleton cs x ih =>
    have hread := reads_foldl h.append.1
    have htext : (cs.foldl push .empty).text = recompose cs := rfl
    unfold recompose at hcut
    rw [List.foldl_concat] at hcut ⊢
    -- either the cut was there before the last character, or this character opens what is behind it
    rcases hread.cutAt_push hcut with hcut | ⟨rfl, hpush⟩
    · obtain ⟨first, second, rfl, hfirst, hstate⟩ := ih h.append.1 hcut
      refine ⟨first, second ++ [x], by simp, hfirst, ?_⟩
      rw [hstate, push_above, List.foldl_concat]
    · refine ⟨cs, [x], rfl, rfl, ?_⟩
      rw [hpush, text, List.reverse_reverse, List.foldl_cons, List.foldl_nil]

/-- The parts of a composed text that is cut in front of a starter are composed. -/
theorem composed_cut {before after : List Char} {c : Char} (hc : combiningClass c = 0)
    (h : composed (before ++ c :: after) = before ++ c :: after) :
    composed before = before ∧ composed (c :: after) = c :: after := by
  have hread := decomposed_decomposed (before ++ c :: after)
  obtain ⟨first, second, hcs, hfirst, hstate⟩ := exists_cut hread ⟨c, after, h, hc⟩
  have hsecond : recompose second = c :: after := by
    have htext : before ++ recompose second = before ++ c :: after := by
      rw [← h]
      unfold composed recompose
      rw [hstate, flush_above, List.reverse_append, List.reverse_reverse]
    exact List.append_cancel_left htext
  rw [hcs] at hread
  constructor
  · rw [← hfirst, composed, decomposed_recompose hread.append.1]
  · rw [← hsecond, composed, decomposed_recompose hread.append.2]

/-! ## Leading marks -/

/-- A character that has a listed decomposition and is joined from it again is a starter. -/
theorem decompositionRows_rejoined :
    ∀ row ∈ decompositionRows, (Nat.beq (classOfCode row.1) 0 || !isRejoined row.1) = true := by
  decide +kernel

/-- The marks of a composed text do not decompose. -/
theorem Standing.undecomposed {c : Char} (h : Standing c) (hpos : 0 < combiningClass c) :
    Undecomposed c := by
  constructor
  · by_contra hsyllable
    have hclass := combiningClass_of_hangul (.inr (Bool.not_eq_false _ ▸ hsyllable))
    omega
  · cases hsearch : decompositionTree.search c.toNat with
    | none => rfl
    | some parts =>
      rw [← RangeTree.find?_eq_search] at hsearch
      have hrow := decompositionRows_rejoined _ (RangeTree.mem_of_find?_ofRows hsearch)
      unfold Standing at h
      rw [h, Bool.not_true, Bool.or_false, ← combiningClass_eq, Nat.beq_eq] at hrow
      omega

/-- The decomposition of a starter of a composed text begins with a starter. -/
theorem Standing.exists_head? {c : Char} (h : Standing c) (hc : combiningClass c = 0) :
    ∃ y, (decompose c).head? = some y ∧ combiningClass y = 0 := by
  cases hsyllable : isHangulSyllable c.toNat with
  | true =>
    obtain ⟨lead, vowel, trail, hplaces, hcode⟩ := exists_syllableCode hsyllable
    obtain ⟨-, -, hletter⟩ := hplaces.letters _ List.mem_cons_self
    refine ⟨Char.ofNat (hangulLeadBase + lead), ?_, combiningClass_of_isLetter hletter⟩
    rw [← Char.ofNat_toNat c, hcode, hplaces.decompose_eq]
    rfl
  | false =>
    unfold Standing isRejoined at h
    cases hsearch : decompositionTree.search c.toNat with
    | none =>
      exact ⟨c, by rw [Undecomposed.decompose_eq ⟨hsyllable, hsearch⟩]; rfl, hc⟩
    | some parts =>
      rw [hsearch] at h
      cases parts with
      | nil => cases h
      | cons first rest =>
        have hrow := RangeTree.mem_of_find?_ofRows (RangeTree.find?_eq_search _ _ ▸ hsearch)
        have hvalid := ((decompositionRows_tables _ hrow).2.1 first List.mem_cons_self).1
        refine ⟨Char.ofNat first, ?_, ?_⟩
        · rw [decompose_eq hsyllable, partsOfCode, hsearch]
          rfl
        · rw [combiningClass_eq, toNat_ofNat hvalid]
          simp only [Bool.and_eq_true, Nat.beq_eq] at h
          exact h.1.1

/-- Marks without a starter in front of them are kept in their order. -/
theorem foldl_push_marks {marks : List Char} (h : ∀ m ∈ marks, 0 < combiningClass m)
    (pending : List Char) :
    marks.foldl push ⟨[], none, pending⟩ = ⟨[], none, marks.reverse ++ pending⟩ := by
  induction marks generalizing pending with
  | nil => rfl
  | cons m marks ih =>
    obtain ⟨hm, hmarks⟩ := List.forall_mem_cons.mp h
    have hpush : Composing.push ⟨[], none, pending⟩ m = ⟨[], none, m :: pending⟩ := by
      have hnone : composite? ⟨[], none, pending⟩ m = none := by
        unfold composite?
        split <;> rfl
      unfold Composing.push
      rw [hnone]
      dsimp only
      rw [if_neg (Nat.pos_iff_ne_zero.mp hm)]
    rw [List.foldl_cons, hpush, ih hmarks, List.reverse_cons, List.append_assoc, List.singleton_append]

/-- Marks without a starter in front of them stay as they are. -/
theorem composed_of_marks {marks : List Char} (h : Decomposed marks)
    (hpos : ∀ m ∈ marks, 0 < combiningClass m) : composed marks = marks := by
  have hread : marks.foldl push .empty = ⟨[], none, marks.reverse ++ []⟩ := foldl_push_marks hpos []
  unfold composed recompose
  rw [h.decomposed_eq, hread]
  simp [flush]

/-- The characters of a composed text are in order. -/
theorem isChain_composed (cs : List Char) : (composed cs).IsChain InOrder :=
  (reads_foldl (decomposed_decomposed cs)).ordered

/-- A text has marks first, and then it begins anew. -/
theorem exists_leading_marks (cs : List Char) :
    ∃ marks rest, cs = marks ++ rest ∧ (∀ m ∈ marks, 0 < combiningClass m) ∧ BeginsAnew rest := by
  induction cs with
  | nil => exact ⟨[], [], rfl, fun _ h => absurd h List.not_mem_nil, fun _ h => nomatch h⟩
  | cons c cs ih =>
    rcases Nat.eq_zero_or_pos (combiningClass c) with hc | hc
    · refine ⟨[], c :: cs, rfl, fun _ h => absurd h List.not_mem_nil, ?_⟩
      rintro _ ⟨⟩
      exact hc
    · obtain ⟨marks, rest, rfl, hmarks, hrest⟩ := ih
      exact ⟨c :: marks, rest, rfl, List.forall_mem_cons.mpr ⟨hc, hmarks⟩, hrest⟩

/-- A composed text stays composed when its first character is taken away, even if this is the starter of
the marks behind it. -/
theorem composed_tail {c : Char} {cs : List Char} (h : composed (c :: cs) = c :: cs) :
    composed cs = cs := by
  have hstanding : ∀ x ∈ cs, Standing x := by
    intro x hx
    have hmem : x ∈ composed (c :: cs) := by
      rw [h]
      exact List.mem_cons_of_mem c hx
    exact standing_of_mem_composed hmem
  have hordered : cs.IsChain InOrder := by
    have hchain := isChain_composed (c :: cs)
    rw [h] at hchain
    exact (List.isChain_cons.mp hchain).2
  obtain ⟨marks, rest, rfl, hpos, hanew⟩ := exists_leading_marks cs
  have hself : composed marks = marks := composed_of_marks
    ⟨(List.isChain_append.mp hordered).1,
      fun m hm => (hstanding m (List.mem_append_left _ hm)).undecomposed (hpos m hm)⟩ hpos
  cases rest with
  | nil => rwa [List.append_nil]
  | cons x rest =>
    have hx : combiningClass x = 0 := hanew x rfl
    obtain ⟨y, hy, hclass⟩ := (hstanding x (by simp)).exists_head? hx
    have hhead : ((x :: rest).flatMap decompose).head? = some y := by
      rw [List.flatMap_cons, List.head?_append, hy, Option.some_or]
    rw [← List.cons_append] at h
    have hrest : composed (x :: rest) = x :: rest := (composed_cut hx h).2
    -- the last mark begins no composite
    have hjoin : ∀ z ∈ (composed marks).getLast?, compose? z y = none := by
      intro z hz
      cases hsome : compose? z y with
      | none => rfl
      | some w =>
        rw [hself] at hz
        have hzero := (joined_of_compose? hsome).first
        have hmark := hpos z (List.mem_of_getLast? hz)
        omega
    rw [composed_append marks hhead hclass hjoin, hself, hrest]

end BooleanRetrieval.Text
