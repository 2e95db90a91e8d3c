import BooleanRetrieval.Text.Composed

/-!
# Composing piece by piece

The composed form of a text can be taken piece by piece if nothing happens across the cuts. A piece may
begin anew with a starter that does not join the character in front of it (`composed_append`); and a
separator, a starter that forms no composite at all, cuts a text wherever it stands
(`composed_append_separator`).
-/

set_option autoImplicit false

namespace BooleanRetrieval.Text

/-! ## Canonical order -/

/-- A text that does not begin with a mark. -/
def BeginsAnew (cs : List Char) : Prop :=
  ∀ c ∈ cs.head?, combiningClass c = 0

/-- A mark does not move beyond a starter. -/
theorem insertMark_append (c : Char) (xs : List Char) {ys : List Char} (h : BeginsAnew ys) :
    insertMark c (xs ++ ys) = insertMark c xs ++ ys := by
  induction xs with
  | nil =>
    cases ys with
    | nil => rfl
    | cons y ys =>
      have hy : combiningClass y = 0 := h y rfl
      change insertMark c (y :: ys) = c :: y :: ys
      rw [insertMark, hy, if_neg]
      simp
  | cons x xs ih =>
    rw [List.cons_append, insertMark, insertMark]
    split
    · rw [ih, List.cons_append]
    · rfl

/-- A starter stays where it is. -/
theorem insertMark_of_starter {c : Char} (hc : combiningClass c = 0) (cs : List Char) :
    insertMark c cs = c :: cs := by
  cases cs with
  | nil => rfl
  | cons d cs =>
    rw [insertMark, hc, if_neg]
    simp

/-- The canonical order is an insertion sort from the back. -/
theorem canonicalOrder_cons (c : Char) (cs : List Char) :
    canonicalOrder (c :: cs) = insertMark c (canonicalOrder cs) :=
  rfl

/-- A starter stays in front of the order of the rest. -/
theorem canonicalOrder_of_starter {c : Char} (hc : combiningClass c = 0) (cs : List Char) :
    canonicalOrder (c :: cs) = c :: canonicalOrder cs :=
  insertMark_of_starter hc _

/-- The canonical order of a text that begins with a starter begins with it. -/
theorem BeginsAnew.canonicalOrder {cs : List Char} (h : BeginsAnew cs) :
    BeginsAnew (canonicalOrder cs) := by
  cases cs with
  | nil => exact h
  | cons c cs =>
    rw [canonicalOrder_of_starter (h c rfl)]
    exact h

/-- No mark moves over the beginning of a text that begins anew. -/
theorem canonicalOrder_append (xs : List Char) {ys : List Char} (h : BeginsAnew ys) :
    canonicalOrder (xs ++ ys) = canonicalOrder xs ++ canonicalOrder ys := by
  induction xs with
  | nil => rfl
  | cons x xs ih =>
    rw [List.cons_append, canonicalOrder_cons, ih, insertMark_append x _ h.canonicalOrder,
      canonicalOrder_cons]

/-- Inserting a mark loses no character. -/
theorem insertMark_perm (c : Char) (cs : List Char) : (insertMark c cs).Perm (c :: cs) := by
  induction cs with
  | nil => exact .refl _
  | cons d cs ih =>
    rw [insertMark]
    split
    · exact (ih.cons d).trans (.swap c d cs)
    · exact .refl _

/-- Ordering neither makes nor loses a character. -/
theorem canonicalOrder_perm (cs : List Char) : (canonicalOrder cs).Perm cs := by
  induction cs with
  | nil => exact .refl _
  | cons c cs ih => exact (insertMark_perm c _).trans (ih.cons c)

/-- The characters of a decomposed text are the parts of those of the text. -/
theorem mem_decomposed {cs : List Char} {c : Char} :
    c ∈ decomposed cs ↔ ∃ d ∈ cs, c ∈ decompose d := by
  unfold decomposed
  rw [(canonicalOrder_perm _).mem_iff, List.mem_flatMap]

/-- A text is decomposed in two pieces if the second begins anew. -/
theorem decomposed_append (xs : List Char) {ys : List Char}
    (h : BeginsAnew (ys.flatMap decompose)) :
    decomposed (xs ++ ys) = decomposed xs ++ decomposed ys := by
  unfold decomposed
  rw [List.flatMap_append, canonicalOrder_append _ h]

/-! ## Composing -/

namespace Composing

/-- The state with more finished characters below. -/
def above (s : Composing) (below : List Char) : Composing :=
  { s with finished := s.finished ++ below }

/-- What is finished below a composition comes last. -/
theorem flush_above (s : Composing) (below : List Char) : (s.above below).flush = s.flush ++ below := by
  simp [flush, above]

/-- What is finished has no effect on what is read. -/
theorem push_above (s : Composing) (below : List Char) (c : Char) :
    (s.above below).push c = (s.push c).above below := by
  have hcomposite : (s.above below).composite? c = s.composite? c := rfl
  unfold push
  rw [hcomposite, flush_above]
  cases s.composite? c with
  | some composite => rfl
  | none =>
    dsimp only
    split <;> rfl

/-- And reading goes on above it as if it were not there. -/
theorem foldl_push_above (s : Composing) (below cs : List Char) :
    cs.foldl push (s.above below) = (cs.foldl push s).above below := by
  induction cs generalizing s with
  | nil => rfl
  | cons c cs ih => rw [List.foldl_cons, push_above, ih, List.foldl_cons]

/-- A starter that joins nothing finishes what is in front of it. -/
theorem push_of_starter {s : Composing} {c : Char} (hc : combiningClass c = 0)
    (hjoin : s.composite? c = none) : s.push c = (empty.push c).above s.flush := by
  have hempty : empty.composite? c = none := rfl
  unfold push
  rw [hjoin, hempty]
  dsimp only
  rw [if_pos hc, if_pos hc]
  rfl

end Composing

open Composing

/-- Reading may begin anew at a starter that joins nothing. -/
theorem recompose_append (xs : List Char) {y : Char} (ys : List Char) (hy : combiningClass y = 0)
    (hjoin : (xs.foldl push .empty).composite? y = none) :
    recompose (xs ++ y :: ys) = recompose xs ++ recompose (y :: ys) := by
  unfold recompose
  rw [List.foldl_append, List.foldl_cons, push_of_starter hy hjoin, foldl_push_above, flush_above,
    List.reverse_append, List.foldl_cons]

/-- A starter joins at most the last character in front of it. -/
theorem exists_getLast?_of_composite? {xs : List Char} {y z : Char} (hy : combiningClass y = 0)
    (h : (xs.foldl push .empty).composite? y = some z) :
    ∃ x ∈ (recompose xs).getLast?, compose? x y = some z := by
  unfold recompose
  generalize xs.foldl push .empty = s at h
  obtain ⟨finished, starter, marks⟩ := s
  unfold composite? blocks at h
  cases marks with
  | cons mark marks =>
    dsimp only at h
    rw [hy, if_pos (by simp)] at h
    cases h
  | nil =>
    dsimp only at h
    rw [if_neg Bool.false_ne_true] at h
    obtain ⟨x, rfl, hx⟩ := Option.bind_eq_some_iff.mp h
    exact ⟨x, by simp [flush], hx⟩

/-- The composed form of two texts in a row, when the second one begins with a starter that does not
join the end of the first. -/
theorem composed_append (xs : List Char) {ys : List Char} {y : Char}
    (hy : (ys.flatMap decompose).head? = some y) (hclass : combiningClass y = 0)
    (hjoin : ∀ x ∈ (composed xs).getLast?, compose? x y = none) :
    composed (xs ++ ys) = composed xs ++ composed ys := by
  obtain ⟨rest, hrest⟩ := List.head?_eq_some_iff.mp hy
  have hanew : BeginsAnew (ys.flatMap decompose) := by
    rw [hrest]
    rintro c ⟨⟩
    exact hclass
  have hys : decomposed ys = y :: canonicalOrder rest := by
    unfold decomposed
    rw [hrest, canonicalOrder_of_starter hclass]
  have hnone : ((decomposed xs).foldl push .empty).composite? y = none := by
    cases hsome : ((decomposed xs).foldl push .empty).composite? y with
    | none => rfl
    | some z =>
      obtain ⟨x, hx, hz⟩ := exists_getLast?_of_composite? hclass hsome
      rw [hjoin x hx] at hz
      cases hz
  unfold composed
  rw [decomposed_append xs hanew, hys, recompose_append _ _ hclass hnone]

/-! ## Composites -/

/-- Whether a code point begins the composites of some Hangul syllables: a leading consonant, or a
syllable without trailing consonant. -/
def isHangulFirst (n : Nat) : Bool :=
  (hangulLeadBase ≤ n && n < hangulLeadBase + hangulLeads)
    || (isHangulSyllable n && (n - hangulBase) % hangulTrails = 0)

/-- Whether a code point ends the composites of some Hangul syllables: a vowel or a trailing
consonant. -/
def isHangulSecond (n : Nat) : Bool :=
  (hangulVowelBase ≤ n && n < hangulVowelBase + hangulVowels)
    || (hangulTrailBase < n && n < hangulTrailBase + hangulTrails)

/-- Only Hangul letters, and syllables without a trail, are joined by the rule for Hangul. -/
theorem isHangul_of_composeHangul? {m n k : Nat} (h : composeHangul? m n = some k) :
    isHangulFirst m = true ∧ isHangulSecond n = true := by
  unfold composeHangul? at h
  unfold isHangulFirst isHangulSecond
  split at h
  · next hlead =>
    split at h
    · next hvowel =>
      rw [hlead, hvowel]
      exact ⟨rfl, rfl⟩
    · cases h
  · split at h
    · next hsyllable =>
      split at h
      · next htrail =>
        obtain ⟨hsyllable, hbare⟩ := Bool.and_eq_true_iff.mp hsyllable
        rw [hsyllable, htrail, Bool.true_and]
        exact ⟨Bool.or_eq_true_iff.mpr (.inr hbare), Bool.or_eq_true_iff.mpr (.inr rfl)⟩
      · cases h
    · cases h

/-- The ways in which two characters form a composite. -/
inductive Composite (a b : Char) : Char → Prop where
  | hangul {n : Nat} (h : composeHangul? a.toNat b.toNat = some n) : Composite a b (Char.ofNat n)
  | listed {seconds : List (Nat × Nat)} {n : Nat} (hrow : (a.toNat, seconds) ∈ compositionRows)
      (hpair : (b.toNat, n) ∈ seconds) : Composite a b (Char.ofNat n)

/-- Every composition comes from a row of the table or from Hangul letters. -/
theorem composite_of_compose? {a b c : Char} (h : compose? a b = some c) : Composite a b c := by
  unfold compose? at h
  split at h
  · next n hn =>
    obtain rfl := Option.some.inj h
    exact .hangul hn
  · obtain ⟨n, hn, rfl⟩ := Option.map_eq_some_iff.mp h
    obtain ⟨seconds, hfind, hlookup⟩ := Option.bind_eq_some_iff.mp hn
    obtain ⟨before, after, hseconds, -⟩ := List.lookup_eq_some_iff.mp hlookup
    refine .listed (RangeTree.mem_of_find?_ofRows hfind) ?_
    rw [hseconds]
    exact List.mem_append_right _ List.mem_cons_self

/-! ## Separators -/

/-- A starter that neither decomposes nor is part of a composite. -/
structure Separator (b : Char) : Prop where
  decompose_eq : decompose b = [b]
  class_eq : combiningClass b = 0
  first (c : Char) : compose? b c = none
  second (c : Char) : compose? c b = none

namespace Composing

/-- A state and the state of the same reading behind a separator. -/
inductive Behind (b : Char) : Composing → Composing → Prop where
  /-- There were marks only. -/
  | marks (marks : List Char) : Behind b ⟨[], none, marks⟩ ⟨[], some b, marks⟩
  /-- A starter has closed what is in front of it. -/
  | closed (s : Composing) : Behind b s (s.above [b])

/-- A separator behind a composition stays behind it when a character is read. -/
theorem Behind.push {b : Char} (hb : Separator b) {s s' : Composing} (h : Behind b s s') (c : Char) :
    Behind b (s.push c) (s'.push c) := by
  cases h with
  | closed s =>
    rw [push_above]
    exact .closed _
  | marks marks =>
    have hnone : Composing.composite? ⟨[], none, marks⟩ c = none := by
      unfold composite?
      split <;> rfl
    have hnone' : Composing.composite? ⟨[], some b, marks⟩ c = none := by
      unfold composite?
      split
      · rfl
      · exact hb.first c
    unfold Composing.push
    rw [hnone, hnone']
    dsimp only
    split
    · have hflush : Composing.flush ⟨[], some b, marks⟩ = Composing.flush ⟨[], none, marks⟩ ++ [b] := by
        simp [flush]
      rw [hflush]
      exact .closed ⟨_, some c, []⟩
    · exact .marks (c :: marks)

/-- And it does so for a whole text. -/
theorem Behind.foldl {b : Char} (hb : Separator b) {s s' : Composing} (h : Behind b s s')
    (cs : List Char) : Behind b (cs.foldl Composing.push s) (cs.foldl Composing.push s') := by
  induction cs generalizing s s' with
  | nil => exact h
  | cons c cs ih => exact ih (h.push hb c)

/-- In the end the separator is the last character. -/
theorem Behind.flush {b : Char} {s s' : Composing} (h : Behind b s s') :
    s'.flush = s.flush ++ [b] := by
  cases h with
  | marks marks => simp [Composing.flush]
  | closed s => exact flush_above s [b]

end Composing

/-- A separator in front of a text stays in front of it when the text is recomposed. -/
theorem recompose_cons_separator {b : Char} (hb : Separator b) (cs : List Char) :
    recompose (b :: cs) = b :: recompose cs := by
  have hfirst : Composing.empty.push b = ⟨[], some b, []⟩ := by
    unfold Composing.push
    exact if_pos hb.class_eq
  have hbehind := (Behind.marks (b := b) []).foldl hb cs
  unfold recompose
  rw [List.foldl_cons, hfirst, hbehind.flush, List.reverse_append]
  rfl

/-- Nothing is composed over a separator. -/
theorem composed_append_separator {b : Char} (hb : Separator b) (xs ys : List Char) :
    composed (xs ++ b :: ys) = composed xs ++ b :: composed ys := by
  have hhead : ((b :: ys).flatMap decompose).head? = some b := by
    rw [List.flatMap_cons, hb.decompose_eq]
    rfl
  have hys : composed (b :: ys) = b :: composed ys := by
    unfold composed decomposed
    rw [List.flatMap_cons, hb.decompose_eq, List.singleton_append,
      canonicalOrder_of_starter hb.class_eq, recompose_cons_separator hb]
  rw [composed_append xs hhead hb.class_eq fun x _ => hb.second x, hys]

end BooleanRetrieval.Text
