import BooleanRetrieval.Proofs.Text.Composing

/-!
# Hangul syllables

A Hangul syllable is a leading consonant, a vowel and perhaps a trailing consonant, and its code point is
computed from their places. Two code points join exactly if they are a leading consonant and a vowel, or a
syllable without trailing consonant and a trailing consonant (`composeHangul?_eq_some_iff`).
-/

set_option autoImplicit false

namespace BooleanRetrieval.Text

/-- The code point of the syllable of a leading consonant, a vowel and a trailing consonant. -/
def syllableCode (lead vowel trail : Nat) : Nat :=
  hangulBase + (lead * hangulVowels + vowel) * hangulTrails + trail

/-- The places of the consonants and the vowel of a syllable. -/
structure SyllablePlaces (lead vowel trail : Nat) : Prop where
  lead_lt : lead < 19
  vowel_lt : vowel < 21
  trail_lt : trail < 28

/-- The code of a syllable in figures. -/
theorem syllableCode_eq (lead vowel trail : Nat) :
    syllableCode lead vowel trail = 0xAC00 + (lead * 21 + vowel) * 28 + trail :=
  rfl

/-- The syllables are a range of code points. -/
theorem isHangulSyllable_iff {n : Nat} : isHangulSyllable n = true ↔ 0xAC00 ≤ n ∧ n ≤ 0xD7A3 := by
  unfold isHangulSyllable hangulBase hangulLeads hangulVowels hangulTrails
  rw [Bool.and_eq_true, decide_eq_true_eq, decide_eq_true_eq]
  omega

/-- Every syllable has places for its letters. -/
theorem exists_syllableCode {n : Nat} (h : isHangulSyllable n = true) :
    ∃ lead vowel trail, SyllablePlaces lead vowel trail ∧ n = syllableCode lead vowel trail := by
  have hbounds := isHangulSyllable_iff.mp h
  refine ⟨(n - 0xAC00) / 588, (n - 0xAC00) % 588 / 28, (n - 0xAC00) % 28, ⟨?_, ?_, ?_⟩, ?_⟩
  · omega
  · omega
  · omega
  · rw [syllableCode_eq]
    omega

namespace SyllablePlaces

variable {lead vowel trail : Nat}

/-- The code of three places is that of a syllable. -/
theorem isHangulSyllable (h : SyllablePlaces lead vowel trail) :
    isHangulSyllable (syllableCode lead vowel trail) = true := by
  obtain ⟨hlead, hvowel, htrail⟩ := h
  rw [isHangulSyllable_iff, syllableCode_eq]
  omega

/-- The code of a syllable is a valid code point. -/
theorem isValidChar (h : SyllablePlaces lead vowel trail) :
    (syllableCode lead vowel trail).isValidChar := by
  have hbounds := isHangulSyllable_iff.mp h.isHangulSyllable
  exact Or.inl (by omega)

/-- The syllable without its trailing consonant. -/
theorem opened (h : SyllablePlaces lead vowel trail) : SyllablePlaces lead vowel 0 :=
  ⟨h.lead_lt, h.vowel_lt, by omega⟩

/-- A syllable is taken apart into the letters of its places. -/
theorem hangulParts_eq (h : SyllablePlaces lead vowel trail) :
    hangulParts (syllableCode lead vowel trail) =
      (hangulLeadBase + lead) :: (hangulVowelBase + vowel) ::
        (if trail = 0 then [] else [hangulTrailBase + trail]) := by
  obtain ⟨hlead, hvowel, htrail⟩ := h
  have hindex : syllableCode lead vowel trail - hangulBase = (lead * 21 + vowel) * 28 + trail := by
    rw [syllableCode_eq, hangulBase]
    omega
  have hleadPlace : ((lead * 21 + vowel) * 28 + trail) / (hangulVowels * hangulTrails) = lead := by
    unfold hangulVowels hangulTrails
    omega
  have hvowelPlace : ((lead * 21 + vowel) * 28 + trail) % (hangulVowels * hangulTrails) / hangulTrails =
      vowel := by
    unfold hangulVowels hangulTrails
    omega
  have htrailPlace : ((lead * 21 + vowel) * 28 + trail) % hangulTrails = trail := by
    unfold hangulTrails
    omega
  unfold hangulParts
  dsimp only
  rw [hindex, hleadPlace, hvowelPlace, htrailPlace]
  split <;> rfl

/-- The letters of a syllable are in the block of conjoining letters. -/
theorem conjoining (h : SyllablePlaces lead vowel trail) :
    ∀ n ∈ [hangulLeadBase + lead, hangulVowelBase + vowel, hangulTrailBase + trail],
      0x1100 ≤ n ∧ n < 0x1200 := by
  obtain ⟨hlead, hvowel, htrail⟩ := h
  unfold hangulLeadBase hangulVowelBase hangulTrailBase
  simp only [List.forall_mem_cons, List.not_mem_nil, false_imp_iff, implies_true, and_true]
  omega

/-- A lead is no letter that is joined to what is in front of it. -/
theorem not_isHangulSecond_lead (h : SyllablePlaces lead vowel trail) :
    isHangulSecond (hangulLeadBase + lead) = false := by
  have hlead := h.lead_lt
  unfold isHangulSecond hangulVowelBase hangulTrailBase hangulLeadBase
  simp only [Bool.or_eq_false_iff, Bool.and_eq_false_iff, decide_eq_false_iff_not]
  omega

end SyllablePlaces

/-- The pairs of code points that join, and the syllables they make. -/
inductive Joins : Nat → Nat → Nat → Prop where
  | vowel {lead vowel : Nat} (h : SyllablePlaces lead vowel 0) :
    Joins (hangulLeadBase + lead) (hangulVowelBase + vowel) (syllableCode lead vowel 0)
  | trail {lead vowel trail : Nat} (h : SyllablePlaces lead vowel trail) (hpos : trail ≠ 0) :
    Joins (syllableCode lead vowel 0) (hangulTrailBase + trail) (syllableCode lead vowel trail)

/-- The rule for Hangul only joins a lead to a vowel, or a syllable without a trail to a trail. -/
theorem joins_of_composeHangul? {m k n : Nat} (h : composeHangul? m k = some n) : Joins m k n := by
  unfold composeHangul? at h
  split at h
  · next hlead =>
    split at h
    · next hvowel =>
      simp only [Bool.and_eq_true, decide_eq_true_eq] at hlead hvowel
      have hplaces : SyllablePlaces (m - hangulLeadBase) (k - hangulVowelBase) 0 :=
        ⟨Nat.sub_lt_left_of_lt_add hlead.1 hlead.2, Nat.sub_lt_left_of_lt_add hvowel.1 hvowel.2,
          by omega⟩
      have hcode : syllableCode (m - hangulLeadBase) (k - hangulVowelBase) 0 = n := by
        rw [syllableCode, Nat.add_zero]
        exact Option.some.inj h
      have hjoins := Joins.vowel hplaces
      rwa [Nat.add_sub_cancel' hlead.1, Nat.add_sub_cancel' hvowel.1, hcode] at hjoins
    · cases h
  · split at h
    · next hopen =>
      split at h
      · next htrail =>
        obtain ⟨hsyllable, hopen⟩ := Bool.and_eq_true_iff.mp hopen
        have hopen : (m - 0xAC00) % 28 = 0 := of_decide_eq_true hopen
        simp only [Bool.and_eq_true, decide_eq_true_eq] at htrail
        obtain ⟨lead, vowel, trail, hplaces, rfl⟩ := exists_syllableCode hsyllable
        have htrail_lt := hplaces.trail_lt
        -- the rule asks for a syllable that has no trail yet
        obtain rfl : trail = 0 := by
          rw [syllableCode_eq] at hopen
          omega
        have hplaces : SyllablePlaces lead vowel (k - hangulTrailBase) :=
          ⟨hplaces.lead_lt, hplaces.vowel_lt, Nat.sub_lt_left_of_lt_add (Nat.le_of_lt htrail.1) htrail.2⟩
        have hcode : syllableCode lead vowel (k - hangulTrailBase) = n := by
          rw [← Option.some.inj h, syllableCode, syllableCode, Nat.add_zero]
        have hjoins := Joins.trail hplaces (Nat.sub_ne_zero_of_lt htrail.1)
        rwa [Nat.add_sub_cancel' (Nat.le_of_lt htrail.1), hcode] at hjoins
      · cases h
    · cases h

/-- And it joins all of these. -/
theorem composeHangul?_of_joins {m k n : Nat} (h : Joins m k n) : composeHangul? m k = some n := by
  unfold composeHangul?
  cases h with
  | vowel h =>
    have hlead : _ < hangulLeads := h.lead_lt
    have hvowel : _ < hangulVowels := h.vowel_lt
    rw [if_pos (by simpa using hlead), if_pos (by simpa using hvowel), Nat.add_sub_cancel_left,
      Nat.add_sub_cancel_left]
    rfl
  | @trail lead vowel trail h hpos =>
    have htrail : _ < hangulTrails := h.trail_lt
    have hbounds := isHangulSyllable_iff.mp h.opened.isHangulSyllable
    have hopened : (isHangulSyllable (syllableCode lead vowel 0)
        && (syllableCode lead vowel 0 - hangulBase) % hangulTrails = 0) = true := by
      rw [h.opened.isHangulSyllable, Bool.true_and, decide_eq_true_eq, syllableCode_eq, hangulBase,
        hangulTrails]
      omega
    have hlater : ¬(hangulLeadBase ≤ syllableCode lead vowel 0
        && syllableCode lead vowel 0 < hangulLeadBase + hangulLeads) = true := by
      rw [Bool.and_eq_true, decide_eq_true_eq, decide_eq_true_eq, hangulLeadBase, hangulLeads]
      omega
    rw [if_neg hlater, if_pos hopened, if_pos (by simpa using ⟨Nat.pos_of_ne_zero hpos, htrail⟩),
      Nat.add_sub_cancel_left]
    rfl

/-- The rule for Hangul is this relation. -/
theorem composeHangul?_eq_some_iff {m k n : Nat} : composeHangul? m k = some n ↔ Joins m k n :=
  ⟨joins_of_composeHangul?, composeHangul?_of_joins⟩

/-- What it composes to is a syllable. -/
theorem syllable_of_composeHangul? {m k n : Nat} (h : composeHangul? m k = some n) :
    isHangulSyllable n = true ∧ n.isValidChar := by
  cases composeHangul?_eq_some_iff.mp h with
  | vowel hplaces => exact ⟨hplaces.isHangulSyllable, hplaces.isValidChar⟩
  | trail hplaces hpos => exact ⟨hplaces.isHangulSyllable, hplaces.isValidChar⟩

end BooleanRetrieval.Text
