import BooleanRetrieval.Decimal.Fixed
import BooleanRetrieval.Proofs.Decimal.Digits
import Mathlib.Algebra.Order.Round
import Mathlib.Data.Rat.Floor
import Mathlib.Tactic.FieldSimp
import Mathlib.Tactic.Linarith
import Mathlib.Tactic.Ring

/-!
# Rounding to hundredths

A quotient is rounded to a whole number that is at most one half away, and even if it is just one half away
(`two_mul_roundQuotient`). So in hundredths it is the nearest number, and the even one of two nearest
(`nearestHundredths_roundQuotient`). That is all there is to know of it: such a number is at most half a
hundredth away (`NearestHundredths.error_le`) and does not fall when the quotient grows
(`NearestHundredths.mono`).

A quotient is stored before it is written with two places, which rounds it once more. If it is one by a power
of two of a number below `2 ^ 53`, it is stored as it is (`value?_ofQuotient`), so that it is the quotient
itself that is written as its nearest number of hundredths (`exists_writesHundredths_twoPlaces`).
-/

set_option autoImplicit false

namespace BooleanRetrieval

/-! ## Nearest numbers -/

/-- A number of hundredths is the nearest to a quotient, and the even one if two of them are nearest. -/
structure NearestHundredths (x : ℚ) (n : ℕ) : Prop where
  nearest : ∀ m : ℤ, |(n : ℚ) / 100 - x| ≤ |(m : ℚ) / 100 - x|
  even : ∀ m : ℤ, m ≠ n → |(n : ℚ) / 100 - x| = |(m : ℚ) / 100 - x| → Even n

namespace NearestHundredths

variable {x y : ℚ} {n k : ℕ}

/-- Two numbers of hundredths cannot both be nearer to a quotient than half a hundredth. -/
theorem hundredth_le {m : ℤ} (hm : m ≠ n) :
    1 / 100 ≤ |(n : ℚ) / 100 - x| + |(m : ℚ) / 100 - x| := by
  have hone : (1 : ℚ) ≤ |(n : ℚ) - m| := by
    have habs : (1 : ℤ) ≤ |(n : ℤ) - m| := Int.one_le_abs (sub_ne_zero.mpr hm.symm)
    exact_mod_cast habs
  have hsplit : (n : ℚ) / 100 - m / 100 = ((n : ℚ) / 100 - x) - ((m : ℚ) / 100 - x) := by ring
  calc (1 : ℚ) / 100 ≤ |(n : ℚ) - m| / 100 := by linarith
    _ = |(n : ℚ) / 100 - m / 100| := by
      rw [← sub_div, abs_div, abs_of_pos (by norm_num : (0 : ℚ) < 100)]
    _ ≤ _ := by
      rw [hsplit]
      exact abs_sub _ _

/-- A number at most half a hundredth away, and even if it is as far as that, is the nearest. -/
theorem of_error (herror : |(n : ℚ) / 100 - x| ≤ 1 / 200)
    (htie : |(n : ℚ) / 100 - x| = 1 / 200 → Even n) : NearestHundredths x n where
  nearest m := by
    by_cases hm : m = n
    · rw [hm, Int.cast_natCast]
    · have hsum := hundredth_le hm (x := x)
      linarith
  even m hm heq := by
    have hsum := hundredth_le hm (x := x)
    exact htie (by linarith)

/-- The nearest number of hundredths is at most half a hundredth away. -/
theorem error_le (h : NearestHundredths x n) : |(n : ℚ) / 100 - x| ≤ 1 / 200 := by
  have hround := abs_sub_round (100 * x)
  calc |(n : ℚ) / 100 - x| ≤ |(round (100 * x) : ℚ) / 100 - x| := h.nearest _
    _ = |100 * x - round (100 * x)| / 100 := by
      rw [abs_sub_comm, ← abs_of_pos (by norm_num : (0 : ℚ) < 100), ← abs_div,
        abs_of_pos (by norm_num : (0 : ℚ) < 100)]
      congr 1
      field_simp
    _ ≤ 1 / 200 := by linarith

/-- A greater quotient does not have a smaller nearest number. -/
theorem mono (h : NearestHundredths x n) (h' : NearestHundredths y k) (hle : x ≤ y) : n ≤ k := by
  by_contra hlt
  have hstep : (k : ℚ) + 1 ≤ n := by exact_mod_cast Nat.lt_of_not_le hlt
  obtain ⟨-, hx⟩ := abs_le.mp h.error_le
  obtain ⟨hy, -⟩ := abs_le.mp h'.error_le
  -- there is room for one step only, and both quotients lie in the middle of it
  have hsucc : (n : ℚ) = k + 1 := by linarith
  have hmiddle : x = k / 100 + 1 / 200 := by linarith
  have hsame : y = x := by linarith
  have hlow : |(k : ℚ) / 100 - x| = 1 / 200 := by
    rw [hmiddle, sub_add_cancel_left, abs_neg]
    norm_num
  have hhigh : |(n : ℚ) / 100 - x| = 1 / 200 := by
    have hdiff : (n : ℚ) / 100 - x = 1 / 200 := by linarith
    rw [hdiff]
    norm_num
  have hnk : n = k + 1 := by exact_mod_cast hsucc
  have hn : Even n := h.even k (by omega) (by rw [hhigh, Int.cast_natCast, hlow])
  have hk : Even k := h'.even n (by omega) (by rw [hsame, hlow, Int.cast_natCast, hhigh])
  rw [hnk, Nat.even_add_one] at hn
  exact hn hk

/-- There is only one nearest number of hundredths. -/
theorem unique (h : NearestHundredths x n) (h' : NearestHundredths x k) : n = k :=
  le_antisymm (h.mono h' le_rfl) (h'.mono h le_rfl)

end NearestHundredths

/-! ## Rounding of quotients -/

/-- A quotient is rounded to a whole number at most half away, and to an even one if it is just half away. -/
theorem two_mul_roundQuotient (num : ℕ) {den : ℕ} (hden : 0 < den) :
    let n := roundQuotient num den
    2 * num ≤ 2 * (n * den) + den ∧ 2 * (n * den) ≤ 2 * num + den ∧
      (2 * num = 2 * (n * den) + den ∨ 2 * (n * den) = 2 * num + den → Even n) := by
  have hdivision : num / den * den + num % den = num := Nat.div_add_mod' num den
  have hrest : num % den < den := Nat.mod_lt num hden
  have hnext : (num / den + 1) * den = num / den * den + den := Nat.succ_mul _ _
  intro n
  have hcases : n = num / den ∧ (2 * (num % den) < den ∨ 2 * (num % den) = den ∧ num / den % 2 = 0) ∨
      n = num / den + 1 ∧ (den < 2 * (num % den) ∨ 2 * (num % den) = den ∧ num / den % 2 = 1) := by
    simp only [n, roundQuotient]
    split_ifs <;> omega
  rw [Nat.even_iff]
  rcases hcases with ⟨hn, hcase⟩ | ⟨hn, hcase⟩ <;> rw [hn] <;> omega

/-- A quotient without a remainder is not rounded. -/
theorem roundQuotient_mul (n : ℕ) {den : ℕ} (hden : 0 < den) : roundQuotient (n * den) den = n := by
  unfold roundQuotient
  dsimp only
  rw [Nat.mul_mod_left, Nat.mul_div_cancel n hden, if_pos (by omega)]

/-- Nothing is rounded to nothing. -/
theorem roundQuotient_zero (den : ℕ) : roundQuotient 0 den = 0 := by
  unfold roundQuotient
  simp

/-- A quotient in hundredths is rounded to the nearest number of them. -/
theorem nearestHundredths_roundQuotient (num : ℕ) {den : ℕ} (hden : 0 < den) :
    NearestHundredths (num / den) (roundQuotient (num * 100) den) := by
  obtain ⟨hlow, hhigh, htie⟩ := two_mul_roundQuotient (num * 100) hden
  generalize roundQuotient (num * 100) den = n at hlow hhigh htie
  have hpositive : (0 : ℚ) < den := by exact_mod_cast hden
  obtain ⟨x, hx⟩ : ∃ x : ℚ, x = num / den := ⟨_, rfl⟩
  have hnum : (num : ℚ) = x * den := by
    rw [hx]
    field_simp
  rw [← hx]
  -- divided by the denominator, the bounds on the remainder bound the error
  have hlow' : 200 * x ≤ 2 * n + 1 := by
    have hcast : (2 * (num * 100) : ℚ) ≤ 2 * (n * den) + den := by exact_mod_cast hlow
    rw [hnum] at hcast
    exact le_of_mul_le_mul_right (by linarith) hpositive
  have hhigh' : 2 * n ≤ 200 * x + 1 := by
    have hcast : (2 * (n * den) : ℚ) ≤ 2 * (num * 100) + den := by exact_mod_cast hhigh
    rw [hnum] at hcast
    exact le_of_mul_le_mul_right (by linarith) hpositive
  apply NearestHundredths.of_error
  · rw [abs_le]
    constructor <;> linarith
  · intro hhalf
    -- an error of half a hundredth is a tie of the division
    apply htie
    rcases eq_or_eq_neg_of_abs_eq hhalf with hx' | hx'
    · right
      have hcast : (2 * (n * den) : ℚ) = 2 * (num * 100) + den := by
        rw [hnum, show (n : ℚ) = 100 * x + 1 / 2 by linarith]
        ring
      exact_mod_cast hcast
    · left
      have hcast : (2 * (num * 100) : ℚ) = 2 * (n * den) + den := by
        rw [hnum, show (n : ℚ) = 100 * x - 1 / 2 by linarith]
        ring
      exact_mod_cast hcast

/-! ## Two places -/

/-- A text writes a number of hundredths: its digits, the first of which is zero only if it stands alone,
then a point and two more digits. All digits together are those of the number. -/
def WritesHundredths (text : String) (n : ℕ) : Prop :=
  ∃ whole places : List Char, text.toList = whole ++ '.' :: places ∧
    (∀ c ∈ whole ++ places, c.isDigit = true) ∧ places.length = 2 ∧
    (whole = ['0'] ∨ ∃ c rest, whole = c :: rest ∧ c ≠ '0') ∧
    Nat.ofDigitChars 10 (whole ++ places) 0 = n

/-- A text writes one number of hundredths only. -/
theorem WritesHundredths.unique {text : String} {n m : ℕ} (h : WritesHundredths text n)
    (h' : WritesHundredths text m) : n = m := by
  obtain ⟨whole, places, htext, -, hplaces, -, rfl⟩ := h
  obtain ⟨whole', places', htext', -, hplaces', -, rfl⟩ := h'
  rw [htext] at htext'
  obtain ⟨rfl, hrest⟩ := List.append_inj' htext' (by simp [hplaces, hplaces'])
  rw [(List.cons.inj hrest).2]

/-- A number below one hundred is written at two places, with a zero before a single digit. -/
theorem toList_places : ∀ k < 100,
    (if (toString k).length < 2 then "0" ++ toString k else toString k).toList =
      [Nat.digitChar (k / 10), Nat.digitChar (k % 10)] := by
  decide +kernel

/-- A digit character stands for its digit. -/
theorem toNat_digitChar : ∀ d < 10, (Nat.digitChar d).toNat - '0'.toNat = d := by
  decide

/-- The text with a full stop before the last two places writes a number of hundredths. -/
theorem writesHundredths_hundredthsText (n : ℕ) : WritesHundredths (hundredthsText n) n := by
  have htens : n % 100 / 10 < 10 := by omega
  have hones : n % 100 % 10 < 10 := by omega
  refine ⟨Nat.toDigits 10 (n / 100), [Nat.digitChar (n % 100 / 10), Nat.digitChar (n % 100 % 10)],
    ?_, ?_, rfl, ?_, ?_⟩
  · unfold hundredthsText
    dsimp only
    rw [String.toList_append, String.toList_append, toList_places _ (Nat.mod_lt n (by decide)),
      toList_toString, List.append_assoc]
    rfl
  · intro c hc
    rcases List.mem_append.mp hc with hwhole | hplaces
    · exact isDigit_of_mem_toDigits hwhole
    · rcases List.mem_pair.mp hplaces with rfl | rfl
      · rw [Nat.isDigit_digitChar, decide_eq_true htens]
      · rw [Nat.isDigit_digitChar, decide_eq_true hones]
  · rcases Nat.eq_zero_or_pos (n / 100) with hzero | hpositive
    · left
      rw [hzero]
      rfl
    · right
      exact exists_toDigits_eq_cons hpositive
  · rw [Nat.ofDigitChars_append, Nat.ofDigitChars_toDigits (by decide) (by decide),
      Nat.ofDigitChars_cons, Nat.ofDigitChars_cons, Nat.ofDigitChars_nil, toNat_digitChar _ htens,
      toNat_digitChar _ hones]
    omega

/-! ## Stored quotients -/

/-- A number times a power of a base is scaled to two numbers that have it as their quotient. -/
theorem scaled_quotient {base : ℕ} (hbase : 0 < base) (n : ℕ) (power : ℤ) :
    0 < (scaled base n power).2 ∧
      ((scaled base n power).1 : ℚ) / (scaled base n power).2 = n * (base : ℚ) ^ power := by
  unfold scaled
  simp only [Nat.pow_eq]
  split
  · next h =>
    have hpower : (power.toNat : ℤ) = power := Int.toNat_of_nonneg h
    rw [← hpower, Int.toNat_natCast, zpow_natCast, Nat.cast_mul, Nat.cast_pow, Nat.cast_one, div_one]
    exact ⟨Nat.one_pos, rfl⟩
  · next h =>
    have hpower : -((-power).toNat : ℤ) = power := by omega
    rw [← hpower, neg_neg, Int.toNat_natCast, zpow_neg, zpow_natCast, Nat.cast_pow]
    exact ⟨Nat.pow_pos hbase, div_eq_mul_inv _ _⟩

/-- A positive number with at most 53 digits to the base two has just so many after a shift. -/
theorem exists_shift {n : ℕ} (hzero : n ≠ 0) (hn : n < 2 ^ 53) :
    ∃ s, n.log2 + s = 52 ∧ 2 ^ 52 ≤ n * 2 ^ s ∧ n * 2 ^ s < 2 ^ 53 := by
  have hlog : n.log2 < 53 := (Nat.log2_lt hzero).mpr hn
  obtain ⟨s, hs⟩ : ∃ s, n.log2 + s = 52 := ⟨52 - n.log2, by omega⟩
  refine ⟨s, hs, ?_, ?_⟩
  · calc 2 ^ 52 = 2 ^ n.log2 * 2 ^ s := by rw [← Nat.pow_add, hs]
      _ ≤ n * 2 ^ s := Nat.mul_le_mul_right _ (Nat.log2_self_le hzero)
  · calc n * 2 ^ s < 2 ^ (n.log2 + 1) * 2 ^ s :=
          Nat.mul_lt_mul_of_pos_right Nat.lt_log2_self (Nat.two_pow_pos s)
      _ = 2 ^ 53 := by
        rw [← Nat.pow_add, Nat.add_right_comm, hs]

namespace Binary

/-- The number that a binary fraction denotes, unless it is too large for one. -/
def value? : Binary → Option ℚ
  | .zero => some 0
  | .finite mantissa exponent => some (mantissa * 2 ^ exponent)
  | .infinite => none

/-- A fraction is written as its nearest number of hundredths. -/
theorem exists_writesHundredths {b : Binary} {x : ℚ} (h : b.value? = some x) :
    ∃ n, WritesHundredths b.twoPlaces n ∧ NearestHundredths x n := by
  cases b with
  | zero =>
    rw [← Option.some.inj h]
    refine ⟨0, writesHundredths_hundredthsText 0, ?_⟩
    have hzero := nearestHundredths_roundQuotient 0 Nat.one_pos
    rwa [Nat.zero_mul, roundQuotient_zero, Nat.cast_zero, zero_div] at hzero
  | finite mantissa exponent =>
    obtain ⟨hden, hquotient⟩ := scaled_quotient Nat.two_pos mantissa exponent
    rw [← Option.some.inj h, ← Nat.cast_ofNat, ← hquotient]
    exact ⟨_, writesHundredths_hundredthsText _, nearestHundredths_roundQuotient _ hden⟩
  | infinite => cases h

/-- The quotient of nothing is zero. -/
theorem ofQuotient_zero (den : ℕ) : ofQuotient 0 den = zero := by
  have hat : ∀ e : ℤ, (if 0 ≤ e then (0, den * 2 ^ e.toNat) else (0 * 2 ^ (-e).toNat, den)) =
      (0, if 0 ≤ e then den * 2 ^ e.toNat else den) := by
    intro e
    split <;> simp
  unfold ofQuotient
  simp only [Nat.pow_eq, hat, roundQuotient_zero]
  simp

/-- The quotient by a power of two of a number with no more than 53 digits to the base two is stored
exactly. -/
theorem value?_ofQuotient {n : ℕ} (hn : n < 2 ^ 53) {k : ℕ} (hk : 0 < k) (hk' : k ≤ 1000) :
    (ofQuotient n (2 ^ k)).value? = some ((n : ℚ) / 2 ^ k) := by
  have hden : 0 < 2 ^ k := Nat.two_pow_pos k
  by_cases hzero : n = 0
  · rw [hzero, ofQuotient_zero, value?, Nat.cast_zero, zero_div]
  obtain ⟨s, hs, hleast, hgreatest⟩ := exists_shift hzero hn
  have hestimate : (n.log2 : ℤ) - ((2 ^ k).log2 : ℤ) - 52 = -((s + k : ℕ) : ℤ) := by
    rw [Nat.log2_two_pow]
    omega
  have hnum : n * 2 ^ (s + k) = n * 2 ^ s * 2 ^ k := by rw [Nat.pow_add, Nat.mul_assoc]
  have hnegative : ¬ 0 ≤ -((s + k : ℕ) : ℤ) := by omega
  have hmax : max leastExponent (-((s + k : ℕ) : ℤ)) = -((s + k : ℕ) : ℤ) := by
    unfold leastExponent
    omega
  have hmantissa : n * 2 ^ s ≠ 0 := by omega
  have hexponent : ¬ greatestExponent < -((s + k : ℕ) : ℤ) := by
    unfold greatestExponent
    omega
  unfold ofQuotient
  simp only [hestimate, Nat.pow_eq, if_neg hnegative, neg_neg, Int.toNat_natCast, hnum,
    Nat.mul_div_cancel _ hden, if_neg (Nat.not_lt.mpr hleast), hmax, roundQuotient_mul _ hden,
    if_neg hgreatest.ne, if_neg hmantissa, if_neg hexponent]
  rw [value?, zpow_neg, zpow_natCast, pow_add, Nat.cast_mul, Nat.cast_pow, Nat.cast_ofNat]
  congr 1
  field_simp

end Binary

/-- The quotient by a power of two of a number with no more than 53 digits to the base two is written as its
nearest number of hundredths. -/
theorem exists_writesHundredths_twoPlaces {n : ℕ} (hn : n < 2 ^ 53) {k : ℕ} (hk : 0 < k)
    (hk' : k ≤ 1000) :
    ∃ m, WritesHundredths (twoPlaces n (2 ^ k)) m ∧ NearestHundredths ((n : ℚ) / 2 ^ k) m :=
  Binary.exists_writesHundredths (Binary.value?_ofQuotient hn hk hk')

end BooleanRetrieval
