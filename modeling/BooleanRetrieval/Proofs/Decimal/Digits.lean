import BooleanRetrieval.Saved.Format
import BooleanRetrieval.Text.DecimalDigit

/-!
# Decimal digits read back

A number is written with its decimal digits, the first of which is zero for zero only
(`exists_toDigits_eq_cons`), and both readers of digits, that of JSON numbers and that of decimal
digits of all scripts, read the number back (`Nat.ofDigitChars_toDigits`, `decimalValue?_toDigits`).
-/

set_option autoImplicit false

namespace BooleanRetrieval

/-- The text of a number is its decimal digits. -/
theorem toList_toString (n : Nat) : (toString n).toList = Nat.toDigits 10 n :=
  Nat.toList_repr

/-- The digits are ten code points in a row. -/
theorem isDigit_iff {c : Char} : c.isDigit = true ↔ 48 ≤ c.toNat ∧ c.toNat ≤ 57 := by
  unfold Char.isDigit
  rw [Bool.and_eq_true, decide_eq_true_eq, decide_eq_true_eq]
  rfl

/-- The decimal digits of a number are digits. -/
theorem isDigit_of_mem_toDigits {n : Nat} {c : Char} (h : c ∈ Nat.toDigits 10 n) :
    c.isDigit = true :=
  Nat.isDigit_of_mem_toDigits (by decide) (by decide) h

/-! ## Leading zeros -/

/-- No digit but zero is written as a zero. -/
theorem digitChar_ne_zero : ∀ d < 10, 0 < d → Nat.digitChar d ≠ '0' := by
  decide

/-- The first digit of a positive number is not zero. -/
theorem exists_toDigits_eq_cons {n : Nat} (h : 0 < n) :
    ∃ c rest, Nat.toDigits 10 n = c :: rest ∧ c ≠ '0' := by
  induction n using Nat.strongRecOn with
  | ind n ih =>
    rw [Nat.toDigits_eq_if (by decide)]
    by_cases hn : n < 10
    · rw [if_pos hn]
      exact ⟨_, _, rfl, digitChar_ne_zero n hn h⟩
    · obtain ⟨c, rest, hdigits, hc⟩ := ih (n / 10) (by omega) (by omega)
      rw [if_neg hn, hdigits, List.cons_append]
      exact ⟨_, _, rfl, hc⟩

/-! ## Bounds -/

/-- The numbers that can be written are those whose digits are not too many. -/
theorem lt_writableBound_iff {n : Nat} :
    n < writableBound ↔ (Nat.toDigits 10 n).length ≤ Json.maxDigits := by
  unfold writableBound Json.maxDigits
  -- kept as a variable, so that the bound is not computed
  generalize hlimit : 4300 = limit
  have hpositive : 0 < limit := by omega
  exact (Nat.length_toDigits_le_iff (by decide) hpositive).symm

/-- A number below the bound is written in decimal. -/
theorem writeFrequency_of_lt {n : Nat} (h : n < writableBound) :
    writeFrequency n = .ok (Nat.toDigits 10 n) := by
  unfold writeFrequency numeral
  rw [if_pos h, ← toList_toString]
  rfl

/-- A number from the bound on has too many digits to be written. -/
theorem writeFrequency_of_le {n : Nat} (h : writableBound ≤ n) :
    writeFrequency n = .error (.tooManyDigits {}) := by
  unfold writeFrequency numeral
  rw [if_neg (Nat.not_lt.mpr h)]
  rfl

/-! ## Values -/

namespace Text

/-- Of the small code points, each digit has its value. -/
theorem digitValue?_ofNat : ∀ n < 58, 48 ≤ n → digitValue? (Char.ofNat n) = some (n - 48) := by
  decide +kernel

/-- A decimal digit has the value its code point gives. -/
theorem digitValue?_of_isDigit {c : Char} (h : c.isDigit = true) :
    digitValue? c = some (c.toNat - 48) := by
  obtain ⟨hlow, hhigh⟩ := isDigit_iff.mp h
  have hvalue := digitValue?_ofNat c.toNat (Nat.lt_succ_of_le hhigh) hlow
  rwa [Char.ofNat_toNat] at hvalue

/-- Digits, of whatever scripts, write a number. -/
theorem isSome_decimalValue?_iff {cs : List Char} :
    (decimalValue? cs).isSome = true ↔ ∀ c ∈ cs, (digitValue? c).isSome = true := by
  have hfold : ∀ acc : Option Nat,
      (cs.foldl (fun acc c => do return (← acc) * 10 + (← digitValue? c)) acc).isSome = true ↔
        acc.isSome = true ∧ ∀ c ∈ cs, (digitValue? c).isSome = true := by
    induction cs with
    | nil => simp
    | cons c cs ih =>
      intro acc
      have hstep : (do return (← acc) * 10 + (← digitValue? c) : Option Nat).isSome = true ↔
          acc.isSome = true ∧ (digitValue? c).isSome = true := by
        cases acc <;> cases digitValue? c <;> simp
      rw [List.foldl_cons, ih, hstep, List.forall_mem_cons, and_assoc]
  exact (hfold (some 0)).trans (and_iff_right rfl)

/-- A text of decimal digits has the value that the digits have together. -/
theorem decimalValue?_of_isDigit {cs : List Char} (h : ∀ c ∈ cs, c.isDigit = true) :
    decimalValue? cs = some (Nat.ofDigitChars 10 cs 0) := by
  have hfold : ∀ {cs : List Char} (acc : Nat), (∀ c ∈ cs, c.isDigit = true) →
      cs.foldl (fun acc c => do return (← acc) * 10 + (← digitValue? c)) (some acc) =
        some (Nat.ofDigitChars 10 cs acc) := by
    intro cs
    induction cs with
    | nil => exact fun acc _ => rfl
    | cons c cs ih =>
      intro acc hcs
      obtain ⟨hc, hrest⟩ := List.forall_mem_cons.mp hcs
      have hstep : (do return (← some acc) * 10 + (← digitValue? c)) =
          some (10 * acc + (c.toNat - '0'.toNat)) := by
        rw [digitValue?_of_isDigit hc, Nat.mul_comm]
        rfl
      rw [List.foldl_cons, hstep, ih _ hrest, Nat.ofDigitChars_cons]
  exact hfold 0 h

/-- The digits of a number write the number. -/
theorem decimalValue?_toDigits (n : Nat) : decimalValue? (Nat.toDigits 10 n) = some n := by
  rw [decimalValue?_of_isDigit fun c => isDigit_of_mem_toDigits,
    Nat.ofDigitChars_toDigits (by decide) (by decide)]

end Text

end BooleanRetrieval
