import BooleanRetrieval.Proofs.Decimal.Digits
import BooleanRetrieval.Saved.Index
import Mathlib.Data.List.TakeWhile

/-!
# The posting of a line

A line is split at its last equals sign if only decimal digits stand behind it, at least one
(`splitPosting?_eq_some_iff`). So a line writes one posting at most (`WritesPosting.unique`), whatever
else is in the document id.
-/

set_option autoImplicit false

namespace BooleanRetrieval.InvertedIndex

/-! ## Splitting a line -/

/-- A digit is no equals sign. -/
theorem ne_equals_of_isSome_digitValue? {c : Char} (h : (Text.digitValue? c).isSome = true) :
    c ≠ '=' := by
  rintro rfl
  revert h
  decide +kernel

/-- What stands behind the last equals sign of a line, when no other stands behind it. -/
theorem takeWhile_reverse_append {doc digits : List Char} (h : ∀ c ∈ digits, c ≠ '=') :
    ((doc ++ '=' :: digits).reverse.takeWhile (· ≠ '=')).reverse = digits := by
  rw [List.reverse_append, List.reverse_cons, List.append_assoc, List.singleton_append,
    List.takeWhile_append_of_pos, List.takeWhile_cons_of_neg (by simp), List.append_nil,
    List.reverse_reverse]
  intro c hc
  simpa using h c (List.mem_reverse.mp hc)

/-- A line without an equals sign is not split. -/
theorem splitPosting?_of_not_mem {line : List Char} (h : '=' ∉ line) : splitPosting? line = none := by
  have hwhole : (line.reverse.takeWhile (· ≠ '=')).reverse = line := by
    rw [List.takeWhile_eq_self_iff.mpr, List.reverse_reverse]
    intro c hc
    rw [decide_eq_true_eq]
    rintro rfl
    exact h (List.mem_reverse.mp hc)
  unfold splitPosting?
  dsimp only
  rw [hwhole]
  simp

/-- A line is split at its last equals sign if digits stand behind it. -/
theorem splitPosting?_append {doc behind : List Char} (h : ∀ c ∈ behind, c ≠ '=') :
    splitPosting? (doc ++ '=' :: behind) =
      if !behind.isEmpty && behind.all fun c => (Text.digitValue? c).isSome then some (doc, behind)
      else none := by
  have hlength : (doc ++ '=' :: behind).length = doc.length + behind.length + 1 := by
    rw [List.length_append, List.length_cons, Nat.add_assoc]
  have hshorter : behind.length ≠ (doc ++ '=' :: behind).length := by omega
  have hcount : (doc ++ '=' :: behind).length - behind.length - 1 = doc.length := by omega
  unfold splitPosting?
  dsimp only
  rw [takeWhile_reverse_append h, hcount, List.take_left]
  by_cases hempty : behind = []
  · simp [hempty]
  · have hsome : (behind.isEmpty || decide (behind.length = (doc ++ '=' :: behind).length)) = false := by
      rw [decide_eq_false hshorter, Bool.or_false, List.isEmpty_eq_false_iff]
      exact hempty
    rw [hsome]
    simp [hempty]

/-- A line is split before the digits it ends in. -/
theorem splitPosting?_eq_some_iff {line doc digits : List Char} :
    splitPosting? line = some (doc, digits) ↔
      line = doc ++ '=' :: digits ∧ digits ≠ [] ∧ ∀ c ∈ digits, (Text.digitValue? c).isSome = true := by
  constructor
  · intro h
    by_cases hmem : '=' ∈ line
    · obtain ⟨behind, front, hreverse, hlast⟩ :=
        List.eq_append_cons_of_mem (List.mem_reverse.mpr hmem)
      have hline : line = front.reverse ++ '=' :: behind.reverse := by
        rw [← List.reverse_reverse line, hreverse]
        simp
      rw [hline, splitPosting?_append] at h
      · split at h
        · next hdigits =>
          obtain ⟨rfl, rfl⟩ := Prod.mk.inj (Option.some.inj h)
          exact ⟨hline, by simpa using hdigits⟩
        · cases h
      · intro c hc heq
        rw [heq] at hc
        exact hlast (List.mem_reverse.mp hc)
    · rw [splitPosting?_of_not_mem hmem] at h
      cases h
  · rintro ⟨rfl, hdigits⟩
    rw [splitPosting?_append fun c hc => ne_equals_of_isSome_digitValue? (hdigits.2 c hc),
      if_pos (by simpa using hdigits)]

/-! ## Postings -/

/-- The last equals sign of a line stands behind a document id, and behind it there are only the decimal
digits of a number, at least one. -/
def WritesPosting (line doc : List Char) (n : Nat) : Prop :=
  ∃ digits, line = doc ++ '=' :: digits ∧ digits ≠ [] ∧ Text.decimalValue? digits = some n

/-- A line writes a posting when it can be split and its digits have the value. -/
theorem writesPosting_iff {line doc : List Char} {n : Nat} :
    WritesPosting line doc n ↔
      ∃ digits, splitPosting? line = some (doc, digits) ∧ Text.decimalValue? digits = some n := by
  apply exists_congr
  intro digits
  rw [splitPosting?_eq_some_iff]
  constructor
  · rintro ⟨hline, hnonempty, hvalue⟩
    refine ⟨⟨hline, hnonempty, Text.isSome_decimalValue?_iff.mp ?_⟩, hvalue⟩
    rw [hvalue]
    rfl
  · rintro ⟨⟨hline, hnonempty, -⟩, hvalue⟩
    exact ⟨hline, hnonempty, hvalue⟩

/-- A line writes one posting at most. -/
theorem WritesPosting.unique {line doc doc' : List Char} {n n' : Nat} (h : WritesPosting line doc n)
    (h' : WritesPosting line doc' n') : doc = doc' ∧ n = n' := by
  obtain ⟨digits, hsplit, hvalue⟩ := writesPosting_iff.mp h
  obtain ⟨digits', hsplit', hvalue'⟩ := writesPosting_iff.mp h'
  obtain ⟨rfl, rfl⟩ := Prod.mk.inj (Option.some.inj (hsplit.symm.trans hsplit'))
  exact ⟨rfl, Option.some.inj (hvalue.symm.trans hvalue')⟩

end BooleanRetrieval.InvertedIndex
