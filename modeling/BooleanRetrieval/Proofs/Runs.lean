import Mathlib.Data.List.Basic

/-!
# Runs that end at the first error

A run takes the elements of a list one after the other, and the first that a step does not take ends it
with the error of that step. When it depends on the elements alone which of them are taken, and which
errors they cause, so does the outcome of a run: it succeeds if all elements are good (`foldlM_ok_iff`),
and otherwise its first flaw decides (`foldlM_odd_iff`).
-/

set_option autoImplicit false

namespace BooleanRetrieval

/-- A result that gives a value is a success. -/
theorem exists_eq_ok_of_toOption {ε α β : Type} {result : Except ε α} {f : α → β} {b : β}
    (h : result.toOption.map f = some b) : ∃ a, result = .ok a ∧ f a = b := by
  cases result with
  | error e => cases h
  | ok a => exact ⟨a, rfl, Option.some.inj h⟩

/-- The first element of a list that is not good is bad. -/
def FirstFlaw {α : Type} (Good Bad : α → Prop) (l : List α) : Prop :=
  ∃ before a after, l = before ++ a :: after ∧ (∀ b ∈ before, Good b) ∧ Bad a

variable {α σ ε : Type} {Good Bad : α → Prop}

/-- The empty list has no flaw. -/
theorem not_firstFlaw_nil : ¬ FirstFlaw Good Bad [] := by
  rintro ⟨before, a, after, heq, -⟩
  exact List.append_ne_nil_of_right_ne_nil before (List.cons_ne_nil a after) heq.symm

/-- The first flaw of a list is its first element, or that of the rest behind a good one. -/
theorem firstFlaw_cons {a : α} {l : List α} :
    FirstFlaw Good Bad (a :: l) ↔ Bad a ∨ Good a ∧ FirstFlaw Good Bad l := by
  constructor
  · rintro ⟨before, b, after, heq, hgood, hbad⟩
    cases before with
    | nil =>
      obtain ⟨rfl, -⟩ := List.cons.inj heq
      exact .inl hbad
    | cons first before =>
      obtain ⟨rfl, rfl⟩ := List.cons.inj heq
      obtain ⟨hfirst, hbefore⟩ := List.forall_mem_cons.mp hgood
      exact .inr ⟨hfirst, before, b, after, rfl, hbefore, hbad⟩
  · rintro (hbad | ⟨hgood, before, b, after, rfl, hbefore, hbad⟩)
    · exact ⟨[], a, l, rfl, fun _ hb => absurd hb List.not_mem_nil, hbad⟩
    · exact ⟨a :: before, b, after, rfl, List.forall_mem_cons.mpr ⟨hgood, hbefore⟩, hbad⟩

variable {step : σ → α → Except ε σ} {Odd : ε → Prop}

/-- A run succeeds if all elements are good, when the good ones are those that a step takes. -/
theorem foldlM_ok_iff (hgood : ∀ s a, (∃ s', step s a = .ok s') ↔ Good a) {l : List α} {s : σ} :
    (∃ s', l.foldlM step s = .ok s') ↔ ∀ a ∈ l, Good a := by
  induction l generalizing s with
  | nil => exact ⟨fun _ a ha => absurd ha List.not_mem_nil, fun _ => ⟨s, rfl⟩⟩
  | cons a l ih =>
    rw [List.forall_mem_cons, List.foldlM_cons, ← hgood s a]
    cases hstep : step s a with
    | error e =>
      constructor
      · rintro ⟨s', hrun⟩
        cases hrun
      · rintro ⟨⟨s', hnext⟩, -⟩
        cases hnext
    | ok next => exact ih.trans ⟨fun hrest => ⟨⟨next, rfl⟩, hrest⟩, And.right⟩

/-- A run ends in an odd error if its first flaw is bad, when the bad elements are those for which a step
ends in one. -/
theorem foldlM_odd_iff (hgood : ∀ s a, (∃ s', step s a = .ok s') ↔ Good a)
    (hbad : ∀ s a, (∃ e, step s a = .error e ∧ Odd e) ↔ Bad a) {l : List α} {s : σ} :
    (∃ e, l.foldlM step s = .error e ∧ Odd e) ↔ FirstFlaw Good Bad l := by
  induction l generalizing s with
  | nil =>
    refine ⟨?_, fun hflaw => absurd hflaw not_firstFlaw_nil⟩
    rintro ⟨e, herror, -⟩
    cases herror
  | cons a l ih =>
    rw [firstFlaw_cons, ← hgood s a, ← hbad s a, List.foldlM_cons]
    cases hstep : step s a with
    | error e =>
      constructor
      · rintro ⟨e', herror, hodd⟩
        exact .inl ⟨e', herror, hodd⟩
      · rintro (⟨e', herror, hodd⟩ | ⟨⟨s', hnext⟩, -⟩)
        · exact ⟨e', herror, hodd⟩
        · cases hnext
    | ok next =>
      constructor
      · intro herror
        exact .inr ⟨⟨next, rfl⟩, ih.mp herror⟩
      · rintro (⟨e, herror, -⟩ | ⟨-, hflaw⟩)
        · cases herror
        · exact ih.mpr hflaw

/-- A run in which every step is taken is a fold of the steps that are taken. -/
theorem foldl_eq_of_foldlM {next : σ → α → σ} (hnext : ∀ s a s', step s a = .ok s' → next s a = s')
    {l : List α} {s final : σ} (h : l.foldlM step s = .ok final) : l.foldl next s = final := by
  induction l generalizing s with
  | nil => exact Except.ok.inj h
  | cons a l ih =>
    rw [List.foldlM_cons] at h
    rw [List.foldl_cons]
    cases hstep : step s a with
    | error e =>
      rw [hstep] at h
      cases h
    | ok s' =>
      rw [hstep] at h
      rw [hnext s a s' hstep]
      exact ih h

end BooleanRetrieval
