import BooleanRetrieval.Query.Machine

/-!
# The stack machine answers by the recursion

Entering a node with anything pending and any results waiting ends where the recursive answer to that
node says: with its documents on top of the results and the rest of the pending stack still to do, or
stopped at its error, and with its questions asked in between (`run_enter`). Started on one node with
nothing else, the machine therefore has the recursive answer, asks the same questions in the same
order, never lacks an entry on the result stack and leaves exactly one there.
-/

set_option autoImplicit false

namespace BooleanRetrieval.Machine

variable (accessor : Accessor)

/-- A visit that goes on: the run continues from the new stacks. -/
theorem run_of_visit_continue {pending next : List (Query × Step)} {results results' : List DocSet}
    {q : Query} {step : Step} {lookups : List Lookup}
    (h : visit accessor pending results q step = .continue next results' lookups)
    (asked : List Lookup) :
    run accessor ((q, step) :: pending) results asked =
      run accessor next results' (lookups ++ asked) := by
  rw [run]
  split
  · next reason hvisit => rw [h] at hvisit; cases hvisit
  · next hvisit => rw [h] at hvisit; cases hvisit; rfl

/-- A visit that stops: the run ends for the same reason. -/
theorem run_of_visit_halt {pending : List (Query × Step)} {results : List DocSet} {q : Query}
    {step : Step} {reason : Halt} (h : visit accessor pending results q step = .halt reason)
    (asked : List Lookup) :
    run accessor ((q, step) :: pending) results asked = (reason, asked.reverse) := by
  rw [run]
  split
  · next reason' hvisit => rw [h] at hvisit; cases hvisit; rfl
  · next hvisit => rw [h] at hvisit; cases hvisit

/-- The run that goes on once a node has its answer: its documents lie on the results, or its error
ends the run. -/
def resume (pending : List (Query × Step)) (results : List DocSet) (asked : List Lookup)
    (answer : Answer) : Halt × List Lookup :=
  match answer.result with
  | .ok documents => run accessor pending (documents :: results) (answer.lookups.reverse ++ asked)
  | .error error => (.failed error, asked.reverse ++ answer.lookups)

/-- Resuming with an answer that goes on: either the first part stops the run, or the run resumes
with the second part on top of the questions of the first. -/
theorem resume_andThen (pending : List (Query × Step)) (results : List DocSet)
    (asked : List Lookup) (answer : Answer) (next : DocSet → Answer) :
    resume accessor pending results asked (answer.andThen next) =
      match answer.result with
      | .ok documents =>
        resume accessor pending results (answer.lookups.reverse ++ asked) (next documents)
      | .error error => (.failed error, asked.reverse ++ answer.lookups) := by
  obtain ⟨result, lookups⟩ := answer
  cases result with
  | error error => rfl
  | ok documents =>
    simp only [Answer.andThen, resume]
    cases (next documents).result with
    | error error => simp
    | ok documents' => simp

/-- Once the right operand of a node has its answer, the node joins it with the left documents. -/
theorem resume_map {q : Query} {join : DocSet → DocSet → DocSet} {pending : List (Query × Step)}
    {left : DocSet} {results : List DocSet}
    (hjoin : ∀ right : DocSet, visit accessor pending (right :: left :: results) q .operandsDone =
      .continue pending (join left right :: results) [])
    (asked : List Lookup) (answer : Answer) :
    resume accessor ((q, .operandsDone) :: pending) (left :: results) asked answer =
      resume accessor pending results asked (answer.map (join left)) := by
  obtain ⟨result, lookups⟩ := answer
  cases result with
  | error error => rfl
  | ok right => exact run_of_visit_continue accessor (hjoin right) _

/-- **Simulation.** Entering a node runs to where its recursive answer says, whatever else is pending
and whatever results are waiting. -/
theorem run_enter (q : Query) (pending : List (Query × Step)) (results : List DocSet)
    (asked : List Lookup) :
    run accessor ((q, .enter) :: pending) results asked =
      resume accessor pending results asked (q.answer accessor) := by
  induction q generalizing pending results asked with
  | term t => exact run_of_visit_continue accessor rfl asked
  | foreign text =>
    rw [run_of_visit_halt accessor rfl asked]
    simp [resume, Query.answer]
  | not operand ih =>
    rw [run_of_visit_continue accessor rfl asked, List.nil_append, ih, Query.answer, resume_andThen]
    cases hop : (operand.answer accessor).result with
    | error error => simp [resume, hop]
    | ok documents =>
      simp only [resume, hop]
      exact run_of_visit_continue accessor rfl _
  | or left right ihl ihr =>
    rw [run_of_visit_continue accessor rfl asked, List.nil_append, ihl, Query.answer,
      resume_andThen]
    cases hleft : (left.answer accessor).result with
    | error error => simp [resume, hleft]
    | ok documents =>
      simp only [resume, hleft]
      rw [ihr]
      exact resume_map accessor (fun _ => rfl) _ _
  | and left right ihl ihr =>
    rw [run_of_visit_continue accessor rfl asked, List.nil_append, ihl, Query.answer,
      resume_andThen]
    cases hleft : (left.answer accessor).result with
    | error error => simp [resume, hleft]
    | ok documents =>
      simp only [resume, hleft]
      -- the left documents stay on the results; only their emptiness decides about the right side
      cases hempty : documents.isEmpty with
      | true =>
        rw [run_of_visit_continue accessor (by simp only [visit, hempty, if_true]; rfl)]
        simp
      | false =>
        rw [run_of_visit_continue accessor
          (by simp only [visit, hempty, Bool.false_eq_true, if_false]; rfl), List.nil_append, ihr]
        simp only [Bool.false_eq_true, if_false]
        exact resume_map accessor (fun _ => rfl) _ _

/-- How a run ends that has an answer: its documents are the only entry left, or its error. -/
def Halt.ofResult : Except EvalError DocSet → Halt
  | .ok documents => .done documents []
  | .error error => .failed error

/-- Started on a tree, the machine ends with the answer of the recursion and its lookups. -/
theorem run_start (q : Query) :
    run accessor [(q, .enter)] [] [] =
      (.ofResult (q.answer accessor).result, (q.answer accessor).lookups) := by
  rw [run_enter]
  cases h : (q.answer accessor).result with
  | error error => simp [resume, h, Halt.ofResult]
  | ok documents => simp [resume, h, Halt.ofResult, run]

/-- The machine answers as the recursion does. -/
theorem answer_eq (q : Query) : answer accessor q = q.answer accessor := by
  unfold answer
  rw [run_start]
  obtain ⟨result, lookups⟩ := q.answer accessor
  cases result <;> rfl

/-- The machine refines the recursion on every tree and every collection: it has the same documents
or the same error after the same questions in the same order. It never takes from a result stack that
is empty, and a run that succeeds leaves the documents as the only entry there. -/
theorem machine_refines_recursion (q : Query) :
    answer accessor q = q.answer accessor ∧
      run accessor [(q, .enter)] [] [] =
        (.ofResult (q.answer accessor).result, (q.answer accessor).lookups) ∧
      (run accessor [(q, .enter)] [] []).1 ≠ .underflow := by
  refine ⟨answer_eq accessor q, run_start accessor q, ?_⟩
  rw [run_start]
  cases (q.answer accessor).result with
  | error error => exact Halt.noConfusion
  | ok documents => exact Halt.noConfusion

end BooleanRetrieval.Machine
