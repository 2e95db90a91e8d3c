import BooleanRetrieval.Query.Eval

/-!
# Answering a query with explicit stacks

The machine answers a query tree of any depth without recursion. One stack holds the nodes still to
be visited, each with the step to resume it at; the other holds the documents of the operands that
are done.
-/

set_option autoImplicit false

namespace BooleanRetrieval.Machine

/-- Where to resume a pending node. -/
inductive Step where
  /-- The node has not been visited. -/
  | enter
  /-- The left operand of a conjunction is done. -/
  | leftDone
  /-- All operands are done. -/
  | operandsDone
  deriving DecidableEq, Repr

/-- How a run ends. -/
inductive Halt where
  /-- The documents on top of the result stack, and what lies below them. -/
  | done (documents : DocSet) (below : List DocSet)
  | failed (error : EvalError)
  /-- The result stack held fewer entries than a step needs. -/
  | underflow

/-- What a step does: it goes on with new stacks and at most one question asked, or it stops. -/
inductive Action where
  | continue (pending : List (Query × Step)) (results : List DocSet) (lookups : List Lookup)
  | halt (reason : Halt)

/-- Visit the top of the pending stack at its step, with the rest of the stack below. -/
def visit (accessor : Accessor) (pending : List (Query × Step)) (results : List DocSet) :
    Query → Step → Action
  | .term t, _ => .continue pending (accessor.documentsForTerm t :: results) [.term t]
  | .and left right, .enter =>
    .continue ((left, .enter) :: (.and left right, .leftDone) :: pending) results []
  | .and left right, .leftDone =>
    match results with
    | [] => .halt .underflow
    | documents :: _ =>
      if documents.isEmpty then .continue pending results []
      else .continue ((right, .enter) :: (.and left right, .operandsDone) :: pending) results []
  | .and _ _, .operandsDone =>
    match results with
    | right :: left :: below => .continue pending (left.inter right :: below) []
    | _ => .halt .underflow
  | .or left right, .enter =>
    .continue ((left, .enter) :: (right, .enter) :: (.or left right, .operandsDone) :: pending)
      results []
  | .or _ _, _ =>
    match results with
    | right :: left :: below => .continue pending (left.union right :: below) []
    | _ => .halt .underflow
  | .not operand, .enter =>
    .continue ((operand, .enter) :: (.not operand, .operandsDone) :: pending) results []
  | .not _, _ =>
    match results with
    | documents :: below => .continue pending (accessor.allDocuments.diff documents :: below) [.all]
    | [] => .halt .underflow
  | .foreign text, _ => .halt (.failed (.unsupported (Text.quoted text)))

/-- How many visits a node takes at most. -/
def visits : Query → Nat
  | .term _ => 1
  | .and left right => visits left + visits right + 3
  | .or left right => visits left + visits right + 2
  | .not operand => visits operand + 2
  | .foreign _ => 1

/-- How many visits a pending entry takes at most. -/
def cost : Query × Step → Nat
  | (q, .enter) => visits q
  | (.and _ right, .leftDone) => visits right + 2
  | (_, _) => 1

/-- How many visits a pending stack takes at most. -/
def totalCost (pending : List (Query × Step)) : Nat :=
  (pending.map cost).foldr (· + ·) 0

/-- Every visit makes the pending stack cheaper. -/
theorem totalCost_visit_lt {accessor : Accessor} {pending next : List (Query × Step)}
    {results results' : List DocSet} {q : Query} {step : Step} {lookups : List Lookup}
    (h : visit accessor pending results q step = .continue next results' lookups) :
    totalCost next < totalCost ((q, step) :: pending) := by
  have hpos : ∀ p : Query × Step, 0 < cost p := by
    rintro ⟨q, step⟩
    cases q <;> cases step <;> simp [cost, visits]
  have hself := hpos (q, step)
  unfold visit at h
  split at h
  all_goals try (split at h)
  all_goals try (split at h)
  all_goals
    first
      | (injection h with h₁ _ _
         subst h₁
         simp only [totalCost, List.map_cons, List.foldr_cons, cost, visits] at hself ⊢
         omega)
      | exact Action.noConfusion h

/-- Run the machine until nothing is pending. `asked` holds the questions so far, the latest first.
The answer is how the run ended and the questions in order. -/
def run (accessor : Accessor) (pending : List (Query × Step)) (results : List DocSet)
    (asked : List Lookup) : Halt × List Lookup :=
  match pending with
  | [] =>
    match results with
    | documents :: below => (.done documents below, asked.reverse)
    | [] => (.underflow, asked.reverse)
  | (q, step) :: rest =>
    match _h : visit accessor rest results q step with
    | .halt reason => (reason, asked.reverse)
    | .continue pending results lookups => run accessor pending results (lookups ++ asked)
termination_by totalCost pending
decreasing_by exact totalCost_visit_lt _h

/-- The answer to a query. A stack that ran out would show as an answer without documents, which
never happens. -/
def answer (accessor : Accessor) (q : Query) : Answer :=
  match run accessor [(q, .enter)] [] [] with
  | (.done documents _, lookups) => ⟨.ok documents, lookups⟩
  | (.failed error, lookups) => ⟨.error error, lookups⟩
  | (.underflow, lookups) => ⟨.ok .empty, lookups⟩

end BooleanRetrieval.Machine
