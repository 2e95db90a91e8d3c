import BooleanRetrieval.Query.Parser

/-!
# The grammar of queries

A derivation of the grammar is a phrase. It has the tokens it derives and the tree it stands for, in
which conjunctions and disjunctions fold to the left, negations nest to the right, terms are
normalized and parentheses leave no trace. Apart from its tree, a phrase is true or false once each
of its raw terms is.

The grammar is unambiguous: two phrases of one category that are followed by no further operand
derive the same tokens only if they are the same phrase (`Phrase.eq_of_tokens_append`).
-/

set_option autoImplicit false

namespace BooleanRetrieval

/-- The categories of the grammar. What repeats in a rule is a category of its own. -/
inductive Category where
  | disjunction | disjuncts | conjunction | conjuncts | negation | factor

/-- The derivations of the grammar, by the category they derive. -/
inductive Phrase : Category → Type where
  /-- `Disjunction ::= Conjunction (Or Conjunction)*` -/
  | disjunction (first : Phrase .conjunction) (more : Phrase .disjuncts) : Phrase .disjunction
  /-- `(Or Conjunction)*` ends. -/
  | noDisjunct : Phrase .disjuncts
  /-- `(Or Conjunction)*` goes on with `Or Conjunction`. -/
  | disjunct (next : Phrase .conjunction) (more : Phrase .disjuncts) : Phrase .disjuncts
  /-- `Conjunction ::= Negation (And Negation)*` -/
  | conjunction (first : Phrase .negation) (more : Phrase .conjuncts) : Phrase .conjunction
  /-- `(And Negation)*` ends. -/
  | noConjunct : Phrase .conjuncts
  /-- `(And Negation)*` goes on with `And Negation`. -/
  | conjunct (next : Phrase .negation) (more : Phrase .conjuncts) : Phrase .conjuncts
  /-- `Negation ::= Not Negation` -/
  | not (operand : Phrase .negation) : Phrase .negation
  /-- `Negation ::= Factor` -/
  | plain (body : Phrase .factor) : Phrase .negation
  /-- `Factor ::= Term` -/
  | term (raw : String) : Phrase .factor
  /-- `Factor ::= LParen Disjunction RParen` -/
  | group (body : Phrase .disjunction) : Phrase .factor

/-- What a phrase of a category stands for: a repetition for the trees of its operands, any other
phrase for one tree. -/
@[reducible] def Category.Tree : Category → Type
  | .disjuncts | .conjuncts => List Query
  | .disjunction | .conjunction | .negation | .factor => Query

namespace Phrase

/-- The tokens that a phrase derives. -/
def tokens : {c : Category} → Phrase c → List Token
  | _, .disjunction first more => first.tokens ++ more.tokens
  | _, .noDisjunct => []
  | _, .disjunct next more => .or :: (next.tokens ++ more.tokens)
  | _, .conjunction first more => first.tokens ++ more.tokens
  | _, .noConjunct => []
  | _, .conjunct next more => .and :: (next.tokens ++ more.tokens)
  | _, .not operand => .not :: operand.tokens
  | _, .plain body => body.tokens
  | _, .term raw => [.term raw]
  | _, .group body => .lparen :: (body.tokens ++ [.rparen])

/-- `Query ::= Disjunction EndOfQuery`: the tokens of a whole query. -/
def sentence (p : Phrase .disjunction) : List Token :=
  p.tokens ++ [.endOfQuery]

/-- What a phrase stands for, with its terms normalized by the given function. -/
def tree (normalize : String → String) : {c : Category} → Phrase c → c.Tree
  | _, .disjunction first more =>
    List.foldl Query.or (first.tree normalize) (more.tree normalize)
  | _, .noDisjunct => []
  | _, .disjunct next more => next.tree normalize :: more.tree normalize
  | _, .conjunction first more =>
    List.foldl Query.and (first.tree normalize) (more.tree normalize)
  | _, .noConjunct => []
  | _, .conjunct next more => next.tree normalize :: more.tree normalize
  | _, .not operand => Query.not (operand.tree normalize)
  | _, .plain body => body.tree normalize
  | _, .term raw => Query.term (normalize raw)
  | _, .group body => body.tree normalize

/-- Whether a phrase is true when the raw terms are that satisfy a predicate. A repetition of
disjuncts is true if one of them is, a repetition of conjuncts if all are. -/
def Holds (isTrue : String → Prop) : {c : Category} → Phrase c → Prop
  | _, .disjunction first more => first.Holds isTrue ∨ more.Holds isTrue
  | _, .noDisjunct => False
  | _, .disjunct next more => next.Holds isTrue ∨ more.Holds isTrue
  | _, .conjunction first more => first.Holds isTrue ∧ more.Holds isTrue
  | _, .noConjunct => True
  | _, .conjunct next more => next.Holds isTrue ∧ more.Holds isTrue
  | _, .not operand => ¬ operand.Holds isTrue
  | _, .plain body => body.Holds isTrue
  | _, .term raw => isTrue raw
  | _, .group body => body.Holds isTrue

/-- The end of the query is no token of a phrase. -/
theorem endOfQuery_notMem_tokens {c : Category} (p : Phrase c) : .endOfQuery ∉ p.tokens := by
  induction p with
  | disjunction first more ihf ihm => simp [tokens, ihf, ihm]
  | noDisjunct => simp [tokens]
  | disjunct next more ihn ihm => simp [tokens, ihn, ihm]
  | conjunction first more ihf ihm => simp [tokens, ihf, ihm]
  | noConjunct => simp [tokens]
  | conjunct next more ihn ihm => simp [tokens, ihn, ihm]
  | not operand ih => simp [tokens, ih]
  | plain body ih => exact ih
  | term raw => simp [tokens]
  | group body ih => simp [tokens, ih]

end Phrase

/-! ## Unambiguity -/

/-- The signs that a phrase of a category takes in when they follow it. -/
def Category.signs : Category → List Token
  | .disjunction | .disjuncts => [.or, .and]
  | .conjunction | .conjuncts => [.and]
  | .negation | .factor => []

/-- The tokens behind a phrase of a category do not begin with a sign it would take in. -/
def Category.EndsBefore (c : Category) (rest : List Token) : Prop :=
  ∀ sign ∈ c.signs, rest.head? ≠ some sign

/-- Tokens behind a phrase do not go on with one of the signs it takes in. -/
theorem Category.EndsBefore.ne_cons {c : Category} {sign : Token} {rest : List Token}
    (h : c.EndsBefore rest) (hsign : sign ∈ c.signs) (tail : List Token) : rest ≠ sign :: tail := by
  rintro rfl
  exact h sign hsign rfl

/-- A negation takes in no sign, so it ends before everything. -/
theorem endsBefore_negation (rest : List Token) : Category.EndsBefore .negation rest := by
  simp [Category.EndsBefore, Category.signs]

/-- What ends a disjunction ends its first conjunction, whether or not further disjuncts stand
between. -/
theorem endsBefore_disjuncts {rest : List Token} (more : Phrase .disjuncts)
    (h : Category.EndsBefore .disjunction rest) :
    Category.EndsBefore .conjunction (more.tokens ++ rest) := by
  intro sign hsign
  obtain rfl := List.mem_singleton.mp hsign
  cases more with
  | noDisjunct => exact h .and (by simp [Category.signs])
  | disjunct next more => simp [Phrase.tokens]

/-- What ends a group ends everything in it. -/
theorem endsBefore_rparen (c : Category) (rest : List Token) :
    c.EndsBefore (.rparen :: rest) := by
  intro sign hsign
  cases c <;> simp [Category.signs] at hsign <;> rcases hsign with rfl | rfl <;> simp

namespace Phrase

/-- A factor does not begin with a negation sign. -/
theorem tokens_factor_ne_not_cons (body : Phrase .factor) (rest tail : List Token) :
    body.tokens ++ rest ≠ .not :: tail := by
  cases body with
  | term raw => simp [tokens]
  | group body => simp [tokens]

/-- The grammar is unambiguous, whatever follows the phrases as long as neither takes it in. -/
theorem eq_of_tokens_append {c : Category} (p : Phrase c) : ∀ (q : Phrase c) (r s : List Token),
    c.EndsBefore r → c.EndsBefore s → p.tokens ++ r = q.tokens ++ s → p = q ∧ r = s := by
  -- neither rest begins with a sign that would go on with its phrase, so both phrases end together
  induction p with
  | disjunction first more ihf ihm =>
    intro q r s hr hs h
    cases q with
    | disjunction first' more' =>
      simp only [tokens, List.append_assoc] at h
      obtain ⟨rfl, hmore⟩ := ihf first' _ _ (endsBefore_disjuncts more hr)
        (endsBefore_disjuncts more' hs) h
      obtain ⟨rfl, hrest⟩ := ihm more' r s hr hs hmore
      exact ⟨rfl, hrest⟩
  | noDisjunct =>
    intro q r s hr hs h
    cases q with
    | noDisjunct => exact ⟨rfl, h⟩
    | disjunct next' more' =>
      exact absurd h (hr.ne_cons (by simp [Category.signs]) _)
  | disjunct next more ihn ihm =>
    intro q r s hr hs h
    cases q with
    | noDisjunct =>
      exact absurd h.symm (hs.ne_cons (by simp [Category.signs]) _)
    | disjunct next' more' =>
      simp only [tokens, List.cons_append, List.append_assoc, List.cons.injEq, true_and] at h
      obtain ⟨rfl, hmore⟩ := ihn next' _ _ (endsBefore_disjuncts more hr)
        (endsBefore_disjuncts more' hs) h
      obtain ⟨rfl, hrest⟩ := ihm more' r s hr hs hmore
      exact ⟨rfl, hrest⟩
  | conjunction first more ihf ihm =>
    intro q r s hr hs h
    cases q with
    | conjunction first' more' =>
      simp only [tokens, List.append_assoc] at h
      obtain ⟨rfl, hmore⟩ := ihf first' _ _ (endsBefore_negation _) (endsBefore_negation _) h
      obtain ⟨rfl, hrest⟩ := ihm more' r s hr hs hmore
      exact ⟨rfl, hrest⟩
  | noConjunct =>
    intro q r s hr hs h
    cases q with
    | noConjunct => exact ⟨rfl, h⟩
    | conjunct next' more' =>
      exact absurd h (hr.ne_cons (by simp [Category.signs]) _)
  | conjunct next more ihn ihm =>
    intro q r s hr hs h
    cases q with
    | noConjunct =>
      exact absurd h.symm (hs.ne_cons (by simp [Category.signs]) _)
    | conjunct next' more' =>
      simp only [tokens, List.cons_append, List.append_assoc, List.cons.injEq, true_and] at h
      obtain ⟨rfl, hmore⟩ := ihn next' _ _ (endsBefore_negation _) (endsBefore_negation _) h
      obtain ⟨rfl, hrest⟩ := ihm more' r s hr hs hmore
      exact ⟨rfl, hrest⟩
  | not operand ih =>
    intro q r s hr hs h
    cases q with
    | not operand' =>
      obtain ⟨rfl, hrest⟩ := ih operand' r s hr hs (List.cons.inj h).2
      exact ⟨rfl, hrest⟩
    | plain body' => exact absurd h.symm (tokens_factor_ne_not_cons body' s _)
  | plain body ih =>
    intro q r s hr hs h
    cases q with
    | not operand' => exact absurd h (tokens_factor_ne_not_cons body r _)
    | plain body' =>
      obtain ⟨rfl, hrest⟩ := ih body' r s hr hs h
      exact ⟨rfl, hrest⟩
  | term raw =>
    intro q r s hr hs h
    cases q with
    | term raw' =>
      simp only [tokens, List.cons_append, List.nil_append, List.cons.injEq, Token.term.injEq] at h
      exact ⟨by rw [h.1], h.2⟩
    | group body' => simp [tokens] at h
  | group body ih =>
    intro q r s hr hs h
    cases q with
    | term raw' => simp [tokens] at h
    | group body' =>
      simp only [tokens, List.cons_append, List.append_assoc, List.nil_append, List.cons.injEq,
        true_and] at h
      obtain ⟨rfl, hrest⟩ := ih body' _ _ (endsBefore_rparen _ r) (endsBefore_rparen _ s) h
      exact ⟨rfl, (List.cons.inj hrest).2⟩

/-- A whole query has one derivation at most. -/
theorem sentence_injective : Function.Injective sentence := by
  intro p q h
  exact (eq_of_tokens_append p q _ _ (by simp [Category.EndsBefore, Category.signs])
    (by simp [Category.EndsBefore, Category.signs]) h).1

end Phrase

end BooleanRetrieval
