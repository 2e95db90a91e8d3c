import BooleanRetrieval.Proofs.Query.Grammar

/-!
# Viable prefixes

A token list is a viable prefix if it can be extended to a whole query. To see that a list is not one,
a walk follows its tokens from left to right and keeps two things only: whether an operand or a sign
is due, and how many parentheses are open. A phrase takes the walk from where an operand is due to
where a sign is due at the same depth (`Phrase.walk_tokens`), so that a list on which the walk gets
stuck is no viable prefix (`not_viable_of_walk`).
-/

set_option autoImplicit false

namespace BooleanRetrieval

/-- A token list begins some phrase of a category. -/
def Category.Opens (c : Category) (tokens : List Token) : Prop :=
  ∃ p : Phrase c, tokens <+: p.tokens

/-- A token list can be extended to a whole query, whatever its terms normalize to. -/
def Viable (tokens : List Token) : Prop :=
  ∃ p : Phrase .disjunction, tokens <+: p.sentence

/-- What begins a disjunction can be extended to a query. -/
theorem Category.Opens.viable {tokens : List Token} (h : Category.Opens .disjunction tokens) :
    Viable tokens := by
  obtain ⟨p, hp⟩ := h
  exact ⟨p, hp.trans (List.prefix_append _ _)⟩

/-- The tokens of a query can be extended to a query. -/
theorem viable_sentence (p : Phrase .disjunction) : Viable p.sentence :=
  ⟨p, List.prefix_refl _⟩

/-- The beginning of what can be extended can be extended. -/
theorem Viable.of_extension {front tokens : List Token} (h : Viable tokens)
    (hfront : front <+: tokens) : Viable front := by
  obtain ⟨p, hp⟩ := h
  exact ⟨p, hfront.trans hp⟩

/-! ## Walks -/

/-- What is due in the middle of a query. -/
inductive Position where
  /-- An operand, with the given number of parentheses open. -/
  | operand (depth : Nat)
  /-- A sign or the end of a group or of the query, with the given number of parentheses open. -/
  | sign (depth : Nat)
  /-- Nothing: the query has ended. -/
  | finished
  deriving DecidableEq

namespace Position

/-- Where a token leads; a token that is not due leads nowhere. -/
def next : Position → Token → Option Position
  | .operand depth, .not => some (.operand depth)
  | .operand depth, .lparen => some (.operand (depth + 1))
  | .operand depth, .term _ => some (.sign depth)
  | .sign depth, .and => some (.operand depth)
  | .sign depth, .or => some (.operand depth)
  | .sign (depth + 1), .rparen => some (.sign depth)
  | .sign 0, .endOfQuery => some .finished
  | _, _ => none

/-- Where a list of tokens leads. -/
def walk (start : Position) (tokens : List Token) : Option Position :=
  tokens.foldlM next start

/-- A walk along two parts is a walk along one and then the other. -/
theorem walk_append (start : Position) (front back : List Token) :
    start.walk (front ++ back) = (start.walk front).bind fun position => position.walk back := by
  unfold walk
  rw [List.foldlM_append]
  rfl

/-- A walk begins with a step. -/
theorem walk_cons (start : Position) (token : Token) (tokens : List Token) :
    start.walk (token :: tokens) = (start.next token).bind fun position => position.walk tokens := by
  unfold walk
  rw [List.foldlM_cons]
  rfl

/-- A walk along no token stays where it is. -/
@[simp] theorem walk_nil (start : Position) : start.walk [] = some start := rfl

end Position

/-- Where a phrase of a category begins. -/
def Category.entry (depth : Nat) : Category → Position
  | .disjuncts | .conjuncts => .sign depth
  | .disjunction | .conjunction | .negation | .factor => .operand depth

/-- A phrase leads from where it begins to where a sign is due, at the same depth. -/
theorem Phrase.walk_tokens {c : Category} (p : Phrase c) (depth : Nat) :
    (c.entry depth).walk p.tokens = some (.sign depth) := by
  induction p generalizing depth with
  | disjunction first more ihf ihm =>
    rw [Phrase.tokens, Position.walk_append, Category.entry]
    rw [show (Position.operand depth).walk first.tokens = _ from ihf depth]
    exact ihm depth
  | noDisjunct => rfl
  | disjunct next more ihn ihm =>
    rw [Phrase.tokens, Position.walk_cons, Category.entry]
    simp only [Position.next, Option.bind_some]
    rw [Position.walk_append, show (Position.operand depth).walk next.tokens = _ from ihn depth]
    exact ihm depth
  | conjunction first more ihf ihm =>
    rw [Phrase.tokens, Position.walk_append, Category.entry]
    rw [show (Position.operand depth).walk first.tokens = _ from ihf depth]
    exact ihm depth
  | noConjunct => rfl
  | conjunct next more ihn ihm =>
    rw [Phrase.tokens, Position.walk_cons, Category.entry]
    simp only [Position.next, Option.bind_some]
    rw [Position.walk_append, show (Position.operand depth).walk next.tokens = _ from ihn depth]
    exact ihm depth
  | not operand ih =>
    rw [Phrase.tokens, Position.walk_cons, Category.entry]
    exact ih depth
  | plain body ih => exact ih depth
  | term raw => rfl
  | group body ih =>
    -- inside the group one more parenthesis is open; its end closes it again
    rw [Phrase.tokens, Position.walk_cons, Category.entry]
    simp only [Position.next, Option.bind_some]
    rw [Position.walk_append,
      show (Position.operand (depth + 1)).walk body.tokens = _ from ih (depth + 1)]
    rfl

/-- What ends a disjunction: the end of its group, or of the query if no parenthesis is open. -/
def closer : Nat → Token
  | 0 => .endOfQuery
  | _ + 1 => .rparen

/-- Behind a disjunction, only a sign or what ends the disjunction leads on. -/
theorem Phrase.walk_stuck (p : Phrase .disjunction) (depth : Nat) {rest : List Token}
    (hends : Category.EndsBefore .disjunction rest)
    (hclose : rest.headD .endOfQuery ≠ closer depth) :
    (Position.operand depth).walk (p.tokens ++ [rest.headD .endOfQuery]) = none := by
  have hor : rest.head? ≠ some .or := hends .or (by simp [Category.signs])
  have hand : rest.head? ≠ some .and := hends .and (by simp [Category.signs])
  have hnext : (Position.sign depth).next (rest.headD .endOfQuery) = none := by
    cases rest with
    | nil =>
      cases depth with
      | zero => exact absurd rfl hclose
      | succ depth => rfl
    | cons token tail =>
      cases token with
      | or => exact absurd rfl hor
      | and => exact absurd rfl hand
      | term raw => rfl
      | not => rfl
      | lparen => rfl
      | rparen =>
        cases depth with
        | zero => rfl
        | succ depth => exact absurd rfl hclose
      | endOfQuery =>
        cases depth with
        | zero => exact absurd rfl hclose
        | succ depth => rfl
  rw [Position.walk_append, show (Position.operand depth).walk p.tokens = _ from p.walk_tokens depth,
    Option.bind_some, Position.walk_cons, hnext]
  rfl

/-- A whole query leads to its end. -/
theorem Phrase.walk_sentence (p : Phrase .disjunction) :
    (Position.operand 0).walk p.sentence = some .finished := by
  rw [Phrase.sentence, Position.walk_append,
    show (Position.operand 0).walk p.tokens = _ from p.walk_tokens 0]
  rfl

/-- A list on which the walk gets stuck is no viable prefix. -/
theorem not_viable_of_walk {tokens : List Token}
    (h : (Position.operand 0).walk tokens = none) : ¬ Viable tokens := by
  rintro ⟨p, back, hp⟩
  have hwalk := p.walk_sentence
  rw [← hp, Position.walk_append, h] at hwalk
  cases hwalk

end BooleanRetrieval
