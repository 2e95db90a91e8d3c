import BooleanRetrieval.Query.Basic
import BooleanRetrieval.Query.Token
import BooleanRetrieval.Text.Term

/-!
# Reading queries

The grammar, from the loosest to the tightest binding:

    Query       ::= Disjunction EndOfQuery
    Disjunction ::= Conjunction (Or Conjunction)*
    Conjunction ::= Negation (And Negation)*
    Negation    ::= Not* Factor
    Factor      ::= Term | LParen Disjunction RParen

Conjunctions and disjunctions fold to the left. Each term is normalized while it is read, and one that
normalizes to nothing is refused. Only parentheses nest, and they may nest to a limit.

A reader takes tokens from the front of a list and returns what it read with the tokens it left. The
lengths of those lists are carried along, so that repetition is seen to end.
-/

set_option autoImplicit false

namespace BooleanRetrieval

/-- Why a query was refused. -/
inductive ParseError where
  /-- The query has no token. -/
  | empty
  /-- A term normalizes to nothing. -/
  | invalidTerm (raw : String)
  /-- A token stands where only others may: the kinds that may stand there, the token, and the text
  of the tokens from there on. -/
  | unexpected (expected : List TokenKind) (found : Token) (lookahead : String)
  /-- Parentheses nest beyond the limit. -/
  | nesting
  deriving DecidableEq, Repr

/-- The text of a refusal. -/
def ParseError.message : ParseError → String
  | empty => "Query cannot be empty."
  | invalidTerm raw => "Invalid term: '" ++ raw ++ "' normalizes to an empty string."
  | unexpected expected found lookahead =>
    let spelling := match found.value? with
      | some raw => " ('" ++ raw ++ "')"
      | none => ""
    "Syntax error: expected " ++ " or ".intercalate (expected.map TokenKind.name) ++ " but found "
      ++ found.kind.name ++ spelling ++ " near '" ++ lookahead ++ "'."
  | nesting => "Query is nested too deeply."

namespace Parser

/-- How many tokens the context of an unexpected token shows. -/
def lookaheadTokens : Nat := 3

/-- How many parentheses may be open at a time. -/
def nestingLimit : Nat := 246

/-- The refusal of the first of the given tokens. -/
def refuse (expected : List TokenKind) (tokens : List Token) : ParseError :=
  .unexpected expected (tokens.headD .endOfQuery)
    (" ".intercalate ((tokens.take lookaheadTokens).map Token.text))

/-- A tree and the tokens behind it, which are fewer than the given ones. -/
abbrev Read (tokens : List Token) : Type :=
  { read : Query × List Token // read.2.length < tokens.length }

/-- A reader of trees. -/
abbrev Reader : Type :=
  (tokens : List Token) → Except ParseError (Read tokens)

/-- Read a term, or a parenthesis with what the inner reader reads. -/
def factor (normalize : String → String) (inner : Reader) : Reader
  | .term raw :: rest =>
    let t := normalize raw
    if Text.isBlankText t then .error (.invalidTerm raw)
    else .ok ⟨(.term t, rest), Nat.lt_succ_self _⟩
  | .lparen :: rest => do
    let ⟨(q, rest), hq⟩ ← inner rest
    match rest, hq with
    | .rparen :: rest, hq =>
      .ok ⟨(q, rest), by simp only [List.length_cons] at hq ⊢; omega⟩
    | rest, _ => .error (refuse [.rparen] rest)
  | tokens => .error (refuse [.term, .lparen] tokens)

/-- The negation of a tree, the given number of times. -/
def negate (count : Nat) (q : Query) : Query :=
  count.repeat .not q

/-- Read negation signs and then what the operand's reader reads. -/
def negation (operand : Reader) : Reader := fun tokens => do
  let ⟨(q, rest), hq⟩ ← operand (tokens.dropWhile (· == .not))
  .ok ⟨(negate (tokens.takeWhile (· == .not)).length q, rest),
    Nat.lt_of_lt_of_le hq (List.dropWhile_suffix (· == Token.not)).length_le⟩

/-- Read further operands behind a tree as long as the sign stands before them. -/
def chain (sign : Token) (join : Query → Query → Query) (operand : Reader) (left : Query)
    (tokens : List Token) :
    Except ParseError { read : Query × List Token // read.2.length ≤ tokens.length } :=
  match tokens with
  | [] => .ok ⟨(left, []), Nat.le_refl _⟩
  | token :: rest =>
    if token = sign then
      match operand rest with
      | .error e => .error e
      | .ok ⟨(right, after), hafter⟩ =>
        match chain sign join operand (join left right) after with
        | .error e => .error e
        | .ok ⟨read, hread⟩ =>
          .ok ⟨read, Nat.le_trans hread (Nat.le_of_lt (Nat.lt_succ_of_lt hafter))⟩
    else .ok ⟨(left, token :: rest), Nat.le_refl _⟩
termination_by tokens.length
decreasing_by exact Nat.lt_succ_of_lt hafter

/-- Read operands with a sign between them. -/
def level (sign : Token) (join : Query → Query → Query) (operand : Reader) : Reader :=
  fun tokens => do
    let ⟨(left, rest), hrest⟩ ← operand tokens
    let ⟨read, hread⟩ ← chain sign join operand left rest
    .ok ⟨read, Nat.lt_of_le_of_lt hread hrest⟩

/-- Read a disjunction, given the reader of what stands in parentheses. -/
def expression (normalize : String → String) (inner : Reader) : Reader :=
  level .or .or (level .and .and (negation (factor normalize inner)))

/-- Read a disjunction in which at most the given number of parentheses are open at a time. -/
def disjunction (normalize : String → String) : Nat → Reader
  | 0 => expression normalize fun _ => .error .nesting
  | depth + 1 => expression normalize (disjunction normalize depth)

/-- The tree of a token list that ends with the end of the query. -/
def parseTokens (normalize : String → String) (limit : Nat) (tokens : List Token) :
    Except ParseError Query :=
  if tokens.headD .endOfQuery = .endOfQuery then .error .empty
  else do
    let ⟨(q, rest), _⟩ ← disjunction normalize limit tokens
    if rest.headD .endOfQuery = .endOfQuery then .ok q
    else .error (refuse [.endOfQuery] rest)

/-- The tree of a query whose terms are normalized by the given function. -/
def parse (normalize : String → String) (query : String) : Except ParseError Query :=
  parseTokens normalize nestingLimit (Token.scan query)

end Parser

end BooleanRetrieval
