import BooleanRetrieval.NestingLimits
import BooleanRetrieval.Text.Quoted

/-!
# Query trees

A boolean query is a tree of terms under conjunction, disjunction and negation. A tree may also hold
something that is not a query at all where a query should stand; it is kept as the text it shows, and
evaluation refuses it when it gets there.
-/

set_option autoImplicit false

namespace BooleanRetrieval

/-- A query tree. -/
inductive Query where
  /-- The documents that have a term. -/
  | term (t : String)
  /-- The documents that match both operands. -/
  | and (left right : Query)
  /-- The documents that match one of the operands. -/
  | or (left right : Query)
  /-- The known documents that do not match the operand. -/
  | not (operand : Query)
  /-- A text in the place of a query. -/
  | foreign (text : String)
  deriving DecidableEq, Repr, Inhabited

/-- Why a query tree could not be put together. -/
inductive NodeError where
  | noTerm
  | noConjunct
  | noDisjunct
  | noNegand
  deriving DecidableEq, Repr

/-- The text of an error in putting a tree together. -/
def NodeError.message : NodeError → String
  | noTerm => "term is required"
  | noConjunct => "AndNode needs both operands"
  | noDisjunct => "OrNode needs both operands"
  | noNegand => "NotNode needs an operand"

namespace Query

/-- The tree of a term that may be missing. -/
def ofTerm? : Option String → Except NodeError Query
  | some t => .ok (term t)
  | none => .error .noTerm

/-- The conjunction of two trees that may be missing. -/
def and? : Option Query → Option Query → Except NodeError Query
  | some left, some right => .ok (and left right)
  | _, _ => .error .noConjunct

/-- The disjunction of two trees that may be missing. -/
def or? : Option Query → Option Query → Except NodeError Query
  | some left, some right => .ok (or left right)
  | _, _ => .error .noDisjunct

/-- The negation of a tree that may be missing. -/
def not? : Option Query → Except NodeError Query
  | some operand => .ok (not operand)
  | none => .error .noNegand

/-- A text under the given number of negations. -/
def negated (count : Nat) (text : String) : String :=
  String.join (List.replicate count "NOT(") ++ text ++ String.join (List.replicate count ")")

/-- The text of a tree that stands under the given number of negations. Of the tree no more levels than `limit`
may be written, and a chain of negations is a single level, since it is written in one go. -/
def renderUnder (limit negations : Nat) : Query → Except NestingError String
  | term t =>
    match limit with
    | 0 => .error .query
    | _ + 1 => .ok (negated negations ("TERM(" ++ t ++ ")"))
  | and left right =>
    match limit with
    | 0 => .error .query
    | limit + 1 => do
      let l ← renderUnder limit 0 left
      let r ← renderUnder limit 0 right
      .ok (negated negations ("(" ++ l ++ " AND " ++ r ++ ")"))
  | or left right =>
    match limit with
    | 0 => .error .query
    | limit + 1 => do
      let l ← renderUnder limit 0 left
      let r ← renderUnder limit 0 right
      .ok (negated negations ("(" ++ l ++ " OR " ++ r ++ ")"))
  | not operand =>
    match negations, limit with
    | 0, 0 => .error .query
    | 0, limit + 1 => renderUnder limit 1 operand
    | negations + 1, limit => renderUnder limit (negations + 2) operand
  | foreign text => .ok (negated negations text)

/-- The text of a tree, if it has no more levels than may be written. -/
def render (limit : Nat) (q : Query) : Except NestingError String :=
  renderUnder limit 0 q

/-- The leaf that evaluation reaches first. -/
def firstLeaf : Query → Query
  | and left _ => firstLeaf left
  | or left _ => firstLeaf left
  | not operand => firstLeaf operand
  | q => q

end Query

end BooleanRetrieval
