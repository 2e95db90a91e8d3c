import BooleanRetrieval.Text.Blank
import BooleanRetrieval.Text.LetterCase

/-!
# Query tokens

A query is cut into parentheses and runs of characters that are neither blank nor parentheses. A run
that reads `AND`, `OR` or `NOT` in upper case is an operator; every other run is a term and keeps its
spelling. The end of the query is a token of its own.
-/

set_option autoImplicit false

namespace BooleanRetrieval

open Text (isBlank)

/-- The kinds of query tokens. -/
inductive TokenKind where
  | term | and | or | not | lparen | rparen | endOfQuery
  deriving DecidableEq, Repr

/-- The name of a kind of token. -/
def TokenKind.name : TokenKind → String
  | term => "Term"
  | and => "And"
  | or => "Or"
  | not => "Not"
  | lparen => "LParen"
  | rparen => "RParen"
  | endOfQuery => "EndOfQuery"

/-- A query token. Only terms carry text, the spelling in the query. -/
inductive Token where
  | term (raw : String)
  | and | or | not | lparen | rparen | endOfQuery
  deriving DecidableEq, Repr

namespace Token

/-- The kind of a token. -/
def kind : Token → TokenKind
  | term _ => .term
  | and => .and
  | or => .or
  | not => .not
  | lparen => .lparen
  | rparen => .rparen
  | endOfQuery => .endOfQuery

/-- The spelling that a token carries. -/
def value? : Token → Option String
  | term raw => some raw
  | _ => none

/-- The name of a token: its kind, for a term with its spelling. -/
def describe (t : Token) : String :=
  match t.value? with
  | some raw => t.kind.name ++ "(" ++ raw ++ ")"
  | none => t.kind.name

/-- The short text of a token: the spelling of a term, else the name of its kind. -/
def text (t : Token) : String :=
  t.value?.getD t.kind.name

/-- The token of a run of characters that are neither blank nor parentheses. -/
def ofRun (run : List Char) : Token :=
  let upper := Text.upper run
  if upper = ['A', 'N', 'D'] then and
  else if upper = ['O', 'R'] then or
  else if upper = ['N', 'O', 'T'] then not
  else term (.ofList run)

/-- The tokens so far with the token of the run that ends here, if there is one. Both lists hold the
latest first. -/
def closeRun (run : List Char) (tokens : List Token) : List Token :=
  if run.isEmpty then tokens else ofRun run.reverse :: tokens

/-- The tokens of the rest of a query. `run` holds the characters of the run being read and `tokens`
the finished tokens, both with the latest first. -/
def collect (run : List Char) (tokens : List Token) : List Char → List Token
  | [] => (endOfQuery :: closeRun run tokens).reverse
  | c :: rest =>
    if c = '(' then collect [] (lparen :: closeRun run tokens) rest
    else if c = ')' then collect [] (rparen :: closeRun run tokens) rest
    else if isBlank c then collect [] (closeRun run tokens) rest
    else collect (c :: run) tokens rest

/-- The tokens of a query, the last of which is the end of the query. -/
def scan (query : String) : List Token :=
  collect [] [] query.toList

end Token

end BooleanRetrieval
