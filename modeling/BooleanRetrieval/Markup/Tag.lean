/-!
# Tags

What hypertext and strict markup have in common: names, and attributes whose quoted values may hold the
mark that ends a tag.
-/

set_option autoImplicit false

namespace BooleanRetrieval.Markup

/-- The blank characters of markup. -/
def isMarkupSpace (c : Char) : Bool :=
  c = ' ' || c = '\t' || c = '\n' || c = '\r' || c = '\x0c'

/-- Whether a character ends the name of a tag. -/
def endsTagName (c : Char) : Bool :=
  isMarkupSpace c || c = '/' || c = '>'

/-- Where the reader of a tag stands. -/
inductive TagState where
  | between
  | slash
  | inName
  | afterName
  | afterEquals
  | doubleQuoted
  | singleQuoted
  | unquoted
  deriving DecidableEq, Repr

/-- The state behind a character that may begin an attribute. -/
def TagState.begin (c : Char) : TagState :=
  if isMarkupSpace c then .between else if c = '/' then .slash else .inName

/-- The state behind a character of a tag that does not end it. -/
def TagState.next : TagState → Char → TagState
  | .between, c => begin c
  | .slash, c => begin c
  | .inName, c =>
    if c = '=' then .afterEquals else if isMarkupSpace c then .afterName
    else if c = '/' then .slash else .inName
  | .afterName, c => if c = '=' then .afterEquals else if isMarkupSpace c then .afterName else begin c
  | .afterEquals, c =>
    if isMarkupSpace c then .afterEquals
    else if c = '"' then .doubleQuoted
    else if c = '\x27' then .singleQuoted
    else .unquoted
  | .doubleQuoted, c => if c = '"' then .between else .doubleQuoted
  | .singleQuoted, c => if c = '\x27' then .between else .singleQuoted
  | .unquoted, c => if isMarkupSpace c then .between else .unquoted

/-- Whether a state is inside quotation marks. -/
def TagState.isQuoted : TagState → Bool
  | .doubleQuoted | .singleQuoted => true
  | _ => false

/-- Skip the rest of a tag: whether it closes itself, and what follows it. A tag that does not end
gives nothing. -/
def skipTag (state : TagState) : List Char → Option (Bool × List Char)
  | [] => none
  | c :: rest =>
    if c = '>' && !state.isQuoted then some (state = .slash, rest) else skipTag (state.next c) rest

/-- What follows the first place where a mark stands, or nothing if it stands nowhere. -/
def dropThrough (mark : List Char) : List Char → Option (List Char)
  | [] => none
  | c :: rest =>
    if mark.isPrefixOf (c :: rest) then some ((c :: rest).drop mark.length) else dropThrough mark rest

end BooleanRetrieval.Markup
