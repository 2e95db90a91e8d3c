import BooleanRetrieval.Json.Value

/-!
# Writing JSON

Values are written over several lines: each member and item on a line of its own, two spaces deeper
than its container. Only quotation marks, backslashes and control characters are escaped.
-/

set_option autoImplicit false

namespace BooleanRetrieval.Json

/-- A character as it is written in a string. -/
def writeChar (c : Char) : List Char :=
  if c = '"' || c = '\\' then ['\\', c]
  else if c = '\n' then ['\\', 'n']
  else if c = '\r' then ['\\', 'r']
  else if c = '\t' then ['\\', 't']
  else if c = '\x08' then ['\\', 'b']
  else if c = '\x0c' then ['\\', 'f']
  else if c < ' ' then '\\' :: 'u' :: Text.hex 4 c.toNat
  else [c]

/-- A string between quotation marks. -/
def writeString (s : String) : List Char :=
  '"' :: (s.toList.flatMap writeChar ++ ['"'])

/-- A line break and the indentation of a depth. -/
def newline (depth : Nat) : List Char :=
  '\n' :: List.replicate (2 * depth) ' '

mutual

/-- The text of a value whose container stands at a depth. -/
def write (depth : Nat) : Json → List Char
  | null => "null".toList
  | bool b => (if b then "true" else "false").toList
  | int n => (toString n).toList
  | real d => d.text.toList
  | nan => "NaN".toList
  | infinity negative => (if negative then "-Infinity" else "Infinity").toList
  | string s => writeString s
  | array [] => ['[', ']']
  | array (item :: rest) =>
    '[' :: (newline (depth + 1) ++ write (depth + 1) item ++ writeItems (depth + 1) rest
      ++ newline depth ++ [']'])
  | object [] => ['\x7b', '\x7d']
  | object ((name, value) :: rest) =>
    '\x7b' :: (newline (depth + 1) ++ writeString name ++ [':', ' '] ++ write (depth + 1) value
      ++ writeMembers (depth + 1) rest ++ newline depth ++ ['\x7d'])

/-- The text of further items, each behind a comma. -/
def writeItems (depth : Nat) : List Json → List Char
  | [] => []
  | item :: rest => ',' :: (newline depth ++ write depth item ++ writeItems depth rest)

/-- The text of further members, each behind a comma. -/
def writeMembers (depth : Nat) : List (String × Json) → List Char
  | [] => []
  | (name, value) :: rest =>
    ',' :: (newline depth ++ writeString name ++ [':', ' '] ++ write depth value
      ++ writeMembers depth rest)

end

/-- The text of a value. -/
def render (value : Json) : List Char :=
  write 0 value

end BooleanRetrieval.Json
