import BooleanRetrieval.Decimal.Shortest
import BooleanRetrieval.NestingLimits
import BooleanRetrieval.Text.Quoted

/-!
# JSON values

The values that a JSON text denotes. Whole numbers are kept exactly, other numbers as they were
written. The members of an object stand in the order of their names' first appearance.
-/

set_option autoImplicit false

namespace BooleanRetrieval

/-- A JSON value, with the three constants beyond the standard that readers accept. -/
inductive Json where
  | null
  | bool (b : Bool)
  | int (n : Int)
  | real (d : Decimal)
  | nan
  | infinity (negative : Bool)
  | string (s : String)
  | array (items : List Json)
  | object (members : List (String × Json))

namespace Json

/-- The kind of a value. -/
def kindName : Json → String
  | null => "NoneType"
  | bool _ => "bool"
  | int _ => "int"
  | real _ | nan | infinity _ => "float"
  | string _ => "str"
  | array _ => "list"
  | object _ => "dict"

mutual

/-- The text of a value in messages. -/
def describe : Json → String
  | null => "None"
  | bool b => if b then "True" else "False"
  | int n => toString n
  | real d => d.text
  | nan => "nan"
  | infinity negative => if negative then "-inf" else "inf"
  | string s => Text.quoted s
  | array items => "[" ++ ", ".intercalate (describeItems items) ++ "]"
  | object members => "\x7b" ++ ", ".intercalate (describeMembers members) ++ "\x7d"

/-- The texts of the items of an array. -/
def describeItems : List Json → List String
  | [] => []
  | item :: rest => describe item :: describeItems rest

/-- The texts of the members of an object. -/
def describeMembers : List (String × Json) → List String
  | [] => []
  | (name, value) :: rest => (Text.quoted name ++ ": " ++ describe value) :: describeMembers rest

end

mutual

/-- The number of levels of a value: one more than its deepest part has. -/
def levels : Json → Nat
  | array items => itemLevels items + 1
  | object members => memberLevels members + 1
  | _ => 1

/-- The most levels that items have. -/
def itemLevels : List Json → Nat
  | [] => 0
  | item :: rest => max item.levels (itemLevels rest)

/-- The most levels that the names and values of members have. -/
def memberLevels : List (String × Json) → Nat
  | [] => 0
  | (_, value) :: rest => max value.levels (memberLevels rest)

end

/-- The text of a value in messages, if it has no more levels than may be shown. -/
def describeWithin (limit : Nat) (value : Json) : Except NestingError String :=
  if value.levels ≤ limit then .ok value.describe else .error .value

end Json

end BooleanRetrieval
