/-!
# Nesting limits

Reading or writing a nested value takes nested calls, and calls may only nest so deep. How much room there is
for a value depends on how deep the calls nest already, so that the limits differ from place to place.
-/

set_option autoImplicit false

namespace BooleanRetrieval

/-- How deep values may nest. -/
structure NestingLimits where
  /-- How deep arrays and objects may nest in a JSON text that is read. -/
  json : Nat := 980
  /-- How many levels a JSON value may have that is shown in a message. -/
  shown : Nat := 976
  /-- How many levels a query tree may have that is written. -/
  query : Nat := 331
  deriving DecidableEq, Repr

/-- Something could not be written, since it nests too deeply. -/
inductive NestingError where
  | value
  | query
  deriving DecidableEq, Repr

/-- The text of a nesting error. -/
def NestingError.message : NestingError → String
  | value => "maximum recursion depth exceeded while getting the repr of an object"
  | query => "maximum recursion depth exceeded"

end BooleanRetrieval
