/-!
# Columns

A text in a column is followed by as many spaces as it lacks characters of the column's width.
-/

set_option autoImplicit false

namespace BooleanRetrieval.Text

/-- A text followed by spaces up to a width. A longer text is kept as it is. -/
def padded (width : Nat) (text : String) : String :=
  text ++ String.ofList (List.replicate (width - text.length) ' ')

end BooleanRetrieval.Text
