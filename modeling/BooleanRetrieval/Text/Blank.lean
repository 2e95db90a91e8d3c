import BooleanRetrieval.Text.RangeTree

/-!
# White space

Blank characters are those with the Unicode property White_Space and the four information
separators U+001C to U+001F. The zero-width space and the byte order mark are not blank.
-/

set_option autoImplicit false

namespace BooleanRetrieval.Text

/-- The blank characters. -/
def blankRows : List (Nat × Nat) :=
  [(0x0009, 0x000D), (0x001C, 0x0020), (0x0085, 0x0085), (0x00A0, 0x00A0), (0x1680, 0x1680),
   (0x2000, 0x200A), (0x2028, 0x2029), (0x202F, 0x202F), (0x205F, 0x205F), (0x3000, 0x3000)]

/-- Whether a character is blank. -/
def isBlank (c : Char) : Bool :=
  blankRows.any fun (first, last) => first ≤ c.toNat && c.toNat ≤ last

/-- The text without its leading and trailing blank characters. -/
def trim (cs : List Char) : List Char :=
  ((cs.dropWhile isBlank).reverse.dropWhile isBlank).reverse

/-- Whether a text has no character that is not blank. -/
def allBlank (cs : List Char) : Bool :=
  cs.all isBlank

end BooleanRetrieval.Text
