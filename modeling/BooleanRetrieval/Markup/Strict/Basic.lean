/-!
# Characters and names of strict markup

Strict markup may hold only some characters, and names consist of fewer still. What is read at the
beginning of a text gives a value and the rest, and tells whether a rule of the markup was broken on the
way; a broken rule is no reason to stop.
-/

set_option autoImplicit false

namespace BooleanRetrieval.Markup.Strict

/-- What was read at the beginning of a text. -/
structure Scanned (α : Type) where
  value : α
  /-- Whether no rule was broken. -/
  sound : Bool
  rest : List Char

/-- The character that stands for bytes that write none. No text has it, for it is not assigned. -/
def undecodable : Char := '\uFDD0'

/-- Whether strict markup may hold a character. -/
def isAllowed (n : Nat) : Bool :=
  n = 9 || n = 10 || n = 13 || (0x20 ≤ n && n ≤ 0xD7FF) || (0xE000 ≤ n && n ≤ 0xFFFD)
    || (0x10000 ≤ n && n ≤ 0x10FFFF)

/-- Whether strict markup may hold a character that was read. -/
def isSound (c : Char) : Bool :=
  isAllowed c.toNat && c ≠ undecodable

/-- The blank characters of strict markup. -/
def isBlank (c : Char) : Bool :=
  c = ' ' || c = '\t' || c = '\n' || c = '\r'

/-- What follows blank characters. -/
def skipBlanks (cs : List Char) : List Char :=
  cs.dropWhile isBlank

/-- Whether a text begins with a mark. -/
def startsWith (mark : String) (cs : List Char) : Bool :=
  mark.toList.isPrefixOf cs

/-- Whether a mark stands anywhere in a text. -/
def mentions (mark : List Char) : List Char → Bool
  | [] => false
  | c :: rest => mark.isPrefixOf (c :: rest) || mentions mark rest

/-- The characters beyond ASCII that may begin a name. -/
def nameStartRanges : List (Nat × Nat) :=
  [(0xC0, 0xD6), (0xD8, 0xF6), (0xF8, 0x2FF), (0x370, 0x37D), (0x37F, 0x1FFF), (0x200C, 0x200D),
   (0x2070, 0x218F), (0x2C00, 0x2FEF), (0x3001, 0xD7FF), (0xF900, 0xFDCF), (0xFDF0, 0xFFFD),
   (0x10000, 0xEFFFF)]

/-- The characters beyond ASCII that may only continue a name. -/
def nameMiddleRanges : List (Nat × Nat) :=
  [(0xB7, 0xB7), (0x300, 0x36F), (0x203F, 0x2040)]

/-- Whether a number lies in one of several ranges. -/
def inRanges (ranges : List (Nat × Nat)) (n : Nat) : Bool :=
  ranges.any fun (low, high) => low ≤ n && n ≤ high

/-- Whether a character may begin a name. -/
def isNameStart (c : Char) : Bool :=
  c.isAlpha || c = '_' || c = ':' || inRanges nameStartRanges c.toNat

/-- Whether a character may continue a name. -/
def isNameChar (c : Char) : Bool :=
  isNameStart c || c.isDigit || c = '-' || c = '.' || inRanges nameMiddleRanges c.toNat

/-- The name at the beginning of a text, and the rest. -/
def takeName? (cs : List Char) : Option (List Char × List Char) :=
  if cs.head?.any isNameStart then some (cs.takeWhile isNameChar, cs.dropWhile isNameChar) else none

/-- The name without colons at the beginning of a text, and the rest. -/
def takePart? (cs : List Char) : Option (List Char × List Char) :=
  if cs.head?.any fun c => isNameStart c && c ≠ ':' then
    let inPart (c : Char) : Bool := isNameChar c && c ≠ ':'
    some (cs.takeWhile inPart, cs.dropWhile inPart)
  else none

/-- The name of an element or an attribute. -/
structure QualifiedName where
  /-- The name as it is written. -/
  full : String
  /-- The name without the namespace. -/
  part : String
  deriving DecidableEq, Repr

/-- The name of an element or an attribute at the beginning of a text, and the rest. A single colon
divides a namespace from a name; in any other place colons belong to the name. -/
def takeQualified? (cs : List Char) : Option (QualifiedName × List Char) :=
  let named (part rest : List Char) : QualifiedName × List Char :=
    (⟨.ofList (cs.take (cs.length - rest.length)), .ofList part⟩, rest)
  match takePart? cs with
  | none => if cs.head? = some ':' then (takeName? cs).map fun (name, rest) => named name rest else none
  | some (first, ':' :: behind) =>
    match takePart? behind with
    | none =>
      let more := behind.takeWhile isNameChar
      some (named (first ++ ':' :: more) (behind.drop more.length))
    | some (second, ':' :: behind) =>
      match takeName? behind with
      | some (third, rest) => some (named (second ++ ':' :: third) rest)
      | none => some (named (second ++ [':']) behind)
    | some (second, rest) => some (named second rest)
  | some (name, rest) => some (named name rest)

end BooleanRetrieval.Markup.Strict
