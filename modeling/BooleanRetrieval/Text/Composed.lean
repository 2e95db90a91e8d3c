import BooleanRetrieval.Text.CombiningClass
import BooleanRetrieval.Text.Composition

/-!
# Composed text

Two texts that look the same may be spelled with different characters: a letter with an accent is
one character or two. The composed form of a text is its one canonical spelling. It is reached in
three steps: every character is decomposed, marks are put in the order of their combining classes,
and each starter then takes up the marks it forms a composite with.
-/

set_option autoImplicit false

namespace BooleanRetrieval.Text

/-- Put a character before a text in canonical order, behind the leading marks of lower class. -/
def insertMark (c : Char) : List Char → List Char
  | [] => [c]
  | d :: rest =>
    if 0 < combiningClass d && combiningClass d < combiningClass c then d :: insertMark c rest
    else c :: d :: rest

/-- The text with each run of marks in stable order of combining class. -/
def canonicalOrder (cs : List Char) : List Char :=
  cs.foldr insertMark []

/-- The fully decomposed text in canonical order. -/
def decomposed (cs : List Char) : List Char :=
  canonicalOrder (cs.flatMap decompose)

/-- A text being composed: the finished characters, the starter that may still take up marks, and
the marks behind it that it did not take up. Both lists hold the latest character first. -/
structure Composing where
  finished : List Char
  starter : Option Char
  marks : List Char

namespace Composing

/-- Nothing has been read. -/
def empty : Composing := ⟨[], none, []⟩

/-- All characters so far, the latest first. -/
def flush (s : Composing) : List Char :=
  s.marks ++ (s.starter.toList ++ s.finished)

/-- Whether the pending marks keep a character of the given class from the starter: one of them has
the same class or a higher one, or the character is a starter itself. -/
def blocks (s : Composing) (combining : Nat) : Bool :=
  match s.marks with
  | [] => false
  | mark :: _ => combining ≤ combiningClass mark

/-- The composite of the starter and a character that is not blocked from it. -/
def composite? (s : Composing) (c : Char) : Option Char :=
  if s.blocks (combiningClass c) then none else s.starter.bind (compose? · c)

/-- Read one more character. -/
def push (s : Composing) (c : Char) : Composing :=
  match s.composite? c with
  | some composite => { s with starter := some composite }
  | none =>
    if combiningClass c = 0 then ⟨s.flush, some c, []⟩
    else { s with marks := c :: s.marks }

end Composing

/-- The text with each starter joined to the marks it forms a composite with. -/
def recompose (cs : List Char) : List Char :=
  (cs.foldl Composing.push .empty).flush.reverse

/-- The composed form of a text. -/
def composed (cs : List Char) : List Char :=
  recompose (decomposed cs)

end BooleanRetrieval.Text
