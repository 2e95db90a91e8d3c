/-!
# Text in pieces

The text of a document comes in pieces, which end at the marks between them. A piece is kept if it is
shown and not empty.
-/

set_option autoImplicit false

namespace BooleanRetrieval.Markup

/-- A text being collected in pieces: the characters of the piece being read and the finished pieces,
both with the latest first. -/
structure TextPieces where
  piece : List Char
  pieces : List (List Char)

namespace TextPieces

/-- Nothing has been read. -/
def empty : TextPieces := ⟨[], []⟩

/-- Add text to the piece being read. -/
def add (p : TextPieces) (text : List Char) : TextPieces :=
  { p with piece := text.reverse ++ p.piece }

/-- Finish the piece; it is kept only if it is shown. -/
def cut (p : TextPieces) (shown : Bool) : TextPieces :=
  ⟨[], if shown && !p.piece.isEmpty then p.piece.reverse :: p.pieces else p.pieces⟩

/-- The finished pieces in order. -/
def close (p : TextPieces) (shown : Bool) : List (List Char) :=
  (p.cut shown).pieces.reverse

end TextPieces

end BooleanRetrieval.Markup
