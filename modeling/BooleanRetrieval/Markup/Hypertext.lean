import BooleanRetrieval.Markup.HypertextPart
import BooleanRetrieval.Markup.Nesting
import BooleanRetrieval.Markup.TextPieces
import BooleanRetrieval.Text.Blank
import BooleanRetrieval.Text.Lines

/-!
# Text of hypertext

The visible text of a hypertext document is the text between the ends of its elements and its comments.
Text within scripts, styles, templates and the glosses of ruby annotations is not visible. The pieces
are trimmed, and those that are not blank are joined by single spaces. A tag that opens or closes
nothing leaves no trace, so that the text around it is one piece.
-/

set_option autoImplicit false

namespace BooleanRetrieval.Markup

/-- Elements whose text is not visible. -/
def hiddenElements : List String := ["script", "style", "template", "rt", "rp"]

/-- A document being read: the open elements with the innermost first, its text, how many opening tags
of elements that a document has once were passed over, and whether its head and its body have begun. -/
structure HypertextState where
  openElements : List String
  text : TextPieces
  passedOver : Nat
  headSeen : Bool
  bodySeen : Bool

namespace HypertextState

/-- Nothing has been read. -/
def start : HypertextState := ⟨[], .empty, 0, false, false⟩

/-- Whether text is visible inside the open elements. -/
def shows (s : HypertextState) : Bool :=
  ! s.openElements.any hiddenElements.contains

/-- Finish the piece of text being read. -/
def cut (s : HypertextState) : HypertextState :=
  { s with text := s.text.cut s.shows }

/-- Begin an element. -/
def enter (s : HypertextState) (name : String) : HypertextState :=
  let s := s.cut
  { s with
    openElements := name :: s.openElements
    headSeen := s.headSeen || name = "head" || name = "body"
    bodySeen := s.bodySeen || name = "body" }

/-- End the innermost elements, as many as given. -/
def leave (s : HypertextState) (count : Nat) : HypertextState :=
  if count = 0 then s
  else
    let s := s.cut
    { s with openElements := s.openElements.drop count }

/-- End the elements that an opening tag ends. -/
def leaveEnded (s : HypertextState) (name : String) : HypertextState :=
  s.leave (s.openElements.takeWhile (endedBy name).contains).length

/-- The elements that are there before a tag although the document does not open them, the outermost
first. -/
def implied (s : HypertextState) (name : String) : List String :=
  let root := if s.openElements.isEmpty then ["html"] else []
  if name = "html" then []
  else if name = "head" || name = "body" then root
  else if s.openElements.length ≤ 1 && headContent.contains name then
    if s.headSeen then root else root ++ ["head"]
  else if bodySubstitutes.contains name || s.bodySeen
      || s.openElements.any fun element => element = "head" || element = "body" then root
  else root ++ ["body"]

/-- Begin the elements that are there before a tag. -/
def enterImplied (s : HypertextState) (name : String) : HypertextState :=
  (s.implied name).foldl enter s

/-- How many times an opening tag is out of place: an element that a document has once is already open,
or is not where it has to be. -/
def misplaced (s : HypertextState) (name : String) : Nat :=
  if name = "html" then if s.openElements.isEmpty then 0 else 1
  else if name = "head" then if s.openElements.length = 1 then 0 else 1
  else if name = "body" then s.openElements.count "body"
  else 0

/-- Whether text that is not blank belongs only into the body: no element is open that could hold it. -/
def needsBody (s : HypertextState) : Bool :=
  match s.openElements.head? with
  | none => true
  | some element => element = "html" || element = "head"

/-- Add text to the piece being read. -/
def addText (s : HypertextState) (cs : List Char) : HypertextState :=
  { s with text := s.text.add cs }

/-- Read text. The first text that is not blank begins the body. -/
def readText (s : HypertextState) (cs : List Char) : HypertextState :=
  if s.needsBody && cs.any (! isMarkupSpace ·) then
    let s := s.addText (cs.takeWhile isMarkupSpace)
    let s := if s.openElements.head? = some "head" then s.leaveEnded "p" else s
    (s.enterImplied "p").addText (cs.dropWhile isMarkupSpace)
  else s.addText cs

/-- Read an opening tag. One that is out of place opens nothing; if it closes itself, it closes the
element that it stands in. -/
def readOpening (s : HypertextState) (name : String) (closed : Bool) : HypertextState :=
  let s := (s.leaveEnded name).enterImplied name
  let misplaced := s.misplaced name
  let s :=
    if misplaced = 0 then s.enter name else { s with passedOver := s.passedOver + misplaced }
  if closed then s.leave 1 else s

/-- Whether a closing tag closes an open element: it must not lie within one that resists more. -/
def closes (s : HypertextState) (name : String) : Bool :=
  s.openElements.contains name
    && (s.openElements.takeWhile (· ≠ name)).all fun inner => closingRank inner ≤ closingRank name

/-- Read a closing tag. One that answers an opening tag that was passed over is passed over as well. -/
def readClosing (s : HypertextState) (name : String) : HypertextState :=
  if 0 < s.passedOver && frameElements.contains name then
    { s with passedOver := s.passedOver - 1 }
  else if s.closes name then s.leave ((s.openElements.takeWhile (· ≠ name)).length + 1)
  else s

/-- Read one more part. -/
def push (s : HypertextState) : HypertextPart → HypertextState
  | .text cs => s.readText cs
  | .aside => s.cut
  | .opening name closed => s.readOpening name closed
  | .closing name => s.readClosing name

end HypertextState

/-- The visible pieces of text of a document. -/
def hypertextPieces (document : List Char) : List (List Char) :=
  let s := (hypertextParts document).foldl HypertextState.push .start
  s.text.close s.shows

/-- The pieces that are not blank, trimmed. -/
def trimmedPieces (pieces : List (List Char)) : List (List Char) :=
  (pieces.map Text.trim).filter (! ·.isEmpty)

/-- The visible text of a document. -/
def visibleText (document : List Char) : List Char :=
  let document := if document.head? = some '\uFEFF' then document.drop 1 else document
  [' '].intercalate (trimmedPieces (hypertextPieces (Text.unifyBreaks document)))

end BooleanRetrieval.Markup
