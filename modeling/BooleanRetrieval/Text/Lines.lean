/-!
# Lines

A text is cut into lines at its line breaks. A carriage return followed by a line feed is one break.
Which other characters break a line depends on the kind of text: files are cut at line feeds and
carriage returns only, running text also at the vertical tab, the form feed, the separators U+001C
to U+001E, the next-line control, and the line and paragraph separators.
-/

set_option autoImplicit false

namespace BooleanRetrieval.Text

/-- A line of a text and the break that ends it, which is empty for an unfinished last line. -/
structure Line where
  content : List Char
  ending : List Char

/-- The lines of the rest of a text. `line` holds the characters of the line being read and `lines`
the finished lines, both with the latest first. -/
def collectLines (isBreak : Char → Bool) (line : List Char) (lines : List Line) :
    List Char → List Line
  | [] => (if line.isEmpty then lines else ⟨line.reverse, []⟩ :: lines).reverse
  | '\r' :: '\n' :: rest =>
    if isBreak '\r' then collectLines isBreak [] (⟨line.reverse, ['\r', '\n']⟩ :: lines) rest
    else collectLines isBreak ('\n' :: '\r' :: line) lines rest
  | c :: rest =>
    if isBreak c then collectLines isBreak [] (⟨line.reverse, [c]⟩ :: lines) rest
    else collectLines isBreak (c :: line) lines rest

/-- Line feeds and carriage returns break the lines of a file. -/
def isFileBreak (c : Char) : Bool :=
  c = '\n' || c = '\r'

/-- The characters that break the lines of running text. -/
def isTextBreak (c : Char) : Bool :=
  isFileBreak c || c = '\x0b' || c = '\x0c' || ('\x1c' ≤ c && c ≤ '\x1e') || c = '\u0085'
    || c = '\u2028' || c = '\u2029'

/-- The lines of a file with their breaks. -/
def fileLines (cs : List Char) : List Line :=
  collectLines isFileBreak [] [] cs

/-- The lines of running text without their breaks. -/
def textLines (cs : List Char) : List (List Char) :=
  (collectLines isTextBreak [] [] cs).map Line.content

/-- The text of a file with every line break written as a line feed. -/
def unifyBreaks (text : List Char) : List Char :=
  (fileLines text).flatMap fun line =>
    if line.ending.isEmpty then line.content else line.content ++ ['\n']

end BooleanRetrieval.Text
