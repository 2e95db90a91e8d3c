import BooleanRetrieval.Markup.Reference
import BooleanRetrieval.Markup.Tag

/-!
# Parts of hypertext

A hypertext document is a sequence of text, tags and comments. What an element holds may be read in
another way than the rest: without tags, without references, or up to the end of the document.
-/

set_option autoImplicit false

namespace BooleanRetrieval.Markup

/-- A part of a hypertext document. -/
inductive HypertextPart where
  | text (cs : List Char)
  | opening (name : String) (closed : Bool)
  | closing (name : String)
  /-- A comment, a declaration or an instruction. -/
  | aside
  deriving DecidableEq, Repr

/-- Elements whose content is text without tags but with references. -/
def plainElements : List String := ["title", "textarea"]

/-- Elements whose content is text without tags and references. -/
def verbatimElements : List String := ["style", "xmp", "iframe", "noembed", "noframes"]

/-- Elements without content. -/
def emptyElements : List String :=
  ["area", "base", "basefont", "br", "col", "frame", "hr", "img", "input", "isindex", "link", "meta",
   "param"]

/-- The name of a tag in small letters. -/
def tagName (cs : List Char) : String :=
  .ofList ((cs.takeWhile (! endsTagName ·)).map Char.toLower)

/-- What follows a comment, given what stands behind its opening mark. -/
def skipCommentBody : List Char → List Char
  | [] => []
  | c :: rest =>
    if ['-', '-', '>'].isPrefixOf (c :: rest) then rest.drop 2
    else if ['-', '-', '!', '>'].isPrefixOf (c :: rest) then rest.drop 3
    else skipCommentBody rest

/-- What follows a comment, behind its opening mark. A comment may end at once. -/
def skipComment (cs : List Char) : List Char :=
  match cs with
  | '>' :: rest => rest
  | '-' :: '>' :: rest => rest
  | cs => skipCommentBody cs

/-- What follows a declaration or an instruction. -/
def skipAside (cs : List Char) : List Char :=
  (dropThrough ['>'] cs).getD []

/-- Whether a mark and then the name of an element stand at the beginning. -/
def namesHere (mark : List Char) (name : String) (cs : List Char) : Bool :=
  let rest := cs.drop mark.length
  mark.isPrefixOf cs && (rest.take name.length).map Char.toLower = name.toList
    && (rest.drop name.length).head?.any endsTagName

/-- Whether the closing tag of an element stands at the beginning. -/
def closesHere (name : String) (cs : List Char) : Bool :=
  namesHere ['<', '/'] name cs

/-- The text up to the closing tag of an element, and the rest from there on. -/
def spanVerbatim (name : String) (done : List Char) : List Char → List Char × List Char
  | [] => (done.reverse, [])
  | c :: rest =>
    if closesHere name (c :: rest) then (done.reverse, c :: rest)
    else spanVerbatim name (c :: done) rest

/-- How far a script is inside a comment mark. -/
inductive ScriptState where
  | plain
  | commented
  /-- A script inside a comment mark inside a script. -/
  | nested
  deriving DecidableEq, Repr

/-- The state of a script behind the first character of a rest, or nothing if the script ends there. -/
def ScriptState.next? (state : ScriptState) (cs : List Char) : Option ScriptState :=
  let ends := closesHere "script" cs
  match state with
  | plain => if ends then none else some (if "<!--".toList.isPrefixOf cs then commented else plain)
  | commented =>
    if ends then none
    else if namesHere ['<'] "script" cs then some nested
    else some (if "-->".toList.isPrefixOf cs then plain else commented)
  | nested =>
    if ends then some commented
    else some (if "-->".toList.isPrefixOf cs then plain else nested)

/-- The text of a script, and the rest from its closing tag on. -/
def spanScript (state : ScriptState) (done : List Char) : List Char → List Char × List Char
  | [] => (done.reverse, [])
  | c :: rest =>
    match state.next? (c :: rest) with
    | none => (done.reverse, c :: rest)
    | some state => spanScript state (c :: done) rest

/-- The text that an element begins with because of its name, and the rest. -/
def spanContent (name : String) (cs : List Char) : List Char × List Char :=
  if name = "plaintext" then (cs, [])
  else if name = "script" then spanScript .plain [] cs
  else if plainElements.contains name then
    let (text, rest) := spanVerbatim name [] cs
    (hypertextText text, rest)
  else if verbatimElements.contains name then spanVerbatim name [] cs
  else ([], cs)

/-- The parts that an opening tag gives, the latest first, and what follows them. -/
def openingParts (cs : List Char) : List HypertextPart × List Char :=
  let name := tagName cs
  match skipTag .between (cs.dropWhile (! endsTagName ·)) with
  | none => ([], [])
  | some (closed, rest) =>
    if closed || emptyElements.contains name then ([.opening name true], rest)
    else
      let (text, rest) := spanContent name rest
      ([.text text, .opening name false], rest)

/-- The parts that a mark beginning with a less-than sign gives, the latest first, and what follows
them. -/
def markParts (cs : List Char) : List HypertextPart × List Char :=
  match cs with
  | '!' :: '-' :: '-' :: rest => ([.aside], skipComment rest)
  | '!' :: rest => ([.aside], skipAside rest)
  | '?' :: rest => ([.aside], skipAside rest)
  | '/' :: '>' :: rest => ([], rest)
  | '/' :: c :: rest =>
    if c.isAlpha then
      match skipTag .between (rest.dropWhile (! endsTagName ·)) with
      | some (_, after) => ([.closing (tagName (c :: rest))], after)
      | none => ([], [])
    else ([.aside], skipAside (c :: rest))
  | c :: rest => if c.isAlpha then openingParts (c :: rest) else ([.text ['<']], c :: rest)
  | [] => ([.text ['<']], [])

/-- The parts of the rest of a document. `done` holds the parts so far, the latest first, and the
number bounds how many steps are made. -/
def collectParts : Nat → List HypertextPart → List Char → List HypertextPart
  | 0, done, _ => done.reverse
  | _ + 1, done, [] => done.reverse
  | fuel + 1, done, '<' :: rest =>
    let (parts, rest) := markParts rest
    collectParts fuel (parts ++ done) rest
  | fuel + 1, done, c :: rest =>
    let text := (c :: rest).takeWhile (· ≠ '<')
    collectParts fuel (.text (hypertextText text) :: done) ((c :: rest).dropWhile (· ≠ '<'))

/-- The parts of a document. A null character in it is no character. -/
def hypertextParts (document : List Char) : List HypertextPart :=
  collectParts (document.length + 1) []
    (document.map fun c => if c = '\x00' then '\uFFFD' else c)

end BooleanRetrieval.Markup
