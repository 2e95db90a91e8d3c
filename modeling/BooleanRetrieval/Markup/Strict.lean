import BooleanRetrieval.Markup.Strict.Aside
import BooleanRetrieval.Markup.Strict.Prolog
import BooleanRetrieval.Markup.Strict.Reference
import BooleanRetrieval.Markup.Strict.Tag
import BooleanRetrieval.Markup.TextPieces

/-!
# Text of strict markup

The text of a strict document is read as far as it goes. A closing tag closes the innermost element
whatever its name, a document may end anywhere, and what follows the outermost element is not read. A
broken rule does not stop the reader, but from then on it takes no reference by name. The content of
elements for binary data is no text.

A document arrives in parts. What cannot be told from the characters that have arrived waits for the
next part, and is read as well as it can be when there are no more.
-/

set_option autoImplicit false

namespace BooleanRetrieval.Markup

open Strict

/-- The element for binary data. -/
def binaryElement : String := "binary"

/-- What a reader of strict markup expects next. -/
inductive StrictPhase where
  | beginning
  /-- The outermost element, and before it perhaps a declaration of the type. -/
  | untyped
  | subset
  | typed
  | outermost
  | content
  | finished
  deriving DecidableEq, Repr

/-- A document being read. -/
structure StrictState where
  phase : StrictPhase
  /-- The elements that closing tags close, the innermost first. -/
  openTags : List QualifiedName
  /-- The elements that the text belongs to, the innermost first. A tag that breaks off begins one that
  no closing tag closes. -/
  ancestors : List String
  text : TextPieces
  /-- Whether no rule was broken. -/
  sound : Bool
  standalone : Bool
  /-- Whether names may be declared where they are not read. -/
  undeclared : Bool

/-- A state and the characters that are to be read. -/
abbrev StrictProgress : Type := StrictState × List Char

namespace StrictState

/-- Nothing has been read. -/
def start : StrictState := ⟨.beginning, [], [], .empty, true, false, false⟩

/-- Whether text belongs to the document inside the open elements. -/
def shows (s : StrictState) : Bool :=
  ! s.ancestors.contains binaryElement

/-- Finish the piece of text being read. -/
def cut (s : StrictState) : StrictState :=
  { s with text := s.text.cut s.shows }

/-- Add text, whose characters are given the latest first, to the piece being read. -/
def addReversed (s : StrictState) (text : List Char) : StrictState :=
  { s with text := { s.text with piece := text ++ s.text.piece } }

/-- Note whether a rule was broken. -/
def note (s : StrictState) (sound : Bool) : StrictState :=
  { s with sound := s.sound && sound }

/-- Read nothing more. -/
def finish (s : StrictState) : StrictState :=
  { s with phase := .finished }

/-- Whether each name that is not known breaks a rule. -/
def strictNames (s : StrictState) : Bool :=
  s.standalone || !s.undeclared

/-- Begin an element. -/
def enter (s : StrictState) (name : String) : StrictState :=
  let s := s.cut
  { s with ancestors := name :: s.ancestors }

/-- End the innermost element of a name with all inside it. -/
def leave (s : StrictState) (name : String) : StrictState :=
  let s := s.cut
  if s.ancestors.contains name then
    { s with ancestors := (s.ancestors.dropWhile (· ≠ name)).drop 1 }
  else s

/-- Go on in the content of an element, or end if the outermost one is closed. -/
def proceed (s : StrictState) : StrictState :=
  { s with phase := if s.openTags.isEmpty then .finished else .content }

/-- Read an opening tag behind its less-than sign. -/
def readOpening (s : StrictState) (cs : List Char) : StrictProgress :=
  let r := scanOpening s.strictNames cs
  let s := s.note r.sound
  match r.value with
  | .unnamed | .garbled => (s.finish, r.rest)
  | .element name .opened =>
    ({ s.enter name.part with openTags := name :: s.openTags }.proceed, r.rest)
  | .element name .closed => (((s.enter name.part).leave name.part).proceed, r.rest)
  | .element name .broken => ((s.enter name.part).proceed, r.rest)

/-- Read a closing tag behind its slash. -/
def readClosing (s : StrictState) (cs : List Char) : StrictProgress :=
  let r := scanClosing cs
  match s.openTags with
  | name :: rest =>
    let answers := r.value = name.full.toList
    (({ s.leave name.part with openTags := rest }.note (r.sound && answers)).proceed, r.rest)
  | [] => (s.finish, r.rest)

/-- Read an instruction or a comment, which ends a piece of text if it is complete. -/
def readAside (s : StrictState) (r : Scanned Bool) : StrictProgress :=
  let s := s.note r.sound
  (if r.value then s.cut else s, r.rest)

/-- Read literal text behind its opening mark. -/
def readLiteral (s : StrictState) (cs : List Char) : StrictProgress :=
  let r := scanLiteral true [] cs
  let s := s.note r.sound
  (match r.value with
    | some text => s.addReversed text.reverse
    | none => s, r.rest)

/-- Read a reference behind its ampersand. -/
def readReference (s : StrictState) (cs : List Char) : StrictProgress :=
  let r := scanReference cs
  let s := s.note r.sound
  match r.value with
  | .nothing => (s, r.rest)
  | .number n => (s.addReversed (numberText n), r.rest)
  | .name name =>
    match knownNames.lookup name with
    | some c => (if s.sound then s.addReversed [c] else s, r.rest)
    | none => (s.note (!s.strictNames), r.rest)

/-- Read text. -/
def readText (s : StrictState) (partly : Bool) (cs : List Char) : StrictProgress :=
  let r := scanText partly [] [] cs
  ((s.addReversed r.value).note r.sound, r.rest)

end StrictState

/-- Whether a text has at least as many bytes as given. -/
def hasBytes : Nat → List Char → Bool
  | 0, _ => true
  | _ + 1, [] => false
  | count + 1, c :: cs => hasBytes (count + 1 - c.utf8Size) cs

/-- So many bytes of text are read even if more text may follow. -/
def textBlock : Nat := 300

/-- The mark that opens a section of literal text. -/
def literalMark : String := "<![CDATA["

/-- The mark that opens the declaration of a type. -/
def doctypeMark : String := "<!DOCTYPE"

/-- Do a step if it need not wait. -/
def unlessWaiting (ready : Bool) (progress : StrictProgress) : Option StrictProgress :=
  if ready then some progress else none

/-- Begin a document. -/
def stepBeginning (last : Bool) (s : StrictState) (cs : List Char) : Option StrictProgress :=
  let s := { s with phase := .untyped }
  let cs := if cs.head? = some '\uFEFF' then cs.drop 1 else cs
  if !last && !hasBytes 4 cs then none
  else if startsWith "<?" cs then
    let progress : StrictProgress :=
      if startsWith "<?xml" cs && (cs.drop 5).head?.any isBlank then
        let r := scanDeclaration (cs.drop 5)
        ({ s with standalone := r.value }.note r.sound, r.rest)
      else (s, cs)
    unlessWaiting (last || mentions ['?', '>'] (cs.drop 2)) progress
  else some (s, cs)

/-- Read the declaration of the type. -/
def stepDoctype (s : StrictState) (cs : List Char) : StrictProgress :=
  let r := scanDoctype (cs.drop doctypeMark.length)
  let s := { s with undeclared := r.value }.note r.sound
  match r.rest with
  | '[' :: rest => ({ s with phase := .subset }, rest)
  | '>' :: rest => ({ s with phase := .typed }, rest)
  | rest => ({ s with phase := .typed }, rest)

/-- Go on before the outermost element. -/
def stepOutside (last : Bool) (s : StrictState) (cs : List Char) : Option StrictProgress :=
  let s' := { s with phase := .outermost }
  match skipBlanks cs with
  | [] => none
  | '<' :: '?' :: rest =>
    unlessWaiting (last || mentions ['?', '>'] rest) (s.readAside (scanInstruction rest))
  | '<' :: '!' :: '-' :: '-' :: rest =>
    unlessWaiting (last || mentions ['-', '-', '>'] rest) (s.readAside (scanComment true rest))
  | ['<'] => unlessWaiting last (s', ['<'])
  | ['<', '!'] => unlessWaiting last (s', ['<', '!'])
  | ['<', '!', '-'] => unlessWaiting last (s', ['<', '!', '-'])
  | '<' :: '!' :: rest =>
    let cs := '<' :: '!' :: rest
    if s.phase = .untyped && rest.head? ≠ some '-' then
      if startsWith doctypeMark cs then
        unlessWaiting (last || hasTagEnd none (cs.drop 1)) (stepDoctype s cs)
      else unlessWaiting (last || hasBytes 9 cs) (s', cs)
    else some (s', cs)
  | cs => some (s', cs)

/-- Read the declarations in brackets. -/
def stepSubset (last : Bool) (s : StrictState) (cs : List Char) : Option StrictProgress :=
  let r := scanSubset s.standalone (cs.length + 1) s.undeclared s.sound cs
  match r.value with
  | .missing => unlessWaiting last (s.finish, [])
  | .refused => some (s.finish, r.rest)
  | .reached undeclared => some ({ s with phase := .typed, undeclared }.note r.sound, r.rest)

/-- Read the opening tag of the outermost element. -/
def stepOutermost (last : Bool) (s : StrictState) (cs : List Char) : Option StrictProgress :=
  match cs with
  | '<' :: rest => unlessWaiting (last || hasTagEnd none rest) (s.readOpening rest)
  | cs => unlessWaiting (last || hasBytes 2 cs) (s.finish, cs)

/-- Go on in the content of an element. -/
def stepContent (last : Bool) (s : StrictState) (cs : List Char) : Option StrictProgress :=
  match cs with
  | [] => none
  | '<' :: '/' :: rest => unlessWaiting (last || rest.contains '>') (s.readClosing rest)
  | '<' :: '?' :: rest =>
    unlessWaiting (last || mentions ['?', '>'] rest) (s.readAside (scanInstruction rest))
  | '<' :: '!' :: '-' :: '-' :: rest =>
    unlessWaiting (last || mentions ['-', '-', '>'] rest) (s.readAside (scanComment true rest))
  | '<' :: '!' :: rest =>
    let cs := '<' :: '!' :: rest
    if startsWith literalMark cs then
      let body := cs.drop literalMark.length
      unlessWaiting (last || mentions [']', ']', '>'] body) (s.readLiteral body)
    else unlessWaiting (hasBytes 9 cs) ((s.note false).finish, rest)
  | '<' :: rest => unlessWaiting (last || hasTagEnd none rest) (s.readOpening rest)
  | '&' :: rest => unlessWaiting (last || rest.contains ';') (s.readReference rest)
  | cs =>
    let ready := last || hasBytes textBlock cs || cs.any fun c => c = '<' || c = '&'
    unlessWaiting ready (s.readText (!last) cs)

/-- Do the next step, or nothing if the reader waits for more characters or has finished. -/
def strictStep (last : Bool) (s : StrictState) (cs : List Char) : Option StrictProgress :=
  match s.phase with
  | .beginning => stepBeginning last s cs
  | .untyped | .typed => stepOutside last s cs
  | .subset => stepSubset last s cs
  | .outermost => stepOutermost last s cs
  | .content => stepContent last s cs
  | .finished => none

/-- Do all steps that can be done. The number bounds how many there are. -/
def readAvailable (last : Bool) : Nat → StrictProgress → StrictProgress
  | 0, progress => progress
  | fuel + 1, progress =>
    match strictStep last progress.1 progress.2 with
    | some progress => readAvailable last fuel progress
    | none => progress

/-- Before the outermost element there are at most so many steps that read no character. -/
def idleSteps : Nat := 8

/-- Read one more part of a document. -/
def readPart (last : Bool) (progress : StrictProgress) (part : List Char) : StrictProgress :=
  let cs := progress.2 ++ part
  readAvailable last (cs.length + idleSteps) (progress.1, cs)

/-- The pieces of text of a document that arrives in parts. `complete` tells whether it has arrived to its
end. -/
def strictPieces (parts : List (List Char)) (complete : Bool) : List (List Char) :=
  let progress := parts.foldl (readPart false) (.start, [])
  let (s, _) := if complete then readPart true progress [] else progress
  s.text.close s.shows

end BooleanRetrieval.Markup
