import BooleanRetrieval.Markup.Strict.Aside
import BooleanRetrieval.Markup.Strict.Tag

/-!
# Before the outermost element

A strict document may begin with a declaration of its version, and may declare its type. Both tell
whether a name that is not known breaks a rule: it does unless something that is not read could declare
it. A declaration of a name itself cannot be followed, and neither can what is no declaration.
-/

set_option autoImplicit false

namespace BooleanRetrieval.Markup.Strict

/-- Read an equals sign and an opening quotation mark. The value is the mark. -/
def scanAssigned (cs : List Char) : Scanned (Option Char) :=
  match skipBlanks cs with
  | '=' :: rest =>
    match skipBlanks rest with
    | '"' :: rest => ⟨some '"', true, rest⟩
    | '\x27' :: rest => ⟨some '\x27', true, rest⟩
    | rest => ⟨none, false, rest⟩
  | rest => ⟨none, false, rest⟩

/-- Read a closing quotation mark. -/
def scanQuote (quote : Char) (cs : List Char) : Scanned Unit :=
  match cs with
  | c :: rest => if c = quote then ⟨(), true, rest⟩ else ⟨(), false, cs⟩
  | [] => ⟨(), false, []⟩

/-- Read a part of a declaration: a keyword and a quoted value, which `scanBody` reads. The value is
nothing without the keyword or its value. -/
def scanField {α : Type} (keyword : String) (scanBody : List Char → Scanned (Option α))
    (cs : List Char) : Scanned (Option α) :=
  if startsWith keyword cs then
    let opening := scanAssigned (cs.drop keyword.length)
    match opening.value with
    | none => ⟨none, false, opening.rest⟩
    | some quote =>
      let body := scanBody opening.rest
      let closing := scanQuote quote body.rest
      ⟨body.value, body.sound && closing.sound, closing.rest⟩
  else ⟨none, true, cs⟩

/-- Read the number of a version. Its value tells whether it is a version of the first kind. -/
def scanVersion (cs : List Char) : Scanned (Option Bool) :=
  match cs with
  | c :: rest =>
    if c.isDigit then
      match rest with
      | '.' :: rest => ⟨some (c = '1'), true, rest.dropWhile Char.isDigit⟩
      | rest => ⟨none, true, rest⟩
    else ⟨none, true, cs⟩
  | [] => ⟨none, true, []⟩

/-- Read the name of an encoding. -/
def scanEncodingName (cs : List Char) : Scanned (Option Unit) :=
  if cs.head?.any Char.isAlpha then
    ⟨some (), true, cs.dropWhile fun c => c.isAlphanum || c = '.' || c = '_' || c = '-'⟩
  else ⟨none, false, cs⟩

/-- Read whether a document stands alone. -/
def scanStandalone (cs : List Char) : Scanned (Option Bool) :=
  if startsWith "no" cs then ⟨some false, true, cs.drop 2⟩
  else if startsWith "yes" cs then ⟨some true, true, cs.drop 3⟩
  else ⟨none, false, cs⟩

/-- Read the end of a declaration. -/
def scanDeclarationEnd (cs : List Char) : Scanned Unit :=
  match skipBlanks cs with
  | '?' :: '>' :: rest => ⟨(), true, rest⟩
  | rest => ⟨(), false, (rest.dropWhile (· ≠ '>')).drop 1⟩

/-- Read the declaration of the version behind its opening mark and a blank. The value tells whether the
document stands alone. Between its parts there are blanks. -/
def scanDeclaration (cs : List Char) : Scanned Bool :=
  let version := scanField "version" scanVersion (skipBlanks cs)
  let versionSound := version.sound && version.value = some true
  if startsWith "?>" version.rest then ⟨false, versionSound, version.rest.drop 2⟩
  else
    let encoding := scanField "encoding" scanEncodingName (skipBlanks version.rest)
    let encodingSound := encoding.sound && version.rest.head?.any isBlank
    if encoding.value.isSome && startsWith "?>" encoding.rest then
      ⟨false, versionSound && encodingSound, encoding.rest.drop 2⟩
    else
      let spaced := encoding.value.isNone || encoding.rest.head?.any isBlank
      let standalone := scanField "standalone" scanStandalone (skipBlanks encoding.rest)
      let ending := scanDeclarationEnd standalone.rest
      ⟨standalone.value = some true,
        versionSound && encodingSound && spaced && standalone.sound && ending.sound, ending.rest⟩

/-- Read a quoted literal of certain characters. The value tells whether there is one. -/
def scanQuoted (allowed : Char → Bool) (cs : List Char) : Scanned Bool :=
  match cs with
  | quote :: rest =>
    if quote = '"' || quote = '\x27' then
      let inside (c : Char) : Bool := c ≠ quote && allowed c
      match rest.dropWhile inside with
      | c :: behind => if c = quote then ⟨true, true, behind⟩ else ⟨false, false, c :: behind⟩
      | [] => ⟨false, false, []⟩
    else ⟨false, false, cs⟩
  | [] => ⟨false, false, []⟩

/-- Whether a character may stand in a public identifier. -/
def isPublicChar (c : Char) : Bool :=
  c.isAlphanum || " \r\n-\x27()+,./:=?;!*#@$_%".toList.contains c

/-- Read where the type of a document is declared, if it is declared elsewhere. The value tells whether it
is. -/
def scanExternal (cs : List Char) : Scanned Bool :=
  if startsWith "SYSTEM" cs then
    let rest := cs.drop 6
    let system := scanQuoted isSound (skipBlanks rest)
    ⟨system.value, system.sound && rest.head?.any isBlank, system.rest⟩
  else if startsWith "PUBLIC" cs then
    let rest := cs.drop 6
    let name := scanQuoted isPublicChar (skipBlanks rest)
    let system := scanQuoted isSound (skipBlanks name.rest)
    ⟨name.value || system.value,
      name.sound && system.sound && rest.head?.any isBlank && name.rest.head?.any isBlank,
      system.rest⟩
  else ⟨false, true, cs⟩

/-- Read the declaration of a type behind its opening mark, up to its end or to an opening bracket. The
value tells whether the type is declared elsewhere. -/
def scanDoctype (cs : List Char) : Scanned Bool :=
  let (name?, behindName) := match takeName? (skipBlanks cs) with
    | some (name, rest) => (some name, rest)
    | none => (none, skipBlanks cs)
  let external := scanExternal (skipBlanks behindName)
  let rest := skipBlanks external.rest
  let ended := rest.head? = some '[' || rest.head? = some '>'
  ⟨external.value, name?.isSome && cs.head?.any isBlank && external.sound && ended, rest⟩

/-- The end of declarations in brackets. -/
inductive SubsetEnd where
  /-- The characters end first. -/
  | missing
  /-- There is something that cannot be followed. -/
  | refused
  /-- The brackets end. `undeclared` tells whether a declaration refers to others elsewhere. -/
  | reached (undeclared : Bool)
  deriving DecidableEq, Repr

/-- What follows a declaration, whose quotation marks may hold the mark that ends it. -/
def skipDeclaration (quote : Option Char) : List Char → List Char
  | [] => []
  | c :: rest =>
    match quote with
    | some q => skipDeclaration (if c = q then none else quote) rest
    | none =>
      if c = '>' then rest
      else skipDeclaration (if c = '"' || c = '\x27' then some c else none) rest

/-- The declarations that are passed over. -/
def plainDeclarations : List String := ["<!ELEMENT", "<!ATTLIST", "<!NOTATION"]

/-- Read a reference to declarations elsewhere, behind its percent sign. The value tells whether it is
one. -/
def scanElsewhere (cs : List Char) : Scanned Bool :=
  match takeName? cs with
  | some (_, ';' :: rest) => ⟨true, true, rest⟩
  | some (_, rest) => ⟨false, false, rest⟩
  | none => ⟨false, false, cs⟩

/-- Read the end of a type declaration behind its closing bracket. -/
def scanSubsetEnd (undeclared sound : Bool) (cs : List Char) : Scanned SubsetEnd :=
  match skipBlanks cs with
  | [] => ⟨.missing, sound, []⟩
  | c :: rest =>
    if sound && c ≠ '>' then ⟨.reached undeclared, false, c :: rest⟩
    else ⟨.reached undeclared, sound, rest⟩

/-- Read declarations in brackets, behind the opening one. The number bounds how many there are. -/
def scanSubset (standalone : Bool) :
    Nat → (undeclared sound : Bool) → List Char → Scanned SubsetEnd
  | 0, _, sound, cs => ⟨.missing, sound, cs⟩
  | fuel + 1, undeclared, sound, cs =>
    match skipBlanks cs with
    | [] => ⟨.missing, sound, []⟩
    | ']' :: rest => scanSubsetEnd undeclared sound rest
    | '%' :: rest =>
      let r := scanElsewhere rest
      let sound := sound && r.sound && !(r.value && standalone)
      scanSubset standalone fuel (undeclared || r.value) sound r.rest
    | '<' :: '?' :: rest =>
      let r := scanInstruction rest
      scanSubset standalone fuel undeclared (sound && r.sound) r.rest
    | '<' :: '!' :: '-' :: '-' :: rest =>
      let r := scanComment true rest
      scanSubset standalone fuel undeclared (sound && r.sound) r.rest
    | cs =>
      if plainDeclarations.any (startsWith · cs) then
        scanSubset standalone fuel undeclared sound (skipDeclaration none cs)
      else ⟨.refused, false, cs⟩

end BooleanRetrieval.Markup.Strict
