import BooleanRetrieval.Markup.Strict.Reference

/-!
# Opening tags of strict markup

An opening tag has a name and attributes, whose values are quoted. A tag that breaks a rule is read as
far as it goes. What follows then is text.
-/

set_option autoImplicit false

namespace BooleanRetrieval.Markup.Strict

/-- Read the value of an attribute up to a quotation mark. `strictNames` tells whether each name that is
not known breaks a rule. The value tells whether the quotation mark was reached, and the number bounds
how many steps are made. -/
def scanValue (strictNames : Bool) (quote : Char) : Nat → Bool → List Char → Scanned Bool
  | 0, sound, cs => ⟨false, sound, cs⟩
  | _ + 1, _, [] => ⟨false, false, []⟩
  | fuel + 1, sound, c :: rest =>
    if c = quote then ⟨true, sound, rest⟩
    else if c = '&' then
      let r := scanReference rest
      match r.value with
      | .number 0 => ⟨false, false, r.rest⟩
      | .name name =>
        let known := (knownNames.lookup name).isSome || !strictNames
        scanValue strictNames quote fuel (sound && known) r.rest
      | _ => scanValue strictNames quote fuel (sound && r.sound) r.rest
    else if c = '<' || (c.toNat < 0x20 && !isBlank c) then ⟨false, false, c :: rest⟩
    else scanValue strictNames quote fuel (sound && isSound c) rest

/-- Whether a tag ends here. -/
def endsTag (cs : List Char) : Bool :=
  match cs with
  | '>' :: _ => true
  | '/' :: '>' :: _ => true
  | _ => false

/-- Read what stands behind the name of an attribute. The value tells whether the attribute has one. -/
def scanAssignment (strictNames : Bool) (cs : List Char) : Scanned Bool :=
  match skipBlanks cs with
  | '=' :: rest =>
    match skipBlanks rest with
    | '"' :: rest => scanValue strictNames '"' (rest.length + 1) true rest
    | '\x27' :: rest => scanValue strictNames '\x27' (rest.length + 1) true rest
    | rest => ⟨false, false, rest⟩
  | rest => ⟨false, false, rest⟩

/-- Read attributes, given the names of those before. Without a name where one must be there is nothing.
The number bounds how many attributes there are. -/
def scanAttributes (strictNames : Bool) :
    Nat → List String → Bool → List Char → Option (Scanned Unit)
  | 0, _, sound, cs => some ⟨(), sound, cs⟩
  | fuel + 1, names, sound, cs =>
    if endsTag cs || cs.head?.all fun c => c.toNat < 0x20 then some ⟨(), sound, cs⟩
    else
      match takeQualified? cs with
      | none => none
      | some (name, rest) =>
        let r := scanAssignment strictNames rest
        let sound := sound && r.sound && !(r.value && names.contains name.full)
        let names := if r.value then name.full :: names else names
        if endsTag r.rest then some ⟨(), sound, r.rest⟩
        else if r.rest.head?.any isBlank then
          scanAttributes strictNames fuel names sound (skipBlanks r.rest)
        else some ⟨(), false, r.rest⟩

/-- How an opening tag ends. -/
inductive TagEnd where
  | opened
  | closed
  /-- The tag breaks off, and no closing tag answers it. -/
  | broken
  deriving DecidableEq, Repr

/-- An opening tag that was read. -/
inductive OpeningTag where
  | element (name : QualifiedName) (ending : TagEnd)
  /-- There is no name behind the less-than sign. -/
  | unnamed
  /-- There is something else where an attribute must be. -/
  | garbled
  deriving DecidableEq, Repr

/-- Read an opening tag behind its less-than sign. -/
def scanOpening (strictNames : Bool) (cs : List Char) : Scanned OpeningTag :=
  match takeQualified? cs with
  | none => ⟨.unnamed, false, cs⟩
  | some (name, rest) =>
    let rest := skipBlanks rest
    match scanAttributes strictNames (rest.length + 1) [] true rest with
    | none => ⟨.garbled, false, rest⟩
    | some r =>
      match r.rest with
      | '>' :: rest => ⟨.element name .opened, r.sound, rest⟩
      | '/' :: '>' :: rest => ⟨.element name .closed, r.sound, rest⟩
      | rest => ⟨.element name .broken, false, rest⟩

/-- Read a closing tag behind its slash. The value is its name as it is written. A tag without an end
breaks a rule. -/
def scanClosing (cs : List Char) : Scanned (List Char) :=
  let (name, rest) := (takeName? cs).getD ([], cs)
  match skipBlanks rest with
  | '>' :: rest => ⟨name, true, rest⟩
  | rest => ⟨name, false, rest⟩

/-- Whether a greater-than sign stands outside of quotation marks. `quote` is the open one. -/
def hasTagEnd (quote : Option Char) : List Char → Bool
  | [] => false
  | c :: rest =>
    match quote with
    | some q => hasTagEnd (if c = q then none else quote) rest
    | none => c = '>' || hasTagEnd (if c = '"' || c = '\x27' then some c else none) rest

end BooleanRetrieval.Markup.Strict
