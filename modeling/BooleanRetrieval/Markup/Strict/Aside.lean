import BooleanRetrieval.Markup.Strict.Basic

/-!
# Comments, instructions and literal text

Besides elements and text, strict markup has comments, instructions to programs, and sections of literal
text. Each reader here starts behind the opening mark. One that does not find the closing mark breaks a
rule, gives nothing, and what it has not read is read as something else.
-/

set_option autoImplicit false

namespace BooleanRetrieval.Markup.Strict

/-- Whether a character stands for itself and is ASCII. -/
def isPlain (c : Char) : Bool :=
  (0x20 ≤ c.toNat && c.toNat ≤ 0x7F) || c = '\t' || c = '\n'

/-- Read a comment that has had a character that is not plain, given its last two characters. Here
hyphens in front of the closing mark do not disturb. The value tells whether the comment ends. -/
def scanCommentTail (sound : Bool) (before last : Char) : List Char → Scanned Bool
  | [] => ⟨false, false, []⟩
  | c :: rest =>
    let hyphens := before = '-' && last = '-'
    if c = '>' && hyphens then ⟨true, sound, rest⟩
    else if isSound c || c = undecodable then
      scanCommentTail (sound && c ≠ undecodable && !hyphens) last c rest
    else ⟨false, false, c :: rest⟩

/-- Read a comment from its first character that is not plain. -/
def scanCommentMiddle (sound : Bool) (cs : List Char) : Scanned Bool :=
  match cs with
  | [] => ⟨false, false, []⟩
  | c :: rest =>
    if !(isSound c || c = undecodable) then ⟨false, false, c :: rest⟩
    else
      match rest with
      | [] => ⟨false, false, []⟩
      | d :: rest =>
        if !(isSound d || d = undecodable) then ⟨false, false, d :: rest⟩
        else scanCommentTail (sound && c ≠ undecodable && d ≠ undecodable) c d rest

/-- Read a comment. As long as it is plain, two hyphens that do not end it are passed over together. -/
def scanComment (sound : Bool) : List Char → Scanned Bool
  | [] => ⟨false, false, []⟩
  | '-' :: '-' :: '>' :: rest => ⟨true, sound, rest⟩
  | '-' :: '-' :: rest => scanComment false rest
  | '\r' :: '\n' :: rest => scanComment sound rest
  | c :: rest => if isPlain c then scanComment sound rest else scanCommentMiddle sound (c :: rest)

/-- Read an instruction from behind its target. -/
def scanInstructionBody (sound : Bool) : List Char → Scanned Bool
  | [] => ⟨false, false, []⟩
  | '?' :: '>' :: rest => ⟨true, sound, rest⟩
  | c :: rest =>
    if isSound c || c = undecodable then scanInstructionBody (sound && c ≠ undecodable) rest
    else ⟨false, false, c :: rest⟩

/-- Read an instruction. Its target may not be the one that is reserved. -/
def scanInstruction (cs : List Char) : Scanned Bool :=
  match takeName? cs with
  | none => ⟨false, false, cs⟩
  | some (target, rest) =>
    let sound := target.map Char.toLower ≠ ['x', 'm', 'l']
    match rest with
    | '?' :: '>' :: rest => ⟨true, sound, rest⟩
    | rest => scanInstructionBody (sound && rest.head?.any isBlank) (skipBlanks rest)

/-- Read literal text, given its characters so far with the latest first. -/
def scanLiteral (sound : Bool) (done : List Char) : List Char → Scanned (Option (List Char))
  | [] => ⟨none, false, []⟩
  | ']' :: ']' :: '>' :: rest => ⟨some done.reverse, sound, rest⟩
  | c :: rest =>
    if c = undecodable then scanLiteral false ('\uFFFD' :: done) rest
    else if isSound c then scanLiteral sound (c :: done) rest
    else ⟨none, false, c :: rest⟩

/-- Text that was read: its characters, the latest first. -/
abbrev ScannedText : Type := Scanned (List Char)

/-- Read text from its first character that is not plain. `done` holds the characters so far, the latest
first. A character that is not allowed is passed over and ends the text. -/
def scanTextTail (sound : Bool) (done : List Char) : List Char → ScannedText
  | [] => ⟨done, sound, []⟩
  | c :: rest =>
    if c = '<' || c = '&' then ⟨done, sound, c :: rest⟩
    else if c = undecodable then scanTextTail false ('\uFFFD' :: done) rest
    else if isSound c then scanTextTail (sound && !startsWith "]]>" (c :: rest)) (c :: done) rest
    else ⟨done, false, rest⟩

/-- Read text up to a less-than sign or an ampersand. `partly` tells that more characters may come.
`done` holds the characters that are text for certain, and `pending` those since, both with the latest
first: as long as text is plain, the mark that ends literal text is not allowed in it and takes the
pending characters away. -/
def scanText (partly : Bool) (done pending : List Char) : List Char → ScannedText
  | [] => ⟨pending ++ done, true, []⟩
  | '\r' :: '\n' :: rest => scanText partly (pending ++ done) ['\n'] rest
  | ']' :: rest =>
    if partly && (rest = [] || rest = [']']) then ⟨pending ++ done, true, ']' :: rest⟩
    else if startsWith "]>" rest then ⟨done, false, rest⟩
    else scanText partly done (']' :: pending) rest
  | c :: rest =>
    if c = '<' || c = '&' then ⟨pending ++ done, true, c :: rest⟩
    else if isPlain c then scanText partly done (c :: pending) rest
    else scanTextTail true (pending ++ done) (c :: rest)

end BooleanRetrieval.Markup.Strict
