import BooleanRetrieval.Text.Printable

/-!
# Quoted text

In messages a text stands between quotation marks on one line. Single marks are used, or double marks
when the text holds a single mark and no double one. A character that is not printable is written by
its code point.
-/

set_option autoImplicit false

namespace BooleanRetrieval.Text

/-- The digits of a number in base 16, at least `width` of them. -/
def hex (width n : Nat) : List Char :=
  let digits := Nat.toDigits 16 n
  List.replicate (width - digits.length) '0' ++ digits

/-- The quotation mark for a text. -/
def quoteFor (cs : List Char) : Char :=
  if cs.contains '\'' && !cs.contains '"' then '"' else '\''

/-- A character as it is written between quotation marks. -/
def quoteChar (quote c : Char) : List Char :=
  if c = quote || c = '\\' then ['\\', c]
  else if c = '\n' then ['\\', 'n']
  else if c = '\r' then ['\\', 'r']
  else if c = '\t' then ['\\', 't']
  else if isPrintable c then [c]
  else if c.toNat < 0x100 then '\\' :: 'x' :: hex 2 c.toNat
  else if c.toNat < 0x10000 then '\\' :: 'u' :: hex 4 c.toNat
  else '\\' :: 'U' :: hex 8 c.toNat

/-- A text between quotation marks. -/
def quoteChars (cs : List Char) : List Char :=
  let quote := quoteFor cs
  quote :: (cs.flatMap (quoteChar quote) ++ [quote])

/-- A string between quotation marks. -/
def quoted (text : String) : String :=
  .ofList (quoteChars text.toList)

/-- Bytes between quotation marks, with a mark that they are bytes. Those that stand for no character
of ASCII are written by their numbers. -/
def quotedBytes (bytes : List UInt8) : String :=
  let cs := bytes.map fun b => Char.ofNat b.toNat
  let quote := quoteFor cs
  let written := cs.flatMap fun c =>
    if c.toNat < 0x80 then quoteChar quote c else '\\' :: 'x' :: hex 2 c.toNat
  .ofList ('b' :: quote :: (written ++ [quote]))

end BooleanRetrieval.Text
