import BooleanRetrieval.Text.Quoted
import BooleanRetrieval.Text.WholeNumber

/-!
# Command lines

A command line is a list of words. Options begin with two dashes and may be shortened as long as only
one option is meant; an option that takes an argument has it attached behind an equals sign or as the
next word. The other words are positional, and a word of two dashes makes all words behind it
positional. Which words are options is settled before any option takes its argument.
-/

set_option autoImplicit false

namespace BooleanRetrieval

/-- What an option does to the arguments of a program. -/
inductive OptionAction (α : Type) where
  | flag (set : α → α)
  | text (set : String → α → α)
  | number (set : Int → α → α)

/-- An option: its name with the dashes, and what it does. -/
structure OptionSpec (α : Type) where
  name : String
  action : OptionAction α

/-- The arguments that a program takes. Every program also takes the options for help. -/
structure Usage (α : Type) where
  /-- The name of the one positional word, which must be given, and what it does. -/
  positional : Option (String × (String → α → α))
  options : List (OptionSpec α)

/-- Why a command line is not understood. -/
inductive UsageError where
  | ambiguous (word : String) (names : List String)
  | missingArgument (name : String)
  /-- An argument is attached to an option that takes none. -/
  | unwantedArgument (name argument : String)
  | notANumber (name argument : String)
  | missingPositional (name : String)
  | unrecognized (words : List String)
  deriving DecidableEq, Repr

/-- The text of a usage error. -/
def UsageError.message : UsageError → String
  | ambiguous word names =>
    "ambiguous option: " ++ word ++ " could match " ++ ", ".intercalate names
  | missingArgument name => "argument " ++ name ++ ": expected one argument"
  | unwantedArgument name argument =>
    "argument " ++ name ++ ": ignored explicit argument " ++ Text.quoted argument
  | notANumber name argument =>
    "argument " ++ name ++ ": invalid int value: " ++ Text.quoted argument
  | missingPositional name => "the following arguments are required: " ++ name
  | unrecognized words => "unrecognized arguments: " ++ " ".intercalate words

/-- What ends the reading of a command line early. -/
inductive CommandStop where
  /-- The user asks for help. -/
  | help
  | wrong (error : UsageError)
  deriving DecidableEq, Repr

/-- A word of a command line. -/
inductive CommandWord (α : Type) where
  /-- Two dashes: all words behind them are positional. -/
  | divider
  | positional (text : String)
  /-- An option and the argument that is attached to it. -/
  | option (spec : OptionSpec α) (attached : Option String)
  /-- The long option for help and the argument that is attached to it. -/
  | help (attached : Option String)
  /-- The short option for help and the characters behind it. -/
  | shortHelp (rest : List Char)
  /-- An option that the program does not take. -/
  | unknown (text : String)

namespace Usage

variable {α : Type}

/-- The long option for help. -/
def helpName : String := "--help"

/-- How messages name the options for help. -/
def helpTitle : String := "-h/--help"

/-- The options with long names: for help, and those of the program. -/
def longNames (usage : Usage α) : List (String × (Option String → CommandWord α)) :=
  (helpName, .help) :: usage.options.map fun spec => (spec.name, .option spec)

/-- A word cut at its first equals sign. -/
def cutAtEquals (word : List Char) : List Char × Option String :=
  match word.dropWhile (· ≠ '=') with
  | [] => (word, none)
  | _ :: attached => (word.takeWhile (· ≠ '='), some (String.ofList attached))

/-- Whether a character is a decimal digit of any script. -/
def isDigit (c : Char) : Bool :=
  (Text.digitValue? c).isSome

/-- Whether the text behind a dash makes a negative number: digits, or a fraction with a point. One
line feed may stand at the end. -/
def isNumeral (cs : List Char) : Bool :=
  let cs := if cs.getLast? = some '\n' then cs.dropLast else cs
  match cs.dropWhile isDigit with
  | [] => !cs.isEmpty
  | '.' :: places => !places.isEmpty && places.all isDigit
  | _ => false

/-- The word for a text that begins with a dash and names no option: negative numbers and texts with
a space are positional. -/
def unnamedWord (text : String) (behindDash : List Char) : CommandWord α :=
  if isNumeral behindDash || text.toList.contains ' ' then .positional text else .unknown text

/-- The word for a text that begins with two dashes. A full name is taken before a shortened one. -/
def longWord (usage : Usage α) (text : String) : Except UsageError (CommandWord α) :=
  let (name, attached) := cutAtEquals text.toList
  let names := usage.longNames
  match names.lookup text, names.lookup (String.ofList name) with
  | some word, _ => .ok (word none)
  | none, some word => .ok (word attached)
  | none, none =>
    match names.filter fun candidate => name.isPrefixOf candidate.1.toList with
    | [] => .ok (unnamedWord text text.toList.tail)
    | [(_, word)] => .ok (word attached)
    | several => .error (.ambiguous text (several.map Prod.fst))

/-- The word that a text is when no divider stands in front of it. -/
def word (usage : Usage α) (text : String) : Except UsageError (CommandWord α) :=
  match text.toList with
  | '-' :: '-' :: _ => usage.longWord text
  | '-' :: 'h' :: rest => .ok (.shortHelp rest)
  | ['-'] => .ok (.positional text)
  | '-' :: rest => .ok (unnamedWord text rest)
  | _ => .ok (.positional text)

/-- The words of a command line. -/
def words (usage : Usage α) : List String → Except UsageError (List (CommandWord α))
  | [] => .ok []
  | text :: rest =>
    if text = "--" then .ok (.divider :: rest.map .positional)
    else do
      let first ← usage.word text
      return first :: (← usage.words rest)

/-- What the characters behind the short option for help lead to. Further such letters are read on;
an argument cannot be attached. An equals sign right behind the first letter is not part of it. -/
def shortHelpStop (rest : List Char) : CommandStop :=
  match rest with
  | ['='] => .wrong (.unwantedArgument helpTitle "")
  | '=' :: argument => helpLettersStop argument
  | rest => helpLettersStop rest
where
  helpLettersStop : List Char → CommandStop
    | [] => .help
    | 'h' :: rest => helpLettersStop rest
    | rest => .wrong (.unwantedArgument helpTitle (String.ofList rest))

/-- The arguments read so far. -/
structure Progress (α : Type) where
  arguments : α
  /-- Whether the positional word is still to come. -/
  waiting : Bool
  /-- The words that nothing takes, in order. -/
  extras : List String

/-- The progress with one more word that nothing takes. -/
def Progress.leave (p : Progress α) (text : String) : Progress α :=
  { p with extras := p.extras ++ [text] }

/-- The progress behind the positional word. -/
def place (usage : Usage α) (p : Progress α) (text : String) : Progress α :=
  match usage.positional with
  | some (_, set) => { p with arguments := set text p.arguments, waiting := false }
  | none => p

/-- Let an option act on its argument. -/
def act (spec : OptionSpec α) (argument : String) (p : Progress α) :
    Except CommandStop (Progress α) :=
  match spec.action with
  | .flag _ => .error (.wrong (.unwantedArgument spec.name argument))
  | .text set => .ok { p with arguments := set argument p.arguments }
  | .number set =>
    match Text.wholeNumber? argument with
    | some n => .ok { p with arguments := set n p.arguments }
    | none => .error (.wrong (.notANumber spec.name argument))

/-- Read the words in their order. A divider next to the positional word is taken with it, any other
divider is left over. -/
def consume (usage : Usage α) (p : Progress α) :
    List (CommandWord α) → Except CommandStop (Progress α)
  | [] => .ok p
  | .unknown text :: rest => usage.consume (p.leave text) rest
  | .help none :: _ => .error .help
  | .help (some argument) :: _ => .error (.wrong (.unwantedArgument helpTitle argument))
  | .shortHelp letters :: _ => .error (shortHelpStop letters)
  | .option spec (some argument) :: rest => do usage.consume (← act spec argument p) rest
  | .option spec none :: rest =>
    match spec.action, rest with
    | .flag set, rest => usage.consume { p with arguments := set p.arguments } rest
    | _, .positional argument :: rest => do usage.consume (← act spec argument p) rest
    | _, _ => .error (.wrong (.missingArgument spec.name))
  | .positional text :: .divider :: rest =>
    if p.waiting then usage.consume (usage.place p text) rest
    else usage.consume ((p.leave text).leave "--") rest
  | .positional text :: rest =>
    usage.consume (if p.waiting then usage.place p text else p.leave text) rest
  | .divider :: .positional text :: rest =>
    if p.waiting then usage.consume (usage.place p text) rest
    else usage.consume ((p.leave "--").leave text) rest
  | .divider :: rest => usage.consume (p.leave "--") rest

/-- Read a command line. A missing positional word is reported before words that nothing takes. -/
def read (usage : Usage α) (defaults : α) (line : List String) : Except CommandStop α := do
  let words ← (usage.words line).mapError .wrong
  let p ← usage.consume ⟨defaults, usage.positional.isSome, []⟩ words
  match usage.positional with
  | some (name, _) => if p.waiting then .error (.wrong (.missingPositional name))
  | none => pure ()
  if p.extras.isEmpty then .ok p.arguments else .error (.wrong (.unrecognized p.extras))

/-- An option as the summary of a command line shows it. -/
def optionSummary (spec : OptionSpec α) : String :=
  match spec.action with
  | .flag _ => "[" ++ spec.name ++ "]"
  | .text _ => "[" ++ spec.name ++ " TEXT]"
  | .number _ => "[" ++ spec.name ++ " NUMBER]"

/-- What a program takes, in one line. -/
def summary (usage : Usage α) : String :=
  " ".intercalate ("[-h]" :: usage.options.map optionSummary
    ++ (usage.positional.map Prod.fst).toList)

end Usage

end BooleanRetrieval
