import TableStore.Event
import TableStore.Text.Digit

/-! # Command line options

Arguments are sorted first: words, switches with or without an attached value, and unknown options.
Then they are read from left to right. A long switch may be cut short as long as one switch fits, and
letters may share one hyphen. Switches act in the order in which they stand.

These are the rules of argparse as it was before 3.11.9. From then on it reads some arguments in another
way, among them `--prompt=--`, `-v=v`, `-hx` and `-vx`.
-/

namespace TableStore.Console

open Text

set_option autoImplicit false

inductive Switch where
  | help
  | prompt
  | verbose
  | quiet
deriving DecidableEq

namespace Switch

def all : List Switch :=
  [help, prompt, verbose, quiet]

def long : Switch → String
  | help => "--help"
  | prompt => "--prompt"
  | verbose => "--verbose"
  | quiet => "--quiet"

def letter? : Switch → Option Char
  | help => some 'h'
  | prompt => none
  | verbose => some 'v'
  | quiet => some 'q'

/-- How messages call a switch: by all its spellings. -/
def title (switch : Switch) : String :=
  match switch.letter? with
  | some letter => s!"-{letter}/{switch.long}"
  | none => switch.long

def ofLetter? (letter : Char) : Option Switch :=
  all.find? (·.letter? == some letter)

def ofLong? (spelling : String) : Option Switch :=
  all.find? (·.long == spelling)

/-- The switches whose long spelling starts so. -/
def startingWith (start : String) : List Switch :=
  all.filter fun switch => start.toList.isPrefixOf switch.long.toList

end Switch

inductive OptionError where
  | ambiguous (argument : String) (candidates : List Switch)
  | valueMissing (switch : Switch)
  | valueRefused (switch : Switch) (value : String)
  | conflict (switch other : Switch)
  | unrecognized (arguments : List String)
deriving DecidableEq

def OptionError.message : OptionError → String
  | ambiguous argument candidates =>
    let names := ", ".intercalate (candidates.map Switch.long)
    s!"ambiguous option: {argument} could match {names}"
  | valueMissing switch => s!"argument {switch.title}: expected one argument"
  | valueRefused switch value =>
    s!"argument {switch.title}: ignored explicit argument {escaped value}"
  | conflict switch other => s!"argument {switch.title}: not allowed with argument {other.title}"
  | unrecognized arguments => "unrecognized arguments: " ++ " ".intercalate arguments

/-- An argument by its form. Letters are the switches behind one hyphen, with what follows them. -/
inductive Argument where
  | word (text : String)
  | unknown (text : String)
  | separator
  | long (switch : Switch) (value : Option String)
  | letters (switch : Switch) (value : Option String)
deriving DecidableEq

def isDigits (cs : List Char) : Bool :=
  !cs.isEmpty && cs.all isDigit

/-- A number with a minus sign is a word. A line feed at its end does not count. -/
def isNegativeNumber (cs : List Char) : Bool :=
  match cs with
  | '-' :: number =>
    let number := if number.getLast? == some '\n' then number.dropLast else number
    let whole := number.takeWhile isDigit
    match number.drop whole.length with
    | [] => isDigits whole
    | '.' :: fraction => isDigits fraction
    | _ => false
  | _ => false

/-- The text before the first equals sign and, if there is one, the text after it. -/
def cutAtEquals (cs : List Char) : String × Option String :=
  match cs.dropWhile (· != '=') with
  | [] => (String.ofList cs, none)
  | _ :: value => (String.ofList (cs.takeWhile (· != '=')), some (String.ofList value))

def sortUnknown (text : String) : Argument :=
  if isNegativeNumber text.toList || text.toList.contains ' ' then .word text else .unknown text

def sortLong (text : String) : Except OptionError Argument :=
  let (spelling, value) := cutAtEquals text.toList
  match Switch.ofLong? text, Switch.ofLong? spelling, Switch.startingWith spelling with
  | some switch, _, _ => .ok (.long switch none)
  | none, some switch, _ => .ok (.long switch value)
  | none, none, [switch] => .ok (.long switch value)
  | none, none, [] => .ok (sortUnknown text)
  | none, none, candidates => .error (.ambiguous text candidates)

def sortLetters (text : String) (letter : Char) (rest : List Char) : Argument :=
  match Switch.ofLetter? letter, rest with
  | none, _ => sortUnknown text
  | some switch, [] => .letters switch none
  | some switch, '=' :: value => .letters switch (some (String.ofList value))
  | some switch, value => .letters switch (some (String.ofList value))

def sortArgument (text : String) : Except OptionError Argument :=
  match text.toList with
  | '-' :: '-' :: _ => sortLong text
  | '-' :: letter :: rest => .ok (sortLetters text letter rest)
  | _ => .ok (.word text)

/-- All that follows two bare hyphens is words. -/
def sortArguments : List String → Except OptionError (List Argument)
  | [] => .ok []
  | "--" :: texts => .ok (.separator :: texts.map .word)
  | text :: texts => do
    let argument ← sortArgument text
    let arguments ← sortArguments texts
    return argument :: arguments

/-- What the switches have set so far, and the arguments that none of them took. -/
structure Choices where
  prompt : String
  verbose : Bool
  quiet : Bool
  leftOver : List String
deriving DecidableEq

def Choices.initial : Choices where
  prompt := "> "
  verbose := false
  quiet := false
  leftOver := []

def Choices.leave (choices : Choices) (text : String) : Choices :=
  { choices with leftOver := choices.leftOver ++ [text] }

/-- What the command line asks for. -/
inductive Request where
  | help
  | converse (prompt : String) (threshold : Level)
deriving DecidableEq

/-- The level from which on events are logged. -/
def Choices.threshold (choices : Choices) : Level :=
  if choices.verbose then .debug else if choices.quiet then .error else .warning

def Choices.request (choices : Choices) : Except OptionError Request :=
  if choices.leftOver.isEmpty then .ok (.converse choices.prompt choices.threshold)
  else .error (.unrecognized choices.leftOver)

/-- A switch and the letters behind it, all of which must be switches. -/
def shareHyphen (switch : Switch) : List Char → Except OptionError (List Switch)
  | [] => .ok [switch]
  | c :: cs =>
    match Switch.ofLetter? c with
    | none => .error (.valueRefused switch (String.ofList (c :: cs)))
    | some next => (shareHyphen next cs).map (switch :: ·)

def lettersOf (switch : Switch) : Option String → Except OptionError (List Switch)
  | none => .ok [switch]
  | some "" => .error (.valueRefused switch "")
  | some value => shareHyphen switch value.toList

/-- A prompt of two bare hyphens counts as an empty list of values, and is shown as one. -/
def promptOf (value : String) : String :=
  if value == "--" then "[]" else value

/-- The outcome of switches without values: nothing if one of them asks for help. -/
def act (choices : Choices) : List Switch → Except OptionError (Option Choices)
  | [] => .ok (some choices)
  | .help :: _ => .ok none
  | .prompt :: _ => .error (.valueMissing .prompt)
  | .verbose :: switches =>
    if choices.quiet then .error (.conflict .verbose .quiet)
    else act { choices with verbose := true } switches
  | .quiet :: switches =>
    if choices.verbose then .error (.conflict .quiet .verbose)
    else act { choices with quiet := true } switches

def readArguments (choices : Choices) : List Argument → Except OptionError Request
  | [] => choices.request
  | .word text :: arguments => readArguments (choices.leave text) arguments
  | .unknown text :: arguments => readArguments (choices.leave text) arguments
  | .separator :: arguments => readArguments (choices.leave "--") arguments
  | .long .prompt (some value) :: arguments =>
    readArguments { choices with prompt := promptOf value } arguments
  | .long .prompt none :: .word value :: arguments =>
    readArguments { choices with prompt := value } arguments
  | .long .prompt none :: _ => .error (.valueMissing .prompt)
  | .long switch (some value) :: _ => .error (.valueRefused switch value)
  | .long switch none :: arguments => do
    match ← act choices [switch] with
    | none => return .help
    | some choices => readArguments choices arguments
  | .letters switch value :: arguments => do
    match ← act choices (← lettersOf switch value) with
    | none => return .help
    | some choices => readArguments choices arguments

def Request.ofArguments (texts : List String) : Except OptionError Request := do
  readArguments .initial (← sortArguments texts)

def usage : String :=
  "usage: tabledb [-h] [--prompt PROMPT] [-v | -q]\n"

def helpText : String :=
  usage ++ "\nIn-memory mini SQL interpreter\n\noptions:\n"
    ++ "  -h, --help       show this help message and exit\n"
    ++ "  --prompt PROMPT  prompt string (default: '> ')\n"
    ++ "  -v, --verbose    log debug details\n"
    ++ "  -q, --quiet      log errors only\n"

end TableStore.Console
