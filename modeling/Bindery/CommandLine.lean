import Bindery.Project.Generation

/-! The command line.

A line names a command and its flags. Arguments are read from the left; a flag that asks for help or
for the version ends the reading there, and so does the first argument that does not fit. A flag
that takes a value has it in the same argument or in the next, which then does not begin with a
dash. -/
namespace Bindery.CommandLine

/-- A flag. -/
inductive Flag where
  | config | output | platform | dryRun | verbose | help | version
deriving DecidableEq, Repr

namespace Flag

def name : Flag → String
  | config => "config"
  | output => "output"
  | platform => "platform"
  | dryRun => "dry-run"
  | verbose => "verbose"
  | help => "help"
  | version => "version"

def letter? : Flag → Option Char
  | config => some 'c'
  | output => some 'o'
  | platform => some 'p'
  | dryRun => none
  | verbose => some 'v'
  | help => some 'h'
  | version => some 'V'

def takesValue : Flag → Bool
  | config | output | platform => true
  | dryRun | verbose | help | version => false

end Flag

/-- A command. -/
inductive Command where
  | generate | check | list
deriving DecidableEq, Repr

namespace Command

def all : List Command := [generate, check, list]

def name : Command → String
  | generate => "generate"
  | check => "check"
  | list => "list"

/-- The flags that a command takes. -/
def flags : Command → List Flag
  | generate => [.config, .output, .platform, .dryRun, .verbose, .help]
  | check | list => [.config, .verbose, .help]

/-- The command with a name. -/
def ofName? (s : String) : Option Command := all.find? (·.name = s)

end Command

/-- The flags that stand before a command. -/
def leadingFlags : List Flag := [.verbose, .help, .version]

/-- What is wrong with a line. -/
inductive Misuse where
  | unknown (argument : String)
  | noValue (flag : Flag)
  | needlessValue (flag : Flag)
  | badValue (flag : Flag) (value : String)
  | repeated (flag : Flag)
  | noCommand
deriving DecidableEq, Repr

def Misuse.message : Misuse → String
  | unknown a => "unexpected argument '" ++ a ++ "'"
  | noValue f => "a value is required for '--" ++ f.name ++ "'"
  | needlessValue f => "no value is expected for '--" ++ f.name ++ "'"
  | badValue f v => "invalid value '" ++ v ++ "' for '--" ++ f.name ++ "'"
  | repeated f => "'--" ++ f.name ++ "' cannot be used multiple times"
  | noCommand => "a command is required"

/-- What ends the reading of a line. -/
inductive Stop where
  | misuse (misuse : Misuse)
  | help
  | version
deriving DecidableEq, Repr

/-- The values of the flags read so far. -/
structure Chosen where
  config : Option String := none
  output : Option String := none
  platforms : List Platform := []
  dryRun : Bool := false
deriving DecidableEq, Repr

/-- A command with the values of its flags. -/
structure Line where
  command : Command
  chosen : Chosen
deriving DecidableEq, Repr

/-! ### Flags -/

/-- Takes a value for a flag that is given once. -/
def once (flag : Flag) (value : String) (earlier : Option String) : Except Stop (Option String) :=
  if value = "" then .error (.misuse (.badValue flag value))
  else if earlier.isSome then .error (.misuse (.repeated flag))
  else .ok (some value)

/-- Takes a flag with its value. -/
def Chosen.take (c : Chosen) (flag : Flag) (value : String) : Except Stop Chosen :=
  match flag with
  | .config => (once flag value c.config).map fun config => { c with config }
  | .output => (once flag value c.output).map fun output => { c with output }
  | .platform =>
    match Platform.vocabulary.find? value with
    | some platform => .ok { c with platforms := c.platforms ++ [platform] }
    | none => .error (.misuse (.badValue flag value))
  | .dryRun | .verbose | .help | .version => .error (.misuse (.needlessValue flag))

/-- Takes a flag without a value. -/
def Chosen.switch (c : Chosen) : Flag → Except Stop Chosen
  | .dryRun =>
    if c.dryRun then .error (.misuse (.repeated .dryRun)) else .ok { c with dryRun := true }
  | .verbose => .ok c
  | .help => .error .help
  | .version => .error .version
  | flag => .error (.misuse (.noValue flag))

/-- An argument that is no flag. A single dash is none. -/
def isPlain (arg : String) : Bool := arg.toList.head? ≠ some '-' || arg = "-"

/-- Reads an argument of two dashes, a name, and perhaps a value after an equals sign. The flag, if
one is given, waits for its value. -/
def readLong (allowed : List Flag) (c : Chosen) (text : List Char) :
    Except Stop (Chosen × Option Flag) :=
  let (name, value?) := match Text.cut? ['='] text with
    | some (name, value) => (String.ofList name, some (String.ofList value))
    | none => (String.ofList text, none)
  match allowed.find? (·.name = name), value? with
  | none, _ => .error (.misuse (.unknown ("--" ++ name)))
  | some flag, some value => (c.take flag value).map (·, none)
  | some flag, none => if flag.takesValue then .ok (c, some flag) else (c.switch flag).map (·, none)

/-- Reads the letters after one dash. A letter that takes a value takes the rest of the argument, or
waits for its value if nothing is left. -/
def readLetters (allowed : List Flag) (c : Chosen) :
    List Char → Except Stop (Chosen × Option Flag)
  | [] => .ok (c, none)
  | letter :: more =>
    match allowed.find? (·.letter? = some letter) with
    | none => .error (.misuse (.unknown (String.ofList ['-', letter])))
    | some flag =>
      if flag.takesValue then
        match more with
        | [] => .ok (c, some flag)
        | '=' :: value => (c.take flag (String.ofList value)).map (·, none)
        | value => (c.take flag (String.ofList value)).map (·, none)
      else do readLetters allowed (← c.switch flag) more

/-- Reads an argument that begins with a dash. -/
def readFlag (allowed : List Flag) (c : Chosen) (arg : String) :
    Except Stop (Chosen × Option Flag) :=
  match arg.toList with
  | '-' :: '-' :: name => readLong allowed c name
  | '-' :: letter :: more => readLetters allowed c (letter :: more)
  | _ => .error (.misuse (.unknown arg))

/-! ### Lines -/

/-- Reads the flags of a command. Nothing comes after two dashes. -/
def readFlags (allowed : List Flag) (c : Chosen) : Option Flag → List String → Except Stop Chosen
  | none, [] => .ok c
  | some flag, [] => .error (.misuse (.noValue flag))
  | some flag, arg :: rest =>
    if isPlain arg then do readFlags allowed (← c.take flag arg) none rest
    else .error (.misuse (.noValue flag))
  | none, "--" :: rest =>
    match rest with
    | [] => .ok c
    | arg :: _ => .error (.misuse (.unknown arg))
  | none, arg :: rest => do
    let (c, waiting) ← readFlag allowed c arg
    readFlags allowed c waiting rest

/-- The command that only shows help. -/
def helpName : String := "help"

/-- Reads what follows the command for help: at most one command. -/
def readHelp : List String → Stop
  | [] => .help
  | [name] =>
    if name = helpName ∨ (Command.ofName? name).isSome then .help else .misuse (.unknown name)
  | _ :: extra :: _ => .misuse (.unknown extra)

/-- Reads a line. -/
def read : List String → Except Stop Line
  | [] => .error (.misuse .noCommand)
  | arg :: rest =>
    if arg = helpName then .error (readHelp rest)
    else match Command.ofName? arg with
      | some command =>
        (readFlags command.flags {} none rest).map fun chosen => { command, chosen }
      | none =>
        if isPlain arg ∨ arg = "--" then .error (.misuse (.unknown arg))
        else do
          let _ ← readFlag leadingFlags {} arg
          read rest

end Bindery.CommandLine
