import Tincture.Format.Config
import Tincture.Text.Number

/-!
# Arguments

The program is called with a command, which may need a file, and with options, which stand before or
after the command. The value of an option follows it or is joined to it by an equals sign; an option
that is given on both sides of the command has the value given after it. After `--` nothing is an
option.

Arguments are read from left to right. The value of an option that follows it is checked only when
the next argument was understood, so that an argument that is not known is reported first.
-/

namespace Tincture

/-- The names of commands. -/
inductive CommandName where
  | tokens
  | highlight
  | format
  | themes
  deriving DecidableEq, Repr

/-- What the program is told to do. -/
inductive Command where
  | tokens (file : String)
  | highlight (file : String)
  | format (file : String) (maxWidth tabSpaces : Option Nat) (check : Bool)
  | themes
  deriving DecidableEq, Repr

/-- What the program is called with. -/
structure Arguments where
  config : Option String := none
  theme : Option String := none
  language : Option String := none
  grammar : Option String := none
  command : Command
  deriving DecidableEq, Repr

/-- Why the arguments lead to no command. -/
inductive UsageError where
  /-- Help is asked for, with the program or with one of its commands. -/
  | help (command : Option CommandName)
  /-- Help is asked for with the command that gives help. -/
  | helpOnHelp
  | version
  | noArguments
  | noCommand
  | unknownArgument (argument : String)
  | unknownCommand (name : String)
  | missingFile
  /-- An option without a value, or a path without a character. -/
  | missingValue
  | notANumber (value : String)
  | givenTwice
  /-- A switch with a value. -/
  | unexpectedValue (value : String)
  deriving DecidableEq, Repr

namespace CommandName

/-- All commands. -/
def all : List CommandName := [tokens, highlight, format, themes]

/-- A command as it is written. -/
def text : CommandName → String
  | tokens => "tokens"
  | highlight => "highlight"
  | format => "format"
  | themes => "themes"

/-- The command that is written as a text. -/
def ofText? (s : String) : Option CommandName :=
  all.find? (·.text = s)

/-- Whether a command needs a file. -/
def takesFile (c : CommandName) : Bool :=
  c != themes

end CommandName

namespace Command

/-- The file that a command is about. -/
def file? : Command → Option String
  | tokens file | highlight file | format file .. => some file
  | themes => none

/-- Format settings with those replaced that a command gives. -/
def formatConfig (c : Command) (base : FormatConfig) : FormatConfig :=
  match c with
  | format _ maxWidth tabSpaces _ =>
    { base with
      maxWidth := maxWidth.getD base.maxWidth
      tabSpaces := tabSpaces.getD base.tabSpaces }
  | _ => base

end Command

/-! ### What arguments mean -/

/-- What a value is for. -/
inductive Parameter where
  | config
  | theme
  | language
  | grammar
  | maxWidth
  | tabSpaces
  | check
  | file
  deriving DecidableEq, Repr

namespace Parameter

/-- Whether a value is a path. -/
def isPath : Parameter → Bool
  | config | grammar | file => true
  | _ => false

/-- Whether a value is a number. -/
def isNumber : Parameter → Bool
  | maxWidth | tabSpaces => true
  | _ => false

/-- Checks a value. -/
def validate (p : Parameter) (value : String) : Except UsageError Unit :=
  if p.isPath && value = "" then .error .missingValue
  else if p.isNumber && (Text.word? value.toList).isNone then .error (.notANumber value)
  else .ok ()

end Parameter

/-- What an option stands for. -/
inductive OptionMeaning where
  | value (p : Parameter)
  | switch (p : Parameter)
  | help
  | version
  deriving DecidableEq, Repr

/-- The meaning of an option with a long name, before a command or after it. -/
def OptionMeaning.ofLong? (command : Option CommandName) (name : String) : Option OptionMeaning :=
  match name with
  | "config" => some (.value .config)
  | "theme" => some (.value .theme)
  | "language" => some (.value .language)
  | "grammar" => some (.value .grammar)
  | "help" => some .help
  | "version" => if command = none then some .version else none
  | "max-width" => if command = some .format then some (.value .maxWidth) else none
  | "tab-spaces" => if command = some .format then some (.value .tabSpaces) else none
  | "check" => if command = some .format then some (.switch .check) else none
  | _ => none

/-- The meaning of an option of one letter. -/
def OptionMeaning.ofShort? (command : Option CommandName) (letter : Char) : Option OptionMeaning :=
  if letter = 'h' then some .help
  else if letter = 'V' ∧ command = none then some .version
  else none

/-! ### Reading -/

/-- What was read so far: values that were checked, and one that was not. -/
structure ReadArguments where
  values : List (Parameter × String) := []
  /-- A parameter whose value is to be checked; the value itself may be missing yet. -/
  pending : Option (Parameter × Option String) := none
  /-- Whether the file was given. -/
  fileGiven : Bool := false

namespace ReadArguments

/-- Whether the value of an option comes next. -/
def awaits (r : ReadArguments) : Bool :=
  match r.pending with
  | some (_, none) => true
  | _ => false

/-- Adds a value, which must not be there already. -/
def accept (r : ReadArguments) (p : Parameter) (value : String) : Except UsageError ReadArguments :=
  if (r.values.lookup p).isSome then .error .givenTwice
  else do
    p.validate value
    return { r with values := r.values ++ [(p, value)] }

/-- Checks the value that was not checked yet. -/
def settle (r : ReadArguments) : Except UsageError ReadArguments :=
  match r.pending with
  | none => .ok r
  | some (_, none) => .error .missingValue
  | some (p, some value) => accept { r with pending := none } p value

/-- Reads an option with a long name, which may have a value joined to it. -/
def long (command : Option CommandName) (r : ReadArguments) (name : String)
    (joined : Option String) : Except UsageError ReadArguments :=
  match OptionMeaning.ofLong? command name, joined with
  | none, _ => .error (.unknownArgument ("--" ++ name))
  | some (.value p), some value => do (← r.settle).accept p value
  | some (.value p), none => do return { (← r.settle) with pending := some (p, none) }
  | some _, some value => .error (.unexpectedValue value)
  | some (.switch p), none => do (← r.settle).accept p ""
  | some .help, none => do
    let _ ← r.settle
    throw (.help command)
  | some .version, none => do
    let _ ← r.settle
    throw .version

/-- Reads options of one letter; the first one decides, as each of them ends the reading. -/
def short (command : Option CommandName) (r : ReadArguments) (letter : Char) :
    Except UsageError ReadArguments :=
  match OptionMeaning.ofShort? command letter with
  | some .help => do
    let _ ← r.settle
    throw (.help command)
  | some .version => do
    let _ ← r.settle
    throw .version
  | _ => .error (.unknownArgument (String.ofList ['-', letter]))

/-- Reads an argument that is no option. -/
def positional (command : Option CommandName) (trailing : Bool) (r : ReadArguments)
    (argument : String) : Except UsageError ReadArguments :=
  match command with
  | none =>
    let isCommand := argument = "help" || (CommandName.ofText? argument).isSome
    if trailing && isCommand then .error (.unknownArgument argument)
    else .error (.unknownCommand argument)
  | some c =>
    if c.takesFile && !r.fileGiven then do
      return { (← r.settle) with pending := some (.file, some argument), fileGiven := true }
    else .error (.unknownArgument argument)

/-- Reads arguments up to the end or to a command, which is handed back with what follows it. -/
def read (command : Option CommandName) : (trailing : Bool) → ReadArguments → List String →
    Except UsageError (ReadArguments × Option (String × List String))
  | _, r, [] => .ok (r, none)
  | true, r, argument :: rest => do
    read command true (← positional command true r argument) rest
  | false, r, argument :: rest =>
    let isCommand := argument = "help" || (CommandName.ofText? argument).isSome
    if !r.awaits && command = none && isCommand then .ok (r, some (argument, rest))
    else match argument.toList with
      | ['-', '-'] => read command true r rest
      | '-' :: '-' :: text => do
        let name := String.ofList (text.takeWhile (· != '='))
        let joined := match text.dropWhile (· != '=') with
          | _ :: value => some (String.ofList value)
          | [] => none
        read command false (← long command r name joined) rest
      | '-' :: letter :: _ => do read command false (← short command r letter) rest
      | _ => match r.pending with
        | some (p, none) => read command false { r with pending := some (p, some argument) } rest
        | _ => do read command false (← positional command false r argument) rest

/-- The value of a parameter. -/
def value? (r : ReadArguments) (p : Parameter) : Option String :=
  r.values.lookup p

/-- The value of a number. -/
def number? (r : ReadArguments) (p : Parameter) : Option Nat :=
  (r.value? p).bind fun s => Text.word? s.toList

end ReadArguments

namespace Arguments

/-- What is asked for with the command that gives help. -/
def helpFor : List String → UsageError
  | [] => .help none
  | ["help"] => .helpOnHelp
  | name :: rest => match CommandName.ofText? name, rest with
    | some c, [] => .help (some c)
    | some _, next :: _ => .unknownCommand next
    | none, _ => .unknownCommand ((if name = "help" then rest.head? else none).getD name)

/-- The command of a name, with what was read after it. -/
def commandOf (name : CommandName) (r : ReadArguments) : Except UsageError Command :=
  match name, r.value? .file with
  | .themes, _ => .ok .themes
  | _, none => .error .missingFile
  | .tokens, some file => .ok (.tokens file)
  | .highlight, some file => .ok (.highlight file)
  | .format, some file =>
    .ok (.format file (r.number? .maxWidth) (r.number? .tabSpaces) (r.value? .check).isSome)

/-- The meaning of the arguments. What follows a command is checked before what precedes it. -/
def ofList (arguments : List String) : Except UsageError Arguments := do
  match ← ReadArguments.read none false {} arguments with
  | (before, none) =>
    let before ← before.settle
    throw (if before.values.isEmpty then .noArguments else .noCommand)
  | (before, some (name, rest)) =>
    match CommandName.ofText? name with
    | none => throw (helpFor rest)
    | some name =>
      let (after, _) ← ReadArguments.read (some name) false {} rest
      let after ← after.settle
      let command ← commandOf name after
      let before ← before.settle
      let value (p : Parameter) : Option String := (after.value? p).or (before.value? p)
      return { config := value .config, theme := value .theme, language := value .language
               grammar := value .grammar, command }

end Arguments

end Tincture
