import Tincture.CommandLine.Arguments
import Tincture.Text.Number

/-!
# Help

What the program tells of itself and of its commands: one sentence, how it is called, its commands
or its arguments, and its options with what they are for in one column.
-/

namespace Tincture.Help

/-- The name of the program. -/
def program : String := "tmbridge"

/-- The version of the program. -/
def version : String := "0.3.0"

/-- What a command does. -/
def about : CommandName → String
  | .tokens => "Print every token: column, display scope and full scope stack"
  | .highlight => "Print the file with 24-bit terminal colours"
  | .format => "Format the file and print the result"
  | .themes => "List available themes"

/-- What the command that gives help does. -/
def aboutHelp : String := "Print this message or the help of the given subcommand(s)"

/-- An option as it is written, and what it is for. -/
structure OptionLine where
  written : String
  meaning : String
  deriving DecidableEq, Repr

def configLine : OptionLine :=
  ⟨"    --config <FILE>", "Config file (defaults to ~/.config/tmbridge/config.yaml)"⟩
def themeLine : OptionLine := ⟨"    --theme <NAME>", "Theme name, overriding the configured one"⟩
def languageLine : OptionLine :=
  ⟨"    --language <ID>", "Language id, overriding detection by file extension"⟩
def grammarLine : OptionLine :=
  ⟨"    --grammar <FILE>", "Grammar file to use instead of the language's own grammar"⟩
def helpLine : OptionLine := ⟨"-h, --help", "Print help"⟩
def versionLine : OptionLine := ⟨"-V, --version", "Print version"⟩
def maxWidthLine : OptionLine := ⟨"    --max-width <N>", ""⟩
def tabSpacesLine : OptionLine := ⟨"    --tab-spaces <N>", ""⟩
def checkLine : OptionLine :=
  ⟨"    --check", "Only check that a second formatting pass changes nothing"⟩

/-- The options that are listed for the program or for a command. -/
def options : Option CommandName → List OptionLine
  | none => [configLine, themeLine, languageLine, grammarLine, helpLine, versionLine]
  | some .format =>
    [configLine, maxWidthLine, tabSpacesLine, themeLine, checkLine, languageLine, grammarLine,
      helpLine]
  | some _ => [configLine, themeLine, languageLine, grammarLine, helpLine]

/-- A text with blanks after it up to a width. -/
def padRight (width : Nat) (s : String) : String :=
  String.ofList (s.toList ++ List.replicate (width - s.length) ' ')

/-- Lines in two columns, indented. -/
def columns (lines : List OptionLine) : List String :=
  let width := (lines.map fun l => l.written.length).foldl max 0
  lines.map fun l => "  " ++ padRight (width + 2) l.written ++ l.meaning

/-- How the program or a command is called. -/
def usage : Option CommandName → String
  | none => s!"{program} [OPTIONS] <COMMAND>"
  | some c => s!"{program} {c.text} [OPTIONS]" ++ if c.takesFile then " <FILE>" else ""

/-- The commands, each with what it does. -/
def commandLines : List OptionLine :=
  CommandName.all.map (fun c => ⟨c.text, about c⟩) ++ [⟨"help", aboutHelp⟩]

/-- The help of the program or of a command. -/
def lines (command : Option CommandName) : List String :=
  (match command with
    | none => ["TextMate highlighting bridge", "", s!"Usage: {usage none}", "", "Commands:"]
      ++ columns commandLines
    | some c => [about c, "", s!"Usage: {usage (some c)}"]
      ++ if c.takesFile then ["", "Arguments:", "  <FILE>  "] else [])
    ++ ["", "Options:"] ++ columns (options command)

/-- The help of the command that gives help. -/
def linesOfHelp : List String :=
  [aboutHelp, "", s!"Usage: {program} help [COMMAND]...", "", "Arguments:",
    "  [COMMAND]...  Print help for the subcommand(s)"]

end Tincture.Help

namespace Tincture.UsageError

/-- The text that is shown for arguments that lead to no command. -/
def message : UsageError → List String
  | help command => Help.lines command
  | helpOnHelp => Help.linesOfHelp
  | version => [s!"{Help.program} {Help.version}"]
  | noArguments => Help.lines none
  | noCommand => ["error: a command is required", s!"Usage: {Help.usage none}"]
  | unknownArgument argument => [s!"error: unexpected argument '{argument}' found"]
  | unknownCommand name => [s!"error: unrecognized subcommand '{name}'"]
  | missingFile => ["error: the argument <FILE> was not provided"]
  | missingValue => ["error: a value is required but none was supplied"]
  | notANumber value => [s!"error: invalid value '{value}': not a number"]
  | givenTwice => ["error: an argument cannot be used multiple times"]
  | unexpectedValue value => [s!"error: unexpected value '{value}' for a switch"]

/-- Whether the user asked for what is shown. -/
def isAnswer : UsageError → Bool
  | help _ | helpOnHelp | version => true
  | _ => false

end Tincture.UsageError
