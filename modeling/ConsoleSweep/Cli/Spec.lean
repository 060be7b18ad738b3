-- The arguments of the command line. Each option has a long name, most have a one-letter
-- short name, and those that take a value name it; the paths are the one positional argument
-- and may be given any number of times. Help and version come last, as every command has them.
-- An argument is shown as its long name and its value, `--config <FILE>`; the paths as
-- `[PATHS]...`, or `<PATHS>...` where a usage line names them as given.
namespace ConsoleSweep.Cli

/-- The arguments of the command, in the order they are declared. -/
inductive Arg where
  | paths
  | imports
  | noPreserveEmptyLines
  | yes
  | dryRun
  | pattern
  | config
  | maxErrors
  | json
  | quiet
  | debug
  | help
  | version
deriving Repr, BEq, DecidableEq, Inhabited

/-- What an argument does when it is given. -/
inductive Action where
  /-- A switch, turned on at most once. -/
  | flag
  /-- One value, given at most once. -/
  | single
  /-- Values gathered from every use. -/
  | gather
  /-- Shows the help and stops. -/
  | help
  /-- Shows the version and stops. -/
  | version
deriving Repr, BEq, DecidableEq, Inhabited

namespace Arg

/-- Every argument, in the order declared. -/
def all : List Arg :=
  [.paths, .imports, .noPreserveEmptyLines, .yes, .dryRun, .pattern, .config, .maxErrors, .json,
   .quiet, .debug, .help, .version]

/-- What the argument does. -/
def action : Arg → Action
  | .paths | .pattern => .gather
  | .config | .maxErrors => .single
  | .help => .help
  | .version => .version
  | _ => .flag

/-- The long name, without its dashes. -/
def long : Arg → Option String
  | .paths => none
  | .imports => some "imports"
  | .noPreserveEmptyLines => some "no-preserve-empty-lines"
  | .yes => some "yes"
  | .dryRun => some "dry-run"
  | .pattern => some "pattern"
  | .config => some "config"
  | .maxErrors => some "max-errors"
  | .json => some "json"
  | .quiet => some "quiet"
  | .debug => some "debug"
  | .help => some "help"
  | .version => some "version"

/-- The one-letter name, without its dash. -/
def short : Arg → Option Char
  | .imports => some 'i'
  | .yes => some 'y'
  | .dryRun => some 'n'
  | .pattern => some 'p'
  | .config => some 'c'
  | .quiet => some 'q'
  | .debug => some 'd'
  | .help => some 'h'
  | .version => some 'V'
  | _ => none

/-- The name of the value the argument takes, if it takes one. -/
def valueName : Arg → Option String
  | .paths => some "PATHS"
  | .pattern => some "REGEX"
  | .config => some "FILE"
  | .maxErrors => some "N"
  | _ => none

/-- Whether the argument is the positional one. -/
def isPositional (a : Arg) : Bool := a == .paths

/-- Whether the argument takes a value. -/
def takesValue (a : Arg) : Bool := a.valueName.isSome

/-- The line of help on the argument. The help argument's line depends on the kind of help it
stands in: the short help points to the long one and the long help to the short. -/
def about (longHelp : Bool) : Arg → String
  | .paths => "Files or directories to clean (defaults to the current directory)"
  | .imports => "Also remove `import \".../console.sol\";` declarations"
  | .noPreserveEmptyLines => "Drop removed lines instead of leaving blank lines in their place"
  | .yes => "Do not ask for confirmation"
  | .dryRun => "Report what would be removed without writing anything"
  | .pattern => "Extra regular expression treated as a loggable statement (repeatable)"
  | .config => "Config file to use instead of the platform default"
  | .maxErrors => "Stop a workspace run after this many per-file errors (at least 1)"
  | .json => "Print results as JSON on stdout"
  | .quiet => "Suppress progress and informational summaries"
  | .debug => "Enable debug logging (equivalent to RUST_LOG=debug)"
  | .help =>
    if longHelp then "Print help (see a summary with '-h')"
    else "Print help (see more with '--help')"
  | .version => "Print version"

/-- The paths as shown: in brackets when they may be left out, in angles when named as given. -/
def pathsShown (given : Bool) : String :=
  if given then "<PATHS>..." else "[PATHS]..."

/-- What follows an option's name: its value, if it takes one. -/
def valueSuffix (a : Arg) : String :=
  match a.valueName with
  | some v => if a.isPositional then pathsShown false else " <" ++ v ++ ">"
  | none => ""

/-- The argument as shown in messages: the paths as `[PATHS]...`, an option by its long name
and value. -/
def shown (a : Arg) : String :=
  if a.isPositional then pathsShown false
  else "--" ++ (a.long.getD "") ++ a.valueSuffix

/-- Whether the argument is one of the command's own, which every argument but help and version
is. The command's own arguments form one group, which a usage line may show in place of them. -/
def isOwn (a : Arg) : Bool := a != .help && a != .version

/-- The options: every argument but the paths. -/
def options : List Arg := all.filter fun a => !a.isPositional

/-- The option of a long name. -/
def ofLong? (name : String) : Option Arg := options.find? fun a => a.long == some name

/-- The option of a one-letter name. -/
def ofShort? (c : Char) : Option Arg := options.find? fun a => a.short == some c

/-- The long names, in the order declared: the words a mistyped long name is compared with. -/
def longNames : List String := options.filterMap Arg.long

end Arg

/-- The name the command goes by. -/
def commandName : String := "solscrub"

/-- The version of the command. -/
def commandVersion : String := "1.0.0"

end ConsoleSweep.Cli
