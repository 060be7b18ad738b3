-- What the command line says about itself: the short and the long help, the version, the
-- usage line, and the message for each kind of misuse. The short help puts each argument's
-- line of help in one column; the long help puts it on the next line, indented, with a blank
-- line between arguments. A usage line names the arguments already given when there are some,
-- else all of them in brackets; once one of the command's own arguments has been taken, a
-- value wrongly attached to a switch shows them all as one group. Every message on misuse ends by pointing to `--help`.
import ConsoleSweep.Cli.Spec
namespace ConsoleSweep.Cli

/-- The one-line description, at the head of the short help. -/
def shortAbout : String :=
  "Strip Hardhat console.log statements and console.sol imports from Solidity sources"

/-- The description at the head of the long help. -/
def longAbout : String :=
  "SolScrub - strip Hardhat console.log statements from Solidity sources.\n\n" ++
    "Each PATH may be a .sol file or a directory; directories are searched recursively for " ++
    ".sol files (node_modules is skipped)."

/-- The usage line with nothing given: every option in one bracket, then the paths. -/
def genericUsage : String := commandName ++ " [OPTIONS] " ++ Arg.pathsShown false

/-- The group of the command's own arguments, as a usage line shows it: each in turn, the
paths by their bare name, between angles. -/
def ownGroup : String :=
  let shown := (Arg.all.filter Arg.isOwn).map fun a =>
    if a.isPositional then a.valueName.getD "" else a.shown
  "<" ++ "|".intercalate shown ++ ">"

/-- The usage line for the arguments given: the options, each once in the order first given,
then the paths, in angles if they were given and in brackets if not. When `grouped`, the group
of the command's own arguments stands in place of all of them. -/
def givenUsage (given : List Arg) (grouped : Bool) : String :=
  let opts := (given.filter fun a => !a.isPositional && !(grouped && a.isOwn)).eraseDups
  let tail := if grouped then [ownGroup] else [Arg.pathsShown (given.contains .paths)]
  String.join ((commandName :: (opts.map Arg.shown ++ tail)).intersperse " ")

/-- The usage line: the given arguments when there are some, else the generic one. -/
def usageLine (given : List Arg) (grouped : Bool) : String :=
  "Usage: " ++ if given.isEmpty && !grouped then genericUsage else givenUsage given grouped

/-- A run of spaces. -/
def spaces (n : Nat) : String := String.ofList (List.replicate n ' ')

/-- The start of an argument's entry in the help: its one-letter and long names and value. -/
def Arg.entryHead (a : Arg) : String :=
  if a.isPositional then a.valueSuffix
  else
    let shortPart := match a.short with
      | some c => "-" ++ c.toString ++ ", "
      | none => "    "
    shortPart ++ "--" ++ (a.long.getD "") ++ a.valueSuffix

/-- The width of the widest argument as shown, at least two. -/
def widest (args : List Arg) : Nat :=
  args.foldl (fun w a => max w a.shown.length) 2

/-- An entry of the short help: the help text starts two spaces past the widest argument, and
options leave room for a one-letter name before it. -/
def shortEntry (longest : Nat) (a : Arg) : String :=
  "  " ++ a.entryHead ++ spaces (longest + 2 - a.shown.length) ++ a.about false

/-- An entry of the long help: the help text on the next line, ten spaces in. -/
def longEntry (a : Arg) : String :=
  "  " ++ a.entryHead ++ "\n" ++ spaces 10 ++ a.about true

/-- The positional arguments. -/
def positionals : List Arg := Arg.all.filter Arg.isPositional

/-- The short help, shown for `-h`. -/
def shortHelp : String :=
  let pos := positionals.map (shortEntry (widest positionals))
  let opts := Arg.options.map (shortEntry (widest Arg.options))
  shortAbout ++ "\n\n" ++ usageLine [] false ++ "\n\nArguments:\n" ++ "\n".intercalate pos ++
    "\n\nOptions:\n" ++ "\n".intercalate opts ++ "\n"

/-- The long help, shown for `--help`. -/
def longHelp : String :=
  longAbout ++ "\n\n" ++ usageLine [] false ++ "\n\nArguments:\n" ++
    "\n\n".intercalate (positionals.map longEntry) ++ "\n\nOptions:\n" ++
    "\n\n".intercalate (Arg.options.map longEntry) ++ "\n"

/-- The version line, shown for `-V` and `--version`. -/
def versionText : String := commandName ++ " " ++ commandVersion ++ "\n"

/-- A misuse of the command line. -/
inductive UsageError where
  /-- A word that looks like an option but is none, with the option most like it, whether to
  suggest passing it as a value, and the arguments given before it. -/
  | unknown (word : String) (suggestion : Option Arg) (asValue : Bool) (given : List Arg)
  /-- An argument that may be given once, given again. -/
  | repeated (a : Arg)
  /-- An argument given without its value, or with an empty one where that is refused. -/
  | missingValue (a : Arg)
  /-- A value that does not read, and why. -/
  | invalidValue (a : Arg) (value reason : String)
  /-- A value attached to a switch, with the arguments taken before it. -/
  | extraValue (a : Arg) (value : String) (before : List Arg)
deriving Repr, Inhabited

/-- The pointer to the help that ends every message on misuse. -/
def tryHelp : String := "\n\nFor more information, try '--help'.\n"

/-- What is said about a misuse, on the error stream. -/
def UsageError.message : UsageError → String
  | .unknown w sug asValue given =>
    let hint := match sug with
      | some a => "\n\n  tip: a similar argument exists: '--" ++ (a.long.getD "") ++ "'"
      | none => if asValue then "\n\n  tip: to pass '" ++ w ++ "' as a value, use '-- " ++ w ++ "'"
        else ""
    "error: unexpected argument '" ++ w ++ "' found" ++ hint ++ "\n\n" ++ usageLine given false ++
      tryHelp
  | .repeated a =>
    "error: the argument '" ++ a.shown ++ "' cannot be used multiple times\n\n" ++ usageLine [] false ++
      tryHelp
  | .missingValue a =>
    "error: a value is required for '" ++ a.shown ++ "' but none was supplied" ++ tryHelp
  | .invalidValue a v reason =>
    "error: invalid value '" ++ v ++ "' for '" ++ a.shown ++ "': " ++ reason ++ tryHelp
  | .extraValue a v before =>
    "error: unexpected value '" ++ v ++ "' for '" ++ a.shown ++
      "' found; no more were expected\n\n" ++ usageLine (before ++ [a]) (!before.isEmpty) ++
      tryHelp

end ConsoleSweep.Cli
