-- A run of the command over a tree of files. The command line is read first: help and the
-- version go to standard output, a misuse to the error stream with status 2. Then the settings
-- file is loaded (its warnings shown), the options are put together from it and the command
-- line, and each refused pattern is warned about once. Each path is then swept in turn: a
-- directory as a workspace, anything else as one file. Questions go to the error stream and
-- are answered by the lines of standard input; without a prompt every answer is yes. Summaries
-- go to standard output unless quiet or in JSON mode, where one array of reports is printed at
-- the end. The status is 1 when some path failed.
import ConsoleSweep.Cli.Parse
import ConsoleSweep.Settings.Load
import ConsoleSweep.Batch.Store
import ConsoleSweep.Run
import ConsoleSweep.Batch.Run
import ConsoleSweep.Report.Json
import ConsoleSweep.Prompt
namespace ConsoleSweep.Cli

/-- What a run is given: the words after the command's name, standard input, the environment
and the tree of files it works in. -/
structure Invocation where
  args : List String
  stdin : String := ""
  env : List (String × String) := []
  tree : Tree

/-- What a run leaves: its status, what it wrote to its two streams, the tree, and how many
questions it put. -/
structure Finish where
  exit : Nat
  stdout : String
  stderr : String
  tree : Tree
  questions : Nat := 0

/-- Where the settings file is looked for: in `solscrub` under `XDG_CONFIG_HOME` when that is an
absolute path, else under `.config` in the home directory. A home that the environment does not
give lies outside the tree: there is no file to load then. -/
def configPath (env : List (String × String)) : Option String :=
  let under (dir : Bytes) : String :=
    let app := Path.join dir (Text.utf8Bytes "solscrub")
    Path.display (Path.join app (Text.utf8Bytes "config.toml"))
  let xdg := (env.lookup "XDG_CONFIG_HOME").filter (·.startsWith "/")
  let home := (env.lookup "HOME").filter (!·.isEmpty)
  match xdg, home with
  | some x, _ => some (under (Text.utf8Bytes x))
  | none, some h => some (under (Path.join (Text.utf8Bytes h) (Text.utf8Bytes ".config")))
  | none, none => none

/-- Everything a path's run needs, settled once before the first: the options, the rules
compiled from them, and how the paths are scanned and reported. -/
structure Context where
  options : SweepOptions
  rules : RuleSet
  scan : ScanOptions
  dryRun : Bool
  json : Bool
  notify : Bool
  progress : Bool
  maxErrors : Option Nat

/-- The state carried from one path to the next: the tree, the input not yet read, the two
streams so far, whether a path failed, and the reports for JSON mode. -/
structure Session where
  tree : Tree
  input : List Char
  out : String := ""
  err : String := ""
  failed : Bool := false
  reports : List JsonValue := []
  questions : Nat := 0

namespace Session

/-- Writes a line to standard output. -/
def say (s : Session) (line : String) : Session := { s with out := s.out ++ line ++ "\n" }

/-- Writes a line to the error stream. -/
def warn (s : Session) (line : String) : Session := { s with err := s.err ++ line ++ "\n" }

/-- Writes a summary line for a path, unless summaries are off or the output is JSON. -/
def note (c : Context) (s : Session) (path msg : String) : Session :=
  if c.notify && !c.json then s.say (path ++ ": " ++ msg) else s

/-- Adds a report. -/
def report (s : Session) (path : String) (fields : List (String × JsonValue)) : Session :=
  { s with reports := s.reports ++ [JsonValue.record (("path", .str path) :: fields)] }

/-- Puts a question on the error stream and reads its answer from the input. -/
def ask (s : Session) (question : String) : Session × Bool :=
  let (yes, rest) := Prompt.ask s.input
  ({ s with err := s.err ++ Prompt.shown question, input := rest, questions := s.questions + 1 },
    yes)

/-- Notes a failed path: the error on the error stream and in the report. -/
def fail (s : Session) (path message : String) (shown : String) : Session :=
  let s := s.warn shown
  { s.report path [("outcome", .str "error"), ("error", .str message)] with failed := true }

/-- Sweeps one file. The prompt is put only when removal is to be confirmed and the run is not
dry, which is when the sweep asks at all. -/
def single (c : Context) (s : Session) (target : String) : Session :=
  let answer := (Prompt.ask s.input).1
  let run := sweepSingle (Text.utf8Bytes target) c.rules c.options s.tree (fun _ => answer)
    c.dryRun
  let s := match run.asked with
    | [] => s
    | q :: _ => (s.ask q).1
  let s := { s with tree := run.store }
  match run.outcome with
  | .error e => s.fail target e.message ("error: " ++ target ++ ": " ++ e.message)
  | .ok .nothingToDo =>
    (s.note c target "No console.log statements found").report target
      [("outcome", .str "nothing_to_do")]
  | .ok .declined =>
    (s.note c target "Cancelled, nothing changed").report target [("outcome", .str "declined")]
  | .ok (.previewed p) =>
    let preview := JsonValue.record
      [("log_line_numbers", .nums p.logLines), ("import_line_numbers", .nums p.importLines),
       ("total_to_remove", .num p.total)]
    (s.note c target (Report.previewSummary p.logLines.length p.importLines.length)).report
      target [("outcome", .str "preview"), ("preview", preview)]
  | .ok (.removed r) =>
    (s.note c target (Report.singleSummary r.logsRemoved r.importsRemoved)).report target
      [("outcome", .str "removed"), ("logs_removed", .num r.logsRemoved),
       ("imports_removed", .num r.importsRemoved)]

/-- The report of a batch's tally. -/
def tallyJson (t : Tally) : JsonValue :=
  JsonValue.record
    [("cancelled", .bool t.cancelled), ("errors", .strs t.errors),
     ("files_processed", .num t.filesProcessed), ("total_logs_removed", .num t.logsRemoved),
     ("total_imports_removed", .num t.importsRemoved)]

/-- The progress lines of a batch's events: one per file taken up, by its file name. -/
def progressLines (evs : List Event) : List String :=
  evs.filterMap fun
    | .processing i n p =>
      some ("Processing " ++ toString i ++ "/" ++ toString n ++ ": " ++
        ((Path.fileName p).map Path.display).getD "")
    | _ => none

/-- Sweeps the files under a directory as one batch, after one question for all of them. The
batch is called off at the given count of failed files. -/
def workspace (c : Context) (s : Session) (target : String) : Session :=
  let root := Text.utf8Bytes target
  match s.tree.scan root c.scan with
  | .error e =>
    let msg := (RunFailure.scan e).message
    s.fail target msg ("error: " ++ msg)
  | .ok found =>
    if found.files.isEmpty then
      (s.note c target "No Solidity files found in workspace").report target
        [("outcome", .str "nothing_to_do")]
    else
      let (s, go) := if c.options.confirmBeforeRemoval && !c.dryRun then
          s.ask (Report.workspaceConfirmation found.files.length)
        else (s, true)
      if !go then
        (s.note c target "Cancelled, nothing changed").report target [("outcome", .str "declined")]
      else
        let watch : CancelWatch := { trigger := c.maxErrors.map fun n => (.failed, n) }
        let (tree, tally, evs) :=
          if c.dryRun then
            let run := sweepBatch found.files (DryRun.mk s.tree) c.rules c.options watch
            (s.tree, run.tally, run.events)
          else
            let run := sweepBatch found.files s.tree c.rules c.options watch
            (run.store, run.tally, run.events)
        let s := { s with tree }
        let s := if c.progress then (progressLines evs).foldl warn s else s
        let summary := (if c.dryRun then "(dry run) " else "") ++ Report.workspaceSummary tally
        let s := if !c.json && (c.notify || tally.hasErrors) then s.say (target ++ ": " ++ summary)
          else s
        let s := s.report target
          [("outcome", .str (if c.dryRun then "preview" else "processed")),
           ("result", tallyJson tally)]
        if tally.hasErrors then { s with failed := true } else s

/-- Sweeps one path: a directory (a link to one included) as a workspace, anything else as a
file. -/
def target (c : Context) (s : Session) (path : String) : Session :=
  match s.tree.resolve (Text.utf8Bytes path) true with
  | .ok ⟨_, .dir _⟩ => s.workspace c path
  | _ => s.single c path

end Session

/-- The context of a run from its settings and command line, with the issues met while
compiling the user's rules. -/
def Command.context (cmd : Command) (settings : Settings) : Context × List RuleIssue :=
  let o := settings.sweepOptions cmd.imports
  let o := if cmd.noPreserveEmptyLines then { o with preserveEmptyLines := false } else o
  let o := if cmd.yes then { o with confirmBeforeRemoval := false } else o
  let o := { o with customPatterns := o.customPatterns ++ cmd.patterns }
  let (rules, issues) := RuleSet.compile o.customPatterns
  ({ options := o
     rules := rules
     scan := settings.scanOptions
     dryRun := cmd.dryRun
     json := cmd.json
     notify := settings.showNotifications && !cmd.quiet
     progress := !cmd.quiet && !cmd.json
     maxErrors := cmd.maxErrors }, issues)

/-- Runs a command that has been read. -/
def runCommand (inv : Invocation) (cmd : Command) : Finish :=
  let path := match cmd.config with
    | some p => some p
    | none => configPath inv.env
  let (settings, warnings) := match path with
    | some p => loadSettings inv.tree (Text.utf8Bytes p)
    | none => ({}, [])
  let (c, issues) := cmd.context settings
  let s : Session := { tree := inv.tree, input := inv.stdin.toList }
  let s := warnings.foldl (fun s w => s.warn ("warning: " ++ w)) s
  let s := issues.foldl (fun s i => s.warn ("warning: " ++ i.message)) s
  let targets := if cmd.paths.isEmpty then ["."] else cmd.paths
  let s := targets.foldl (Session.target c) s
  let s := if c.json then s.say (JsonValue.arr s.reports).pretty else s
  { exit := if s.failed then 1 else 0, stdout := s.out, stderr := s.err, tree := s.tree
    questions := s.questions }

/-- Runs the command: reads its command line, then sweeps. -/
def run (inv : Invocation) : Finish :=
  match parseCommand inv.args with
  | .ok cmd => runCommand inv cmd
  | .error (.help long) =>
    { exit := 0, stdout := if long then longHelp else shortHelp, stderr := "", tree := inv.tree }
  | .error .version => { exit := 0, stdout := versionText, stderr := "", tree := inv.tree }
  | .error (.misuse e) => { exit := 2, stdout := "", stderr := e.message, tree := inv.tree }

end ConsoleSweep.Cli
