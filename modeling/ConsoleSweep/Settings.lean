-- Settings and the file that sets them. The file is TOML with three optional sections,
-- `removal`, `discovery` and `logging`, each a table or an array of its values in the order of
-- its keys. Keys the program does not know are ignored; a known key that holds
-- a value of the wrong type makes the file unreadable. A value out of range keeps its default
-- and adds a warning, and every such problem is reported, in the order of the keys below.
import ConsoleSweep.Toml.Read
import ConsoleSweep.Text.Lines
import ConsoleSweep.Sweep
import ConsoleSweep.Scan
namespace ConsoleSweep

/-- The settings of a run. -/
structure Settings where
  preserveEmptyLines : Bool := true
  confirmBeforeRemoval : Bool := true
  showNotifications : Bool := true
  customPatterns : List String := []
  maxDepth : Nat := 32
  includePatterns : List String := ["*.sol"]
  excludePatterns : List String := ["node_modules", ".git"]
  logLevel : Option String := none
deriving Repr, Inhabited

/-- The depth a walk may take when the file sets none, or one out of range. -/
def defaultMaxDepth : Nat := 32

/-- The greatest depth a file may set. -/
def greatestMaxDepth : Nat := 128

/-- The levels of logging a file may name, in any case. -/
def logLevels : List String := ["error", "warn", "info", "debug", "trace"]

/-- What a settings file gives: each setting absent unless the file sets it. -/
structure SettingsFile where
  preserveEmptyLines : Option Bool := none
  confirmBeforeRemoval : Option Bool := none
  showNotifications : Option Bool := none
  customPatterns : Option (List String) := none
  maxDepth : Option Nat := none
  includePatterns : Option (List String) := none
  excludePatterns : Option (List String) := none
  level : Option String := none
deriving Repr, Inhabited

/-- Why a settings file cannot be read. -/
inductive FileFault where
  /-- The text is not valid TOML. -/
  | toml (e : Toml.TomlError)
  /-- A known key holds a value of another type. -/
  | wrongType (key : String)
deriving Repr, Inhabited

namespace Toml

/-- A boolean. -/
def Node.asBool? : Node → Option Bool
  | .bool b => some b
  | _ => none

/-- A string. -/
def Node.asString? : Node → Option String
  | .str s => some s
  | _ => none

/-- An array whose items are all strings. -/
def Node.asStrings? : Node → Option (List String)
  | .array items => items.mapM Node.asString?
  | _ => none

/-- An integer that is not negative. -/
def Node.asCount? : Node → Option Nat
  | .int n => if 0 ≤ n then some n.toNat else none
  | _ => none

/-- A section with the given keys: a table, however it was written, or an array whose items
stand for the keys in their order. Items past the last key are ignored, and keys past the last
item are absent. -/
def Node.asSection? (keys : List String) : Node → Option Entries
  | .table _ es => some es
  | .array items => some (keys.zip items)
  | _ => none

end Toml

/-- The value of a key, if the table has it; a value of the wrong type is a fault. -/
def readKey {α : Type} (es : Toml.Entries) (key : String) (read : Toml.Node → Option α) :
    Except FileFault (Option α) :=
  match es.get? key with
  | none => .ok none
  | some n =>
    match read n with
    | some v => .ok (some v)
    | none => .error (.wrongType key)

/-- The keys of the removal section, in their order. -/
def removalKeys : List String :=
  ["preserve_empty_lines", "confirm_before_removal", "show_notifications", "custom_patterns"]

/-- The keys of the discovery section, in their order. -/
def discoveryKeys : List String := ["max_depth", "include_patterns", "exclude_patterns"]

/-- The keys of the logging section. -/
def loggingKeys : List String := ["level"]

/-- Reads a settings file from its text. -/
def SettingsFile.ofText (text : String) : Except FileFault SettingsFile := do
  let root ← match Toml.parse text with
    | .ok es => .ok es
    | .error e => .error (.toml e)
  let removal := (← readKey root "removal" (Toml.Node.asSection? removalKeys)).getD []
  let discovery := (← readKey root "discovery" (Toml.Node.asSection? discoveryKeys)).getD []
  let logging := (← readKey root "logging" (Toml.Node.asSection? loggingKeys)).getD []
  return {
    preserveEmptyLines := ← readKey removal "preserve_empty_lines" Toml.Node.asBool?
    confirmBeforeRemoval := ← readKey removal "confirm_before_removal" Toml.Node.asBool?
    showNotifications := ← readKey removal "show_notifications" Toml.Node.asBool?
    customPatterns := ← readKey removal "custom_patterns" Toml.Node.asStrings?
    maxDepth := ← readKey discovery "max_depth" Toml.Node.asCount?
    includePatterns := ← readKey discovery "include_patterns" Toml.Node.asStrings?
    excludePatterns := ← readKey discovery "exclude_patterns" Toml.Node.asStrings?
    level := ← readKey logging "level" Toml.Node.asString? }

/-- The warning for custom patterns that are blank. -/
def blankPatternsWarning (n : Nat) : String :=
  "[removal] custom_patterns contains " ++ toString n ++ " empty pattern(s); they were ignored."

/-- The warning for a depth out of range. -/
def depthWarning (d : Nat) : String :=
  "Config 'discovery.max_depth' = '" ++ toString d ++ "' is out of range. Expected: 1-" ++
    toString greatestMaxDepth ++ " (using default " ++ toString defaultMaxDepth ++ ")"

/-- The warning for an empty list of patterns to include. -/
def emptyIncludeWarning : String :=
  "[discovery] include_patterns is empty; keeping the default [\"*.sol\"]."

/-- The warning for a level of logging that is not known. -/
def levelWarning (level : String) : String :=
  "[logging] level = \"" ++ level ++
    "\" is not recognised. Valid values: error, warn, info, debug, trace. Using default (warn)."

/-- Takes the value a file gives for a setting, as it is. -/
def takeValue {α : Type} (value : Option α) (set : Settings → α → Settings)
    (st : Settings × List String) : Settings × List String :=
  match value with
  | some v => (set st.1 v, st.2)
  | none => st

/-- Takes the value a file gives for a setting in the form `accept` gives it, when it gives one;
otherwise the setting keeps its value and the warning for the refused value is added. -/
def checkValue {α β : Type} (value : Option α) (accept : α → Option β)
    (set : Settings → β → Settings) (warning : α → String)
    (st : Settings × List String) : Settings × List String :=
  match value with
  | some v =>
    match accept v with
    | some b => (set st.1 b, st.2)
    | none => (st.1, st.2 ++ [warning v])
  | none => st

/-- Takes the custom patterns a file gives, less the blank ones, and adds one warning that counts
the blank ones when there are any. -/
def takeCustomPatterns (value : Option (List String)) (st : Settings × List String) :
    Settings × List String :=
  match value with
  | some ps =>
    let blank := ps.filter Text.isBlankText
    let warnings := if blank.isEmpty then st.2 else st.2 ++ [blankPatternsWarning blank.length]
    ({ st.1 with customPatterns := ps.filter fun p => !Text.isBlankText p }, warnings)
  | none => st

/-- A depth from 1 to 128. -/
def acceptDepth (d : Nat) : Option Nat :=
  if 1 ≤ d && d ≤ greatestMaxDepth then some d else none

/-- Patterns to include, unless there are none. -/
def acceptInclude (ps : List String) : Option (List String) :=
  if ps.isEmpty then none else some ps

/-- A known level of logging, kept in lower case. -/
def acceptLevel (level : String) : Option String :=
  let lower := Text.asciiLower level
  if logLevels.contains lower then some lower else none

/-- The settings a file gives, over the defaults, with a warning for each value refused, one
setting after another in the order of the keys: blank custom patterns are dropped, a depth must
lie in 1 to 128, the patterns to include may not be empty, and a level of logging must be known
(it is kept in lower case). -/
def SettingsFile.settings (f : SettingsFile) : Settings × List String :=
  (({} : Settings), ([] : List String))
    |> takeValue f.preserveEmptyLines (fun s v => { s with preserveEmptyLines := v })
    |> takeValue f.confirmBeforeRemoval (fun s v => { s with confirmBeforeRemoval := v })
    |> takeValue f.showNotifications (fun s v => { s with showNotifications := v })
    |> takeCustomPatterns f.customPatterns
    |> checkValue f.maxDepth acceptDepth (fun s d => { s with maxDepth := d }) depthWarning
    |> checkValue f.includePatterns acceptInclude (fun s ps => { s with includePatterns := ps })
      (fun _ => emptyIncludeWarning)
    |> takeValue f.excludePatterns (fun s ps => { s with excludePatterns := ps })
    |> checkValue f.level acceptLevel (fun s l => { s with logLevel := some l }) levelWarning

/-- The options of a sweep under these settings; whether imports go too is the command's
choice, not the file's. -/
def Settings.sweepOptions (s : Settings) (removeImports : Bool) : SweepOptions :=
  { removeImports
    preserveEmptyLines := s.preserveEmptyLines
    confirmBeforeRemoval := s.confirmBeforeRemoval
    customPatterns := s.customPatterns }

/-- The options of a scan under these settings; whether it is called off is the run's
concern. -/
def Settings.scanOptions (s : Settings) (cancelled : Bool := false) : ScanOptions :=
  { maxDepth := s.maxDepth
    includePatterns := s.includePatterns
    excludePatterns := s.excludePatterns
    cancelled }

end ConsoleSweep
