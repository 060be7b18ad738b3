-- Loading the settings file of a run from a tree. A missing file gives the defaults and no
-- warning, as on a first run. A file that cannot be read, is not UTF-8 or is not valid gives
-- the defaults and one warning that says why; otherwise the file's own warnings stand.
import ConsoleSweep.Settings
import ConsoleSweep.Tree.Resolve
namespace ConsoleSweep

/-- Why a settings file that exists could not be used. -/
inductive LoadFault where
  /-- It could not be read as text. -/
  | io (path : Bytes) (e : IoError)
  /-- Its text is not valid, or a known key has the wrong type. -/
  | parse (path : Bytes) (f : FileFault)
deriving Repr, Inhabited

/-- The words for a TOML fault: this reader does not say where the fault lies. -/
def FileFault.message (_ : FileFault) : String := "<toml error>"

/-- What is said about a settings file that could not be used. -/
def LoadFault.message : LoadFault → String
  | .io p e => "Config I/O error '" ++ Path.display p ++ "': " ++ e.message
  | .parse p f => "Config parse error '" ++ Path.display p ++ "': " ++ f.message

/-- How many causes stand below a settings file that could not be used: the error of the
system, or of the reader. -/
def LoadFault.causes (_ : LoadFault) : Nat := 1

/-- Reads a settings file that exists, with its warnings. -/
def loadSettingsFile (t : Tree) (path : Bytes) : Except LoadFault (Settings × List String) :=
  match t.readFile path with
  | .error e => .error (.io path e)
  | .ok bs =>
    match Text.decodeUtf8 bs with
    | .error _ => .error (.io path .notUtf8)
    | .ok text =>
      match SettingsFile.ofText text with
      | .error f => .error (.parse path f)
      | .ok f => .ok f.settings

/-- The settings of a run from the file at a path, with the warnings to show. -/
def loadSettings (t : Tree) (path : Bytes) : Settings × List String :=
  if !t.exists? path then ({}, [])
  else
    match loadSettingsFile t path with
    | .ok r => r
    | .error e => ({}, [e.message ++ ". Using defaults."])

end ConsoleSweep
