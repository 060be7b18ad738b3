-- Finding source files under a directory of a tree. The walk takes entries in byte order of
-- their names, depth first, each directory's entries right after the directory, and enters
-- directories no deeper than a greatest depth (never more than 128). Symbolic links are not
-- followed, the root apart, and count as files. A directory whose name matches an exclude
-- pattern without wildcards is not entered; a file is kept when its name matches no exclude
-- pattern and some include pattern, or there are none. A directory that cannot be opened, and a
-- file whose name is not UTF-8, are reported as warnings and passed over.
import ConsoleSweep.Tree.Resolve
import ConsoleSweep.Glob
namespace ConsoleSweep

/-- How a scan is done: the greatest depth, the patterns of file names to include and to
exclude, and whether it is called off from the start. -/
structure ScanOptions where
  maxDepth : Nat := 32
  includePatterns : List String := ["*.sol"]
  excludePatterns : List String := ["node_modules", ".git"]
  cancelled : Bool := false
deriving Repr, Inhabited

/-- The greatest depth of any scan. -/
def scanDepthLimit : Nat := 128

/-- Why a scan cannot start. -/
inductive ScanError where
  /-- Nothing is at the root, or it cannot be reached. -/
  | rootNotFound (root : Bytes)
  /-- The root is not a directory. -/
  | notADirectory (root : Bytes)
deriving Repr, Inhabited

/-- What is said about a scan that cannot start. -/
def ScanError.message : ScanError → String
  | .rootNotFound p => "Scan path '" ++ Path.display p ++ "' does not exist"
  | .notADirectory p => "Scan path '" ++ Path.display p ++ "' is not a directory"

/-- How many causes stand below a scan that cannot start: none. -/
def ScanError.causes (_ : ScanError) : Nat := 0

/-- The files found, in order, and the warnings. -/
structure ScanResult where
  files : List Bytes := []
  warnings : List String := []
deriving Repr, Inhabited

/-- Each file found, with how many had been found by then. -/
def ScanResult.found (r : ScanResult) : List (Bytes × Nat) :=
  r.files.zipIdx.map fun (p, i) => (p, i + 1)

/-- The patterns of a scan, compiled; those that do not compile are left out. -/
structure ScanPlan where
  maxDepth : Nat
  includes : List Glob.Pattern
  excludes : List Glob.Pattern

/-- The plan of a scan's options. -/
def ScanOptions.plan (o : ScanOptions) : ScanPlan :=
  { maxDepth := min o.maxDepth scanDepthLimit
    includes := Glob.compileAll o.includePatterns
    excludes := Glob.compileAll o.excludePatterns }

/-- A directory is left out when its name (empty if not UTF-8) matches an exclude pattern
without wildcards. -/
def ScanPlan.skipsDir (p : ScanPlan) (name : Bytes) : Bool :=
  let s := (Text.decodeUtf8 name).toOption.getD ""
  p.excludes.any fun g => g.isLiteral && g.matches s

/-- Takes a file into the result, or a warning when its name is not UTF-8. -/
def ScanPlan.consider (p : ScanPlan) (path : Bytes) (name : Option Bytes) (r : ScanResult) :
    ScanResult :=
  match name.bind fun n => (Text.decodeUtf8 n).toOption with
  | none =>
    { r with warnings := r.warnings ++ ["Skipping '" ++ Path.display path ++ "': non-UTF-8 filename"] }
  | some s =>
    if p.excludes.any (·.matches s) then r
    else if p.includes.isEmpty || p.includes.any (·.matches s) then
      { r with files := r.files ++ [path] }
    else r

/-- The warning for a directory that cannot be opened. -/
def accessWarning (path : Bytes) (e : IoError) : String :=
  "Cannot access '" ++ Path.display path ++ "': IO error for operation on " ++ Path.display path ++
    ": " ++ e.message

/-- Opens a directory: one whose path the system refuses cannot be. -/
def openDir (path : Bytes) : Option IoError :=
  if path.length > Path.maxLength then some .nameTooLong else none

/-- Opens a directory's entries for a scan, or warns that it cannot be opened. -/
def ScanPlan.enter (path : Bytes) (r : ScanResult) (scanEntries : ScanResult → ScanResult) :
    ScanResult :=
  match openDir path with
  | some e => { r with warnings := r.warnings ++ [accessWarning path e] }
  | none => scanEntries r

mutual

/-- Scans an entry at a depth under its path and name. -/
def ScanPlan.entry (p : ScanPlan) (path name : Bytes) (depth : Nat) :
    Tree → ScanResult → ScanResult
  | .dir es, r =>
    if p.skipsDir name then r
    else if depth + 1 ≤ p.maxDepth then ScanPlan.enter path r (p.entries path (depth + 1) es)
    else r
  | _, r => p.consider path (some name) r

/-- Scans a directory's entries in turn. -/
def ScanPlan.entries (p : ScanPlan) (dir : Bytes) (depth : Nat) :
    List (Bytes × Tree) → ScanResult → ScanResult
  | [], r => r
  | (n, t) :: rest, r => p.entries dir depth rest (p.entry (Path.join dir n) n depth t r)

end

/-- Scans a tree from a root directory. A root that is a link to a directory is itself taken as
a file entry, and its directory is scanned. -/
def Tree.scan (t : Tree) (root : Bytes) (o : ScanOptions) : Except ScanError ScanResult :=
  match t.resolve root true with
  | .error _ => .error (.rootNotFound root)
  | .ok ⟨_, .dir es⟩ =>
    if o.cancelled then .ok {}
    else
      let p := o.plan
      let r : ScanResult := match t.resolve root false with
        | .ok ⟨_, .link _⟩ => p.consider root (Path.fileName root) {}
        | _ => {}
      .ok (if 0 < p.maxDepth then ScanPlan.enter root r (p.entries root 1 es) else r)
  | .ok _ => .error (.notADirectory root)

end ConsoleSweep
