-- The sentences shown to the user: the questions asked before a sweep and the summaries after
-- it. Imports are mentioned only when there are some.
import ConsoleSweep.Batch.Run
namespace ConsoleSweep.Report

/-- ` and <n> import(s)` when `n` is positive, else nothing. -/
def importsSuffix (n : Nat) : String :=
  if n > 0 then s!" and {n} import(s)" else ""

/-- The question before sweeping one document. -/
def singleConfirmation (logs imports : Nat) : String :=
  let suffix := importsSuffix imports
  s!"Found {logs} console.log statement(s){suffix}. Remove?"

/-- The question before sweeping a workspace. -/
def workspaceConfirmation (files : Nat) : String :=
  s!"Remove console logs from {files} Solidity file(s)?"

/-- The summary after sweeping one document. -/
def singleSummary (logs imports : Nat) : String :=
  let suffix := importsSuffix imports
  s!"Removed {logs} console.log statement(s){suffix}"

/-- The summary of a dry run on one document. -/
def previewSummary (logs imports : Nat) : String :=
  let suffix := importsSuffix imports
  s!"Would remove {logs} console.log statement(s){suffix}"

/-- The summary of a batch: what was removed (or that nothing was swept), a note when it was
cancelled, and the errors, one per line, after a blank line. -/
def workspaceSummary (t : Tally) : String :=
  let suffix := importsSuffix t.importsRemoved
  let files := t.filesProcessed
  let logs := t.logsRemoved
  let head := if files == 0 then "No console.log statements found in workspace"
    else s!"Removed {logs} console.log statement(s){suffix} from {files} file(s)"
  let head := if t.cancelled then head ++ " (cancelled before all files were processed)" else head
  if t.hasErrors then head ++ "\n\nErrors:\n" ++ "\n".intercalate t.errors else head

end ConsoleSweep.Report
