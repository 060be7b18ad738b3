-- Runs over files. A run fails as a whole when its scan could not start or its one document
-- could not be swept; the words put the kind of failure before its cause. Sweeping one file: it
-- must be a Solidity source by its name; its text is planned with the options' rules. With
-- nothing planned there is nothing to do; a dry run stops at the plan; when removal is to be
-- confirmed, the question is put and a no ends the run; otherwise the plan is applied and the
-- new text stored. Sweeping a workspace: the source files under a root are found by a scan of
-- the tree, then swept as one batch through a store; when the scan finds nothing the run is
-- empty: no events, a zero tally, the store untouched.
import ConsoleSweep.Scan
import ConsoleSweep.Report
import ConsoleSweep.Batch.Run
namespace ConsoleSweep

/-! ## Failure -/

/-- Why a run fails. -/
inductive RunFailure where
  /-- The scan for files could not start. -/
  | scan (e : ScanError)
  /-- The document could not be swept. -/
  | document (e : DocError)
deriving Repr, Inhabited

/-- What is said about a failed run. -/
def RunFailure.message : RunFailure → String
  | .scan e => "Discovery error: " ++ e.message
  | .document e => "Document error: " ++ e.message

/-- How many causes stand below a failed run, each the cause of the one above it. -/
def RunFailure.causes : RunFailure → Nat
  | .scan _ => 1
  | .document e => 1 + e.causes

/-! ## One file -/

/-- How a run on one file ends. -/
inductive SingleOutcome where
  /-- Nothing was planned for removal. -/
  | nothingToDo
  /-- The removal was not confirmed. -/
  | declined
  /-- A dry run: the plan, not carried out. -/
  | previewed (p : Plan)
  /-- The plan was carried out. -/
  | removed (s : Sweep)
deriving Repr, Inhabited

/-- The end of a run on one file, the store after it, and the questions put, in order. -/
structure SingleRun (σ : Type) where
  outcome : Except RunFailure SingleOutcome
  store : σ
  asked : List String

/-- Sweeps one file of a store with the given rules; `confirm` answers the question whether to
remove. -/
def sweepSingle {σ : Type} [DocumentStore σ] (path : Bytes) (rs : RuleSet) (o : SweepOptions)
    (store : σ) (confirm : String → Bool) (dryRun : Bool) : SingleRun σ :=
  let fail (e : DocError) : SingleRun σ := ⟨.error (.document e), store, []⟩
  if !Path.isSolidity path then fail (.notSolidity path)
  else
    match DocumentStore.read store path with
    | .error e => fail e
    | .ok text =>
      let p := Plan.ofText rs text o.removeImports
      if p.isEmpty then ⟨.ok .nothingToDo, store, []⟩
      else if dryRun then ⟨.ok (.previewed p), store, []⟩
      else
        let question := Report.singleConfirmation p.logLines.length p.importLines.length
        let asked := if o.confirmBeforeRemoval then [question] else []
        if o.confirmBeforeRemoval && !confirm question then ⟨.ok .declined, store, asked⟩
        else
          let s := applyPlan text o p
          match DocumentStore.apply store path s.newText with
          | .error e => ⟨.error (.document e), store, asked⟩
          | .ok store' => ⟨.ok (.removed s), store', asked⟩

/-! ## A workspace -/

/-- Sweeps the files that a scan of a tree from `root` finds, through a store, with the given
rules. -/
def sweepWorkspace {σ : Type} [DocumentStore σ] (tree : Tree) (root : Bytes) (scan : ScanOptions)
    (store : σ) (rs : RuleSet) (o : SweepOptions) (watch : CancelWatch) :
    Except RunFailure (BatchRun σ) :=
  match tree.scan root scan with
  | .error e => .error (.scan e)
  | .ok found =>
    if found.files.isEmpty then .ok ⟨store, {}, []⟩
    else .ok (sweepBatch found.files store rs o watch)

end ConsoleSweep
