-- A batch sweeps documents one after another and reports its progress. It starts, then for
-- each document, unless the cancel flag is up, says which one it is processing, reads it,
-- sweeps it, and writes it back when the sweep changed something; a document that cannot be
-- read or written is noted as failed and the batch goes on. A raised flag ends the batch
-- before the next document. The batch always ends by saying it completed. Its tally counts the
-- documents swept and the log and import lines that came out of them, notes the errors met on
-- the way (one line each, the document first), and says whether the batch was cancelled before
-- its end.
import ConsoleSweep.Batch.Store
import ConsoleSweep.Sweep
namespace ConsoleSweep

/-- What a batch has done so far. -/
structure Tally where
  filesProcessed : Nat := 0
  logsRemoved : Nat := 0
  importsRemoved : Nat := 0
  errors : List String := []
  cancelled : Bool := false
deriving Inhabited, Repr, BEq

namespace Tally

/-- Counts one swept document. -/
def record (t : Tally) (s : Sweep) : Tally :=
  { t with filesProcessed := t.filesProcessed + 1, logsRemoved := t.logsRemoved + s.logsRemoved,
           importsRemoved := t.importsRemoved + s.importsRemoved }

/-- Notes an error against a document, written `<document>: <message>`. -/
def recordError (t : Tally) (doc message : String) : Tally :=
  { t with errors := t.errors ++ [doc ++ ": " ++ message] }

/-- Whether any error was met. -/
def hasErrors (t : Tally) : Bool := !t.errors.isEmpty

end Tally

/-! ## The run -/

/-- The kinds of progress event. -/
inductive EventKind where
  | started
  | processing
  | cleaned
  | skipped
  | failed
  | cancelled
  | completed
deriving Repr, BEq, Inhabited, DecidableEq

/-- A progress event of a batch. `processing` counts documents from one. -/
inductive Event where
  | started (total : Nat)
  | processing (index total : Nat) (path : Bytes)
  | cleaned (path : Bytes) (logs imports : Nat)
  | skipped (path : Bytes)
  | failed (path : Bytes) (error : String)
  | cancelled
  | completed
deriving Repr, BEq, Inhabited

/-- The kind of an event. -/
def Event.kind : Event → EventKind
  | .started _ => .started
  | .processing .. => .processing
  | .cleaned .. => .cleaned
  | .skipped _ => .skipped
  | .failed .. => .failed
  | .cancelled => .cancelled
  | .completed => .completed

/-- When the cancel flag goes up: from the start, or right after the `count`-th event of a kind
(never, if `count` is zero). -/
structure CancelWatch where
  initially : Bool := false
  trigger : Option (EventKind × Nat) := none
deriving Repr, Inhabited

/-- Whether the flag is up after the given events. -/
def CancelWatch.raised (w : CancelWatch) (evs : List Event) : Bool :=
  w.initially ||
    match w.trigger with
    | some (k, n) => 0 < n && n ≤ (evs.filter fun e => e.kind == k).length
    | none => false

/-- What a batch leaves: the store, the tally and the events in order. -/
structure BatchRun (σ : Type) where
  store : σ
  tally : Tally
  events : List Event

/-- Sweeps the documents in turn, each with its position counted from zero. -/
def sweepEach {σ : Type} [DocumentStore σ] (rs : RuleSet) (o : SweepOptions)
    (watch : CancelWatch) (total : Nat) :
    List (Bytes × Nat) → σ → Tally → List Event → BatchRun σ
  | [], s, t, evs => ⟨s, t, evs⟩
  | (p, i) :: rest, s, t, evs =>
    if watch.raised evs then ⟨s, { t with cancelled := true }, evs ++ [.cancelled]⟩
    else
      let evs := evs ++ [.processing (i + 1) total p]
      let fail (e : DocError) :=
        sweepEach rs o watch total rest s (t.recordError (Path.display p) e.message)
          (evs ++ [.failed p e.message])
      match DocumentStore.read s p with
      | .error e => fail e
      | .ok text =>
        let r := rs.sweep text o
        if !r.changed then sweepEach rs o watch total rest s t (evs ++ [.skipped p])
        else
          match DocumentStore.apply s p r.newText with
          | .error e => fail e
          | .ok s' =>
            sweepEach rs o watch total rest s' (t.record r)
              (evs ++ [.cleaned p r.logsRemoved r.importsRemoved])

/-- Sweeps a list of documents in a store, with the given rules. -/
def sweepBatch {σ : Type} [DocumentStore σ] (docs : List Bytes) (store : σ) (rs : RuleSet)
    (o : SweepOptions) (watch : CancelWatch) : BatchRun σ :=
  let run := sweepEach rs o watch docs.length docs.zipIdx store {} [.started docs.length]
  { run with events := run.events ++ [.completed] }

end ConsoleSweep
