-- The laws of a batch run. A run visits a prefix of its documents, in order; each visit says
-- which document it processes and then how the visit ended, and a raised flag ends the run
-- before the next document. The tally of a run is the account of its events.
import Mathlib
import ConsoleSweep.Batch.Run

namespace ConsoleSweep

/-! ## One document -/

/-- How a visit to one document ends. -/
inductive Outcome where
  /-- The document was swept and saved, with the lines removed. -/
  | cleaned (logs imports : Nat)
  /-- Nothing was to be removed. -/
  | skipped
  /-- The document could not be read or saved. -/
  | failed (error : String)
deriving Repr, Inhabited

namespace Outcome

/-- The event that reports an outcome for a document. -/
def event (p : Bytes) : Outcome → Event
  | .cleaned l m => .cleaned p l m
  | .skipped => .skipped p
  | .failed e => .failed p e

/-- Whether the document was swept and saved. -/
def isCleaned : Outcome → Bool
  | .cleaned .. => true
  | _ => false

end Outcome

/-- Visiting one document: read it, sweep it, and save it when the sweep removed something. -/
def visit {σ : Type} [DocumentStore σ] (rs : RuleSet) (o : SweepOptions) (s : σ) (p : Bytes) :
    Outcome × σ :=
  match DocumentStore.read s p with
  | .error e => (.failed e.message, s)
  | .ok text =>
    let r := rs.sweep text o
    if !r.changed then (.skipped, s)
    else
      match DocumentStore.apply s p r.newText with
      | .error e => (.failed e.message, s)
      | .ok s' => (.cleaned r.logsRemoved r.importsRemoved, s')

/-- The tally once a document's outcome is counted. -/
def Tally.note (t : Tally) (p : Bytes) : Outcome → Tally
  | .cleaned l m =>
    { t with filesProcessed := t.filesProcessed + 1, logsRemoved := t.logsRemoved + l,
             importsRemoved := t.importsRemoved + m }
  | .skipped => t
  | .failed e => t.recordError (Path.display p) e

@[simp]
theorem Tally.note_cancelled (t : Tally) (p : Bytes) (out : Outcome) :
    (t.note p out).cancelled = t.cancelled := by
  cases out <;> rfl

/-- The events of visits made from position `j` on: for each document, that it is being
processed, counted from one, then how its visit ended. -/
def visitEvents (total : Nat) : Nat → List (Bytes × Outcome) → List Event
  | _, [] => []
  | j, (p, out) :: rest => .processing (j + 1) total p :: out.event p :: visitEvents total (j + 1) rest

/-- Visits documents in turn: each document with its outcome, and the store after them all. -/
def visitAll {σ : Type} [DocumentStore σ] (rs : RuleSet) (o : SweepOptions) :
    σ → List Bytes → List (Bytes × Outcome) × σ
  | s, [] => ([], s)
  | s, p :: ps =>
    let v := visit rs o s p
    let rest := visitAll rs o v.2 ps
    ((p, v.1) :: rest.1, rest.2)

@[simp]
theorem map_fst_visitAll {σ : Type} [DocumentStore σ] (rs : RuleSet) (o : SweepOptions) (s : σ)
    (ps : List Bytes) : (visitAll rs o s ps).1.map Prod.fst = ps := by
  induction ps generalizing s with
  | nil => rfl
  | cons p ps ih => simp [visitAll, ih]

/-- The tally once the outcomes of some visits are counted, in order. -/
def Tally.noteAll (t : Tally) (vs : List (Bytes × Outcome)) : Tally :=
  vs.foldl (fun t v => t.note v.1 v.2) t

@[simp]
theorem Tally.noteAll_nil (t : Tally) : t.noteAll [] = t := rfl

@[simp]
theorem Tally.noteAll_cons (t : Tally) (v : Bytes × Outcome) (vs : List (Bytes × Outcome)) :
    t.noteAll (v :: vs) = (t.note v.1 v.2).noteAll vs := rfl

/-! ## A run -/

section Run

variable {σ : Type} [DocumentStore σ] (rs : RuleSet) (o : SweepOptions) (w : CancelWatch)
  (total : Nat)

/-- One document of a run: the flag is tested, and unless it is up the document is visited, its
two events are said and its outcome is counted. -/
theorem sweepEach_cons (p : Bytes) (i : Nat) (rest : List (Bytes × Nat)) (s : σ) (t : Tally)
    (evs : List Event) :
    sweepEach rs o w total ((p, i) :: rest) s t evs =
      if w.raised evs then ⟨s, { t with cancelled := true }, evs ++ [.cancelled]⟩
      else sweepEach rs o w total rest (visit rs o s p).2 (t.note p (visit rs o s p).1)
        (evs ++ [.processing (i + 1) total p, (visit rs o s p).1.event p]) := by
  rw [sweepEach]
  split
  · rfl
  · simp only [visit, List.append_assoc, List.cons_append, List.nil_append]
    cases hr : DocumentStore.read s p with
    | error e => rfl
    | ok text =>
      by_cases hc : (rs.sweep text o).changed
      · simp only [hc, Bool.not_true, Bool.false_eq_true, if_false]
        cases ha : DocumentStore.apply s p (rs.sweep text o).newText with
        | error e => rfl
        | ok s' => rfl
      · simp only [hc, Bool.not_false, if_true]
        rfl

/-- A run from any point visits a prefix of the documents left, in order: it stops early only
where the flag is up before a document, and then says that it was cancelled. -/
theorem sweepEach_eq (ds : List Bytes) (j : Nat) (s : σ) (t : Tally) (evs : List Event) :
    ∃ k ≤ ds.length,
      sweepEach rs o w total (ds.zipIdx j) s t evs =
        { store := (visitAll rs o s (ds.take k)).2
          tally := { t.noteAll (visitAll rs o s (ds.take k)).1 with
            cancelled := t.cancelled || decide (k < ds.length) }
          events := evs ++ visitEvents total j (visitAll rs o s (ds.take k)).1 ++
            if k < ds.length then [.cancelled] else [] } := by
  -- The induction is on the documents left; the store, the tally and the events so far change
  -- from one document to the next, and so does the position of the first one left.
  induction ds generalizing j s t evs with
  | nil =>
    refine ⟨0, Nat.le_refl 0, ?_⟩
    cases t
    simp [sweepEach, visitAll, visitEvents]
  | cons p ds ih =>
    rw [List.zipIdx_cons, sweepEach_cons]
    split
    · refine ⟨0, Nat.zero_le _, ?_⟩
      simp [visitAll, visitEvents]
    · obtain ⟨k, hk, heq⟩ := ih (j + 1) (visit rs o s p).2 (t.note p (visit rs o s p).1)
        (evs ++ [.processing (j + 1) total p, (visit rs o s p).1.event p])
      refine ⟨k + 1, by simpa using hk, ?_⟩
      rw [heq]
      simp [visitAll, visitEvents, List.append_assoc]

/-- A whole run starts, visits a prefix of its documents, says that it was cancelled when it
stopped short, and completes. -/
theorem sweepBatch_eq (docs : List Bytes) (store : σ) :
    ∃ k ≤ docs.length,
      sweepBatch docs store rs o w =
        { store := (visitAll rs o store (docs.take k)).2
          tally := { ({} : Tally).noteAll (visitAll rs o store (docs.take k)).1 with
            cancelled := decide (k < docs.length) }
          events := .started docs.length ::
            visitEvents docs.length 0 (visitAll rs o store (docs.take k)).1 ++
            (if k < docs.length then [.cancelled] else []) ++ [.completed] } := by
  obtain ⟨k, hk, heq⟩ := sweepEach_eq rs o w docs.length docs 0 store {} [.started docs.length]
  refine ⟨k, hk, ?_⟩
  rw [sweepBatch, heq]
  simp

end Run

/-! ## The account of a run -/

namespace Event

/-- The log lines that a cleaned document reports; no other event reports any. -/
def logs : Event → Nat
  | .cleaned _ l _ => l
  | _ => 0

/-- The import lines that a cleaned document reports; no other event reports any. -/
def imports : Event → Nat
  | .cleaned _ _ m => m
  | _ => 0

/-- The line that a failed document adds to the errors: the document, then the message. -/
def errorLine : Event → Option String
  | .failed p e => some (Path.display p ++ ": " ++ e)
  | _ => none

theorem errorLine_isSome (e : Event) : (errorLine e).isSome = decide (e.kind = .failed) := by
  cases e <;> rfl

end Event

/-- A tally accounts for some events when it counts their cleaned documents, adds up the lines
those report, and lists the errors of their failed documents in order. -/
structure Accounts (t : Tally) (evs : List Event) : Prop where
  files : t.filesProcessed = evs.countP fun e => decide (e.kind = .cleaned)
  logs : t.logsRemoved = (evs.map Event.logs).sum
  imports : t.importsRemoved = (evs.map Event.imports).sum
  errors : t.errors = evs.filterMap Event.errorLine

namespace Accounts

theorem started (n : Nat) : Accounts {} [.started n] :=
  ⟨rfl, rfl, rfl, rfl⟩

/-- Counting a document's outcome accounts for the two events of its visit. -/
theorem note {t : Tally} {evs : List Event} (h : Accounts t evs) (p : Bytes) (j n : Nat)
    (out : Outcome) : Accounts (t.note p out) (evs ++ [.processing j n p, out.event p]) := by
  obtain ⟨hf, hl, hi, he⟩ := h
  cases out with
  | cleaned l m =>
    refine ⟨?_, ?_, ?_, ?_⟩ <;>
      simp [Tally.note, Outcome.event, Event.kind, Event.logs, Event.imports, Event.errorLine,
        List.filterMap_cons, hf, hl, hi, he]
  | skipped =>
    refine ⟨?_, ?_, ?_, ?_⟩ <;>
      simp [Tally.note, Outcome.event, Event.kind, Event.logs, Event.imports, Event.errorLine,
        List.filterMap_cons, hf, hl, hi, he]
  | failed e =>
    refine ⟨?_, ?_, ?_, ?_⟩ <;>
      simp [Tally.note, Tally.recordError, Outcome.event, Event.kind, Event.logs, Event.imports,
        Event.errorLine, List.filterMap_cons, hf, hl, hi, he]

/-- Counting the outcomes of visits accounts for all their events. -/
theorem noteAll {t : Tally} {evs : List Event} (h : Accounts t evs) (n j : Nat)
    (vs : List (Bytes × Outcome)) : Accounts (t.noteAll vs) (evs ++ visitEvents n j vs) := by
  induction vs generalizing t evs j with
  | nil => simpa [visitEvents] using h
  | cons v vs ih =>
    have := ih (h.note v.1 (j + 1) n v.2) (j + 1)
    simpa [visitEvents, List.append_assoc] using this

/-- Whether a run was cancelled is no part of its account. -/
theorem with_cancelled {t : Tally} {evs : List Event} (h : Accounts t evs) (c : Bool) :
    Accounts { t with cancelled := c } evs :=
  ⟨h.files, h.logs, h.imports, h.errors⟩

/-- An event that is neither a cleaned nor a failed document adds nothing to the account. -/
theorem append_quiet {t : Tally} {evs : List Event} (h : Accounts t evs) (e : Event)
    (hc : e.kind ≠ .cleaned) (hf : e.kind ≠ .failed) : Accounts t (evs ++ [e]) := by
  have hl : e.logs = 0 := by cases e <;> simp_all [Event.kind, Event.logs]
  have hi : e.imports = 0 := by cases e <;> simp_all [Event.kind, Event.imports]
  have he : e.errorLine = none := by cases e <;> simp_all [Event.kind, Event.errorLine]
  exact ⟨by simp [h.files, hc], by simp [h.logs, hl], by simp [h.imports, hi],
    by simp [h.errors, he]⟩

/-- A tally with errors is one whose events hold a failed document. -/
theorem hasErrors_iff {t : Tally} {evs : List Event} (h : Accounts t evs) :
    t.hasErrors = true ↔ ∃ e ∈ evs, e.kind = .failed := by
  rw [Tally.hasErrors, h.errors]
  simp only [Bool.not_eq_true', List.isEmpty_eq_false_iff, ne_eq, List.filterMap_eq_nil_iff,
    not_forall, Option.ne_none_iff_isSome, Event.errorLine_isSome, decide_eq_true_eq]
  simp

end Accounts

section Run

variable {σ : Type} [DocumentStore σ] (rs : RuleSet) (o : SweepOptions) (w : CancelWatch)

/-- The tally of every run accounts for its events. -/
theorem sweepBatch_accounts (docs : List Bytes) (store : σ) :
    Accounts (sweepBatch docs store rs o w).tally (sweepBatch docs store rs o w).events := by
  obtain ⟨k, -, heq⟩ := sweepBatch_eq rs o w docs store
  rw [heq]
  have hv := (Accounts.started docs.length).noteAll docs.length 0
    (visitAll rs o store (docs.take k)).1
  -- The visits are accounted for; the cancelled event and the completed one add nothing.
  have hcut : Accounts (({} : Tally).noteAll (visitAll rs o store (docs.take k)).1)
      ([.started docs.length] ++ visitEvents docs.length 0 (visitAll rs o store (docs.take k)).1 ++
        if k < docs.length then [.cancelled] else []) := by
    split
    · exact hv.append_quiet .cancelled (by decide) (by decide)
    · simpa using hv
  exact (hcut.append_quiet .completed (by decide) (by decide)).with_cancelled _

/-- The events of a batch run follow a fixed grammar, and its tally is their account. The run
starts, then each visited document, a prefix of the list, is said to be processed and then
cleaned, skipped or failed; a cancelled event comes exactly when the run was cut short, and the
run completes. The tally counts the cleaned documents and the lines they report, and lists the
errors of the failed ones in order. -/
theorem sweepBatch_events (docs : List Bytes) (store : σ) :
    let run := sweepBatch docs store rs o w
    (∃ k ≤ docs.length, ∃ outs : List Outcome, outs.length = k ∧
      run.events = .started docs.length :: visitEvents docs.length 0 ((docs.take k).zip outs) ++
        (if run.tally.cancelled then [.cancelled] else []) ++ [.completed] ∧
      (run.tally.cancelled = true ↔ k < docs.length)) ∧
    run.tally.filesProcessed = run.events.countP (fun e => decide (e.kind = .cleaned)) ∧
    run.tally.logsRemoved = (run.events.map Event.logs).sum ∧
    run.tally.importsRemoved = (run.events.map Event.imports).sum ∧
    run.tally.errors = run.events.filterMap Event.errorLine ∧
    (run.tally.hasErrors = true ↔ ∃ e ∈ run.events, e.kind = .failed) := by
  have ha := sweepBatch_accounts rs o w docs store
  refine ⟨?_, ha.files, ha.logs, ha.imports, ha.errors, ha.hasErrors_iff⟩
  obtain ⟨k, hk, heq⟩ := sweepBatch_eq rs o w docs store
  set vs := (visitAll rs o store (docs.take k)).1 with hvs
  have hfst : vs.map Prod.fst = docs.take k := map_fst_visitAll rs o store (docs.take k)
  have hzip : (docs.take k).zip (vs.map Prod.snd) = vs := by
    rw [← hfst]
    simpa using List.zip_unzip vs
  have hlen : (vs.map Prod.snd).length = k := by
    rw [List.length_map, ← List.length_map (f := Prod.fst), hfst, List.length_take]
    omega
  refine ⟨k, hk, vs.map Prod.snd, hlen, ?_, ?_⟩
  · rw [heq, hzip]
    simp
  · rw [heq]
    simp

end Run

end ConsoleSweep
