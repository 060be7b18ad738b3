-- A dry run over a store in memory. The wrapper reads through and accepts every edit without
-- making it, so each of its visits reads the document as the store first held it. A real run
-- reads what its own earlier visits wrote; the two runs go in lockstep as long as no document is
-- named twice and no edit is refused, and then they count and say the same.
import ConsoleSweep.Proofs.Rerun
import ConsoleSweep.Proofs.LogRule

namespace ConsoleSweep

open MemoryStore Text

section DryRun

variable (rs : RuleSet) (o : SweepOptions)

/-- A visit through the wrapper ends as a visit to the store itself whose edits are all
accepted, and leaves the wrapper as it was. -/
theorem visit_dryRun (m : MemoryStore) (p : Bytes) :
    visit rs o (DryRun.mk m) p =
      (memoryOutcome (fun t => rs.sweep t o) (m.get? p) false, DryRun.mk m) := by
  cases hg : m.get? p with
  | none => simp [visit, DocumentStore.read, hg, memoryOutcome]
  | some bs =>
    cases hd : Text.decodeUtf8 bs with
    | error f => simp [visit, DocumentStore.read, hg, textOfBytes, hd, memoryOutcome]
    | ok t =>
      by_cases hc : (rs.sweep t o).changed
      · simp [visit, DocumentStore.read, DocumentStore.apply, hg, textOfBytes, hd, hc,
          memoryOutcome]
      · simp [visit, DocumentStore.read, hg, textOfBytes, hd, hc, memoryOutcome]

/-- A dry run visits every document as the store first held it, whatever came before. -/
theorem visitAll_dryRun (m : MemoryStore) (ps : List Bytes) :
    visitAll rs o (DryRun.mk m) ps =
      (ps.map fun p => (p, memoryOutcome (fun t => rs.sweep t o) (m.get? p) false),
        DryRun.mk m) := by
  induction ps with
  | nil => rfl
  | cons p ps ih => simp only [visitAll, visit_dryRun, ih, List.map_cons]

variable (w : CancelWatch) (total : Nat)

/-- A dry run and a real run, from the same tally and events, go in lockstep: the real store
reads under every name left what the wrapped store reads, no two names left are of one
document, and no edit to them is refused. -/
theorem sweepEach_dryRun (ds : List Bytes) (j : Nat) (s m : MemoryStore) (t : Tally)
    (evs : List Event) (hnames : ds.Pairwise fun p q => sameName p q = false)
    (hget : ∀ p ∈ ds, s.get? p = m.get? p) (hrefused : ∀ p ∈ ds, s.refuses p = false) :
    (sweepEach rs o w total (ds.zipIdx j) (DryRun.mk m) t evs).tally =
        (sweepEach rs o w total (ds.zipIdx j) s t evs).tally ∧
      (sweepEach rs o w total (ds.zipIdx j) (DryRun.mk m) t evs).events =
        (sweepEach rs o w total (ds.zipIdx j) s t evs).events ∧
      (sweepEach rs o w total (ds.zipIdx j) (DryRun.mk m) t evs).store = DryRun.mk m := by
  -- The induction is on the documents left. After a visit the real store has changed only
  -- under the name just visited, which no name left shares, so the invariant carries on.
  induction ds generalizing j s t evs with
  | nil => exact ⟨rfl, rfl, rfl⟩
  | cons p ds ih =>
    rw [List.zipIdx_cons, sweepEach_cons, sweepEach_cons]
    by_cases hr : w.raised evs = true
    · rw [if_pos hr, if_pos hr]
      exact ⟨rfl, rfl, rfl⟩
    · rw [if_neg hr, if_neg hr]
      have hp := List.mem_cons_self (a := p) (l := ds)
      have hv := memoryVisit_visit rs o s p
      have hout : (visit rs o (DryRun.mk m) p).1 = (visit rs o s p).1 := by
        rw [visit_dryRun, visit_fst_memory, hget p hp, hrefused p hp]
      rw [hout, show (visit rs o (DryRun.mk m) p).2 = DryRun.mk m by rw [visit_dryRun]]
      obtain ⟨hfar, hnames'⟩ := List.pairwise_cons.1 hnames
      refine ih (j + 1) _ _ _ hnames' (fun q hq => ?_) (fun q hq => ?_)
      · rw [hv.get?_eq q (fun _ => hfar q hq), hget q (List.mem_cons_of_mem p hq)]
      · rw [refuses_of_refused_eq hv.refused_eq]
        exact hrefused q (List.mem_cons_of_mem p hq)

/-- A dry run over a store in memory that names each document once and refuses no edit to
them counts and says what the real run does, and leaves the store as it was. -/
theorem sweepBatch_dryRun (docs : List Bytes) (m : MemoryStore)
    (hnames : docs.Pairwise fun p q => sameName p q = false)
    (hrefused : ∀ p ∈ docs, m.refuses p = false) :
    (sweepBatch docs (DryRun.mk m) rs o w).tally = (sweepBatch docs m rs o w).tally ∧
      (sweepBatch docs (DryRun.mk m) rs o w).events = (sweepBatch docs m rs o w).events ∧
      (sweepBatch docs (DryRun.mk m) rs o w).store = DryRun.mk m := by
  obtain ⟨ht, he, hs⟩ := sweepEach_dryRun rs o w docs.length docs 0 m m {}
    [.started docs.length] hnames (fun _ _ => rfl) hrefused
  exact ⟨ht, by simp only [sweepBatch, he], hs⟩

end DryRun

/-- `A.sol`, a call to `console.log` over a line `x`, named twice, under the rules in force when
no pattern is given: the real run cleans it once and then skips it, while the dry run, reading
the untouched store each time, cleans it twice and counts its log line twice. -/
theorem sweepBatch_dryRun_named_twice :
    let name : Bytes := [65, 46, 115, 111, 108]
    let m : MemoryStore := { docs := [(name, utf8Bytes "console.log(1);\nx")] }
    let rs := (RuleSet.compile []).1
    let real := sweepBatch [name, name] m rs {} {}
    let dry := sweepBatch [name, name] (DryRun.mk m) rs {} {}
    real.events = [.started 2, .processing 1 2 name, .cleaned name 1 0, .processing 2 2 name,
        .skipped name, .completed] ∧
      real.tally.filesProcessed = 1 ∧ real.tally.logsRemoved = 1 ∧
      dry.events = [.started 2, .processing 1 2 name, .cleaned name 1 0, .processing 2 2 name,
        .cleaned name 1 0, .completed] ∧
      dry.tally.filesProcessed = 2 ∧ dry.tally.logsRemoved = 2 := by
  intro name m rs real dry
  -- The call is a log line and `x` is not; blank lines are kept, so the call's line is left
  -- empty.
  have hsweep : rs.sweep "console.log(1);\nx" {} = ⟨"\nx", 1, 0⟩ := by
    have hlines : lines "console.log(1);\nx" = ["console.log(1);", "x"] := rfl
    have hcall : rs.isLogLine "console.log(1);" = true :=
      isLogLine_compile_of_call [] ⟨[], "1);".toList, by simp⟩
    have hx : rs.isLogLine "x" = false := by decide +kernel
    have hplan : Plan.ofText rs "console.log(1);\nx" false = ⟨[0], []⟩ := by
      simp [Plan.ofText, numbered, hlines, hcall, hx]
    rw [RuleSet.sweep, hplan]
    simp [applyPlan, numbered, hlines, unlines]
  -- Read from the store as it first is, the document is cleaned of one log line.
  have hout : memoryOutcome (fun t => rs.sweep t {}) (m.get? name) false = .cleaned 1 0 := by
    have hget : m.get? name = some (utf8Bytes "console.log(1);\nx") := rfl
    simp [memoryOutcome, hget, decodeUtf8_utf8Bytes, hsweep, Sweep.changed]
  have hvisit : (visit rs {} m name).1 = .cleaned 1 0 := by
    rw [visit_fst_memory]
    exact hout
  have hreal : (visitAll rs {} m [name, name]).1 = [(name, .cleaned 1 0), (name, .skipped)] := by
    simp only [visitAll, visit_visit, hvisit]
    rfl
  have hdry : (visitAll rs {} (DryRun.mk m) [name, name]).1 =
      [(name, .cleaned 1 0), (name, .cleaned 1 0)] := by
    simp only [visitAll_dryRun, hout, List.map_cons, List.map_nil]
  simp only [real, dry, sweepBatch_uncancelled, hreal, hdry]
  exact ⟨rfl, rfl, rfl, rfl, rfl, rfl⟩

end ConsoleSweep
