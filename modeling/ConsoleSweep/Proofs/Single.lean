-- The laws of sweeping one file. The name is checked first and the file read next: a file that
-- is not a source, or cannot be read, ends the run before any question or write. A readable
-- source whose sweep changes nothing ends it with nothing to do; the run tests whether its plan
-- is empty, which is the same test, because a plan lists import lines only when they are looked
-- for. A dry run stops at the plan. The question is put once, and only past these exits; a no
-- ends the run; and the store is written once, on the last exit only.
import ConsoleSweep.Run
import ConsoleSweep.Batch.Memory
import ConsoleSweep.Proofs.Changed

namespace ConsoleSweep

/-! ## An empty plan is a sweep without change -/

/-- The plan of a text counts all its entries: its import list is empty unless imports are
looked for. -/
theorem Plan.total_ofText_eq_counted (rs : RuleSet) (t : String) (o : SweepOptions) :
    (Plan.ofText rs t o.removeImports).total = (Plan.ofText rs t o.removeImports).counted o := by
  unfold total counted
  cases o.removeImports <;> simp [ofText]

/-- The plan of a text is empty exactly when sweeping the text by it reports no change. -/
theorem Plan.isEmpty_ofText (rs : RuleSet) (t : String) (o : SweepOptions) :
    (Plan.ofText rs t o.removeImports).isEmpty = !(rs.sweep t o).changed := by
  have hc := changed_applyPlan_iff t o (Plan.ofText rs t o.removeImports)
  rw [isEmpty, total_ofText_eq_counted]
  by_cases h : (Plan.ofText rs t o.removeImports).counted o = 0
  · have hch : (rs.sweep t o).changed = false := Bool.eq_false_iff.2 fun hch => hc.1 hch h
    simp [h, hch]
  · have hch : (rs.sweep t o).changed = true := hc.2 h
    simp [h, hch]

/-! ## The exits of a run -/

/-- The question put before sweeping a text by a plan. -/
def Plan.question (p : Plan) : String :=
  Report.singleConfirmation p.logLines.length p.importLines.length

section Exits

variable {σ : Type} [DocumentStore σ] {path : Bytes} {rs : RuleSet} {o : SweepOptions}
  {store : σ} {confirm : String → Bool} {dryRun : Bool}

theorem sweepSingle_of_not_solidity (h : Path.isSolidity path = false) :
    sweepSingle path rs o store confirm dryRun =
      ⟨.error (.document (.notSolidity path)), store, []⟩ := by
  simp [sweepSingle, h]

theorem sweepSingle_of_read_error {e : DocError} (hs : Path.isSolidity path = true)
    (hr : DocumentStore.read store path = .error e) :
    sweepSingle path rs o store confirm dryRun = ⟨.error (.document e), store, []⟩ := by
  simp [sweepSingle, hs, hr]

section Read

variable {t : String} (hs : Path.isSolidity path = true)
  (hr : DocumentStore.read store path = .ok t)
include hs hr

theorem sweepSingle_of_unchanged (hc : (rs.sweep t o).changed = false) :
    sweepSingle path rs o store confirm dryRun = ⟨.ok .nothingToDo, store, []⟩ := by
  simp [sweepSingle, hs, hr, Plan.isEmpty_ofText, hc]

theorem sweepSingle_of_dryRun (hc : (rs.sweep t o).changed = true) (hd : dryRun = true) :
    sweepSingle path rs o store confirm dryRun =
      ⟨.ok (.previewed (Plan.ofText rs t o.removeImports)), store, []⟩ := by
  simp [sweepSingle, hs, hr, Plan.isEmpty_ofText, hc, hd]

theorem sweepSingle_of_declined (hc : (rs.sweep t o).changed = true) (hd : dryRun = false)
    (hq : o.confirmBeforeRemoval = true)
    (hno : confirm (Plan.ofText rs t o.removeImports).question = false) :
    sweepSingle path rs o store confirm dryRun =
      ⟨.ok .declined, store, [(Plan.ofText rs t o.removeImports).question]⟩ := by
  simp only [Plan.question] at hno
  simp [sweepSingle, hs, hr, Plan.isEmpty_ofText, hc, hd, hq, hno, Plan.question]

/-- Past every other exit the sweep is stored: the run ends with the store's answer to the
edit, after the question when removal is to be confirmed. -/
theorem sweepSingle_of_go (hc : (rs.sweep t o).changed = true) (hd : dryRun = false)
    (hgo : o.confirmBeforeRemoval = false ∨
      confirm (Plan.ofText rs t o.removeImports).question = true) :
    sweepSingle path rs o store confirm dryRun =
      match DocumentStore.apply store path (rs.sweep t o).newText with
      | .error e => ⟨.error (.document e), store,
          if o.confirmBeforeRemoval then [(Plan.ofText rs t o.removeImports).question] else []⟩
      | .ok s' => ⟨.ok (.removed (rs.sweep t o)), s',
          if o.confirmBeforeRemoval then [(Plan.ofText rs t o.removeImports).question] else []⟩ := by
  have hgate : (o.confirmBeforeRemoval && !confirm (Plan.ofText rs t o.removeImports).question) =
      false := by
    rcases hgo with h | h <;> simp [h]
  simp only [Plan.question] at hgate
  simp only [sweepSingle, hs, hr, Plan.isEmpty_ofText, hc, hd, hgate, Bool.not_true,
    Bool.false_eq_true, if_false, Plan.question]
  rfl

/-- A source that is read and whose sweep changes something never ends with nothing to do. -/
theorem sweepSingle_outcome_ne_of_changed (hc : (rs.sweep t o).changed = true) :
    (sweepSingle path rs o store confirm dryRun).outcome ≠ .ok .nothingToDo := by
  cases hd : dryRun
  · by_cases hgo : o.confirmBeforeRemoval = false ∨
        confirm (Plan.ofText rs t o.removeImports).question = true
    · rw [sweepSingle_of_go hs hr hc rfl hgo]
      cases DocumentStore.apply store path (rs.sweep t o).newText <;> simp
    · simp only [not_or, Bool.not_eq_false, Bool.not_eq_true] at hgo
      rw [sweepSingle_of_declined hs hr hc rfl hgo.1 hgo.2]
      simp
  · rw [sweepSingle_of_dryRun hs hr hc rfl]
    simp

/-- A read source's run, exit by exit: nothing to do exactly when its sweep changes nothing; a
dry run gives the plan; else the question is put when removal is to be confirmed, and a no
declines with the store as it was; else the store's answer to the edit ends the run. -/
theorem sweepSingle_of_read :
    ((sweepSingle path rs o store confirm dryRun).outcome = .ok .nothingToDo ↔
      (rs.sweep t o).changed = false) ∧
    ((rs.sweep t o).changed = false →
      sweepSingle path rs o store confirm dryRun = ⟨.ok .nothingToDo, store, []⟩) ∧
    ((rs.sweep t o).changed = true → dryRun = true →
      sweepSingle path rs o store confirm dryRun =
        ⟨.ok (.previewed (Plan.ofText rs t o.removeImports)), store, []⟩) ∧
    ((rs.sweep t o).changed = true → dryRun = false →
      let run := sweepSingle path rs o store confirm dryRun
      let q := (Plan.ofText rs t o.removeImports).question
      run.asked = (if o.confirmBeforeRemoval then [q] else []) ∧
      (run.outcome = .ok .declined ↔ o.confirmBeforeRemoval = true ∧ confirm q = false) ∧
      (o.confirmBeforeRemoval = true → confirm q = false → run.store = store) ∧
      (o.confirmBeforeRemoval = false ∨ confirm q = true →
        match DocumentStore.apply store path (rs.sweep t o).newText with
        | .error e => run.outcome = .error (.document e) ∧ run.store = store
        | .ok s' => run.outcome = .ok (.removed (rs.sweep t o)) ∧ run.store = s')) := by
  refine ⟨⟨fun h => ?_, fun hc => by rw [sweepSingle_of_unchanged hs hr hc]⟩,
    sweepSingle_of_unchanged hs hr, sweepSingle_of_dryRun hs hr, fun hc hd => ?_⟩
  · exact Bool.eq_false_iff.2 fun hc => sweepSingle_outcome_ne_of_changed hs hr hc h
  · dsimp only
    by_cases hgo : o.confirmBeforeRemoval = false ∨
        confirm (Plan.ofText rs t o.removeImports).question = true
    · -- the edit is made; the answer is yes, or no question is put
      rw [sweepSingle_of_go hs hr hc hd hgo]
      have hyes : ¬ (o.confirmBeforeRemoval = true ∧
          confirm (Plan.ofText rs t o.removeImports).question = false) := by
        rintro ⟨hq, hno⟩
        rcases hgo with h | h
        · exact Bool.false_ne_true (h ▸ hq)
        · exact Bool.false_ne_true (hno ▸ h)
      refine ⟨?_, ?_, fun hq hno => absurd ⟨hq, hno⟩ hyes, fun _ => ?_⟩ <;>
        cases DocumentStore.apply store path (rs.sweep t o).newText <;> simp [hyes]
    · -- the answer is no
      simp only [not_or, Bool.not_eq_false, Bool.not_eq_true] at hgo
      rw [sweepSingle_of_declined hs hr hc hd hgo.1 hgo.2]
      refine ⟨by rw [hgo.1]; rfl, by simp [hgo.1, hgo.2], fun _ _ => rfl, fun h => ?_⟩
      rcases h with h | h
      · rw [hgo.1] at h
        exact Bool.noConfusion h
      · rw [hgo.2] at h
        exact Bool.noConfusion h

end Read

/-- A source skipped by a batch is one whose run ends with nothing to do, and the other way:
both read it, and both stop when its sweep changes nothing. -/
theorem sweepSingle_nothingToDo_iff_skipped (hs : Path.isSolidity path = true) :
    (sweepSingle path rs o store confirm dryRun).outcome = .ok .nothingToDo ↔
      (visit rs o store path).1 = .skipped := by
  rw [visit_skipped_iff]
  cases hr : DocumentStore.read store path with
  | error e => simp [sweepSingle_of_read_error hs hr]
  | ok t =>
    rw [(sweepSingle_of_read hs hr).1, Bool.eq_false_iff, Ne, sweep_changed_iff, not_not]
    simp

end Exits

/-! ## The run as a whole -/

/-- Sweeping one file checks before it writes, for every path, options, store, answer and dry
run flag. A file that is not a source fails before it is read, and one that cannot be read
fails with the read's error, neither asking nor writing. A readable source ends with nothing to
do exactly when sweeping its text changes nothing, which is when a batch skips it. Otherwise a
dry run gives the plan of the text; else the question is put when removal is to be confirmed,
and a no declines; else the swept text is stored once and the sweep returned, or the store's
error. Every exit but the last leaves the store as it was. -/
theorem sweepSingle_checks_before_writing {σ : Type} [DocumentStore σ] (path : Bytes)
    (o : SweepOptions) (store : σ) (confirm : String → Bool) (dryRun : Bool) :
    let rs := (RuleSet.compile o.customPatterns).1
    let run := sweepSingle path rs o store confirm dryRun
    (Path.isSolidity path = false →
      run = ⟨.error (.document (.notSolidity path)), store, []⟩) ∧
    (∀ e, Path.isSolidity path = true → DocumentStore.read store path = .error e →
      run = ⟨.error (.document e), store, []⟩) ∧
    (Path.isSolidity path = true →
      (run.outcome = .ok .nothingToDo ↔ (visit rs o store path).1 = .skipped)) ∧
    (∀ t, Path.isSolidity path = true → DocumentStore.read store path = .ok t →
      let r := sweepText t o
      let q := Report.singleConfirmation (planText t o).logLines.length
        (planText t o).importLines.length
      (run.outcome = .ok .nothingToDo ↔ r.changed = false) ∧
      (r.changed = false → run = ⟨.ok .nothingToDo, store, []⟩) ∧
      (r.changed = true → dryRun = true → run = ⟨.ok (.previewed (planText t o)), store, []⟩) ∧
      (r.changed = true → dryRun = false →
        run.asked = (if o.confirmBeforeRemoval then [q] else []) ∧
        (run.outcome = .ok .declined ↔ o.confirmBeforeRemoval = true ∧ confirm q = false) ∧
        (o.confirmBeforeRemoval = true → confirm q = false → run.store = store) ∧
        (o.confirmBeforeRemoval = false ∨ confirm q = true →
          match DocumentStore.apply store path r.newText with
          | .error e => run.outcome = .error (.document e) ∧ run.store = store
          | .ok s' => run.outcome = .ok (.removed r) ∧ run.store = s'))) :=
  ⟨sweepSingle_of_not_solidity, fun _ hs hr => sweepSingle_of_read_error hs hr,
    sweepSingle_nothingToDo_iff_skipped, fun _ hs hr => sweepSingle_of_read hs hr⟩

/-- A source `a.sol` holding `x`, under a user rule that matches any line, with removal to be
confirmed and the answer yes: the question is put once and the sweep is stored. -/
theorem sweepSingle_confirmed_source_is_swept :
    let path : Bytes := [97, 46, 115, 111, 108]
    let o : SweepOptions := { customPatterns := [""] }
    let store : MemoryStore := { docs := [(path, [120])] }
    let run := sweepSingle path (RuleSet.compile o.customPatterns).1 o store (fun _ => true) false
    (Path.isSolidity path = true ∧ DocumentStore.read store path = .ok "x" ∧
      (sweepText "x" o).changed = true) ∧
    run.outcome = .ok (.removed (sweepText "x" o)) ∧ run.asked.length = 1 := by
  intro path o store run
  have hs : Path.isSolidity path = true := by decide +kernel
  have hr : DocumentStore.read store path = .ok "x" := rfl
  -- the user rule, second in force, matches the one line
  have hlog : 0 ∈ (planText "x" o).logLines := by
    have hrest : (((RuleSet.compile o.customPatterns).1.rules.drop 1).any
        fun r => r.isMatch "x") = true := by decide +kernel
    obtain ⟨r, hmem, hm⟩ := List.any_eq_true.1 hrest
    exact mem_ofText_logLines.2
      ⟨"x", rfl, by decide, List.any_eq_true.2 ⟨r, List.mem_of_mem_drop hmem, hm⟩⟩
  have hc : (sweepText "x" o).changed = true :=
    (changed_applyPlan_iff "x" o (planText "x" o)).2
      fun h => Plan.not_removes_of_counted_eq_zero h 0 (Or.inl hlog)
  obtain ⟨-, -, -, hread⟩ := sweepSingle_checks_before_writing path o store (fun _ => true) false
  obtain ⟨-, -, -, hgo⟩ := hread "x" hs hr
  obtain ⟨hasked, -, -, happly⟩ := hgo hc rfl
  exact ⟨⟨hs, hr, hc⟩, (happly (Or.inr rfl)).1, by rw [hasked]; rfl⟩

end ConsoleSweep
