-- The laws of cancelling a batch. The flag is looked at only before a document, so a run whose
-- flag first stands up during the turn of some document is the run without a flag cut after that
-- document: the same events up to its outcome, then that the run was cancelled when documents
-- remain, then that it completed. A budget of failures is such a flag.
import ConsoleSweep.Proofs.Batch
import ConsoleSweep.Batch.Memory

namespace ConsoleSweep

/-! ## The flag -/

namespace CancelWatch

/-- A flag that is up stays up as more events come. -/
theorem raised_append {w : CancelWatch} {evs : List Event} (h : w.raised evs = true)
    (more : List Event) : w.raised (evs ++ more) = true := by
  unfold raised at h ⊢
  cases hw : w.trigger with
  | none => simpa [hw] using h
  | some kn =>
    obtain ⟨k, n⟩ := kn
    simp only [hw, Bool.or_eq_true, Bool.and_eq_true, decide_eq_true_eq, List.filter_append,
      List.length_append] at h ⊢
    rcases h with hi | ⟨hn, hc⟩
    · exact Or.inl hi
    · exact Or.inr ⟨hn, by omega⟩

/-- A flag that is up after some events was up after every longer run of them. -/
theorem raised_take_mono {w : CancelWatch} {evs : List Event} {a b : Nat} (hab : a ≤ b)
    (h : w.raised (evs.take a) = true) : w.raised (evs.take b) = true := by
  have hsplit : evs.take b = evs.take a ++ (evs.take b).drop a := by
    conv_lhs => rw [← List.take_append_drop a (evs.take b)]
    rw [List.take_take, Nat.min_eq_left hab]
  rw [hsplit]
  exact raised_append h _

@[simp]
theorem raised_none (evs : List Event) : ({} : CancelWatch).raised evs = false := rfl

end CancelWatch

@[simp]
theorem Tally.noteAll_cancelled (t : Tally) (vs : List (Bytes × Outcome)) :
    (t.noteAll vs).cancelled = t.cancelled := by
  induction vs generalizing t with
  | nil => rfl
  | cons v vs ih => rw [Tally.noteAll_cons, ih, Tally.note_cancelled]

/-! ## The run from any point -/

section Cut

variable {σ : Type} [DocumentStore σ] (rs : RuleSet) (o : SweepOptions) (w : CancelWatch)
  (total : Nat)

/-- A run from any point whose flag is down before each of the first `k` documents left and up
before the next one (if any) visits those `k` documents and stops. -/
theorem sweepEach_cut (ds : List Bytes) (j : Nat) (s : σ) (t : Tally) (evs : List Event)
    (k : Nat) (hk : k ≤ ds.length)
    (hdown : ∀ i < k,
      w.raised (evs ++ visitEvents total j (visitAll rs o s (ds.take i)).1) = false)
    (hup : k < ds.length →
      w.raised (evs ++ visitEvents total j (visitAll rs o s (ds.take k)).1) = true) :
    sweepEach rs o w total (ds.zipIdx j) s t evs =
      { store := (visitAll rs o s (ds.take k)).2
        tally := { t.noteAll (visitAll rs o s (ds.take k)).1 with
          cancelled := t.cancelled || decide (k < ds.length) }
        events := evs ++ visitEvents total j (visitAll rs o s (ds.take k)).1 ++
          if k < ds.length then [.cancelled] else [] } := by
  induction ds generalizing j s t evs k with
  | nil =>
    obtain rfl : k = 0 := by simpa using hk
    cases t
    simp [sweepEach, visitAll, visitEvents]
  | cons p ds ih =>
    rw [List.zipIdx_cons, sweepEach_cons]
    cases k with
    | zero =>
      have hraised : w.raised evs = true := by simpa [visitAll, visitEvents] using hup (by simp)
      simp [hraised, visitAll, visitEvents]
    | succ k =>
      have hdown0 : w.raised evs = false := by
        simpa [visitAll, visitEvents] using hdown 0 (by omega)
      rw [if_neg (by simp [hdown0])]
      rw [ih (j + 1) _ _ _ k (by simpa using hk)]
      · simp [visitAll, visitEvents, List.append_assoc]
      · intro i hi
        simpa [visitAll, visitEvents, List.append_assoc] using hdown (i + 1) (by omega)
      · intro hlt
        simpa [visitAll, visitEvents, List.append_assoc] using hup (by simpa using hlt)

/-! ## The visits of a prefix -/

@[simp]
theorem length_visitAll (s : σ) (ds : List Bytes) : (visitAll rs o s ds).1.length = ds.length := by
  rw [← List.length_map (f := Prod.fst), map_fst_visitAll]

/-- Visiting two lists in turn is visiting the first, then the second from where the first left
the store. -/
theorem visitAll_append (s : σ) (xs ys : List Bytes) :
    visitAll rs o s (xs ++ ys) =
      ((visitAll rs o s xs).1 ++ (visitAll rs o (visitAll rs o s xs).2 ys).1,
        (visitAll rs o (visitAll rs o s xs).2 ys).2) := by
  induction xs generalizing s with
  | nil => rfl
  | cons p xs ih => simp [visitAll, ih]

/-- The visits of the first documents are the first visits of all of them. -/
theorem visitAll_take (s : σ) (ds : List Bytes) (k : Nat) :
    (visitAll rs o s (ds.take k)).1 = (visitAll rs o s ds).1.take k := by
  induction ds generalizing s k with
  | nil => simp [visitAll]
  | cons p ds ih =>
    cases k with
    | zero => simp [visitAll]
    | succ k => simp [visitAll, ih]

theorem visitEvents_append (j : Nat) (xs ys : List (Bytes × Outcome)) :
    visitEvents total j (xs ++ ys) =
      visitEvents total j xs ++ visitEvents total (j + xs.length) ys := by
  induction xs generalizing j with
  | nil => rfl
  | cons x xs ih =>
    simp only [List.cons_append, visitEvents, ih, List.length_cons]
    rw [Nat.add_assoc, Nat.add_comm 1]

@[simp]
theorem length_visitEvents (j : Nat) (vs : List (Bytes × Outcome)) :
    (visitEvents total j vs).length = 2 * vs.length := by
  induction vs generalizing j with
  | nil => rfl
  | cons v vs ih =>
    simp only [visitEvents, List.length_cons, ih]
    omega

/-- The events of the first visits are the first events of all of them, two per visit. -/
theorem visitEvents_take (j : Nat) (vs : List (Bytes × Outcome)) (k : Nat) :
    visitEvents total j (vs.take k) = (visitEvents total j vs).take (2 * k) := by
  induction vs generalizing j k with
  | nil => simp [visitEvents]
  | cons v vs ih =>
    cases k with
    | zero => simp [visitEvents]
    | succ k =>
      rw [show 2 * (k + 1) = 2 * k + 1 + 1 by omega]
      simp [visitEvents, ih]

/-! ## A whole run -/

/-- A run without a flag visits every document. -/
theorem sweepBatch_uncancelled (docs : List Bytes) (store : σ) :
    sweepBatch docs store rs o {} =
      { store := (visitAll rs o store docs).2
        tally := ({} : Tally).noteAll (visitAll rs o store docs).1
        events := .started docs.length :: visitEvents docs.length 0 (visitAll rs o store docs).1 ++
          [.completed] } := by
  rw [sweepBatch, sweepEach_cut rs o {} docs.length docs 0 store {} [.started docs.length]
    docs.length le_rfl (fun _ _ => rfl) (fun h => absurd h (Nat.lt_irrefl _))]
  -- What is left is that the tally's flag, which counting leaves alone, is down.
  have hc := Tally.noteAll_cancelled {} (visitAll rs o store docs).1
  simp only [List.take_length, Nat.lt_irrefl, decide_false, Bool.or_false]
  generalize ({} : Tally).noteAll (visitAll rs o store docs).1 = t at hc ⊢
  cases t
  simp_all

/-- The events of a run without a flag, up to the outcome of its `i`-th document. -/
theorem take_events_uncancelled (docs : List Bytes) (store : σ) {i : Nat}
    (hi : i ≤ docs.length) :
    (sweepBatch docs store rs o {}).events.take (2 * i + 1) =
      .started docs.length :: visitEvents docs.length 0 (visitAll rs o store (docs.take i)).1 := by
  rw [sweepBatch_uncancelled, List.cons_append, List.take_succ_cons,
    List.take_append_of_le_length (by simp; omega), visitAll_take, visitEvents_take]

/-- A document's turn adds two events: that it is being processed, and how its visit ended. -/
theorem take_events_succ (docs : List Bytes) (store : σ) {i : Nat} (hi : i < docs.length) :
    ∃ p out, (sweepBatch docs store rs o {}).events.take (2 * (i + 1) + 1) =
      (sweepBatch docs store rs o {}).events.take (2 * i + 1) ++
        [.processing (i + 1) docs.length p, Outcome.event p out] := by
  rw [take_events_uncancelled rs o docs store (i := i + 1) hi,
    take_events_uncancelled rs o docs store (Nat.le_of_lt hi), List.take_add_one,
    List.getElem?_eq_getElem hi, Option.toList_some, visitAll_append, visitEvents_append]
  have hlen : (visitAll rs o store (docs.take i)).1.length = i := by simp; omega
  refine ⟨docs[i], (visit rs o (visitAll rs o store (docs.take i)).2 docs[i]).1, ?_⟩
  simp [visitAll, visitEvents, hlen]

/-- A run whose flag first stands up during the turn of its `j`-th document (before the first one
when `j` is zero; after the last one, or never, when `j` is their number) is the run without a
flag cut after that document. -/
theorem sweepBatch_cut (docs : List Bytes) (store : σ) (w : CancelWatch) {j : Nat}
    (hj : j ≤ docs.length)
    (hbefore : 0 < j → w.raised ((sweepBatch docs store rs o {}).events.take (2 * j - 1)) = false)
    (hafter : j < docs.length →
      w.raised ((sweepBatch docs store rs o {}).events.take (2 * j + 1)) = true) :
    sweepBatch docs store rs o w =
      { store := (visitAll rs o store (docs.take j)).2
        tally := { ({} : Tally).noteAll (visitAll rs o store (docs.take j)).1 with
          cancelled := decide (j < docs.length) }
        events := (sweepBatch docs store rs o {}).events.take (2 * j + 1) ++
          (if j < docs.length then [.cancelled] else []) ++ [.completed] } := by
  -- The flag, looked at before each document, is down before the first `j` of them: it would
  -- otherwise be up after the turn of document `j - 1` too.
  have hdown : ∀ i < j, w.raised ([.started docs.length] ++
      visitEvents docs.length 0 (visitAll rs o store (docs.take i)).1) = false := by
    intro i hi
    rw [List.singleton_append, ← take_events_uncancelled rs o docs store (by omega)]
    apply Bool.eq_false_iff.2
    intro h
    have hlater := CancelWatch.raised_take_mono (show 2 * i + 1 ≤ 2 * j - 1 by omega) h
    rw [hbefore (by omega)] at hlater
    exact Bool.false_ne_true hlater
  have hup : j < docs.length → w.raised ([.started docs.length] ++
      visitEvents docs.length 0 (visitAll rs o store (docs.take j)).1) = true := by
    intro hlt
    rw [List.singleton_append, ← take_events_uncancelled rs o docs store hj]
    exact hafter hlt
  rw [sweepBatch, sweepEach_cut rs o w docs.length docs 0 store {} [.started docs.length] j hj
    hdown hup, take_events_uncancelled rs o docs store hj]
  simp

end Cut

/-! ## A budget of failures -/

deriving instance ReflBEq, LawfulBEq for EventKind

/-- How many documents failed among some events. -/
def failures (evs : List Event) : Nat := (evs.filter fun e => e.kind == .failed).length

@[simp]
theorem failures_append (a b : List Event) : failures (a ++ b) = failures a + failures b := by
  simp [failures, List.filter_append]

theorem failures_turn_le (i n : Nat) (p : Bytes) (out : Outcome) :
    failures [.processing i n p, out.event p] ≤ 1 := by
  cases out <;> simp [failures, Outcome.event, Event.kind]

theorem exists_failed_of_failures_turn {i n : Nat} {p : Bytes} {out : Outcome}
    (h : failures [.processing i n p, out.event p] = 1) : ∃ e, out.event p = .failed p e := by
  cases out with
  | failed e => exact ⟨e, rfl⟩
  | _ => simp [failures, Outcome.event, Event.kind] at h

/-- Each failed document adds one line to the errors, and nothing else does. -/
theorem length_filterMap_errorLine (evs : List Event) :
    (evs.filterMap Event.errorLine).length = failures evs := by
  rw [List.length_filterMap_eq_countP, failures, ← List.countP_eq_length_filter]
  exact List.countP_congr fun e _ => by rw [Event.errorLine_isSome, decide_eq_true_iff, beq_iff_eq]

/-- The flag of a budget of `N` failures stands up once `N` documents have failed. -/
theorem raised_budget_iff (N : Nat) (evs : List Event) :
    ({ trigger := some (.failed, N) } : CancelWatch).raised evs = true ↔
      0 < N ∧ N ≤ failures evs := by
  simp [CancelWatch.raised, failures]

section Budget

variable {σ : Type} [DocumentStore σ] (rs : RuleSet) (o : SweepOptions)

theorem failures_take_one (docs : List Bytes) (store : σ) :
    failures ((sweepBatch docs store rs o {}).events.take 1) = 0 := by
  rw [show 1 = 2 * 0 + 1 from rfl, take_events_uncancelled rs o docs store (Nat.zero_le _)]
  simp [failures, visitAll, visitEvents, Event.kind]

/-- A document's turn adds at most one failure. -/
theorem failures_take_succ_le (docs : List Bytes) (store : σ) {i : Nat} (hi : i < docs.length) :
    failures ((sweepBatch docs store rs o {}).events.take (2 * (i + 1) + 1)) ≤
      failures ((sweepBatch docs store rs o {}).events.take (2 * i + 1)) + 1 := by
  obtain ⟨p, out, h⟩ := take_events_succ rs o docs store hi
  have hturn := failures_turn_le (i + 1) docs.length p out
  rw [h, failures_append]
  omega

/-- A document's turn that adds a failure ends with it. -/
theorem exists_failed_of_failures_take_succ (docs : List Bytes) (store : σ) {i : Nat}
    (hi : i < docs.length)
    (h : failures ((sweepBatch docs store rs o {}).events.take (2 * (i + 1) + 1)) =
      failures ((sweepBatch docs store rs o {}).events.take (2 * i + 1)) + 1) :
    ∃ (pre : List Event) (p : Bytes) (e : String),
      (sweepBatch docs store rs o {}).events.take (2 * (i + 1) + 1) = pre ++ [Event.failed p e] := by
  obtain ⟨p, out, heq⟩ := take_events_succ rs o docs store hi
  rw [heq, failures_append] at h
  obtain ⟨e, he⟩ := exists_failed_of_failures_turn (show failures
    [.processing (i + 1) docs.length p, out.event p] = 1 by omega)
  refine ⟨(sweepBatch docs store rs o {}).events.take (2 * i + 1) ++
    [.processing (i + 1) docs.length p], p, e, ?_⟩
  rw [heq, he]
  simp

/-- After the outcome of its last document, a run without a flag only says that it completed. -/
theorem drop_events_uncancelled (docs : List Bytes) (store : σ) :
    (sweepBatch docs store rs o {}).events.drop (2 * docs.length + 1) = [.completed] := by
  rw [sweepBatch_uncancelled, List.cons_append, List.drop_succ_cons]
  exact List.drop_left' (by simp)

/-- Some first place, up to `n`, where a count reaches `N`: every count before it is below `N`,
and it reaches `N` unless it is `n`. -/
theorem exists_first_reach (F : Nat → Nat) (n N : Nat) :
    ∃ j ≤ n, (∀ i < j, F i < N) ∧ (j < n → N ≤ F j) := by
  classical
  have hP : ∃ i, i = n ∨ N ≤ F i := ⟨n, Or.inl rfl⟩
  refine ⟨Nat.find hP, Nat.find_min' hP (Or.inl rfl), fun i hi => ?_, fun hlt => ?_⟩
  · have hmin := Nat.find_min hP hi
    simp only [not_or, not_le] at hmin
    exact hmin.2
  · rcases Nat.find_spec hP with h | h
    · omega
    · exact h

/-- A budget of `N` failures, for `N` at least one: the run stops after the document by which
`N` documents have failed, or after the last one. -/
theorem sweepBatch_budget (docs : List Bytes) (store : σ) {N : Nat} (hN : 0 < N) :
    (sweepBatch docs store rs o { trigger := some (.failed, N) }).tally.errors.length ≤ N ∧
    (sweepBatch docs store rs o { trigger := some (.failed, N) }).tally.errors =
      (sweepBatch docs store rs o {}).tally.errors.take N ∧
    ((sweepBatch docs store rs o { trigger := some (.failed, N) }).tally.cancelled = true →
      (sweepBatch docs store rs o { trigger := some (.failed, N) }).tally.errors.length = N) ∧
    ((sweepBatch docs store rs o { trigger := some (.failed, N) }).tally.errors.length = N →
      ∃ (pre : List Event) (p : Bytes) (e : String),
        (sweepBatch docs store rs o { trigger := some (.failed, N) }).events =
          pre ++ [Event.failed p e] ++
            (if (sweepBatch docs store rs o { trigger := some (.failed, N) }).tally.cancelled
              then [Event.cancelled] else []) ++ [Event.completed]) := by
  -- The run is cut after the first document by which `N` documents have failed, or after the last.
  obtain ⟨j, hj, hbelow, hreach⟩ := exists_first_reach
    (fun i => failures ((sweepBatch docs store rs o {}).events.take (2 * i + 1))) docs.length N
  have hcut := sweepBatch_cut rs o docs store { trigger := some (.failed, N) } hj
    (fun hpos => Bool.eq_false_iff.2 fun h => absurd ((raised_budget_iff N _).1 h).2
      (Nat.not_le.2 (by rw [show 2 * j - 1 = 2 * (j - 1) + 1 by omega]; exact hbelow _ (by omega))))
    (fun hlt => (raised_budget_iff N _).2 ⟨hN, hreach hlt⟩)
  -- The tally of the run accounts for the events of its first `j` documents.
  have hacc : Accounts (sweepBatch docs store rs o { trigger := some (.failed, N) }).tally
      ((sweepBatch docs store rs o {}).events.take (2 * j + 1)) := by
    have h := ((Accounts.started docs.length).noteAll docs.length 0
      (visitAll rs o store (docs.take j)).1).with_cancelled (decide (j < docs.length))
    rw [List.singleton_append, ← take_events_uncancelled rs o docs store hj] at h
    rw [hcut]
    exact h
  have hlen : (sweepBatch docs store rs o { trigger := some (.failed, N) }).tally.errors.length =
      failures ((sweepBatch docs store rs o {}).events.take (2 * j + 1)) := by
    rw [hacc.errors, length_filterMap_errorLine]
  have hcancelled : (sweepBatch docs store rs o { trigger := some (.failed, N) }).tally.cancelled =
      decide (j < docs.length) := by
    rw [hcut]
  -- Each document's turn adds at most one failure, so the cut holds at most `N` of them.
  have hle : failures ((sweepBatch docs store rs o {}).events.take (2 * j + 1)) ≤ N := by
    cases j with
    | zero =>
      rw [failures_take_one]
      omega
    | succ k =>
      have hstep := failures_take_succ_le rs o docs store (i := k) (by omega)
      have hprev := hbelow k (by omega)
      omega
  refine ⟨hlen ▸ hle, ?_, ?_, ?_⟩
  · -- The errors of the whole run begin with those of the cut.
    have hfull := sweepBatch_accounts rs o {} docs store
    rw [hacc.errors, hfull.errors,
      ← List.take_append_drop (2 * j + 1) (sweepBatch docs store rs o {}).events,
      List.filterMap_append, List.take_append_drop]
    rcases Nat.lt_or_eq_of_le hle with hlt | heq
    · -- Fewer than `N` failures: the cut is after the last document, and only the completed
      -- event follows it.
      have hjn : j = docs.length := by
        by_contra hne
        have := hreach (by omega)
        omega
      have hshort : (((sweepBatch docs store rs o {}).events.take (2 * j + 1)).filterMap
          Event.errorLine).length ≤ N := by
        rw [length_filterMap_errorLine]
        omega
      rw [hjn, drop_events_uncancelled, ← hjn, List.filterMap_cons_none rfl, List.filterMap_nil,
        List.append_nil, List.take_of_length_le hshort]
    · rw [List.take_left' (by rw [length_filterMap_errorLine]; exact heq)]
  · intro hc
    rw [hcancelled, decide_eq_true_eq] at hc
    have := hreach hc
    omega
  · intro hN'
    -- The cut holds `N` failures: it is past the first document, and its last document failed.
    cases j with
    | zero =>
      rw [hlen, failures_take_one] at hN'
      omega
    | succ k =>
      have hstep := failures_take_succ_le rs o docs store (i := k) (by omega)
      have hprev := hbelow k (by omega)
      obtain ⟨pre, p, e, hlast⟩ := exists_failed_of_failures_take_succ rs o docs store
        (i := k) (by omega) (by omega)
      refine ⟨pre, p, e, ?_⟩
      rw [hcancelled, hcut, hlast]
      simp

end Budget

/-! ## Cancelling a run -/

section Cancel

variable {σ : Type} [DocumentStore σ] (rs : RuleSet) (o : SweepOptions)

/-- Cancellation cuts a run at a document boundary. When the flag first stands up before the
first document (`j = 0`) or during the turn of document `j - 1` (its being processed or its
outcome), the run is the run without a flag cut after document `j - 1`: the same events up to
that document's outcome, then that it was cancelled when documents remain, then that it
completed; the tally and the store of a run without a flag over the first `j` documents, with
the cancelled flag set exactly when documents remain; and the documents after the cut are
neither read nor written, so any others in their place give the same run. In particular a
budget of `N` failures, whose flag stands up at the `N`-th failed document, leaves at most `N`
errors, the first `N` of the run without a flag, and stops right after the document that failed
`N`-th. -/
theorem sweepBatch_cancel_cut (docs : List Bytes) (store : σ) :
    (∀ (w : CancelWatch) (j : Nat), j ≤ docs.length →
      (0 < j → w.raised ((sweepBatch docs store rs o {}).events.take (2 * j - 1)) = false) →
      (j < docs.length →
        w.raised ((sweepBatch docs store rs o {}).events.take (2 * j + 1)) = true) →
      (sweepBatch docs store rs o w).events =
          (sweepBatch docs store rs o {}).events.take (2 * j + 1) ++
            (if j < docs.length then [.cancelled] else []) ++ [.completed] ∧
        (sweepBatch docs store rs o w).tally =
          { (sweepBatch (docs.take j) store rs o {}).tally with
            cancelled := decide (j < docs.length) } ∧
        (sweepBatch docs store rs o w).store = (sweepBatch (docs.take j) store rs o {}).store ∧
        ∀ rest : List Bytes, rest.length = docs.length - j →
          sweepBatch (docs.take j ++ rest) store rs o w = sweepBatch docs store rs o w) ∧
    (∀ N : Nat, 0 < N →
      (sweepBatch docs store rs o { trigger := some (.failed, N) }).tally.errors.length ≤ N ∧
      (sweepBatch docs store rs o { trigger := some (.failed, N) }).tally.errors =
        (sweepBatch docs store rs o {}).tally.errors.take N ∧
      ((sweepBatch docs store rs o { trigger := some (.failed, N) }).tally.cancelled = true →
        (sweepBatch docs store rs o { trigger := some (.failed, N) }).tally.errors.length = N) ∧
      ((sweepBatch docs store rs o { trigger := some (.failed, N) }).tally.errors.length = N →
        ∃ pre p e, (sweepBatch docs store rs o { trigger := some (.failed, N) }).events =
          pre ++ [.failed p e] ++
            (if (sweepBatch docs store rs o { trigger := some (.failed, N) }).tally.cancelled
              then [.cancelled] else []) ++ [.completed])) := by
  refine ⟨fun w j hj hbefore hafter => ?_, fun N hN => sweepBatch_budget rs o docs store hN⟩
  have hcut := sweepBatch_cut rs o docs store w hj hbefore hafter
  have hprefix := sweepBatch_uncancelled rs o (docs.take j) store
  refine ⟨by rw [hcut], by rw [hcut, hprefix], by rw [hcut, hprefix], fun rest hrest => ?_⟩
  -- Other documents after the cut leave the run without a flag the same up to the cut, so the
  -- flag first stands up at the same place.
  have hlen : (docs.take j ++ rest).length = docs.length := by simp; omega
  have htake : ∀ i ≤ j, (docs.take j ++ rest).take i = docs.take i := by
    intro i hi
    rw [List.take_append_of_le_length (by simp; omega), List.take_take, Nat.min_eq_left hi]
  have hbound : ∀ i ≤ j,
      (sweepBatch (docs.take j ++ rest) store rs o {}).events.take (2 * i + 1) =
        (sweepBatch docs store rs o {}).events.take (2 * i + 1) := by
    intro i hi
    rw [take_events_uncancelled rs o _ store (by omega), take_events_uncancelled rs o docs store
      (by omega), hlen, htake i hi]
  have hbefore' : 0 < j → w.raised
      ((sweepBatch (docs.take j ++ rest) store rs o {}).events.take (2 * j - 1)) = false := by
    intro hpos
    have h := hbefore hpos
    rw [show 2 * j - 1 = 2 * (j - 1) + 1 by omega] at h ⊢
    rw [hbound _ (by omega)]
    exact h
  have hafter' : j < (docs.take j ++ rest).length → w.raised
      ((sweepBatch (docs.take j ++ rest) store rs o {}).events.take (2 * j + 1)) = true := by
    intro hlt
    rw [hbound j le_rfl]
    exact hafter (by omega)
  rw [sweepBatch_cut rs o _ store w (by omega) hbefore' hafter', hcut, hbound j le_rfl,
    htake j le_rfl, hlen]

/-- Two documents that cannot be read, under a budget of one failure: the flag is down after the
start and up after the first document fails, so the run stops there. -/
theorem sweepBatch_cancel_cut_first_failure :
    let docs : List Bytes := [[65], [66]]
    let store : MemoryStore := { docs := [] }
    let w : CancelWatch := { trigger := some (.failed, 1) }
    let full := sweepBatch docs store RuleSet.builtinOnly {} {}
    let run := sweepBatch docs store RuleSet.builtinOnly {} w
    (w.raised (full.events.take (2 * 1 - 1)) = false ∧
      w.raised (full.events.take (2 * 1 + 1)) = true) ∧
    run.events = full.events.take 3 ++ [.cancelled, .completed] ∧ run.tally.cancelled = true ∧
    run.tally.errors.length = 1 := by
  intro docs store w full run
  have hdown : w.raised (full.events.take (2 * 1 - 1)) = false := by decide
  have hup : w.raised (full.events.take (2 * 1 + 1)) = true := by decide
  obtain ⟨hcut, hbudget⟩ := sweepBatch_cancel_cut RuleSet.builtinOnly {} docs store
  obtain ⟨hev, htally, -, -⟩ := hcut w 1 (by decide) (fun _ => hdown) (fun _ => hup)
  obtain ⟨-, -, hcount, -⟩ := hbudget 1 (by decide)
  have hc : run.tally.cancelled = true := by rw [htally]; rfl
  exact ⟨⟨hdown, hup⟩, by rw [hev, List.append_assoc]; rfl, hc, hcount hc⟩

end Cancel

end ConsoleSweep