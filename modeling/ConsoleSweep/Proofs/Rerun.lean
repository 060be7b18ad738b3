-- The laws of running a batch twice over a store in memory. The outcome of a visit follows from
-- the bytes under the document's name and whether its edits are refused; a cleaned document
-- reads back as its swept text, which a second sweep leaves alone. So after a batch every
-- document it visited is settled: a visit to it changes nothing and ends as before, a cleaned
-- document now skipped, and a second batch finds nothing to do.
import ConsoleSweep.Proofs.MemoryStore
import ConsoleSweep.Proofs.Cancel
import ConsoleSweep.Proofs.Sweep
import ConsoleSweep.Proofs.Utf8

namespace ConsoleSweep

open MemoryStore

deriving instance DecidableEq for Event

/-! ## What a visit depends on -/

/-- How a visit to a document of a store in memory ends, from the bytes its name reads and
whether edits to it are refused. -/
def memoryOutcome (sweep : String → Sweep) : Option Bytes → Bool → Outcome
  | none, _ => .failed (DocError.read .noSuchDocument).message
  | some bs, refused =>
    match Text.decodeUtf8 bs with
    | .error f => .failed (DocError.encoding f).message
    | .ok t =>
      if !(sweep t).changed then .skipped
      else if refused then .failed (DocError.rejected "Failed to apply edit").message
      else .cleaned (sweep t).logsRemoved (sweep t).importsRemoved

section Visit

variable {sweep : String → Sweep} {p : Bytes} {m m' : MemoryStore} {out : Outcome}

theorem MemoryVisit.outcome_eq (h : MemoryVisit sweep p m out m') :
    out = memoryOutcome sweep (m.get? p) (m.refuses p) := by
  cases h <;> simp_all [memoryOutcome]

theorem MemoryVisit.store_eq (h : MemoryVisit sweep p m out m') (hc : out.isCleaned = false) :
    m' = m := by
  cases h <;> simp_all [Outcome.isCleaned]

end Visit

namespace MemoryStore

/-- Two names of one document read the same bytes. -/
theorem get?_congr (m : MemoryStore) {p q : Bytes} (h : sameName p q = true) :
    m.get? p = m.get? q := by
  unfold get?
  congr 2
  funext d
  exact sameName_congr h d.1

/-- Whether an edit is refused depends on the refused names only. -/
theorem refuses_of_refused_eq {m m' : MemoryStore} (h : m'.refused = m.refused) (q : Bytes) :
    m'.refuses q = m.refuses q := by
  unfold refuses
  rw [h]

/-- Two names of one document are refused alike. -/
theorem refuses_congr (m : MemoryStore) {p q : Bytes} (h : sameName p q = true) :
    m.refuses p = m.refuses q := by
  unfold refuses
  congr 1
  funext d
  exact sameName_congr h d

end MemoryStore

/-- What a second visit gives for the outcome of a first one: a cleaned document is then
skipped, and any other outcome comes again. -/
def Outcome.settle : Outcome → Outcome
  | .cleaned .. => .skipped
  | out => out

@[simp]
theorem Outcome.isCleaned_settle (out : Outcome) : out.settle.isCleaned = false := by
  cases out <;> rfl

section Rerun

variable (rs : RuleSet) (o : SweepOptions)

/-- A visit ends as the bytes under the name and the refusal of its edits say. -/
theorem visit_fst_memory (m : MemoryStore) (p : Bytes) :
    (visit rs o m p).1 = memoryOutcome (fun t => rs.sweep t o) (m.get? p) (m.refuses p) :=
  (memoryVisit_visit rs o m p).outcome_eq

/-- A visit that cleans nothing leaves the store as it was. -/
theorem visit_snd_of_not_cleaned {m : MemoryStore} {p : Bytes}
    (h : (visit rs o m p).1.isCleaned = false) : (visit rs o m p).2 = m :=
  (memoryVisit_visit rs o m p).store_eq h

/-! ## Settled documents -/

/-- A document visited twice in a row: the second visit changes nothing, and ends as the first
one settles. -/
theorem visit_visit (m : MemoryStore) (p : Bytes) :
    visit rs o (visit rs o m p).2 p = ((visit rs o m p).1.settle, (visit rs o m p).2) := by
  have hv := memoryVisit_visit rs o m p
  generalize hvis : visit rs o m p = v at hv ⊢
  obtain ⟨out, m'⟩ := v
  cases hv with
  | @cleaned m' bs t hg hd hc hr hget hrefused _ =>
    -- The saved text reads back as itself, and sweeping it again removes nothing.
    have hread : m'.get? p = some (Text.utf8Bytes (rs.sweep t o).newText) := by
      rw [hget p, if_pos (sameName_iff.2 rfl)]
    have hfst : (visit rs o m' p).1 = .skipped := by
      rw [visit_fst_memory, hread, refuses_of_refused_eq hrefused]
      simp [memoryOutcome, Text.decodeUtf8_utf8Bytes, (sweep_sweep rs t o).1, Sweep.changed]
    exact Prod.ext hfst (visit_snd_of_not_cleaned rs o (by rw [hfst]; rfl))
  | missing hg => rw [hvis]; rfl
  | notUtf8 hg hd => rw [hvis]; rfl
  | skipped hg hd hc => rw [hvis]; rfl
  | refused hg hd hc hr => rw [hvis]; rfl

/-- A document whose visit would change nothing stays so after a visit to any document: a visit
that saves rewrites one document only, and never one whose visit changes nothing, since all its
names read the same bytes and are refused alike. -/
theorem visit_of_settled {m : MemoryStore} {q : Bytes} {s : Outcome}
    (hq : visit rs o m q = (s, m)) (hs : s.isCleaned = false) (p : Bytes) :
    visit rs o (visit rs o m p).2 q = (s, (visit rs o m p).2) := by
  have hv := memoryVisit_visit rs o m p
  generalize hvis : visit rs o m p = v at hv ⊢
  obtain ⟨out, m'⟩ := v
  cases hv with
  | @cleaned m' bs t hg hd hc hr hget hrefused _ =>
    -- The saved document is not `q`'s: `q` would read the same bytes, be refused alike, and be
    -- cleaned too.
    have hpq : sameName p q = false := by
      rw [← Bool.not_eq_true]
      intro hpq
      have hsame : (visit rs o m q).1 = (visit rs o m p).1 := by
        rw [visit_fst_memory, visit_fst_memory, m.get?_congr hpq, m.refuses_congr hpq]
      rw [hq, hvis] at hsame
      simp only at hsame
      rw [hsame] at hs
      exact Bool.false_ne_true hs.symm
    have hget_q : m'.get? q = m.get? q := by
      rw [hget q, hpq]
      rfl
    have hfst : (visit rs o m' q).1 = s := by
      rw [visit_fst_memory, hget_q, refuses_of_refused_eq hrefused, ← visit_fst_memory, hq]
    exact Prod.ext hfst (visit_snd_of_not_cleaned rs o (by rw [hfst]; exact hs))
  | missing hg => exact hq
  | notUtf8 hg hd => exact hq
  | skipped hg hd hc => exact hq
  | refused hg hd hc hr => exact hq

/-- ... and after any visits. -/
theorem visit_visitAll_of_settled {m : MemoryStore} {q : Bytes} {s : Outcome}
    (hq : visit rs o m q = (s, m)) (hs : s.isCleaned = false) (ps : List Bytes) :
    visit rs o (visitAll rs o m ps).2 q = (s, (visitAll rs o m ps).2) := by
  induction ps generalizing m with
  | nil => exact hq
  | cons p ps ih => exact ih (visit_of_settled rs o hq hs p)

/-- After visits, a visit to any document visited among them changes nothing and ends as its
last visit settles. -/
theorem settled_visitAll (m : MemoryStore) (ps : List Bytes) :
    ∀ x ∈ (visitAll rs o m ps).1, visit rs o (visitAll rs o m ps).2 x.1 =
      (x.2.settle, (visitAll rs o m ps).2) := by
  -- The induction is on the documents: the first one is settled right after its visit, and
  -- stays settled through the visits after it.
  induction ps generalizing m with
  | nil => simp [visitAll]
  | cons p ps ih =>
    intro x hx
    simp only [visitAll, List.mem_cons] at hx
    rcases hx with rfl | hx
    · exact visit_visitAll_of_settled rs o (visit_visit rs o m p)
        (Outcome.isCleaned_settle _) ps
    · exact ih _ x hx

/-- Visits to documents that are all settled change nothing, and each ends as settled. -/
theorem visitAll_of_settled {m : MemoryStore} {vs : List (Bytes × Outcome)}
    (h : ∀ x ∈ vs, visit rs o m x.1 = (x.2.settle, m)) :
    visitAll rs o m (vs.map Prod.fst) = (vs.map fun x => (x.1, x.2.settle), m) := by
  induction vs with
  | nil => rfl
  | cons x vs ih =>
    have hx := h x List.mem_cons_self
    simp only [List.map_cons, visitAll, hx, ih (fun y hy => h y (List.mem_cons_of_mem x hy))]

/-- The `j`-th visit of a run is to the `j`-th document, from the store the visits before it
left. -/
theorem getElem?_visitAll (m : MemoryStore) (ds : List Bytes) (j : Nat) :
    (visitAll rs o m ds).1[j]? =
      ds[j]?.map fun q => (q, (visit rs o (visitAll rs o m (ds.take j)).2 q).1) := by
  induction ds generalizing m j with
  | nil => rfl
  | cons p ds ih =>
    cases j with
    | zero => rfl
    | succ j => simp [visitAll, ih]

end Rerun

/-! ## The events of settled visits -/

/-- The event of an outcome that saved nothing does not report a cleaned document. -/
theorem Outcome.kind_event_ne_cleaned {out : Outcome} (h : out.isCleaned = false) (p : Bytes) :
    (out.event p).kind ≠ .cleaned := by
  cases out with
  | cleaned l m => simp [Outcome.isCleaned] at h
  | skipped => simp [Outcome.event, Event.kind]
  | failed e => simp [Outcome.event, Event.kind]

/-- Only a cleaned document reports removed log lines. -/
theorem Event.logs_eq_zero {e : Event} (h : e.kind ≠ .cleaned) : e.logs = 0 := by
  cases e with
  | cleaned p l m => exact absurd rfl h
  | _ => rfl

/-- Only a cleaned document reports removed imports. -/
theorem Event.imports_eq_zero {e : Event} (h : e.kind ≠ .cleaned) : e.imports = 0 := by
  cases e with
  | cleaned p l m => exact absurd rfl h
  | _ => rfl

/-- The events of visits that clean nothing include no cleaned document. -/
theorem kind_ne_cleaned_of_mem_visitEvents {total j : Nat} {vs : List (Bytes × Outcome)}
    (h : ∀ x ∈ vs, x.2.isCleaned = false) :
    ∀ e ∈ visitEvents total j vs, e.kind ≠ .cleaned := by
  induction vs generalizing j with
  | nil => simp [visitEvents]
  | cons x vs ih =>
    intro e he
    simp only [visitEvents, List.mem_cons] at he
    rcases he with rfl | rfl | he
    · simp [Event.kind]
    · exact Outcome.kind_event_ne_cleaned (h x List.mem_cons_self) x.1
    · exact ih (fun y hy => h y (List.mem_cons_of_mem x hy)) e he

/-- Settling the outcomes of visits keeps the error lines of their events. -/
theorem filterMap_errorLine_visitEvents_settle (total j : Nat) (vs : List (Bytes × Outcome)) :
    (visitEvents total j (vs.map fun x => (x.1, x.2.settle))).filterMap Event.errorLine =
      (visitEvents total j vs).filterMap Event.errorLine := by
  induction vs generalizing j with
  | nil => rfl
  | cons x vs ih =>
    obtain ⟨p, out⟩ := x
    simp only [List.map_cons, visitEvents, List.filterMap_cons, ih]
    cases out <;> rfl

/-- The outcome event of the `i`-th visit stands two places after the event of its
processing. -/
theorem getElem?_visitEvents_outcome (total j : Nat) (vs : List (Bytes × Outcome)) (i : Nat) :
    (visitEvents total j vs)[2 * i + 1]? = vs[i]?.map fun x => x.2.event x.1 := by
  induction vs generalizing j i with
  | nil => rfl
  | cons x vs ih =>
    cases i with
    | zero => rfl
    | succ i =>
      rw [show 2 * (i + 1) + 1 = 2 * i + 1 + 1 + 1 by omega]
      simp [visitEvents, ih]

section Events

variable {σ : Type} [DocumentStore σ] (rs : RuleSet) (o : SweepOptions)

/-- In a run without a flag, the outcome of the `i`-th document is event `2 * i + 2`: after the
start and the two events of each document before it, and its being processed. -/
theorem getElem?_events_uncancelled (docs : List Bytes) (store : σ) (i : Nat) :
    (sweepBatch docs store rs o {}).events[2 * i + 2]? =
      (visitAll rs o store docs).1[i]?.map fun x => x.2.event x.1 := by
  rw [sweepBatch_uncancelled, List.cons_append, List.getElem?_cons_succ]
  rcases Nat.lt_or_ge i docs.length with hi | hi
  · rw [List.getElem?_append_left (by simp; omega), getElem?_visitEvents_outcome]
  · rw [List.getElem?_append_right (by simp; omega),
      List.getElem?_eq_none (by simp; omega), List.getElem?_eq_none (by simp; omega)]
    rfl

end Events

/-! ## A second batch -/

section Again

variable (rs : RuleSet) (o : SweepOptions)

/-- A second batch over the store a first one left, both without a flag: every document ends as
its first visit settles, and the store stays as the first batch left it. -/
theorem sweepBatch_again (docs : List Bytes) (m : MemoryStore) :
    sweepBatch docs (sweepBatch docs m rs o {}).store rs o {} =
      { store := (sweepBatch docs m rs o {}).store
        tally := ({} : Tally).noteAll ((visitAll rs o m docs).1.map fun x => (x.1, x.2.settle))
        events := Event.started docs.length :: visitEvents docs.length 0
          ((visitAll rs o m docs).1.map fun x => (x.1, x.2.settle)) ++ [Event.completed] } := by
  have hstore : (sweepBatch docs m rs o {}).store = (visitAll rs o m docs).2 := by
    rw [sweepBatch_uncancelled]
  -- Every document the first batch visited is settled in the store it left.
  have hvisits := visitAll_of_settled rs o (settled_visitAll rs o m docs)
  rw [map_fst_visitAll] at hvisits
  rw [hstore, sweepBatch_uncancelled, hvisits]

/-- Within a batch without a flag, a document named again after it was cleaned is skipped. -/
theorem sweepBatch_skipped_of_cleaned (docs : List Bytes) (m : MemoryStore) {i j : Nat}
    {p q : Bytes} {l k : Nat} (hij : i < j) (hp : docs[i]? = some p) (hq : docs[j]? = some q)
    (hpq : sameName p q = true)
    (hcl : (sweepBatch docs m rs o {}).events[2 * i + 2]? = some (Event.cleaned p l k)) :
    (sweepBatch docs m rs o {}).events[2 * j + 2]? = some (Event.skipped q) := by
  -- The `i`-th visit cleaned `p`; after the first `j` visits `p` is settled, so skipped, and `q`
  -- names the same document.
  rw [getElem?_events_uncancelled, getElem?_visitAll, hp] at hcl
  simp only [Option.map_some, Option.some.injEq] at hcl
  have hout : (visit rs o (visitAll rs o m (docs.take i)).2 p).1 = .cleaned l k := by
    generalize (visit rs o (visitAll rs o m (docs.take i)).2 p).1 = out at hcl
    cases out <;> simp_all [Outcome.event]
  have hmem : (p, Outcome.cleaned l k) ∈ (visitAll rs o m (docs.take j)).1 := by
    rw [visitAll_take]
    apply List.mem_of_getElem?
    rw [List.getElem?_take_of_lt hij, getElem?_visitAll, hp, Option.map_some, hout]
  have hp_settled := settled_visitAll rs o m (docs.take j) _ hmem
  have hq_skipped : (visit rs o (visitAll rs o m (docs.take j)).2 q).1 = .skipped := by
    rw [visit_fst_memory, ← get?_congr _ hpq, ← refuses_congr _ hpq, ← visit_fst_memory,
      hp_settled]
    rfl
  rw [getElem?_events_uncancelled, getElem?_visitAll, hq, Option.map_some, Option.map_some,
    hq_skipped]
  rfl

end Again

/-- The events of a batch whose visits all settle include no cleaned document. -/
theorem kind_ne_cleaned_of_settled (n : Nat) (vs : List (Bytes × Outcome)) :
    ∀ e ∈ Event.started n :: visitEvents n 0 (vs.map fun x => (x.1, x.2.settle)) ++
      [Event.completed], e.kind ≠ .cleaned := by
  intro e he
  simp only [List.cons_append, List.mem_cons, List.mem_append, List.not_mem_nil, or_false] at he
  rcases he with rfl | he | rfl
  · simp [Event.kind]
  · refine kind_ne_cleaned_of_mem_visitEvents (fun x hx => ?_) e he
    obtain ⟨y, -, rfl⟩ := List.mem_map.1 hx
    exact Outcome.isCleaned_settle y.2
  · simp [Event.kind]

/-- A tally that accounts for events with no cleaned document counts no file and no line. -/
theorem Accounts.counts_eq_zero {t : Tally} {evs : List Event} (h : Accounts t evs)
    (hnone : ∀ e ∈ evs, e.kind ≠ .cleaned) :
    t.filesProcessed = 0 ∧ t.logsRemoved = 0 ∧ t.importsRemoved = 0 := by
  refine ⟨?_, ?_, ?_⟩
  · rw [h.files, List.countP_eq_zero]
    intro e he
    simpa using hnone e he
  · rw [h.logs, List.sum_eq_zero]
    intro x hx
    obtain ⟨e, he, rfl⟩ := List.mem_map.1 hx
    exact Event.logs_eq_zero (hnone e he)
  · rw [h.imports, List.sum_eq_zero]
    intro x hx
    obtain ⟨e, he, rfl⟩ := List.mem_map.1 hx
    exact Event.imports_eq_zero (hnone e he)

/-- A second batch over the store a first one left, both without a flag, over a store in memory,
whatever its documents (missing, not UTF-8, refused, clean or not, named more than once): it
cleans nothing, counts no line and is not cancelled; it meets the errors of the first batch, in
order; it reports no cleaned document and leaves the store as it found it, so it writes
nothing. Within the first batch, a document named again after it was cleaned is skipped. -/
theorem sweepBatch_rerun (docs : List Bytes) (m : MemoryStore) (rs : RuleSet) (o : SweepOptions) :
    let first := sweepBatch docs m rs o {}
    let second := sweepBatch docs first.store rs o {}
    second.tally.filesProcessed = 0 ∧ second.tally.logsRemoved = 0 ∧
      second.tally.importsRemoved = 0 ∧ second.tally.cancelled = false ∧
      second.tally.errors = first.tally.errors ∧
      (∀ e ∈ second.events, e.kind ≠ .cleaned) ∧ second.store = first.store ∧
      ∀ i j p q l k, i < j → docs[i]? = some p → docs[j]? = some q → sameName p q = true →
        first.events[2 * i + 2]? = some (.cleaned p l k) →
        first.events[2 * j + 2]? = some (.skipped q) := by
  intro first second
  have hsecond : second = _ := sweepBatch_again rs o docs m
  have hnone : ∀ e ∈ second.events, e.kind ≠ .cleaned := by
    rw [hsecond]
    exact kind_ne_cleaned_of_settled docs.length _
  have hacc := sweepBatch_accounts rs o {} docs first.store
  obtain ⟨hfiles, hlogs, himports⟩ := hacc.counts_eq_zero hnone
  refine ⟨hfiles, hlogs, himports, ?_, ?_, hnone, by rw [hsecond],
    fun i j p q l k hij hp hq hpq hcl => sweepBatch_skipped_of_cleaned rs o docs m hij hp hq hpq hcl⟩
  · rw [hsecond, Tally.noteAll_cancelled]
  · -- Settling the outcomes keeps the failures, and with them the errors, in order.
    rw [hacc.errors, (sweepBatch_accounts rs o {} docs m).errors]
    show second.events.filterMap _ = (sweepBatch docs m rs o {}).events.filterMap _
    rw [hsecond, sweepBatch_uncancelled]
    simp only [List.cons_append, List.filterMap_cons, List.filterMap_append,
      filterMap_errorLine_visitEvents_settle]

/-- A document named twice, whose one line a rule for every line removes: the first visit
cleans it and the second finds nothing to do. -/
theorem sweepBatch_rerun_named_twice :
    let docs : List Bytes := [[65], [65]]
    let m : MemoryStore := { docs := [([65], [97])] }
    let rs : RuleSet := ⟨[{ source := "", node := .empty, builtin := false }]⟩
    let first := sweepBatch docs m rs {} {}
    (0 < 1 ∧ docs[0]? = some [65] ∧ docs[1]? = some [65] ∧ sameName [65] [65] = true ∧
      first.events[2 * 0 + 2]? = some (.cleaned [65] 1 0)) ∧
    first.events[2 * 1 + 2]? = some (.skipped [65]) := by
  intro docs m rs first
  have hcleaned : first.events[2 * 0 + 2]? = some (.cleaned [65] 1 0) := by decide +kernel
  have hsame : sameName [65] [65] = true := by decide +kernel
  exact ⟨⟨by decide, rfl, rfl, hsame, hcleaned⟩,
    (sweepBatch_rerun docs m rs {}).2.2.2.2.2.2.2 0 1 [65] [65] 1 0 (by decide) rfl rfl hsame
      hcleaned⟩

end ConsoleSweep
