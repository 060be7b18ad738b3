-- The laws of a batch over a store kept in memory. Each visit reads the bytes held under the
-- document's name: a missing name or bytes that are not UTF-8 fail, a text with nothing to
-- remove is skipped, a refused edit fails, and otherwise the new text is saved under that name
-- and nowhere else. A run is a chain of such visits.
import ConsoleSweep.Batch.Memory
import ConsoleSweep.Proofs.Batch

namespace ConsoleSweep

deriving instance ReflBEq, LawfulBEq for PathPart

namespace MemoryStore

/-! ## Names and contents -/

theorem sameName_iff {p q : Bytes} : sameName p q = true ↔ Path.parts p = Path.parts q :=
  beq_iff_eq

/-- Two names of one document are alike to every other name. -/
theorem sameName_congr {p q : Bytes} (h : sameName p q = true) (d : Bytes) :
    sameName d p = sameName d q := by
  rw [sameName_iff] at h
  rw [Bool.eq_iff_iff, sameName_iff, sameName_iff, h]

theorem sameName_eq_false_of {e p q : Bytes} (heq : sameName e q = true)
    (hpq : sameName p q = false) : sameName e p = false := by
  rw [← Bool.not_eq_true, sameName_iff]
  intro hp
  rw [← Bool.not_eq_true, sameName_iff] at hpq
  exact hpq (hp.symm.trans (sameName_iff.1 heq))

/-- Setting the bytes of a document the store holds: it is changed in place, under each of its
names, so the search for a name meets the same entry as before. -/
theorem get?_put_of_held {m : MemoryStore} {p : Bytes} (held : m.docs.any (sameName ·.1 p) = true)
    (q bs : Bytes) : (m.put p bs).get? q = if sameName p q then some bs else m.get? q := by
  have hpred : ((fun d : Bytes × Bytes => sameName d.1 q) ∘
      fun d => if sameName d.1 p then (d.1, bs) else d) = fun d => sameName d.1 q := by
    funext d
    by_cases hd : sameName d.1 p <;> simp [hd]
  simp only [put, held, if_true, get?, List.find?_map, hpred]
  split
  · rename_i hpq
    obtain ⟨d, hd, hdp⟩ := List.any_eq_true.1 held
    have hfound : (m.docs.find? fun d => sameName d.1 q).isSome := by
      rw [List.find?_isSome]
      exact ⟨d, hd, (sameName_congr hpq d.1) ▸ hdp⟩
    obtain ⟨e, he⟩ := Option.isSome_iff_exists.1 hfound
    have heq : sameName e.1 p = true :=
      (sameName_congr hpq e.1).symm ▸ List.find?_some (p := fun d : Bytes × Bytes => sameName d.1 q) he
    simp [he, heq]
  · rename_i hpq
    cases he : m.docs.find? fun d => sameName d.1 q with
    | none => rfl
    | some e =>
      have heq : sameName e.1 q = true :=
        List.find?_some (p := fun d : Bytes × Bytes => sameName d.1 q) he
      simp [sameName_eq_false_of heq (by simpa using hpq)]

/-- Setting the bytes of a document the store does not hold: it is added at the end, where only
its own names find it. -/
theorem get?_put_of_new {m : MemoryStore} {p : Bytes} (hnew : ¬ m.docs.any (sameName ·.1 p) = true)
    (q bs : Bytes) : (m.put p bs).get? q = if sameName p q then some bs else m.get? q := by
  simp only [put, hnew, Bool.false_eq_true, if_false, get?, List.find?_append]
  split
  · rename_i hpq
    have hnone : (m.docs.find? fun d => sameName d.1 q) = none := by
      rw [List.find?_eq_none]
      intro d hd hdq
      exact hnew (List.any_eq_true.2 ⟨d, hd, (sameName_congr hpq d.1) ▸ hdq⟩)
    simp [hnone, hpq]
  · rename_i hpq
    cases m.docs.find? fun d => sameName d.1 q <;> simp [hpq]

/-- Setting a document's bytes changes what its names read, and nothing else. -/
theorem get?_put (m : MemoryStore) (p q bs : Bytes) :
    (m.put p bs).get? q = if sameName p q then some bs else m.get? q := by
  by_cases held : m.docs.any (sameName ·.1 p) = true
  · exact get?_put_of_held held q bs
  · exact get?_put_of_new held q bs

@[simp]
theorem refused_put (m : MemoryStore) (p bs : Bytes) : (m.put p bs).refused = m.refused := by
  unfold put
  split <;> rfl

theorem read_eq (m : MemoryStore) (p : Bytes) :
    DocumentStore.read m p = match m.get? p with
      | none => .error (.read .noSuchDocument)
      | some bs => textOfBytes bs := rfl

theorem apply_eq (m : MemoryStore) (p : Bytes) (text : String) :
    DocumentStore.apply m p text =
      if m.refuses p then .error (.rejected "Failed to apply edit")
      else .ok { m.put p (Text.utf8Bytes text) with writes := m.writes + 1 } := rfl

end MemoryStore

/-! ## One visit -/

open MemoryStore

/-- One visit to a document of a store in memory, given what the store holds under the
document's name: how the visit ends and the store after it. `sweep` is the sweep of a text. -/
inductive MemoryVisit (sweep : String → Sweep) (p : Bytes) :
    MemoryStore → Outcome → MemoryStore → Prop
  /-- No document has the name, so it cannot be read. -/
  | missing {m : MemoryStore} :
      m.get? p = none → MemoryVisit sweep p m (.failed (DocError.read .noSuchDocument).message) m
  /-- The bytes under the name are not UTF-8, so they cannot be read as text. -/
  | notUtf8 {m : MemoryStore} {bs : Bytes} {f : Text.Utf8Fault} :
      m.get? p = some bs → Text.decodeUtf8 bs = .error f →
      MemoryVisit sweep p m (.failed (DocError.encoding f).message) m
  /-- The text has nothing to remove. -/
  | skipped {m : MemoryStore} {bs : Bytes} {t : String} :
      m.get? p = some bs → Text.decodeUtf8 bs = .ok t → (sweep t).changed = false →
      MemoryVisit sweep p m .skipped m
  /-- The text has lines to remove, but the store refuses edits to the document. -/
  | refused {m : MemoryStore} {bs : Bytes} {t : String} :
      m.get? p = some bs → Text.decodeUtf8 bs = .ok t → (sweep t).changed = true →
      m.refuses p = true →
      MemoryVisit sweep p m (.failed (DocError.rejected "Failed to apply edit").message) m
  /-- The swept text is saved: every name of the document reads it, every other name reads
  what it read before, the refused names stay and one more edit is counted. -/
  | cleaned {m m' : MemoryStore} {bs : Bytes} {t : String} :
      m.get? p = some bs → Text.decodeUtf8 bs = .ok t → (sweep t).changed = true →
      m.refuses p = false →
      (∀ q, m'.get? q = if sameName p q then some (Text.utf8Bytes (sweep t).newText)
        else m.get? q) →
      m'.refused = m.refused → m'.writes = m.writes + 1 →
      MemoryVisit sweep p m (.cleaned (sweep t).logsRemoved (sweep t).importsRemoved) m'

/-- Visits in turn, each from the store the one before it left. -/
inductive MemoryVisits (sweep : String → Sweep) :
    MemoryStore → List (Bytes × Outcome) → MemoryStore → Prop
  | nil {m : MemoryStore} : MemoryVisits sweep m [] m
  | cons {m m' m'' : MemoryStore} {p : Bytes} {out : Outcome} {rest : List (Bytes × Outcome)} :
      MemoryVisit sweep p m out m' → MemoryVisits sweep m' rest m'' →
      MemoryVisits sweep m ((p, out) :: rest) m''

section Visit

variable {sweep : String → Sweep} {p : Bytes} {m m' : MemoryStore} {out : Outcome}

/-- The visit that the batch makes is one the rules above allow. -/
theorem memoryVisit_visit (rs : RuleSet) (o : SweepOptions) (m : MemoryStore) (p : Bytes) :
    MemoryVisit (fun t => rs.sweep t o) p m (visit rs o m p).1 (visit rs o m p).2 := by
  cases hg : m.get? p with
  | none =>
    simp only [visit, read_eq, hg]
    exact .missing hg
  | some bs =>
    cases hd : Text.decodeUtf8 bs with
    | error f =>
      simp only [visit, read_eq, hg, textOfBytes, hd]
      exact .notUtf8 hg hd
    | ok t =>
      by_cases hc : (rs.sweep t o).changed
      · cases hr : m.refuses p
        · simp only [visit, read_eq, hg, textOfBytes, hd, hc, apply_eq, hr, Bool.not_true,
            Bool.false_eq_true, if_false]
          exact .cleaned hg hd hc hr (fun q => get?_put _ _ _ _) (refused_put _ _ _) rfl
        · simp only [visit, read_eq, hg, textOfBytes, hd, hc, apply_eq, hr, Bool.not_true,
            Bool.false_eq_true, if_false, if_true]
          exact .refused hg hd hc hr
      · simp only [visit, read_eq, hg, textOfBytes, hd, hc]
        exact .skipped hg hd (by simpa using hc)

theorem MemoryVisit.refused_eq (h : MemoryVisit sweep p m out m') : m'.refused = m.refused := by
  cases h with
  | cleaned _ _ _ _ _ hr _ => exact hr
  | _ => rfl

theorem MemoryVisit.writes_eq (h : MemoryVisit sweep p m out m') :
    m'.writes = m.writes + if out.isCleaned then 1 else 0 := by
  cases h with
  | cleaned _ _ _ _ _ _ hw => simpa [Outcome.isCleaned] using hw
  | _ => simp [Outcome.isCleaned]

/-- A visit changes what a name reads only when it saves the document of that name. -/
theorem MemoryVisit.get?_eq (h : MemoryVisit sweep p m out m') (q : Bytes)
    (hq : out.isCleaned = true → sameName p q = false) : m'.get? q = m.get? q := by
  cases h with
  | cleaned _ _ _ _ hget _ _ => simp [hget, hq rfl]
  | _ => rfl

/-- Bytes that are not UTF-8 are never rewritten: saving needs the bytes to read as text, and
all names of a document read the same bytes. -/
theorem MemoryVisit.get?_of_not_utf8 (h : MemoryVisit sweep p m out m') {q : Bytes} {bs : Bytes}
    {f : Text.Utf8Fault} (hq : m.get? q = some bs) (hf : Text.decodeUtf8 bs = .error f) :
    m'.get? q = some bs := by
  cases h with
  | cleaned hp hd _ _ hget _ _ =>
    rw [hget]
    split
    · rename_i hpq
      have hsame : m.get? p = m.get? q := by
        unfold get?
        congr 2
        funext d
        exact sameName_congr hpq d.1
      rw [hsame, hq] at hp
      cases hp
      rw [hd] at hf
      cases hf
    · exact hq
  | _ => exact hq

end Visit

/-! ## A run -/

section Visits

variable {sweep : String → Sweep} {m m' : MemoryStore} {vs : List (Bytes × Outcome)}

/-- The visits that the batch makes are a chain of visits the rules above allow. -/
theorem memoryVisits_visitAll (rs : RuleSet) (o : SweepOptions) (m : MemoryStore)
    (ps : List Bytes) :
    MemoryVisits (fun t => rs.sweep t o) m (visitAll rs o m ps).1 (visitAll rs o m ps).2 := by
  induction ps generalizing m with
  | nil => exact .nil
  | cons p ps ih => exact .cons (memoryVisit_visit rs o m p) (ih _)

theorem MemoryVisits.refused_eq (h : MemoryVisits sweep m vs m') : m'.refused = m.refused := by
  induction h with
  | nil => rfl
  | cons hv _ ih => rw [ih, hv.refused_eq]

/-- Each saved document is one more edit, and nothing else is. -/
theorem MemoryVisits.writes_eq (h : MemoryVisits sweep m vs m') :
    m'.writes = m.writes + vs.countP (·.2.isCleaned) := by
  induction h with
  | nil => simp
  | @cons _ _ _ _ out _ hv _ ih =>
    rw [ih, hv.writes_eq, List.countP_cons]
    cases out.isCleaned with
    | false => simp
    | true =>
      simp only [if_true]
      omega

/-- A name that no saved document bears reads at the end what it read at the start. -/
theorem MemoryVisits.get?_eq (h : MemoryVisits sweep m vs m') (q : Bytes)
    (hq : ∀ x ∈ vs, x.2.isCleaned = true → sameName x.1 q = false) : m'.get? q = m.get? q := by
  induction h with
  | nil => rfl
  | cons hv _ ih =>
    rw [ih (fun x hx => hq x (List.mem_cons_of_mem _ hx)), hv.get?_eq q (hq _ List.mem_cons_self)]

/-- Bytes that are not UTF-8 are never rewritten, whatever visits are made. -/
theorem MemoryVisits.get?_of_not_utf8 (h : MemoryVisits sweep m vs m') {q bs : Bytes}
    {f : Text.Utf8Fault} : m.get? q = some bs → Text.decodeUtf8 bs = .error f →
      m'.get? q = some bs := by
  induction h with
  | nil => exact fun hq _ => hq
  | cons hv _ ih => exact fun hq hf => ih (hv.get?_of_not_utf8 hq hf) hf

end Visits

/-- A batch over a store in memory, whatever its documents (missing, not UTF-8, refused, clean or
not, named more than once), its options and its cancel flag: the run visits a prefix of the
documents, and each visit follows from what the store holds under the document's name at that
moment (`MemoryVisit`), the sweep being that of the options. Its events report each visit. The
store counts one edit per saved document; a name that no saved document bears, and bytes that
are not UTF-8, read at the end what they read at the start, and the refused names stay. -/
theorem sweepBatch_memory (docs : List Bytes) (m : MemoryStore) (o : SweepOptions)
    (w : CancelWatch) :
    let run := sweepBatch docs m (RuleSet.compile o.customPatterns).1 o w
    ∃ k ≤ docs.length, ∃ vs : List (Bytes × Outcome),
      vs.map Prod.fst = docs.take k ∧
      MemoryVisits (fun t => sweepText t o) m vs run.store ∧
      run.events = .started docs.length :: visitEvents docs.length 0 vs ++
        (if k < docs.length then [.cancelled] else []) ++ [.completed] ∧
      run.store.writes = m.writes + vs.countP (·.2.isCleaned) ∧
      run.store.refused = m.refused ∧
      (∀ q, (∀ x ∈ vs, x.2.isCleaned = true → sameName x.1 q = false) →
        run.store.get? q = m.get? q) ∧
      (∀ q bs f, m.get? q = some bs → Text.decodeUtf8 bs = .error f →
        run.store.get? q = some bs) := by
  obtain ⟨k, hk, heq⟩ := sweepBatch_eq (RuleSet.compile o.customPatterns).1 o w docs m
  have hv := memoryVisits_visitAll (RuleSet.compile o.customPatterns).1 o m (docs.take k)
  refine ⟨k, hk, (visitAll (RuleSet.compile o.customPatterns).1 o m (docs.take k)).1,
    map_fst_visitAll _ _ _ _, ?_⟩
  rw [heq]
  exact ⟨hv, rfl, hv.writes_eq, hv.refused_eq, hv.get?_eq,
    fun _ _ _ hq hf => hv.get?_of_not_utf8 hq hf⟩

end ConsoleSweep
