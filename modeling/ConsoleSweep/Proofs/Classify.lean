-- What a plan lists. The positions of the lines of a text that pass a test are a filter of
-- the positions below the number of lines, so they count up strictly. A plan's log list is that
-- filter for the non-empty lines some rule matches; its import list, when imports are looked
-- for, is the filter for the lines the import rule matches. A line may stand in both lists and
-- is then counted twice: the plan's total exceeds the number of lines a sweep removes by
-- exactly the lines in both.
import Mathlib.Data.List.Sort
import ConsoleSweep.Proofs.Sweep

namespace ConsoleSweep

open Text

/-! ## The positions of the lines that pass a test -/

/-- The positions of the lines of a text that pass a test, in increasing order. -/
def linesWhere (q : String → Bool) (t : String) : List Nat :=
  (List.range (lines t).length).filter fun i => ((lines t)[i]?).any q

theorem pairwise_linesWhere (q : String → Bool) (t : String) :
    (linesWhere q t).Pairwise (· < ·) :=
  List.pairwise_lt_range.sublist List.filter_sublist

theorem mem_linesWhere {q : String → Bool} {t : String} {i : Nat} :
    i ∈ linesWhere q t ↔ ∃ h : i < (lines t).length, q (lines t)[i] = true := by
  simp only [linesWhere, List.mem_filter, List.mem_range]
  constructor
  · rintro ⟨hi, hq⟩
    exact ⟨hi, by simpa [List.getElem?_eq_getElem hi] using hq⟩
  · rintro ⟨hi, hq⟩
    exact ⟨hi, by simpa [List.getElem?_eq_getElem hi] using hq⟩

/-- The positions of numbered lines count up from zero. -/
theorem map_fst_numbered (t : String) :
    (numbered t).map (·.1) = List.range' 0 (lines t).length := by
  rw [numbered, List.map_map, ← List.zipIdx_map_snd 0 (lines t)]
  rfl

/-- Keeping the positions of the numbered lines that pass a test gives the positions of the
lines that pass it. -/
theorem map_fst_filter_numbered (q : String → Bool) (t : String) :
    ((numbered t).filter fun x => q x.2).map (·.1) = linesWhere q t := by
  refine List.Pairwise.eq_of_mem_iff ?_ (pairwise_linesWhere q t) fun i => ?_
  · -- a sublist of the positions of all lines, which count up
    have h := List.pairwise_lt_range' (s := 0) (n := (lines t).length)
    rw [← map_fst_numbered] at h
    exact h.sublist (List.filter_sublist.map _)
  · rw [mem_linesWhere]
    simp only [List.mem_map, List.mem_filter]
    constructor
    · rintro ⟨⟨j, l⟩, ⟨hm, hq⟩, rfl⟩
      obtain ⟨hi, he⟩ := List.getElem?_eq_some_iff.1 (mem_numbered.1 hm)
      exact ⟨hi, he ▸ hq⟩
    · rintro ⟨hi, hq⟩
      exact ⟨(i, (lines t)[i]), ⟨mem_numbered.2 (List.getElem?_eq_getElem hi), hq⟩, rfl⟩

/-! ## Lists of positions in range -/

/-- Counting two tests one after the other counts what passes either once and what passes
both twice. -/
theorem countP_add_countP {α : Type} (p q : α → Bool) (l : List α) :
    l.countP p + l.countP q =
      l.countP (fun a => p a || q a) + l.countP (fun a => p a && q a) := by
  induction l with
  | nil => rfl
  | cons a l ih =>
    simp only [List.countP_cons]
    cases p a <;> cases q a <;> simp <;> omega

/-- A list of distinct positions below `n` has as many entries as there are positions below
`n` in it. -/
theorem length_eq_countP_range {L : List Nat} {n : Nat} (hnd : L.Nodup)
    (hlt : ∀ i ∈ L, i < n) : L.length = (List.range n).countP fun i => i ∈ L := by
  rw [List.countP_eq_length_filter]
  apply List.Perm.length_eq
  rw [List.perm_ext_iff_of_nodup hnd (List.nodup_range.filter _)]
  intro i
  simp only [List.mem_filter, List.mem_range, decide_eq_true_eq]
  exact ⟨fun h => ⟨hlt i h, h⟩, fun h => h.2⟩

namespace Plan

/-- A plan fits a text of `n` lines when both of its lists count up strictly and stay below
`n`: positions in range, in increasing order and without repeats. -/
structure Fits (p : Plan) (n : Nat) : Prop where
  logs_sorted : p.logLines.Pairwise (· < ·)
  imports_sorted : p.importLines.Pairwise (· < ·)
  logs_lt : ∀ i ∈ p.logLines, i < n
  imports_lt : ∀ i ∈ p.importLines, i < n

/-- The total of a plan that fits counts the positions in either list once and the positions
in both lists twice. -/
theorem Fits.total_eq {p : Plan} {n : Nat} (h : p.Fits n) :
    p.total = (List.range n).countP (fun i => i ∈ p.logLines ∨ i ∈ p.importLines) +
      (List.range n).countP fun i => i ∈ p.logLines ∧ i ∈ p.importLines := by
  have hlogs := length_eq_countP_range (h.logs_sorted.imp Nat.ne_of_lt) h.logs_lt
  have himports := length_eq_countP_range (h.imports_sorted.imp Nat.ne_of_lt) h.imports_lt
  rw [total, hlogs, himports, countP_add_countP]
  simp only [Bool.decide_or, Bool.decide_and]

end Plan

/-! ## The lists of a plan -/

theorem ofText_logLines (rs : RuleSet) (t : String) (w : Bool) :
    (Plan.ofText rs t w).logLines = linesWhere (fun l => !l.isEmpty && rs.isLogLine l) t :=
  map_fst_filter_numbered (fun l => !l.isEmpty && rs.isLogLine l) t

theorem ofText_importLines (rs : RuleSet) (t : String) (w : Bool) :
    (Plan.ofText rs t w).importLines = if w then linesWhere RuleSet.isImportLine t else [] := by
  cases w
  · rfl
  · exact map_fst_filter_numbered RuleSet.isImportLine t

/-- The plan of a text fits it. -/
theorem ofText_fits (rs : RuleSet) (t : String) (w : Bool) :
    (Plan.ofText rs t w).Fits (lines t).length where
  logs_sorted := ofText_logLines rs t w ▸ pairwise_linesWhere _ t
  imports_sorted := by
    rw [ofText_importLines]
    split
    · exact pairwise_linesWhere _ t
    · exact List.Pairwise.nil
  logs_lt i hi := (mem_linesWhere.1 (ofText_logLines rs t w ▸ hi)).1
  imports_lt i hi := by
    rw [ofText_importLines] at hi
    split at hi
    · exact (mem_linesWhere.1 hi).1
    · exact absurd hi List.not_mem_nil

/-- A plan of a text lists import lines only when it looks for them, so under options that look
for imports as it did, it removes exactly the positions in either of its lists. -/
theorem removes_ofText_iff {rs : RuleSet} {t : String} {o : SweepOptions} {i : Nat} :
    (Plan.ofText rs t o.removeImports).Removes o i ↔
      i ∈ (Plan.ofText rs t o.removeImports).logLines ∨
        i ∈ (Plan.ofText rs t o.removeImports).importLines := by
  unfold Plan.Removes
  constructor
  · rintro (h | ⟨-, h⟩)
    · exact Or.inl h
    · exact Or.inr h
  · rintro (h | h)
    · exact Or.inl h
    · exact Or.inr ⟨(mem_ofText_importLines.1 h).1, h⟩

theorem removedBelow_ofText (rs : RuleSet) (t : String) (o : SweepOptions) (n : Nat) :
    (Plan.ofText rs t o.removeImports).removedBelow o n =
      (List.range n).countP fun i => i ∈ (Plan.ofText rs t o.removeImports).logLines ∨
        i ∈ (Plan.ofText rs t o.removeImports).importLines :=
  List.countP_congr fun i _ => by simp only [decide_eq_true_eq, removes_ofText_iff]

/-- The total of the plan of a text is the number of lines a sweep with the same options removes,
plus the number of lines in both lists. -/
theorem total_ofText (rs : RuleSet) (t : String) (o : SweepOptions) :
    (Plan.ofText rs t o.removeImports).total =
      (Plan.ofText rs t o.removeImports).removedBelow o (lines t).length +
        (List.range (lines t).length).countP fun i =>
          i ∈ (Plan.ofText rs t o.removeImports).logLines ∧
            i ∈ (Plan.ofText rs t o.removeImports).importLines := by
  rw [(ofText_fits rs t o.removeImports).total_eq, removedBelow_ofText]

/-- How a plan classifies the lines of a text, for every text and every options: the log list
holds, in increasing order, the positions of the non-empty lines that some rule in force
matches; the import list holds, in increasing order, the positions of the lines the import
rule matches, and only when imports are looked for; the total is the sum of their lengths,
which is the number of lines the sweep removes plus the number of lines in both lists. -/
theorem planText_lists_matching_lines (t : String) (o : SweepOptions) :
    let rs := (RuleSet.compile o.customPatterns).1
    let P := planText t o
    let ls := lines t
    P = Plan.ofText rs t o.removeImports ∧
    (P.logLines.Pairwise (· < ·) ∧ ∀ i, i ∈ P.logLines ↔
      ∃ h : i < ls.length, ls[i] ≠ "" ∧ ∃ r ∈ rs.rules, r.isMatch ls[i] = true) ∧
    (P.importLines.Pairwise (· < ·) ∧ ∀ i, i ∈ P.importLines ↔
      o.removeImports = true ∧ ∃ h : i < ls.length, RuleSet.isImportLine ls[i] = true) ∧
    P.total = P.logLines.length + P.importLines.length ∧
    P.total = P.removedBelow o ls.length +
      (List.range ls.length).countP fun i => i ∈ P.logLines ∧ i ∈ P.importLines := by
  dsimp only
  have hfits := ofText_fits (RuleSet.compile o.customPatterns).1 t o.removeImports
  refine ⟨rfl, ⟨hfits.logs_sorted, fun i => ?_⟩, ⟨hfits.imports_sorted, fun i => ?_⟩, rfl,
    total_ofText _ t o⟩
  · rw [planText, ofText_logLines, mem_linesWhere]
    simp only [Bool.and_eq_true, Bool.not_eq_true', String.isEmpty_eq_false_iff,
      RuleSet.isLogLine, List.any_eq_true]
  · rw [planText, ofText_importLines]
    cases o.removeImports
    · simp
    · simp [mem_linesWhere]

end ConsoleSweep
