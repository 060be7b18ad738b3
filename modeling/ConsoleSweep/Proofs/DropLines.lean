-- Dropping lines by position. The text keeps, in order, the lines at the positions the list
-- leaves out; positions past the end and repeated positions change nothing, so only the set of
-- listed positions in range counts. Without kept blank lines, a sweep that removes something is
-- such a drop followed by dropping the blank lines at the end.
import Mathlib.Data.Finset.Card
import Mathlib.Data.List.DropRight
import ConsoleSweep.Proofs.Sweep

namespace ConsoleSweep

open Text

/-! ## The kept lines -/

/-- The lines at the positions from `k` on that a list of positions leaves out, by position. -/
theorem filterMap_zipIdx (ls : List String) (ns : List Nat) (k : Nat) :
    (ls.zipIdx k).filterMap (fun x => if x.2 ∈ ns then none else some x.1) =
      ((List.range' k ls.length).filter (· ∉ ns)).map fun i => ls.getD (i - k) "" := by
  induction ls generalizing k with
  | nil => rfl
  | cons l ls ih =>
    -- The tail's positions start one later, which the shift by `k` takes back.
    have htail : ((List.range' (k + 1) ls.length).filter (· ∉ ns)).map
        (fun i => (l :: ls).getD (i - k) "") =
          ((List.range' (k + 1) ls.length).filter (· ∉ ns)).map fun i => ls.getD (i - (k + 1)) "" := by
      apply List.map_congr_left
      intro i hi
      have hk : k + 1 ≤ i := (List.mem_range'_1.1 (List.mem_filter.1 hi).1).1
      rw [show i - k = i - (k + 1) + 1 by omega]
      rfl
    rw [List.zipIdx_cons, List.length_cons, List.range'_succ, List.filterMap_cons, ih (k + 1),
      List.filter_cons]
    by_cases hk : k ∈ ns
    · simp only [hk, if_true, not_true_eq_false, decide_false, Bool.false_eq_true, if_false]
      exact htail.symm
    · simp only [hk, if_false, not_false_eq_true, decide_true, if_true, List.map_cons,
        Nat.sub_self]
      exact congrArg (l :: ·) htail.symm

/-- A drop keeps, in order, the lines at the positions the list leaves out. -/
theorem dropLines_eq (t : String) (ns : List Nat) :
    dropLines t ns =
      unlines (((List.range (lineCount t)).filter (· ∉ ns)).map ((lines t).getD · "")) := by
  have h := filterMap_zipIdx (lines t) ns 0
  simp only [Nat.sub_zero] at h
  rw [dropLines, numbered, List.filterMap_map, lineCount, List.range_eq_range', ← h]
  congr 2
  funext x
  simp

@[simp]
theorem dropLines_nil (t : String) : dropLines t [] = t := by
  simp [dropLines, numbered, Function.comp_def]

/-- A drop depends only on which positions in range the list names. -/
theorem dropLines_congr {t : String} {ns ns' : List Nat}
    (h : ∀ i < lineCount t, i ∈ ns ↔ i ∈ ns') : dropLines t ns' = dropLines t ns := by
  rw [dropLines_eq, dropLines_eq, List.filter_congr]
  intro i hi
  simp [h i (List.mem_range.1 hi)]

/-! ## How many lines a drop leaves -/

theorem feed_not_mem_getD_lines (t : String) (i : Nat) : '\n' ∉ ((lines t).getD i "").toList := by
  rw [List.getD_eq_getElem?_getD]
  cases h : (lines t)[i]? with
  | none => simp
  | some l => exact feed_not_mem_of_mem_lines (List.mem_of_getElem? h)

/-- The positions below `n` that a list names are the set of its entries below `n`. -/
theorem length_filter_range_mem (n : Nat) (ns : List Nat) :
    ((List.range n).filter (· ∈ ns)).length = (ns.toFinset.filter (· < n)).card := by
  rw [← List.toFinset_card_of_nodup (List.nodup_range.filter _)]
  congr 1
  ext i
  simp [and_comm]

/-- A drop leaves the lines whose positions the list does not name, and the empty text when it
names them all, which is one line. -/
theorem lineCount_dropLines (t : String) (ns : List Nat) :
    lineCount (dropLines t ns) =
      max 1 (lineCount t - (ns.toFinset.filter (· < lineCount t)).card) := by
  have hsplit : (List.range (lineCount t)).length =
      (List.range (lineCount t)).countP (· ∈ ns) + (List.range (lineCount t)).countP (· ∉ ns) := by
    have h : (List.range (lineCount t)).length = _ :=
      List.length_eq_countP_add_countP (fun i => decide (i ∈ ns))
    simpa only [decide_eq_true_eq] using h
  rw [dropLines_eq, lineCount_unlines, List.length_map, ← length_filter_range_mem,
    ← List.countP_eq_length_filter, ← List.countP_eq_length_filter]
  · rw [List.length_range] at hsplit
    omega
  · intro l hl
    obtain ⟨i, -, rfl⟩ := List.mem_map.1 hl
    exact feed_not_mem_getD_lines t i

/-! ## A sweep without kept blank lines -/

/-- A plan counts something exactly when it lists a log line, or an import line while imports
are to be removed. -/
theorem Plan.counted_ne_zero_iff (p : Plan) (o : SweepOptions) :
    p.counted o ≠ 0 ↔ p.logLines ≠ [] ∨ (o.removeImports = true ∧ p.importLines ≠ []) := by
  cases h : o.removeImports
  · simp [Plan.counted, h]
  · simp [Plan.counted, h, imp_iff_not_or]

/-- The positions a plan removes under the options, as one list. -/
theorem Plan.removes_iff_mem (p : Plan) (o : SweepOptions) (i : Nat) :
    p.Removes o i ↔ i ∈ p.logLines ++ (if o.removeImports then p.importLines else []) := by
  cases h : o.removeImports <;> simp [Plan.Removes, h]

theorem dropLines_eq_filter (t : String) (ns : List Nat) :
    dropLines t ns = unlines (((lines t).zipIdx.filter fun x => x.2 ∉ ns).map (·.1)) := by
  rw [dropLines, numbered, List.filterMap_map, ← List.filterMap_eq_map, List.filterMap_filter]
  congr 2
  funext x
  by_cases hx : x.2 ∈ ns <;> simp [hx]

/-- Dropping the positions a plan removes keeps the lines the plan keeps. -/
theorem dropLines_removed (t : String) (o : SweepOptions) (p : Plan) :
    dropLines t (p.logLines ++ if o.removeImports then p.importLines else []) =
      unlines (p.kept o (lines t)) := by
  rw [dropLines_eq_filter, Plan.kept]
  congr 2
  apply List.filter_congr
  intro x _
  simp [Plan.removes_iff_mem]

theorem dropBlankTail_eq_rdropWhile (ls : List String) :
    dropBlankTail ls = ls.rdropWhile fun l => trim l = "" := by
  rw [← isBlankText_eq]
  rfl

/-- Without kept blank lines, a sweep that removes something drops the removed positions and
then the trailing lines that trim to nothing. -/
theorem applyPlan_compact_eq_dropLines {t : String} {o : SweepOptions} {p : Plan}
    (hp : o.preserveEmptyLines = false) (h : p.counted o ≠ 0) :
    (applyPlan t o p).newText = unlines ((lines (dropLines t
      (p.logLines ++ if o.removeImports then p.importLines else []))).rdropWhile
        fun l => trim l = "") := by
  rw [applyPlan_of_counted_ne_zero h, hp, if_neg Bool.false_ne_true, dropLines_removed,
    dropBlankTail_eq_rdropWhile]
  rcases hk : p.kept o (lines t) with _ | ⟨l, rest⟩
  · have hblank : decide (trim "" = "") = true := decide_eq_true ((trim_eq_empty_iff "").2 rfl)
    rw [lines_unlines_nil, ← List.nil_append [""],
      List.rdropWhile_concat_pos (fun l => decide (trim l = "")) [] "" hblank]
  · rw [← hk, lines_unlines (fun l hl => feed_not_mem_of_mem_kept hl)
      (hk ▸ List.cons_ne_nil l rest)]

/-! ## The laws together -/

/-- Dropping lines by position: the text keeps, in order, the lines at the positions the list
leaves out; only the set of listed positions in range counts; as many lines are left as there
are unlisted positions, and one when every position is listed. Without kept blank lines, a sweep
that removes something is the drop of its removed positions followed by dropping the trailing
lines that trim to nothing. -/
theorem dropLines_keeps_unlisted (t : String) (ns : List Nat) :
    dropLines t ns =
      unlines (((List.range (lineCount t)).filter (· ∉ ns)).map ((lines t).getD · "")) ∧
    (∀ ns' : List Nat, (∀ i < lineCount t, i ∈ ns ↔ i ∈ ns') →
      dropLines t ns' = dropLines t ns) ∧
    lineCount (dropLines t ns) =
      max 1 (lineCount t - (ns.toFinset.filter (· < lineCount t)).card) ∧
    ∀ (o : SweepOptions) (p : Plan), o.preserveEmptyLines = false →
      (p.logLines ≠ [] ∨ (o.removeImports = true ∧ p.importLines ≠ [])) →
      (applyPlan t o p).newText = unlines ((lines (dropLines t
        (p.logLines ++ if o.removeImports then p.importLines else []))).rdropWhile
          fun l => trim l = "") :=
  ⟨dropLines_eq t ns, fun _ h => dropLines_congr h, lineCount_dropLines t ns,
    fun _ _ hp hne => applyPlan_compact_eq_dropLines hp ((Plan.counted_ne_zero_iff _ _).2 hne)⟩

/-- Compact removal of a log line from a text that ends in a blank line and a line feed. -/
theorem dropLines_keeps_unlisted_compact :
    ({ preserveEmptyLines := false } : SweepOptions).preserveEmptyLines = false ∧
    ((⟨[1], []⟩ : Plan).logLines ≠ [] ∨
      (({ preserveEmptyLines := false } : SweepOptions).removeImports = true ∧
        (⟨[1], []⟩ : Plan).importLines ≠ [])) ∧
    (applyPlan "a\nconsole.log(1);\n \n" { preserveEmptyLines := false } ⟨[1], []⟩).newText =
      unlines ((lines (dropLines "a\nconsole.log(1);\n \n" ([1] ++
        if ({ preserveEmptyLines := false } : SweepOptions).removeImports then [] else []))).rdropWhile
          fun l => trim l = "") :=
  ⟨rfl, Or.inl (List.cons_ne_nil 1 []),
    (dropLines_keeps_unlisted "a\nconsole.log(1);\n \n" []).2.2.2 _ _ rfl
      (Or.inl (List.cons_ne_nil 1 []))⟩

/-- Splitting a text at its line feeds and joining the lines with line feeds undo each other:
every text is the join of its lines and has one more line than it has line feeds; lines without
line feeds, at least one, are what their join splits into; and dropping no line changes
nothing. -/
theorem lines_unlines_inverse (t : String) (ls : List String) :
    unlines (lines t) = t ∧ lineCount t = t.toList.count '\n' + 1 ∧
    (ls ≠ [] → (∀ l ∈ ls, '\n' ∉ l.toList) →
      lines (unlines ls) = ls ∧ lineCount (unlines ls) = ls.length) ∧
    dropLines t [] = t :=
  ⟨unlines_lines t, lineCount_eq_count_feed t,
    fun hne h => ⟨lines_unlines h hne, congrArg List.length (lines_unlines h hne)⟩,
    dropLines_nil t⟩

/-- A CRLF text with an empty line, and three lines, one of them empty and one ending in a
carriage return. -/
theorem lines_unlines_inverse_crlf :
    ["a\r", "", "b\r"] ≠ [] ∧ (∀ l ∈ ["a\r", "", "b\r"], '\n' ∉ l.toList) ∧
    lines (unlines ["a\r", "", "b\r"]) = ["a\r", "", "b\r"] ∧
    lineCount (unlines ["a\r", "", "b\r"]) = 3 := by
  have hfeed : ∀ l ∈ ["a\r", "", "b\r"], '\n' ∉ l.toList := by simp
  have h := (lines_unlines_inverse "a\r\n\nb\r\n" ["a\r", "", "b\r"]).2.2.1
    (List.cons_ne_nil _ _) hfeed
  exact ⟨List.cons_ne_nil _ _, hfeed, h⟩

end ConsoleSweep
