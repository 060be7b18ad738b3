-- The laws of a sweep. A plan that counts nothing leaves the text as it is. Otherwise the
-- removed lines are blanked, or dropped together with the blank lines that end up last. Every
-- line a sweep leaves is empty or one that the rules leave alone, so a second sweep finds
-- nothing to remove.
import ConsoleSweep.Sweep
import ConsoleSweep.Proofs.Lines

namespace ConsoleSweep

open Text

/-! ## The removed positions -/

namespace Plan

/-- A plan removes the line at position `i` under the options when it lists it as a log line,
or as an import line while imports are to be removed. -/
def Removes (p : Plan) (o : SweepOptions) (i : Nat) : Prop :=
  i ∈ p.logLines ∨ (o.removeImports = true ∧ i ∈ p.importLines)

instance (p : Plan) (o : SweepOptions) : DecidablePred (p.Removes o) :=
  fun _ => inferInstanceAs (Decidable (_ ∨ _))

/-- How many lines a plan counts as removed: its log lines, and its import lines when imports
are to be removed. -/
def counted (p : Plan) (o : SweepOptions) : Nat :=
  p.logLines.length + if o.removeImports then p.importLines.length else 0

/-- The lines with each removed one left as an empty line. -/
def blanked (p : Plan) (o : SweepOptions) (ls : List String) : List String :=
  ls.mapIdx fun i l => if p.Removes o i then "" else l

/-- The lines that are not removed, in order. -/
def kept (p : Plan) (o : SweepOptions) (ls : List String) : List String :=
  (ls.zipIdx.filter fun x => !decide (p.Removes o x.2)).map (·.1)

/-- How many positions below `n` a plan removes. -/
def removedBelow (p : Plan) (o : SweepOptions) (n : Nat) : Nat :=
  (List.range n).countP fun i => decide (p.Removes o i)

/-- A plan that counts nothing removes nothing. -/
theorem not_removes_of_counted_eq_zero {p : Plan} {o : SweepOptions} (h : p.counted o = 0)
    (i : Nat) : ¬ p.Removes o i := by
  rintro (hi | ⟨hr, hi⟩)
  · have : p.logLines.length ≠ 0 := List.length_pos_of_mem hi |>.ne'
    simp [counted] at h
    exact this (List.length_eq_zero_iff.2 h.1)
  · have : p.importLines.length ≠ 0 := List.length_pos_of_mem hi |>.ne'
    simp [counted, hr] at h
    exact this (List.length_eq_zero_iff.2 h.2)

theorem mem_blanked {p : Plan} {o : SweepOptions} {ls : List String} {l : String}
    (h : l ∈ p.blanked o ls) : l = "" ∨ ∃ i, ls[i]? = some l ∧ ¬ p.Removes o i := by
  obtain ⟨i, hi⟩ := List.mem_iff_getElem?.1 h
  rw [blanked, List.getElem?_mapIdx] at hi
  obtain ⟨l', hl', he⟩ := Option.map_eq_some_iff.1 hi
  by_cases hr : p.Removes o i
  · left
    simp [hr] at he
    exact he
  · right
    simp only [hr, if_false] at he
    exact ⟨i, he ▸ hl', hr⟩

theorem getElem?_blanked {p : Plan} {o : SweepOptions} {ls : List String} {i : Nat}
    (h : ¬ p.Removes o i) : (p.blanked o ls)[i]? = ls[i]? := by
  rw [blanked, List.getElem?_mapIdx]
  cases ls[i]? <;> simp [h]

theorem length_blanked (p : Plan) (o : SweepOptions) (ls : List String) :
    (p.blanked o ls).length = ls.length :=
  List.length_mapIdx

theorem mem_kept {p : Plan} {o : SweepOptions} {ls : List String} {l : String}
    (h : l ∈ p.kept o ls) : ∃ i, ls[i]? = some l ∧ ¬ p.Removes o i := by
  obtain ⟨⟨l', i⟩, hx, rfl⟩ := List.mem_map.1 h
  obtain ⟨hz, hr⟩ := List.mem_filter.1 hx
  exact ⟨i, List.mem_zipIdx_iff_getElem?.1 hz, by simpa using hr⟩

/-- The kept lines and the removed positions in range make up all the lines. -/
theorem length_kept_add_removedBelow (p : Plan) (o : SweepOptions) (ls : List String) :
    (p.kept o ls).length + p.removedBelow o ls.length = ls.length := by
  have hk : (p.kept o ls).length = (List.range ls.length).countP fun i => !decide (p.Removes o i) := by
    rw [kept, List.length_map, ← List.countP_eq_length_filter, List.range_eq_range',
      ← List.zipIdx_map_snd 0 ls, List.countP_map]
    rfl
  rw [hk, removedBelow, Nat.add_comm]
  have := List.length_eq_countP_add_countP (fun i => decide (p.Removes o i)) (l := List.range ls.length)
  simp only [List.length_range, decide_eq_true_eq, decide_not] at this
  omega

end Plan

/-! ## The blank lines at the end -/

/-- The blank lines that end some lines. -/
def blankTail (ls : List String) : List String :=
  (ls.reverse.takeWhile isBlankText).reverse

theorem dropBlankTail_append_blankTail (ls : List String) :
    dropBlankTail ls ++ blankTail ls = ls := by
  calc dropBlankTail ls ++ blankTail ls
      = (ls.reverse.takeWhile isBlankText ++ ls.reverse.dropWhile isBlankText).reverse := by
        rw [List.reverse_append]
        rfl
    _ = ls := by rw [List.takeWhile_append_dropWhile, List.reverse_reverse]

theorem blank_of_mem_blankTail {ls : List String} {l : String} (h : l ∈ blankTail ls) :
    isBlankText l = true :=
  List.mem_takeWhile_imp (List.mem_reverse.1 h)

/-- What is left once the blank lines at the end are dropped does not end in a blank line. -/
theorem not_blank_of_getLast_dropBlankTail {ls : List String} {l : String}
    (h : (dropBlankTail ls).getLast? = some l) : isBlankText l = false := by
  rw [dropBlankTail, List.getLast?_reverse] at h
  simpa [h] using List.head?_dropWhile_not isBlankText ls.reverse

theorem mem_of_mem_dropBlankTail {ls : List String} {l : String} (h : l ∈ dropBlankTail ls) :
    l ∈ ls := by
  rw [← dropBlankTail_append_blankTail ls]
  exact List.mem_append_left _ h

theorem trim_getLast_dropBlankTail {ls : List String} {l : String}
    (h : l ∈ (dropBlankTail ls).getLast?) : trim l ≠ "" := by
  rw [Ne, trim_eq_empty_iff, not_blank_of_getLast_dropBlankTail h]
  exact Bool.false_ne_true

/-- Lines without line feeds, joined once the blank lines at the end are dropped, give the empty
text or a text whose last line is not blank. -/
theorem unlines_dropBlankTail_eq_empty_or {ls : List String} (hfeed : ∀ l ∈ ls, '\n' ∉ l.toList) :
    unlines (dropBlankTail ls) = "" ∨
      ∀ l ∈ (lines (unlines (dropBlankTail ls))).getLast?, trim l ≠ "" := by
  have hfeed' : ∀ l ∈ dropBlankTail ls, '\n' ∉ l.toList :=
    fun l hl => hfeed l (mem_of_mem_dropBlankTail hl)
  rcases hd : dropBlankTail ls with _ | ⟨l, rest⟩
  · exact Or.inl rfl
  · right
    rw [← hd, lines_unlines hfeed' (hd ▸ List.cons_ne_nil l rest)]
    exact fun l hl => trim_getLast_dropBlankTail hl

theorem lineCount_unlines_dropBlankTail {ls : List String} (hfeed : ∀ l ∈ ls, '\n' ∉ l.toList) :
    lineCount (unlines (dropBlankTail ls)) = max 1 (ls.length - (blankTail ls).length) := by
  rw [lineCount_unlines fun l hl => hfeed l (mem_of_mem_dropBlankTail hl)]
  have h := congrArg List.length (dropBlankTail_append_blankTail ls)
  rw [List.length_append] at h
  omega

/-! ## Applying a plan -/

/-- The test a sweep makes at each position is whether the plan removes the line there. -/
theorem planned_eq_decide (p : Plan) (o : SweepOptions) (i : Nat) :
    (p.logLines.contains i || (o.removeImports && p.importLines.contains i)) =
      decide (p.Removes o i) := by
  by_cases hr : o.removeImports = true <;> simp [Plan.Removes, hr]

/-- A plan that counts nothing leaves the text as it is. -/
theorem applyPlan_of_counted_eq_zero {t : String} {o : SweepOptions} {p : Plan}
    (h : p.counted o = 0) :
    applyPlan t o p = { newText := t, logsRemoved := 0, importsRemoved := 0 } := by
  unfold applyPlan
  rw [if_pos (by simpa [Plan.counted] using h)]

/-- A plan that counts something blanks the removed lines, or drops them and then the blank
lines at the end. -/
theorem applyPlan_of_counted_ne_zero {t : String} {o : SweepOptions} {p : Plan}
    (h : p.counted o ≠ 0) :
    applyPlan t o p =
      { newText := unlines (if o.preserveEmptyLines then p.blanked o (lines t)
          else dropBlankTail (p.kept o (lines t)))
        logsRemoved := p.logLines.length
        importsRemoved := if o.removeImports then p.importLines.length else 0 } := by
  unfold applyPlan
  rw [if_neg (by simpa [Plan.counted] using h)]
  simp only [planned_eq_decide, numbered, List.filterMap_map]
  cases hp : o.preserveEmptyLines
  · simp only [Bool.false_eq_true, if_false, Plan.kept, ← List.filterMap_eq_map,
      List.filterMap_filter]
    congr 3
  · simp only [if_true, Plan.blanked, List.mapIdx_eq_zipIdx_map, ← List.filterMap_eq_map']
    congr 3
    funext x
    by_cases hr : p.Removes o x.2 <;> simp [hr]

theorem applyPlan_logsRemoved (t : String) (o : SweepOptions) (p : Plan) :
    (applyPlan t o p).logsRemoved = p.logLines.length := by
  by_cases h : p.counted o = 0
  · rw [applyPlan_of_counted_eq_zero h]
    unfold Plan.counted at h
    dsimp only
    split at h <;> omega
  · rw [applyPlan_of_counted_ne_zero h]

theorem applyPlan_importsRemoved (t : String) (o : SweepOptions) (p : Plan) :
    (applyPlan t o p).importsRemoved = if o.removeImports then p.importLines.length else 0 := by
  by_cases h : p.counted o = 0
  · rw [applyPlan_of_counted_eq_zero h]
    unfold Plan.counted at h
    split at h <;> simp_all
  · rw [applyPlan_of_counted_ne_zero h]

/-! ## The lines a sweep leaves -/

theorem feed_not_mem_of_mem_blanked {p : Plan} {o : SweepOptions} {t l : String}
    (h : l ∈ p.blanked o (lines t)) : '\n' ∉ l.toList := by
  rcases Plan.mem_blanked h with rfl | ⟨i, hi, -⟩
  · simp
  · exact feed_not_mem_of_mem_lines (List.mem_of_getElem? hi)

theorem feed_not_mem_of_mem_kept {p : Plan} {o : SweepOptions} {t l : String}
    (h : l ∈ p.kept o (lines t)) : '\n' ∉ l.toList := by
  obtain ⟨i, hi, -⟩ := Plan.mem_kept h
  exact feed_not_mem_of_mem_lines (List.mem_of_getElem? hi)

/-- With blank lines kept, every line keeps its position, and a removed one is left empty. -/
theorem applyPlan_of_preserve {t : String} {o : SweepOptions} {p : Plan} (h : p.counted o ≠ 0)
    (hp : o.preserveEmptyLines = true) :
    (applyPlan t o p).newText = unlines (p.blanked o (lines t)) ∧
      lineCount (applyPlan t o p).newText = (lines t).length ∧
      ∀ i, ¬ p.Removes o i → (lines (applyPlan t o p).newText)[i]? = (lines t)[i]? := by
  have hnew : (applyPlan t o p).newText = unlines (p.blanked o (lines t)) := by
    rw [applyPlan_of_counted_ne_zero h, hp, if_pos rfl]
  have hne : p.blanked o (lines t) ≠ [] := by
    rw [← List.length_pos_iff, Plan.length_blanked, List.length_pos_iff]
    exact lines_ne_nil t
  have hlines : lines (applyPlan t o p).newText = p.blanked o (lines t) := by
    rw [hnew]
    exact lines_unlines (fun l hl => feed_not_mem_of_mem_blanked hl) hne
  refine ⟨hnew, ?_, fun i hi => ?_⟩
  · rw [lineCount, hlines, Plan.length_blanked]
  · rw [hlines, Plan.getElem?_blanked hi]

/-- Without blank lines kept, the lines that are not removed stay, less the blank ones at the
end; what is left is empty or ends in a line that is not blank. -/
theorem applyPlan_of_compact {t : String} {o : SweepOptions} {p : Plan} (h : p.counted o ≠ 0)
    (hp : o.preserveEmptyLines = false) :
    ∃ rest tail, p.kept o (lines t) = rest ++ tail ∧ (∀ l ∈ tail, trim l = "") ∧
      (∀ l ∈ rest.getLast?, trim l ≠ "") ∧ (applyPlan t o p).newText = unlines rest ∧
      ((applyPlan t o p).newText = "" ∨
        ∀ l ∈ (lines (applyPlan t o p).newText).getLast?, trim l ≠ "") ∧
      lineCount (applyPlan t o p).newText =
        max 1 ((lines t).length - p.removedBelow o (lines t).length - tail.length) := by
  obtain ⟨kept, hk⟩ : ∃ kept, kept = p.kept o (lines t) := ⟨_, rfl⟩
  rw [← hk]
  have hnew : (applyPlan t o p).newText = unlines (dropBlankTail kept) := by
    rw [applyPlan_of_counted_ne_zero h, hp, hk, if_neg Bool.false_ne_true]
  have hfeed : ∀ l ∈ kept, '\n' ∉ l.toList := fun l hl => feed_not_mem_of_mem_kept (hk ▸ hl)
  have hcount := p.length_kept_add_removedBelow o (lines t)
  rw [← hk] at hcount
  refine ⟨dropBlankTail kept, blankTail kept, (dropBlankTail_append_blankTail kept).symm,
    fun l hl => (trim_eq_empty_iff l).2 (blank_of_mem_blankTail hl),
    fun l hl => trim_getLast_dropBlankTail hl, hnew,
    hnew ▸ unlines_dropBlankTail_eq_empty_or hfeed, ?_⟩
  rw [hnew, lineCount_unlines_dropBlankTail hfeed]
  omega

/-- Applying a plan to a text, for every plan: the counts are those of its lists (imports only
when they are to be removed); a plan that counts nothing leaves the text byte for byte; else the
removed lines are left empty in place, or dropped together with the blank lines at the end. -/
theorem applyPlan_spec (t : String) (o : SweepOptions) (p : Plan) :
    let r := applyPlan t o p
    let ls := lines t
    r.logsRemoved = p.logLines.length ∧
    r.importsRemoved = (if o.removeImports then p.importLines.length else 0) ∧
    (r.logsRemoved + r.importsRemoved = 0 → r.newText = t) ∧
    (r.logsRemoved + r.importsRemoved ≠ 0 → o.preserveEmptyLines = true →
      r.newText = unlines (p.blanked o ls) ∧ lineCount r.newText = ls.length ∧
      ∀ i, ¬ p.Removes o i → (lines r.newText)[i]? = ls[i]?) ∧
    (r.logsRemoved + r.importsRemoved ≠ 0 → o.preserveEmptyLines = false →
      ∃ rest tail, p.kept o ls = rest ++ tail ∧ (∀ l ∈ tail, trim l = "") ∧
        (∀ l ∈ rest.getLast?, trim l ≠ "") ∧ r.newText = unlines rest ∧
        (r.newText = "" ∨ ∀ l ∈ (lines r.newText).getLast?, trim l ≠ "") ∧
        lineCount r.newText = max 1 (ls.length - p.removedBelow o ls.length - tail.length)) := by
  dsimp only
  have hlogs := applyPlan_logsRemoved t o p
  have himports := applyPlan_importsRemoved t o p
  have hcount : (applyPlan t o p).logsRemoved + (applyPlan t o p).importsRemoved =
      p.counted o := by
    rw [hlogs, himports]
    rfl
  refine ⟨hlogs, himports, fun h => ?_, fun h hp => ?_, fun h hp => ?_⟩
  · rw [applyPlan_of_counted_eq_zero (hcount ▸ h)]
  · exact applyPlan_of_preserve (hcount ▸ h) hp
  · exact applyPlan_of_compact (hcount ▸ h) hp

/-! ## A second sweep -/

namespace RuleSet

/-- A line that the rules leave alone: it is empty or no log rule matches it, and the import
rule does not match it either when imports are looked for. -/
def Leaves (rs : RuleSet) (withImports : Bool) (l : String) : Prop :=
  (l = "" ∨ rs.isLogLine l = false) ∧ (withImports = true → isImportLine l = false)

/-- The import rule needs the word `import`, so it never matches an empty line. -/
theorem isImportLine_empty : isImportLine "" = false := by
  decide +kernel

theorem leaves_empty (rs : RuleSet) (w : Bool) : rs.Leaves w "" :=
  ⟨Or.inl rfl, fun _ => isImportLine_empty⟩

end RuleSet

theorem mem_numbered {t : String} {i : Nat} {l : String} :
    (i, l) ∈ numbered t ↔ (lines t)[i]? = some l := by
  unfold numbered
  constructor
  · intro h
    obtain ⟨⟨l', j⟩, hm, he⟩ := List.mem_map.1 h
    simp only [Prod.mk.injEq] at he
    obtain ⟨rfl, rfl⟩ := he
    exact List.mem_zipIdx_iff_getElem?.1 hm
  · intro h
    exact List.mem_map.2 ⟨(l, i), List.mem_zipIdx_iff_getElem?.2 h, rfl⟩

theorem mem_ofText_logLines {rs : RuleSet} {t : String} {w : Bool} {i : Nat} :
    i ∈ (Plan.ofText rs t w).logLines ↔
      ∃ l, (lines t)[i]? = some l ∧ l ≠ "" ∧ rs.isLogLine l = true := by
  simp only [Plan.ofText, List.mem_map, List.mem_filter]
  constructor
  · rintro ⟨⟨j, l⟩, ⟨hm, hq⟩, rfl⟩
    simp only [Bool.and_eq_true, Bool.not_eq_true', String.isEmpty_eq_false_iff] at hq
    exact ⟨l, mem_numbered.1 hm, hq.1, hq.2⟩
  · rintro ⟨l, hl, hne, hlog⟩
    exact ⟨(i, l), ⟨mem_numbered.2 hl, by simp [hne, hlog]⟩, rfl⟩

theorem mem_ofText_importLines {rs : RuleSet} {t : String} {w : Bool} {i : Nat} :
    i ∈ (Plan.ofText rs t w).importLines ↔
      w = true ∧ ∃ l, (lines t)[i]? = some l ∧ RuleSet.isImportLine l = true := by
  cases w
  · simp [Plan.ofText]
  · simp only [Plan.ofText, if_true, List.mem_map, List.mem_filter, true_and]
    constructor
    · rintro ⟨⟨j, l⟩, ⟨hm, himp⟩, rfl⟩
      exact ⟨l, mem_numbered.1 hm, himp⟩
    · rintro ⟨l, hl, himp⟩
      exact ⟨(i, l), ⟨mem_numbered.2 hl, himp⟩, rfl⟩

/-- A line at a position that the plan of its own text does not remove is one that the rules
leave alone. -/
theorem leaves_of_not_removes {rs : RuleSet} {t l : String} {o : SweepOptions} {i : Nat}
    (hl : (lines t)[i]? = some l) (h : ¬ (Plan.ofText rs t o.removeImports).Removes o i) :
    rs.Leaves o.removeImports l := by
  simp only [Plan.Removes, not_or, not_and] at h
  obtain ⟨hlog, himp⟩ := h
  refine ⟨?_, fun hw => ?_⟩
  · by_cases he : l = ""
    · exact Or.inl he
    · right
      by_contra hm
      exact hlog (mem_ofText_logLines.2 ⟨l, hl, he, by simpa using hm⟩)
  · by_contra hm
    exact himp hw (mem_ofText_importLines.2 ⟨hw, l, hl, by simpa using hm⟩)

/-- The plan of a text whose lines the rules all leave alone lists nothing. -/
theorem ofText_eq_nil_of_leaves {rs : RuleSet} {t : String} {w : Bool}
    (h : ∀ l ∈ lines t, rs.Leaves w l) :
    (Plan.ofText rs t w).logLines = [] ∧ (Plan.ofText rs t w).importLines = [] := by
  constructor
  · refine List.eq_nil_iff_forall_not_mem.2 fun i hi => ?_
    obtain ⟨l, hl, hne, hlog⟩ := mem_ofText_logLines.1 hi
    rcases (h l (List.mem_of_getElem? hl)).1 with he | hf
    · exact hne he
    · exact Bool.false_ne_true (hf ▸ hlog)
  · refine List.eq_nil_iff_forall_not_mem.2 fun i hi => ?_
    obtain ⟨hw, l, hl, himp⟩ := mem_ofText_importLines.1 hi
    exact Bool.false_ne_true ((h l (List.mem_of_getElem? hl)).2 hw ▸ himp)

/-- Every line of a text a plan was applied to is empty or a line that the plan does not
remove. -/
theorem mem_lines_applyPlan {t : String} {o : SweepOptions} {p : Plan} {l : String}
    (h : l ∈ lines (applyPlan t o p).newText) :
    l = "" ∨ ∃ i, (lines t)[i]? = some l ∧ ¬ p.Removes o i := by
  by_cases hc : p.counted o = 0
  · rw [applyPlan_of_counted_eq_zero hc] at h
    obtain ⟨i, hi⟩ := List.mem_iff_getElem?.1 h
    exact Or.inr ⟨i, hi, Plan.not_removes_of_counted_eq_zero hc i⟩
  · rw [applyPlan_of_counted_ne_zero hc] at h
    dsimp only at h
    split at h
    · rcases mem_lines_unlines (fun l hl => feed_not_mem_of_mem_blanked hl) h with he | hm
      · exact Or.inl he
      · exact Plan.mem_blanked hm
    · have hfeed : ∀ l ∈ dropBlankTail (p.kept o (lines t)), '\n' ∉ l.toList :=
        fun l hl => feed_not_mem_of_mem_kept (mem_of_mem_dropBlankTail hl)
      rcases mem_lines_unlines hfeed h with he | hm
      · exact Or.inl he
      · exact Or.inr (Plan.mem_kept (mem_of_mem_dropBlankTail hm))

/-- Every line that a sweep leaves is one that the rules leave alone: a blanked line is empty,
and every other line stayed because its own plan did not remove it. -/
theorem leaves_of_mem_sweep {rs : RuleSet} {t : String} {o : SweepOptions} {l : String}
    (h : l ∈ lines (rs.sweep t o).newText) : rs.Leaves o.removeImports l := by
  rcases mem_lines_applyPlan h with he | ⟨i, hi, hr⟩
  · exact he ▸ rs.leaves_empty _
  · exact leaves_of_not_removes hi hr

/-- A text whose lines the rules all leave alone is swept to itself, with nothing counted. -/
theorem sweep_eq_of_leaves {rs : RuleSet} {t : String} {o : SweepOptions}
    (h : ∀ l ∈ lines t, rs.Leaves o.removeImports l) :
    rs.sweep t o = { newText := t, logsRemoved := 0, importsRemoved := 0 } := by
  obtain ⟨hlog, himp⟩ := ofText_eq_nil_of_leaves h
  apply applyPlan_of_counted_eq_zero
  simp [Plan.counted, hlog, himp]

/-- A second sweep with the same rules changes nothing and plans nothing. -/
theorem sweep_sweep (rs : RuleSet) (t : String) (o : SweepOptions) :
    rs.sweep (rs.sweep t o).newText o =
        { newText := (rs.sweep t o).newText, logsRemoved := 0, importsRemoved := 0 } ∧
      (Plan.ofText rs (rs.sweep t o).newText o.removeImports).total = 0 := by
  have h : ∀ l ∈ lines (rs.sweep t o).newText, rs.Leaves o.removeImports l :=
    fun _ => leaves_of_mem_sweep
  obtain ⟨hlog, himp⟩ := ofText_eq_nil_of_leaves h
  exact ⟨sweep_eq_of_leaves h, by simp [Plan.total, hlog, himp]⟩

/-- Sweeping is idempotent, whatever the text, the options and the rules: sweeping the result
again gives the same text with nothing removed, and its plan is empty. -/
theorem sweep_idempotent (t : String) (o : SweepOptions) :
    let r := sweepText t o
    sweepText r.newText o = { newText := r.newText, logsRemoved := 0, importsRemoved := 0 } ∧
      (sweepText r.newText o).changed = false ∧ (planText r.newText o).total = 0 ∧
      ∀ rs : RuleSet, rs.sweep (rs.sweep t o).newText o =
        { newText := (rs.sweep t o).newText, logsRemoved := 0, importsRemoved := 0 } := by
  obtain ⟨hsweep, hplan⟩ := sweep_sweep (RuleSet.compile o.customPatterns).1 t o
  refine ⟨hsweep, ?_, hplan, fun rs => (sweep_sweep rs t o).1⟩
  simp only [sweepText] at hsweep ⊢
  rw [hsweep]
  rfl

end ConsoleSweep
