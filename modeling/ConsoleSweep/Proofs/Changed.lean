-- A sweep changes its text exactly when it removes a line. Every line that the plan of a text
-- lists is non-empty: a log line by the guard on empty lines, an import line because the import
-- rule needs the word `import`. Blanking a non-empty line changes the text; so does dropping a
-- line, since fewer lines are left, or none, and the text left is then empty. A batch therefore
-- skips a document exactly when sweeping it gives back the text it read.
import ConsoleSweep.Proofs.Sweep
import ConsoleSweep.Proofs.Batch

namespace ConsoleSweep

open Text

/-! ## What a sweep counts -/

/-- A sweep reports a change exactly when its plan counts a line. -/
theorem changed_applyPlan_iff (t : String) (o : SweepOptions) (p : Plan) :
    (applyPlan t o p).changed = true ↔ p.counted o ≠ 0 := by
  rw [Sweep.changed, applyPlan_logsRemoved, applyPlan_importsRemoved, Plan.counted]
  split <;> simp only [Bool.or_eq_true, decide_eq_true_eq, gt_iff_lt] <;> omega

/-- A plan that counts a line removes some position. -/
theorem Plan.exists_removes {p : Plan} {o : SweepOptions} (h : p.counted o ≠ 0) :
    ∃ i, p.Removes o i := by
  unfold counted at h
  rcases hl : p.logLines with _ | ⟨i, _⟩
  · rw [hl, List.length_nil, Nat.zero_add] at h
    split at h
    · rename_i hr
      obtain ⟨i, hi⟩ := List.exists_mem_of_length_pos (Nat.pos_of_ne_zero h)
      exact ⟨i, Or.inr ⟨hr, hi⟩⟩
    · exact absurd rfl h
  · exact ⟨i, Or.inl (hl ▸ List.mem_cons_self)⟩

/-- The line at a position that the plan of its text removes is a non-empty line of the text. -/
theorem exists_line_of_removes_ofText {rs : RuleSet} {t : String} {o : SweepOptions} {i : Nat}
    (h : (Plan.ofText rs t o.removeImports).Removes o i) :
    ∃ l, (lines t)[i]? = some l ∧ l ≠ "" := by
  rcases h with hlog | ⟨-, himp⟩
  · obtain ⟨l, hl, hne, -⟩ := mem_ofText_logLines.1 hlog
    exact ⟨l, hl, hne⟩
  · obtain ⟨-, l, hl, himp⟩ := mem_ofText_importLines.1 himp
    refine ⟨l, hl, fun he => ?_⟩
    rw [he, RuleSet.isImportLine_empty] at himp
    exact Bool.false_ne_true himp

/-! ## Removing a non-empty line changes the text -/

theorem getElem?_blanked_of_removes {p : Plan} {o : SweepOptions} {ls : List String} {i : Nat}
    {l : String} (hl : ls[i]? = some l) (h : p.Removes o i) : (p.blanked o ls)[i]? = some "" := by
  rw [Plan.blanked, List.getElem?_mapIdx, hl]
  simp [h]

/-- The lines of a text whose removed lines are blanked are the blanked lines. -/
theorem lines_applyPlan_of_preserve {t : String} {o : SweepOptions} {p : Plan}
    (h : p.counted o ≠ 0) (hp : o.preserveEmptyLines = true) :
    lines (applyPlan t o p).newText = p.blanked o (lines t) := by
  have hne : p.blanked o (lines t) ≠ [] := by
    rw [← List.length_pos_iff, Plan.length_blanked, List.length_pos_iff]
    exact lines_ne_nil t
  rw [(applyPlan_of_preserve h hp).1]
  exact lines_unlines (fun l hl => feed_not_mem_of_mem_blanked hl) hne

/-- Some position below the number of lines is removed when a removed position is a line. -/
theorem Plan.removedBelow_pos {p : Plan} {o : SweepOptions} {ls : List String} {i : Nat}
    {l : String} (hl : ls[i]? = some l) (h : p.Removes o i) : 0 < p.removedBelow o ls.length := by
  rw [removedBelow, List.countP_pos_iff]
  exact ⟨i, List.mem_range.2 (List.getElem?_eq_some_iff.1 hl).1, decide_eq_true h⟩

/-- Applying a plan that removes a non-empty line changes the text: with blank lines kept the
line is left empty, and without them fewer lines are left. -/
theorem applyPlan_newText_ne {t : String} {o : SweepOptions} {p : Plan} {i : Nat} {l : String}
    (hl : (lines t)[i]? = some l) (hne : l ≠ "") (h : p.Removes o i) :
    (applyPlan t o p).newText ≠ t := by
  have hc : p.counted o ≠ 0 := fun hc => Plan.not_removes_of_counted_eq_zero hc i h
  intro heq
  cases hp : o.preserveEmptyLines
  · -- The lines kept, less the blank ones at the end, are fewer than the lines of the text.
    have hnew : (applyPlan t o p).newText = unlines (dropBlankTail (p.kept o (lines t))) := by
      rw [applyPlan_of_counted_ne_zero hc, hp, if_neg Bool.false_ne_true]
    have hkept := p.length_kept_add_removedBelow o (lines t)
    have hpos := Plan.removedBelow_pos hl h
    have hdrop := congrArg List.length (dropBlankTail_append_blankTail (p.kept o (lines t)))
    rw [List.length_append] at hdrop
    rw [hnew] at heq
    rcases hd : dropBlankTail (p.kept o (lines t)) with _ | ⟨l', rest⟩
    · -- Nothing is left: the text would be empty, whose one line is empty.
      rw [hd] at heq
      rw [← heq, lines_unlines_nil] at hl
      exact hne (List.mem_singleton.1 (List.mem_of_getElem? hl))
    · have hfeed : ∀ l ∈ dropBlankTail (p.kept o (lines t)), '\n' ∉ l.toList :=
        fun l hl => feed_not_mem_of_mem_kept (mem_of_mem_dropBlankTail hl)
      have hlines := lines_unlines hfeed (hd ▸ List.cons_ne_nil l' rest)
      rw [heq] at hlines
      have hlen := congrArg List.length hlines
      omega
  · -- The removed line is left empty in place.
    have hlines := lines_applyPlan_of_preserve (t := t) hc hp
    rw [heq] at hlines
    have hblank := getElem?_blanked_of_removes (p := p) hl h
    rw [← hlines, hl] at hblank
    exact hne (Option.some.inj hblank)

/-! ## A sweep changes the text exactly when it removes a line -/

/-- A sweep by any rules reports a change exactly when the text it gives back differs from the
text swept. -/
theorem sweep_changed_iff (rs : RuleSet) (t : String) (o : SweepOptions) :
    (rs.sweep t o).changed = true ↔ (rs.sweep t o).newText ≠ t := by
  rw [RuleSet.sweep, changed_applyPlan_iff]
  constructor
  · intro hc
    obtain ⟨i, hi⟩ := Plan.exists_removes hc
    obtain ⟨l, hl, hne⟩ := exists_line_of_removes_ofText hi
    exact applyPlan_newText_ne hl hne hi
  · intro hne hc
    rw [applyPlan_of_counted_eq_zero hc] at hne
    exact hne rfl

/-- A batch skips a document exactly when it reads the document and sweeping it gives back the
text read. -/
theorem visit_skipped_iff {σ : Type} [DocumentStore σ] (rs : RuleSet) (o : SweepOptions) (s : σ)
    (p : Bytes) :
    (visit rs o s p).1 = .skipped ↔
      ∃ t, DocumentStore.read s p = .ok t ∧ (rs.sweep t o).newText = t := by
  unfold visit
  cases hr : DocumentStore.read s p with
  | error e => simp
  | ok t =>
    have hc := sweep_changed_iff rs t o
    cases hch : (rs.sweep t o).changed
    · simp only [hch, Bool.not_false, if_true, true_iff]
      exact ⟨t, rfl, by simpa [hch] using hc⟩
    · simp only [hch, Bool.not_true, Bool.false_eq_true, if_false, Except.ok.injEq,
        exists_eq_left']
      have hne : (rs.sweep t o).newText ≠ t := hc.1 hch
      cases DocumentStore.apply s p (rs.sweep t o).newText <;> simpa using hne

/-- Whatever the text and the options, a sweep reports a change exactly when the text it gives
back differs from the text swept, with the rules of the options and with any other rules. So a
batch skips a document exactly when it reads it and sweeping it gives back the text read, byte
for byte. -/
theorem sweep_changed_iff_newText_ne (o : SweepOptions) :
    (∀ t, (sweepText t o).changed = true ↔ (sweepText t o).newText ≠ t) ∧
    (∀ (rs : RuleSet) t, (rs.sweep t o).changed = true ↔ (rs.sweep t o).newText ≠ t) ∧
    ∀ {σ : Type} [DocumentStore σ] (rs : RuleSet) (s : σ) (p : Bytes),
      (visit rs o s p).1 = .skipped ↔
        ∃ t, DocumentStore.read s p = .ok t ∧ (rs.sweep t o).newText = t :=
  ⟨fun t => sweep_changed_iff _ t o, fun rs t => sweep_changed_iff rs t o,
    fun rs s p => visit_skipped_iff rs o s p⟩

end ConsoleSweep
