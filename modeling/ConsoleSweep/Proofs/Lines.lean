-- The laws of lines: splitting a text at its line feeds and joining the lines with line feeds
-- undo each other, no line holds a line feed, and a line is blank exactly when trimming it
-- leaves nothing.
import Mathlib.Data.List.TakeWhile
import ConsoleSweep.Text.Lines

namespace ConsoleSweep.Text

/-! ## Splitting and joining -/

/-- No piece of a split holds the character it was split at. -/
theorem not_mem_of_mem_splitOn {c : Char} {xs l : List Char} (h : l ∈ xs.splitOn c) : c ∉ l := by
  induction xs generalizing l with
  | nil =>
    rw [List.splitOn_nil, List.mem_singleton] at h
    subst h
    exact List.not_mem_nil
  | cons x xs ih =>
    rw [List.splitOn_cons_eq_if_modifyHead] at h
    split at h
    · rcases List.mem_cons.1 h with rfl | h
      · exact List.not_mem_nil
      · exact ih h
    · rename_i hx
      obtain ⟨r, rs, hr⟩ := List.exists_cons_of_ne_nil (List.splitOn_ne_nil c xs)
      rw [hr, List.modifyHead_cons] at h
      rcases List.mem_cons.1 h with rfl | h
      · have hcx : c ≠ x := fun he => hx (by simp [he])
        have hcr : c ∉ r := ih (hr ▸ List.mem_cons_self)
        simp [hcx, hcr]
      · exact ih (hr ▸ List.mem_cons_of_mem _ h)

theorem lines_ne_nil (s : String) : lines s ≠ [] := by
  simp [lines]

/-- A split gives one more piece than there are separators. -/
theorem length_splitOn (c : Char) (xs : List Char) : (xs.splitOn c).length = xs.count c + 1 := by
  induction xs with
  | nil => rfl
  | cons x xs ih =>
    rw [List.splitOn_cons_eq_if_modifyHead]
    by_cases hx : x = c
    · simp [hx, ih]
    · simp [hx, ih]

/-- A text has one more line than it has line feeds. -/
theorem lineCount_eq_count_feed (s : String) : lineCount s = s.toList.count '\n' + 1 := by
  rw [lineCount, lines, List.length_map, length_splitOn]

/-- No line holds a line feed. -/
theorem feed_not_mem_of_mem_lines {s l : String} (h : l ∈ lines s) : '\n' ∉ l.toList := by
  obtain ⟨piece, hp, rfl⟩ := List.mem_map.1 h
  rw [String.toList_ofList]
  exact not_mem_of_mem_splitOn hp

@[simp]
theorem toList_unlines (ls : List String) :
    (unlines ls).toList = ['\n'].intercalate (ls.map String.toList) := by
  simp [unlines]

/-- Joining the lines of a text gives the text back. -/
@[simp]
theorem unlines_lines (s : String) : unlines (lines s) = s := by
  apply String.toList_injective
  simp [lines, Function.comp_def]

/-- Lines without line feeds are what splitting their join gives back, unless there are none:
the join of no lines is the empty text, which is one empty line. -/
theorem lines_unlines {ls : List String} (h : ∀ l ∈ ls, '\n' ∉ l.toList) (hne : ls ≠ []) :
    lines (unlines ls) = ls := by
  have hx : ∀ cs ∈ ls.map String.toList, '\n' ∉ cs := by
    simpa using h
  rw [lines, toList_unlines, List.splitOn_intercalate '\n' hx (by simpa using hne)]
  simp [Function.comp_def]

@[simp]
theorem lines_unlines_nil : lines (unlines []) = [""] := rfl

/-- A line of the join of lines without line feeds is one of them, or the empty line that the
join of no lines is. -/
theorem mem_lines_unlines {ls : List String} {l : String} (h : ∀ l ∈ ls, '\n' ∉ l.toList)
    (hl : l ∈ lines (unlines ls)) : l = "" ∨ l ∈ ls := by
  rcases ls with _ | ⟨l', ls⟩
  · rw [lines_unlines_nil, List.mem_singleton] at hl
    exact Or.inl hl
  · rw [lines_unlines h (List.cons_ne_nil l' ls)] at hl
    exact Or.inr hl

/-- Lines without line feeds count as many lines once joined, and no lines count as one. -/
theorem lineCount_unlines {ls : List String} (h : ∀ l ∈ ls, '\n' ∉ l.toList) :
    lineCount (unlines ls) = max 1 ls.length := by
  rcases ls with _ | ⟨l, ls⟩
  · rfl
  · rw [lineCount, lines_unlines h (List.cons_ne_nil l ls)]
    simp

/-! ## Blank lines -/

/-- Dropping blanks from the front leaves nothing exactly when it leaves only blanks. -/
theorem dropWhile_blank_eq_nil_iff (cs : List Char) :
    cs.dropWhile isBlank = [] ↔ ∀ c ∈ cs.dropWhile isBlank, isBlank c = true := by
  constructor
  · intro h
    simp [h]
  · intro h
    by_contra hne
    have := List.head_dropWhile_not isBlank hne
    rw [h _ (List.head_mem hne)] at this
    exact Bool.false_ne_true this.symm

/-- Trimming leaves nothing exactly when the text holds white space only. -/
theorem trim_eq_empty_iff (s : String) : trim s = "" ↔ isBlankText s = true := by
  have hdrop : ∀ cs : List Char, cs.dropWhile isBlank = [] ↔ ∀ c ∈ cs, isBlank c = true :=
    fun cs => List.dropWhile_eq_nil_iff
  rw [trim, String.ofList_eq_empty_iff, List.reverse_eq_nil_iff, hdrop]
  simp only [List.mem_reverse]
  rw [← dropWhile_blank_eq_nil_iff, hdrop, isBlankText, List.all_eq_true]

/-- The test for a blank text is the test that it trims to nothing. -/
theorem isBlankText_eq : isBlankText = fun s => decide (trim s = "") :=
  funext fun s => by simp [trim_eq_empty_iff]

end ConsoleSweep.Text
