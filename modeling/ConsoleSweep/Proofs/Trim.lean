-- Trimming a text. Every text is its trimmed form with white space before and after it, and the
-- trimmed form neither starts nor ends with white space; conversely, a text that is some part
-- with white space around it, where the part neither starts nor ends with white space, trims to
-- that part. So white space added at either end never changes how a text trims.
import Mathlib.Data.List.TakeWhile
import ConsoleSweep.Text.Lines

namespace ConsoleSweep.Text

/-- Trimming on the characters of a text. -/
def trimChars (cs : List Char) : List Char :=
  ((cs.dropWhile isBlank).reverse.dropWhile isBlank).reverse

theorem toList_trim (s : String) : (trim s).toList = trimChars s.toList := by
  simp [trim, trimChars]

/-- What is left after the leading white space: the trimmed form, then the trailing white space. -/
theorem dropWhile_eq_trimChars_append (cs : List Char) :
    cs.dropWhile isBlank =
      trimChars cs ++ ((cs.dropWhile isBlank).reverse.takeWhile isBlank).reverse := by
  conv =>
    lhs
    rw [← List.reverse_reverse (cs.dropWhile isBlank),
      ← List.takeWhile_append_dropWhile (p := isBlank) (l := (cs.dropWhile isBlank).reverse)]
  rw [List.reverse_append, trimChars]

/-- A text is white space, then its trimmed form, then white space. -/
theorem exists_blank_around_trimChars (cs : List Char) :
    ∃ w w', cs = w ++ trimChars cs ++ w' ∧ (∀ c ∈ w, isBlank c = true) ∧
      ∀ c ∈ w', isBlank c = true := by
  refine ⟨cs.takeWhile isBlank, ((cs.dropWhile isBlank).reverse.takeWhile isBlank).reverse, ?_,
    fun c hc => List.mem_takeWhile_imp hc,
    fun c hc => List.mem_takeWhile_imp (List.mem_reverse.1 hc)⟩
  conv =>
    lhs
    rw [← List.takeWhile_append_dropWhile (p := isBlank) (l := cs), dropWhile_eq_trimChars_append]
  rw [List.append_assoc]

theorem isInfix_trimChars (cs : List Char) : trimChars cs <:+: cs := by
  obtain ⟨w, w', h, -, -⟩ := exists_blank_around_trimChars cs
  exact ⟨w, w', h.symm⟩

/-- The trimmed form does not start with white space. -/
theorem isBlank_head_trimChars {cs rest : List Char} {a : Char} (h : trimChars cs = a :: rest) :
    isBlank a = false := by
  obtain ⟨tail, htail⟩ : ∃ tail, cs.dropWhile isBlank = trimChars cs ++ tail :=
    ⟨_, dropWhile_eq_trimChars_append cs⟩
  have := List.head?_dropWhile_not isBlank cs
  rw [htail, h] at this
  simpa using this

/-- The trimmed form does not end with white space. -/
theorem isBlank_last_trimChars {cs rest : List Char} {b : Char} (h : trimChars cs = rest ++ [b]) :
    isBlank b = false := by
  have hrev : (cs.dropWhile isBlank).reverse.dropWhile isBlank = b :: rest.reverse := by
    have := congrArg List.reverse h
    rw [trimChars, List.reverse_reverse] at this
    rw [this]
    simp
  have := List.head?_dropWhile_not isBlank (cs.dropWhile isBlank).reverse
  rw [hrev] at this
  simpa using this

/-- A part with white space around it trims to the part, when the part neither starts nor ends
with white space. -/
theorem trimChars_of_blank_around {w m w' : List Char} (hw : ∀ c ∈ w, isBlank c = true)
    (hw' : ∀ c ∈ w', isBlank c = true) (hfirst : ∀ a rest, m = a :: rest → isBlank a = false)
    (hlast : ∀ rest b, m = rest ++ [b] → isBlank b = false) :
    trimChars (w ++ m ++ w') = m := by
  unfold trimChars
  rw [List.append_assoc, List.dropWhile_append_of_pos hw]
  cases m with
  | nil =>
    have hnil : w'.dropWhile isBlank = [] :=
      List.dropWhile_eq_nil_iff.2 fun c hc => by simpa using hw' c hc
    rw [List.nil_append, hnil]
    rfl
  | cons a rest =>
    rw [List.cons_append, List.dropWhile_cons_of_neg (by simp [hfirst a rest rfl]),
      ← List.cons_append, List.reverse_append,
      List.dropWhile_append_of_pos (fun c hc => hw' c (List.mem_reverse.1 hc))]
    obtain ⟨init, b, hb⟩ : ∃ init b, a :: rest = init ++ [b] :=
      ⟨(a :: rest).dropLast, (a :: rest).getLast (List.cons_ne_nil a rest),
        (List.dropLast_concat_getLast (List.cons_ne_nil a rest)).symm⟩
    rw [hb, List.reverse_append, List.reverse_singleton, List.singleton_append,
      List.dropWhile_cons_of_neg (by simp [hlast init b hb])]
    simp

/-- White space added at either end does not change how a text trims. -/
theorem trimChars_blank_append {w cs w' : List Char} (hw : ∀ c ∈ w, isBlank c = true)
    (hw' : ∀ c ∈ w', isBlank c = true) : trimChars (w ++ cs ++ w') = trimChars cs := by
  obtain ⟨v, v', hcs, hv, hv'⟩ := exists_blank_around_trimChars cs
  have hsplit : w ++ cs ++ w' = (w ++ v) ++ trimChars cs ++ (v' ++ w') := by
    conv =>
      lhs
      rw [hcs]
    simp only [List.append_assoc]
  rw [hsplit]
  refine trimChars_of_blank_around ?_ ?_ (fun a rest h => isBlank_head_trimChars h)
    (fun rest b h => isBlank_last_trimChars h)
  · intro c hc
    rcases List.mem_append.1 hc with hc | hc
    · exact hw c hc
    · exact hv c hc
  · intro c hc
    rcases List.mem_append.1 hc with hc | hc
    · exact hv' c hc
    · exact hw' c hc

end ConsoleSweep.Text
