-- Which names a scan keeps by its include patterns. The patterns are compiled first and those
-- that do not compile are passed over; an empty list of compiled patterns keeps every name. So
-- a name is held to the include list only through the patterns of it that compile, and an
-- include list none of whose patterns compiles, such as `**.sol`, scans exactly as an empty
-- include list does: every file that the exclude patterns allow is found.
import ConsoleSweep.Proofs.Scan

namespace ConsoleSweep

/-! ## Compiled patterns -/

namespace Glob

theorem mem_compileAll {ps : List String} {g : Pattern} :
    g ∈ compileAll ps ↔ ∃ p ∈ ps, Pattern.compile p = .ok g := by
  simp only [compileAll, List.mem_filterMap]
  constructor
  · rintro ⟨p, hp, hg⟩
    refine ⟨p, hp, ?_⟩
    cases hc : Pattern.compile p with
    | error e => simp [hc, Except.toOption] at hg
    | ok g' => simpa [hc, Except.toOption] using hg
  · rintro ⟨p, hp, hg⟩
    exact ⟨p, hp, by simp [hg, Except.toOption]⟩

/-- No pattern of a list compiles exactly when none is kept. -/
theorem compileAll_eq_nil_iff {ps : List String} :
    compileAll ps = [] ↔ ∀ p ∈ ps, ∃ e, Pattern.compile p = .error e := by
  rw [List.eq_nil_iff_forall_not_mem]
  constructor
  · intro h p hp
    cases hc : Pattern.compile p with
    | error e => exact ⟨e, rfl⟩
    | ok g => exact absurd (mem_compileAll.2 ⟨p, hp, hc⟩) (h g)
  · intro h g hg
    obtain ⟨p, hp, hc⟩ := mem_compileAll.1 hg
    obtain ⟨e, he⟩ := h p hp
    rw [hc] at he
    cases he

end Glob

/-! ## The names a scan keeps -/

/-- A name a scan keeps is UTF-8, and the text it reads as is matched by an include pattern
that compiles, unless no include pattern compiles. -/
theorem ScanOptions.included_of_keeps {o : ScanOptions} {name : Bytes}
    (h : o.plan.keeps name = true) :
    ∃ s, Text.decodeUtf8 name = .ok s ∧
      ((∀ p ∈ o.includePatterns, ∃ e, Glob.Pattern.compile p = .error e) ∨
        ∃ p ∈ o.includePatterns, ∃ g, Glob.Pattern.compile p = .ok g ∧ g.matches s = true) := by
  unfold ScanPlan.keeps at h
  cases hd : Text.decodeUtf8 name with
  | error f => simp [hd] at h
  | ok s =>
    refine ⟨s, rfl, ?_⟩
    simp only [hd, Bool.and_eq_true, Bool.or_eq_true, List.isEmpty_iff, List.any_eq_true] at h
    rcases h.2 with hnil | ⟨g, hg, hm⟩
    · exact Or.inl (Glob.compileAll_eq_nil_iff.1 hnil)
    · obtain ⟨p, hp, hc⟩ := Glob.mem_compileAll.1 hg
      exact Or.inr ⟨p, hp, g, hc, hm⟩

/-- Include patterns that all fail to compile plan a scan as no include patterns do. -/
theorem ScanOptions.plan_of_includes_fail {o : ScanOptions}
    (h : ∀ p ∈ o.includePatterns, ∃ e, Glob.Pattern.compile p = .error e) :
    o.plan = { o with includePatterns := [] }.plan := by
  simp only [plan, Glob.compileAll_eq_nil_iff.2 h]
  rfl

/-- A scan whose include patterns all fail to compile is the scan with no include pattern: it
finds every file that the exclude patterns allow. -/
theorem Tree.scan_of_includes_fail (t : Tree) (root : Bytes) {o : ScanOptions}
    (h : ∀ p ∈ o.includePatterns, ∃ e, Glob.Pattern.compile p = .error e) :
    t.scan root o = t.scan root { o with includePatterns := [] } := by
  unfold scan
  rw [ScanOptions.plan_of_includes_fail h]

/-- A directory `d` holding `a.txt`, scanned with the one include pattern `**.sol`, which does
not compile: the scan finds `d/a.txt`, whose name no reading of `**.sol` matches. -/
theorem Tree.scan_keeps_every_name_when_no_include_compiles :
    let t : Tree := .dir [([100], .dir [([97, 46, 116, 120, 116], .file [120])])]
    let o : ScanOptions := { includePatterns := ["**.sol"], excludePatterns := [] }
    (∀ p ∈ o.includePatterns, ∃ e, Glob.Pattern.compile p = .error e) ∧
      t.scan [100] o = t.scan [100] { o with includePatterns := [] } ∧
      ∃ r, t.scan [100] o = .ok r ∧ r.files = [[100, 47, 97, 46, 116, 120, 116]] := by
  intro t o
  have hfail : ∀ p ∈ o.includePatterns, ∃ e, Glob.Pattern.compile p = .error e :=
    Glob.compileAll_eq_nil_iff.1 (by decide +kernel)
  have hparts : Path.parts [100] = [.name [100]] := rfl
  have hdir : Path.endsInDir [100] = false := rfl
  have hres : ∀ f, t.resolve [100] f = .ok ⟨[[100]], .dir [([97, 46, 116, 120, 116], .file [120])]⟩ := by
    intro f
    cases f <;> simp [t, Tree.resolve, hparts, hdir, Tree.walk, Tree.get?, Tree.lookup, Path.maxLength]
  refine ⟨hfail, Tree.scan_of_includes_fail t [100] hfail, ?_⟩
  rw [Tree.scan, hres, hres]
  exact ⟨_, rfl, by decide +kernel⟩

end ConsoleSweep
