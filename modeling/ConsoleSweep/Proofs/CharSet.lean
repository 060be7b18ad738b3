-- What a set of code points holds. When its ranges are in order (each one non-empty, each
-- ending more than one point before the next begins), the binary search finds a point exactly
-- when some range holds it. Building a set from any ranges gives ranges in order that hold the
-- same points, and the complement of a set in order holds every other code point. The classes
-- that the line rules use are read off these three laws.
import ConsoleSweep.Regex.CharSet

namespace ConsoleSweep.Regex.CharSet

/-! ## Ranges -/

/-- Some range holds the point. -/
def Covers (rs : List (Nat × Nat)) (x : Nat) : Prop := ∃ r ∈ rs, r.1 ≤ x ∧ x ≤ r.2

@[simp] theorem not_covers_nil (x : Nat) : ¬ Covers [] x := by simp [Covers]

@[simp] theorem covers_cons {r : Nat × Nat} {rs : List (Nat × Nat)} {x : Nat} :
    Covers (r :: rs) x ↔ (r.1 ≤ x ∧ x ≤ r.2) ∨ Covers rs x := by
  simp [Covers]

@[simp] theorem covers_append {rs qs : List (Nat × Nat)} {x : Nat} :
    Covers (rs ++ qs) x ↔ Covers rs x ∨ Covers qs x := by
  simp only [Covers, List.mem_append]
  constructor
  · rintro ⟨r, hr | hr, hx⟩
    · exact .inl ⟨r, hr, hx⟩
    · exact .inr ⟨r, hr, hx⟩
  · rintro (⟨r, hr, hx⟩ | ⟨r, hr, hx⟩)
    · exact ⟨r, .inl hr, hx⟩
    · exact ⟨r, .inr hr, hx⟩

/-- Ranges in order: each is non-empty, and each ends more than one point before any later one
begins. -/
structure Ordered (rs : List (Nat × Nat)) : Prop where
  nonempty : ∀ r ∈ rs, r.1 ≤ r.2
  apart : rs.Pairwise fun r q => r.2 + 1 < q.1

theorem ordered_nil : Ordered [] := ⟨by simp, .nil⟩

theorem ordered_cons {r : Nat × Nat} {rs : List (Nat × Nat)} :
    Ordered (r :: rs) ↔ r.1 ≤ r.2 ∧ (∀ q ∈ rs, r.2 + 1 < q.1) ∧ Ordered rs := by
  constructor
  · rintro ⟨hne, hap⟩
    obtain ⟨hhead, htail⟩ := List.pairwise_cons.1 hap
    exact ⟨hne r (by simp), hhead, fun q hq => hne q (by simp [hq]), htail⟩
  · rintro ⟨hr, hhead, hne, hap⟩
    refine ⟨?_, List.pairwise_cons.2 ⟨hhead, hap⟩⟩
    simp only [List.mem_cons, forall_eq_or_imp]
    exact ⟨hr, hne⟩

/-- In ranges in order, a range at a later position lies wholly after one at an earlier
position. -/
theorem Ordered.before {rs : List (Nat × Nat)} (h : Ordered rs) {k m : Nat} {r q : Nat × Nat}
    (hkm : k < m) (hk : rs[k]? = some r) (hm : rs[m]? = some q) : r.2 + 1 < q.1 := by
  obtain ⟨hk', rfl⟩ := List.getElem?_eq_some_iff.1 hk
  obtain ⟨hm', rfl⟩ := List.getElem?_eq_some_iff.1 hm
  exact List.pairwise_iff_getElem.1 h.apart k m hk' hm' hkm

theorem Ordered.fst_le {rs : List (Nat × Nat)} (h : Ordered rs) {k : Nat} {r : Nat × Nat}
    (hk : rs[k]? = some r) : r.1 ≤ r.2 :=
  h.nonempty r (List.mem_of_getElem? hk)

/-! ## Binary search -/

/-- The search between two positions finds the point exactly when a range between them holds it. -/
theorem containsNat_go_iff {s : CharSet} (h : Ordered s.ranges.toList) {x lo hi : Nat}
    (hhi : hi ≤ s.ranges.size) :
    containsNat.go s x lo hi = true ↔
      ∃ k r, lo ≤ k ∧ k < hi ∧ s.ranges[k]? = some r ∧ r.1 ≤ x ∧ x ≤ r.2 := by
  -- the ranges read through the array are those of the list
  have hord : ∀ {k m : Nat} {r q : Nat × Nat}, k < m → s.ranges[k]? = some r →
      s.ranges[m]? = some q → r.2 + 1 < q.1 := fun hkm hk hm =>
    h.before hkm (by simpa using hk) (by simpa using hm)
  have hne : ∀ {k : Nat} {r : Nat × Nat}, s.ranges[k]? = some r → r.1 ≤ r.2 := fun hk =>
    h.fst_le (by simpa using hk)
  fun_induction containsNat.go s x lo hi with
  | case1 lo hi hlt mid a b hmid hxa ih =>
    -- the point lies before the middle range, so any range holding it stands before it
    refine (ih (by omega)).trans ⟨?_, ?_⟩
    · rintro ⟨k, r, hlo, hk, hr, hx⟩
      exact ⟨k, r, hlo, by omega, hr, hx⟩
    · rintro ⟨k, r, hlo, hk, hr, hx⟩
      refine ⟨k, r, hlo, ?_, hr, hx⟩
      rcases Nat.lt_or_ge k mid with hlt' | hge
      · exact hlt'
      rcases Nat.lt_or_eq_of_le hge with hlt' | rfl
      · have := hord hlt' hmid hr
        have := hne hmid
        simp only at this
        omega
      · rw [hmid] at hr
        cases hr
        omega
  | case2 lo hi hlt mid a b hmid hxa hbx ih =>
    -- the point lies after the middle range, so any range holding it stands after it
    refine (ih hhi).trans ⟨?_, ?_⟩
    · rintro ⟨k, r, hlo, hk, hr, hx⟩
      exact ⟨k, r, by omega, hk, hr, hx⟩
    · rintro ⟨k, r, hlo, hk, hr, hx⟩
      refine ⟨k, r, ?_, hk, hr, hx⟩
      rcases Nat.lt_or_ge mid k with hlt' | hle
      · exact hlt'
      rcases Nat.lt_or_eq_of_le hle with hlt' | rfl
      · have := hord hlt' hr hmid
        have := hne hmid
        simp only at this
        omega
      · rw [hmid] at hr
        cases hr
        omega
  | case3 lo hi hlt mid a b hmid hxa hbx =>
    simp only [true_iff]
    exact ⟨mid, (a, b), by omega, by omega, hmid, by omega, by omega⟩
  | case4 lo hi hlt mid hmid =>
    simp only [Bool.false_eq_true, false_iff, not_exists, not_and]
    intro _ _ _ _
    rw [Array.getElem?_eq_none_iff] at hmid
    omega
  | case5 lo hi hge =>
    simp only [Bool.false_eq_true, false_iff, not_exists, not_and]
    intro _ _ hlo hk
    omega

/-- A set whose ranges are in order holds a point exactly when one of its ranges does. -/
theorem containsNat_iff {s : CharSet} (h : Ordered s.ranges.toList) {x : Nat} :
    s.containsNat x = true ↔ Covers s.ranges.toList x := by
  rw [containsNat, containsNat_go_iff h (Nat.le_refl _), Covers]
  constructor
  · rintro ⟨k, r, -, -, hr, hx⟩
    exact ⟨r, List.mem_of_getElem? (by simpa using hr), hx⟩
  · rintro ⟨r, hr, hx⟩
    obtain ⟨k, hk, hkr⟩ := List.mem_iff_getElem.1 hr
    refine ⟨k, r, Nat.zero_le _, by simpa using hk, ?_, hx⟩
    simp [← hkr]

/-! ## Building a set from ranges -/

/-- Every range that merging gives starts where one of the merged ranges starts. -/
theorem starts_mergeSorted (l : List (Nat × Nat)) :
    ∀ q ∈ mergeSorted l, ∃ r ∈ l, r.1 = q.1 := by
  fun_induction mergeSorted l with
  | case1 => simp
  | case2 r => simp
  | case3 a b c d rest hc ih =>
    intro q hq
    obtain ⟨r, hr, hrq⟩ := ih q hq
    simp only [List.mem_cons] at hr ⊢
    rcases hr with rfl | hr
    · exact ⟨(a, b), .inl rfl, hrq⟩
    · exact ⟨r, .inr (.inr hr), hrq⟩
  | case4 a b c d rest hc ih =>
    intro q hq
    simp only [List.mem_cons] at hq ⊢
    rcases hq with rfl | hq
    · exact ⟨(a, b), .inl rfl, rfl⟩
    · obtain ⟨r, hr, hrq⟩ := ih q hq
      simp only [List.mem_cons] at hr
      exact ⟨r, .inr hr, hrq⟩

/-- Merging ranges sorted by their first point, each non-empty, keeps the points they hold and
puts them in order. -/
theorem mergeSorted_spec (l : List (Nat × Nat)) (hs : l.Pairwise fun r q => r.1 ≤ q.1)
    (hne : ∀ r ∈ l, r.1 ≤ r.2) :
    (∀ x, Covers (mergeSorted l) x ↔ Covers l x) ∧ Ordered (mergeSorted l) := by
  fun_induction mergeSorted l with
  | case1 => exact ⟨fun _ => Iff.rfl, ordered_nil⟩
  | case2 r =>
    refine ⟨fun _ => Iff.rfl, ordered_cons.2 ⟨hne r (by simp), by simp, ordered_nil⟩⟩
  | case3 a b c d rest hc ih =>
    -- two ranges that overlap or touch become one
    simp only [List.pairwise_cons, List.mem_cons, forall_eq_or_imp] at hs hne
    obtain ⟨⟨hac, hrest⟩, -, hs⟩ := hs
    obtain ⟨hab, hcd, hne⟩ := hne
    obtain ⟨hcov, hord⟩ := ih (List.pairwise_cons.2 ⟨fun q hq => hrest q hq, hs⟩)
      (by simp only [List.mem_cons, forall_eq_or_imp]; exact ⟨by omega, hne⟩)
    have hjoin : ∀ x, (a ≤ x ∧ x ≤ max b d) ↔ (a ≤ x ∧ x ≤ b) ∨ (c ≤ x ∧ x ≤ d) := by
      omega
    refine ⟨fun x => ?_, hord⟩
    rw [hcov x]
    simp only [covers_cons, hjoin, or_assoc]
  | case4 a b c d rest hc ih =>
    -- a gap after the first range: it stays, and the rest is merged after it
    obtain ⟨-, hs'⟩ := List.pairwise_cons.1 hs
    simp only [List.mem_cons, forall_eq_or_imp] at hne
    obtain ⟨hab, hcd, hne⟩ := hne
    obtain ⟨hcov, hord⟩ := ih hs' (by simp only [List.mem_cons, forall_eq_or_imp]; exact ⟨hcd, hne⟩)
    refine ⟨fun x => by simp only [covers_cons] at hcov ⊢; rw [hcov x], ?_⟩
    refine ordered_cons.2 ⟨hab, fun q hq => ?_, hord⟩
    obtain ⟨r, hr, hrq⟩ := starts_mergeSorted _ q hq
    simp only [List.mem_cons] at hr
    rcases hr with rfl | hr
    · simp only at hrq
      omega
    · have := (List.pairwise_cons.1 hs').1 r hr
      simp only at this
      omega

/-- The ranges of a set built from a list: the non-empty ones, sorted by first point, merged. -/
theorem ranges_ofList (rs : List (Nat × Nat)) :
    (ofList rs).ranges.toList =
      mergeSorted ((rs.filter fun r => decide (r.1 ≤ r.2)).mergeSort fun x y => x.1 ≤ y.1) := by
  simp [ofList]

/-- A set built from ranges has them in order, and holds exactly the points they hold. -/
theorem ofList_spec (rs : List (Nat × Nat)) :
    (∀ x, Covers (ofList rs).ranges.toList x ↔ Covers rs x) ∧ Ordered (ofList rs).ranges.toList := by
  let kept := rs.filter fun r => decide (r.1 ≤ r.2)
  have hsorted : (kept.mergeSort fun x y => x.1 ≤ y.1).Pairwise fun r q => r.1 ≤ q.1 := by
    have : (kept.mergeSort fun x y => decide (x.1 ≤ y.1)).Pairwise
        fun x y => decide (x.1 ≤ y.1) = true :=
      List.pairwise_mergeSort (fun a b c hab hbc => by simp only [decide_eq_true_eq] at *; omega)
        (fun a b => by simp only [Bool.or_eq_true, decide_eq_true_eq]; omega) kept
    simpa using this
  have hne : ∀ r ∈ kept.mergeSort fun x y => x.1 ≤ y.1, r.1 ≤ r.2 := by
    intro r hr
    have := List.mem_filter.1 (List.mem_mergeSort.1 hr)
    simpa using this.2
  obtain ⟨hcov, hord⟩ := mergeSorted_spec _ hsorted hne
  rw [ranges_ofList]
  refine ⟨fun x => ?_, hord⟩
  rw [hcov x]
  constructor
  · rintro ⟨r, hr, hx⟩
    exact ⟨r, (List.mem_filter.1 (List.mem_mergeSort.1 hr)).1, hx⟩
  · rintro ⟨r, hr, hx⟩
    exact ⟨r, List.mem_mergeSort.2 (List.mem_filter.2 ⟨hr, by simp; omega⟩), hx⟩

theorem containsNat_ofList (rs : List (Nat × Nat)) (x : Nat) :
    (ofList rs).containsNat x = true ↔ Covers rs x := by
  rw [containsNat_iff (ofList_spec rs).2, (ofList_spec rs).1 x]

/-! ## The complement -/

/-- The gaps after `next` start at `next` or later, when the ranges do. -/
theorem starts_gaps {rs : List (Nat × Nat)} (h : Ordered rs) {next : Nat}
    (hnext : ∀ r ∈ rs, next ≤ r.1) : ∀ q ∈ gaps next rs, next ≤ q.1 := by
  induction rs generalizing next with
  | nil =>
    intro q hq
    simp only [gaps] at hq
    split at hq
    · simp only [List.mem_cons, List.not_mem_nil, or_false] at hq
      simp [hq]
    · simp at hq
  | cons r rs ih =>
    obtain ⟨hr, hafter, hord⟩ := ordered_cons.1 h
    intro q hq
    simp only [gaps, List.mem_append] at hq
    rcases hq with hq | hq
    · split at hq
      · simp only [List.mem_cons, List.not_mem_nil, or_false] at hq
        simp [hq]
      · simp at hq
    · have := ih hord (fun q hq => by have := hafter q hq; omega) q hq
      have := hnext r (by simp)
      omega

/-- The first gap before a range: the points from `next` up to where the range starts. -/
theorem covers_gap_before (next a x : Nat) :
    Covers (if next < a then [(next, a - 1)] else []) x ↔ next < a ∧ next ≤ x ∧ x < a := by
  split
  · simp only [covers_cons, not_covers_nil, or_false]
    omega
  · simp only [not_covers_nil, false_iff]
    omega

/-- The gaps after `next` hold the code points from `next` on that no range holds, when the
ranges are in order and start at `next` or later. -/
theorem gaps_spec {rs : List (Nat × Nat)} (h : Ordered rs) {next : Nat}
    (hnext : ∀ r ∈ rs, next ≤ r.1) :
    (∀ x, x ≤ maxCodePoint → (Covers (gaps next rs) x ↔ next ≤ x ∧ ¬ Covers rs x)) ∧
      Ordered (gaps next rs) := by
  induction rs generalizing next with
  | nil =>
    simp only [gaps]
    split
    · refine ⟨fun x hx => ?_, ordered_cons.2 ⟨by omega, by simp, ordered_nil⟩⟩
      simp only [covers_cons, not_covers_nil, or_false, not_false_eq_true, and_true]
      omega
    · refine ⟨fun x hx => ?_, ordered_nil⟩
      simp only [not_covers_nil, not_false_eq_true, and_true, false_iff]
      omega
  | cons r rs ih =>
    obtain ⟨hr, hafter, hord⟩ := ordered_cons.1 h
    have hnext' : ∀ q ∈ rs, r.2 + 1 ≤ q.1 := fun q hq => by have := hafter q hq; omega
    obtain ⟨hcov, hgaps⟩ := ih hord hnext'
    have hr1 := hnext r (by simp)
    refine ⟨fun x hx => ?_, ?_⟩
    · rw [gaps, covers_append, covers_gap_before, hcov x hx, covers_cons]
      by_cases hC : Covers rs x
      · -- a point of `rs` lies past the end of `r`, so no gap and no earlier range holds it
        have hpast : r.2 < x := by
          obtain ⟨q, hq, hqx⟩ := hC
          have := hafter q hq
          omega
        constructor
        · rintro (⟨-, -, hxr⟩ | ⟨-, hn⟩)
          · omega
          · exact absurd hC hn
        · rintro ⟨-, hn⟩
          exact absurd (Or.inr hC) hn
      · simp only [hC, not_false_eq_true, and_true, or_false]
        omega
    · simp only [gaps]
      split
      · refine ordered_cons.2 ⟨by omega, fun q hq => ?_, hgaps⟩
        have := starts_gaps hord hnext' q hq
        omega
      · exact hgaps

theorem containsNat_complement {s : CharSet} (h : Ordered s.ranges.toList) {x : Nat}
    (hx : x ≤ maxCodePoint) : s.complement.containsNat x = !s.containsNat x := by
  have hspec := @gaps_spec s.ranges.toList h 0 (fun _ _ => Nat.zero_le _)
  have hc : s.complement.ranges.toList = gaps 0 s.ranges.toList := by simp [complement]
  rw [Bool.eq_iff_iff, containsNat_iff (hc ▸ hspec.2), hc, hspec.1 x hx, Bool.not_eq_true',
    ← Bool.not_eq_true, containsNat_iff h]
  simp

/-! ## Characters -/

theorem toNat_le_maxCodePoint (c : Char) : c.toNat ≤ maxCodePoint := by
  have := c.valid
  simp only [UInt32.isValidChar, Nat.isValidChar] at this
  change c.val.toNat ≤ 0x10FFFF
  omega

theorem contains_ofList (rs : List (Nat × Nat)) (c : Char) :
    (ofList rs).contains c = true ↔ Covers rs c.toNat :=
  containsNat_ofList rs c.toNat

theorem contains_complement {s : CharSet} (h : Ordered s.ranges.toList) (c : Char) :
    s.complement.contains c = !s.contains c :=
  containsNat_complement h (toNat_le_maxCodePoint c)

theorem contains_single (n : Nat) (c : Char) : (single n).contains c = true ↔ c.toNat = n := by
  have hord : Ordered (single n).ranges.toList :=
    ordered_cons.2 ⟨Nat.le_refl n, by simp, ordered_nil⟩
  rw [contains, containsNat_iff hord]
  simp only [single, covers_cons, not_covers_nil, or_false]
  omega

end ConsoleSweep.Regex.CharSet
