-- What a pattern node matches. A node spans the text from one place to another when it can
-- match the characters between them: a class spans one character of the class, an assertion
-- spans nothing at a place where it holds, a sequence spans a span of each part in turn, a
-- choice a span of either, and a repetition some number of spans of its body within its bounds.
-- Running a node over a set of start places gives exactly the places that some span from one of
-- them reaches, so a text matches a node exactly when the node spans some part of it. For a
-- repetition without an upper bound the engine stops after one more step than the text has
-- characters; no span needs more, since a longer chain of spans passes some place twice.
import Mathlib.Data.Finset.Card
import ConsoleSweep.Regex.Match

namespace ConsoleSweep.Regex

/-! ## Places as sets -/

namespace Places

/-- The set holds place `i`. -/
def Has (p : Places) (i : Nat) : Prop := p[i]? = some true

theorem Has.lt_size {p : Places} {i : Nat} (h : p.Has i) : i < p.size :=
  (Array.getElem?_eq_some_iff.1 h).1

theorem has_union {a b : Places} (h : a.size = b.size) {i : Nat} :
    (a.union b).Has i ↔ a.Has i ∨ b.Has i := by
  simp only [Has, union, Array.getElem?_zipWith]
  cases ha : a[i]? with
  | none =>
    have : b[i]? = none := by
      rw [Array.getElem?_eq_none_iff] at ha ⊢
      omega
    simp [this]
  | some x =>
    obtain ⟨hi, -⟩ := Array.getElem?_eq_some_iff.1 ha
    rw [Array.getElem?_eq_getElem (h ▸ hi : i < b.size)]
    cases x <;> simp

theorem size_union (a b : Places) : (a.union b).size = min a.size b.size :=
  Array.size_zipWith

end Places

open Places

/-! ## Chains of steps -/

section Steps

variable {n : Nat} {R : Nat → Nat → Prop}

/-- `m` steps of a relation from place `i` to place `j`; no steps stay at a place of the text. -/
def Steps (n : Nat) (R : Nat → Nat → Prop) : Nat → Nat → Nat → Prop
  | 0, i, j => i = j ∧ i ≤ n
  | m + 1, i, j => ∃ k, R i k ∧ Steps n R m k j

/-- Steps of a relation between places of the text stay in the text. -/
theorem Steps.le (hR : ∀ i j, R i j → i ≤ n ∧ j ≤ n) :
    ∀ {m i j : Nat}, Steps n R m i j → i ≤ n ∧ j ≤ n
  | 0, _, _, ⟨hij, hi⟩ => ⟨hi, hij ▸ hi⟩
  | _ + 1, i, _, ⟨k, hik, hkj⟩ => ⟨(hR i k hik).1, (Steps.le hR hkj).2⟩

theorem steps_add (hR : ∀ i j, R i j → i ≤ n ∧ j ≤ n) (a b : Nat) {i j : Nat} :
    Steps n R (a + b) i j ↔ ∃ k, Steps n R a i k ∧ Steps n R b k j := by
  induction a generalizing i with
  | zero =>
    simp only [Nat.zero_add, Steps]
    constructor
    · intro h
      exact ⟨i, ⟨rfl, (Steps.le hR h).1⟩, h⟩
    · rintro ⟨k, ⟨rfl, -⟩, h⟩
      exact h
  | succ a ih =>
    rw [Nat.add_right_comm]
    simp only [Steps]
    constructor
    · rintro ⟨k, hik, hkj⟩
      obtain ⟨l, hkl, hlj⟩ := ih.1 hkj
      exact ⟨l, ⟨k, hik, hkl⟩, hlj⟩
    · rintro ⟨l, ⟨k, hik, hkl⟩, hlj⟩
      exact ⟨k, hik, ih.2 ⟨l, hkl, hlj⟩⟩

/-- A set closed under the relation holds every place that steps reach from it. -/
theorem Steps.closed {S : Nat → Prop} (hS : ∀ i j, S i → R i j → S j) :
    ∀ {m i j : Nat}, Steps n R m i j → S i → S j
  | 0, _, _, ⟨hij, _⟩, hi => hij ▸ hi
  | _ + 1, i, _, ⟨k, hik, hkj⟩, hi => Steps.closed hS hkj (hS i k hi hik)

/-- A chain of steps as the sequence of places it passes. -/
theorem Steps.path (h : Steps n R m i j) :
    ∃ x : Nat → Nat, x 0 = i ∧ x m = j ∧ ∀ k < m, R (x k) (x (k + 1)) := by
  induction m generalizing i with
  | zero => exact ⟨fun _ => i, rfl, h.1, fun k hk => absurd hk (Nat.not_lt_zero k)⟩
  | succ m ih =>
    obtain ⟨l, hil, hlj⟩ := h
    obtain ⟨x, hx0, hxm, hx⟩ := ih hlj
    refine ⟨fun k => if k = 0 then i else x (k - 1), rfl, by simpa using hxm, fun k hk => ?_⟩
    rcases k with _ | k
    · simpa [hx0] using hil
    · simpa using hx k (by omega)

/-- The steps along a stretch of a sequence of places. -/
theorem steps_of_path (hR : ∀ i j, R i j → i ≤ n ∧ j ≤ n) {x : Nat → Nat} :
    ∀ {a m : Nat}, x a ≤ n → (∀ k < m, R (x (a + k)) (x (a + k + 1))) →
      Steps n R m (x a) (x (a + m))
  | _, 0, ha, _ => ⟨rfl, ha⟩
  | a, m + 1, _, hx => by
    have hstep := hx 0 (Nat.succ_pos m)
    have hrest : Steps n R m (x (a + 1)) (x (a + 1 + m)) :=
      steps_of_path hR (hR _ _ hstep).2 fun k hk => by
        simpa [Nat.add_assoc, Nat.add_comm 1 k] using hx (k + 1) (by omega)
    exact ⟨x (a + 1), hstep, by simpa [Nat.add_assoc, Nat.add_comm 1 m] using hrest⟩

/-- A chain of steps between places of the text can be cut to at most `n` steps: a longer one
passes `n + 2` places out of `n + 1`, so it passes some place twice, and the loop between the
two visits can be left out. -/
theorem Steps.shorten (hR : ∀ i j, R i j → i ≤ n ∧ j ≤ n) :
    ∀ {m i j : Nat}, Steps n R m i j → ∃ m', m' ≤ n ∧ Steps n R m' i j := by
  intro m
  induction m using Nat.strong_induction_on with
  | _ m ih =>
    intro i j h
    rcases Nat.lt_or_ge n m with hlong | hshort
    · obtain ⟨x, hx0, hxm, hx⟩ := h.path
      -- every place of the chain is a place of the text
      have hin : ∀ k ≤ m, x k ≤ n := by
        intro k hk
        rcases Nat.lt_or_eq_of_le hk with hk | rfl
        · exact (hR _ _ (hx k hk)).1
        · have := (hR _ _ (hx (k - 1) (by omega))).2
          rwa [Nat.sub_add_cancel (by omega)] at this
      obtain ⟨a, ha, b, hb, hab, hxab⟩ :=
        Finset.exists_ne_map_eq_of_card_lt_of_maps_to (s := Finset.range (m + 1))
          (t := Finset.range (n + 1)) (f := x) (by simpa using hlong) (fun k hk => by
            simp only [Finset.coe_range, Set.mem_Iio] at hk ⊢
            have := hin k (by omega)
            omega)
      simp only [Finset.mem_range] at ha hb
      -- with the earlier visit at `a` and the later at `b`, keep the chain before `a` and
      -- after `b`
      have hcut : ∀ a b, a < b → b ≤ m → x a = x b → Steps n R (a + (m - b)) i j := by
        intro a b hab hbm hxab
        have hfront : Steps n R a (x 0) (x (0 + a)) :=
          steps_of_path hR (hin 0 (Nat.zero_le m)) fun k hk => by
            simpa using hx k (by omega)
        have hback : Steps n R (m - b) (x b) (x (b + (m - b))) :=
          steps_of_path hR (hin b hbm) fun k hk => hx (b + k) (by omega)
        rw [Nat.zero_add, hxab] at hfront
        rw [Nat.add_sub_cancel' hbm, hxm] at hback
        rw [hx0] at hfront
        exact (steps_add hR a (m - b)).2 ⟨x b, hfront, hback⟩
      rcases Nat.lt_or_gt_of_ne hab with hlt | hlt
      · exact ih _ (by omega) (hcut a b hlt (by omega) hxab)
      · exact ih _ (by omega) (hcut b a hlt (by omega) hxab.symm)
    · exact ⟨m, hshort, h⟩

end Steps

/-! ## What a node spans -/

namespace Node

/-- The node matches the characters of the text from place `i` to place `j`. -/
def Spans (t : Subject) : Node → Nat → Nat → Prop
  | .empty, i, j => i = j ∧ i ≤ t.size
  | .chars s, i, j => j = i + 1 ∧ ∃ c, t[i]? = some c ∧ s.contains c = true
  | .look l, i, j => i = j ∧ i ≤ t.size ∧ l.holds t i = true
  | .cat a b, i, j => ∃ k, a.Spans t i k ∧ b.Spans t k j
  | .alt a b, i, j => a.Spans t i j ∨ b.Spans t i j
  | .rep a lo hi, i, j => ∃ m, lo ≤ m ∧ (∀ h ∈ hi, m ≤ h) ∧ Steps t.size (a.Spans t) m i j

/-- Every repetition of the node allows at least as many times as it asks for. -/
def wellBounded : Node → Bool
  | .cat a b | .alt a b => a.wellBounded && b.wellBounded
  | .rep a lo hi => hi.all (lo ≤ ·) && a.wellBounded
  | _ => true

/-- A span runs between places of the text. -/
theorem Spans.le {t : Subject} : ∀ {r : Node} {i j : Nat}, r.Spans t i j → i ≤ t.size ∧ j ≤ t.size
  | .empty, _, _, ⟨hij, hi⟩ => ⟨hi, hij ▸ hi⟩
  | .chars _, _, _, ⟨hj, _, hc, _⟩ => by
    have := (Array.getElem?_eq_some_iff.1 hc).1
    omega
  | .look _, _, _, ⟨hij, hi, _⟩ => ⟨hi, hij ▸ hi⟩
  | .cat _ _, _, _, ⟨_, hik, hkj⟩ => ⟨(Spans.le hik).1, (Spans.le hkj).2⟩
  | .alt _ _, _, _, .inl h => Spans.le h
  | .alt _ _, _, _, .inr h => Spans.le h
  | .rep _ _ _, _, _, ⟨_, _, _, h⟩ => Steps.le (fun _ _ => Spans.le) h

end Node

/-! ## Running a node -/

/-- A map of place sets computes a relation between places of a text of `n` characters: from a
set of `n + 1` places it gives the places related to one of the set. -/
def Denotes (n : Nat) (F : Places → Places) (R : Nat → Nat → Prop) : Prop :=
  ∀ p : Places, p.size = n + 1 → (F p).size = n + 1 ∧ ∀ j, (F p).Has j ↔ ∃ i, p.Has i ∧ R i j

section Denotes

variable {n : Nat} {F G : Places → Places} {R S : Nat → Nat → Prop}

theorem Denotes.congr (hF : Denotes n F R) (hRS : ∀ i j, R i j ↔ S i j) : Denotes n F S :=
  fun p hp => ⟨(hF p hp).1, fun j => by simp only [(hF p hp).2 j, hRS]⟩

theorem denotes_id : Denotes n id fun i j => i = j ∧ i ≤ n := by
  intro p hp
  refine ⟨hp, fun j => ⟨fun h => ⟨j, h, rfl, by have := Has.lt_size (p := p) h; omega⟩, ?_⟩⟩
  rintro ⟨i, hi, rfl, -⟩
  exact hi

theorem Denotes.comp (hF : Denotes n F R) (hG : Denotes n G S) :
    Denotes n (fun p => G (F p)) fun i j => ∃ k, R i k ∧ S k j := by
  intro p hp
  obtain ⟨hFsize, hFhas⟩ := hF p hp
  obtain ⟨hGsize, hGhas⟩ := hG (F p) hFsize
  refine ⟨hGsize, fun j => ?_⟩
  rw [hGhas]
  constructor
  · rintro ⟨k, hk, hkj⟩
    obtain ⟨i, hi, hik⟩ := (hFhas k).1 hk
    exact ⟨i, hi, k, hik, hkj⟩
  · rintro ⟨i, hi, k, hik, hkj⟩
    exact ⟨k, (hFhas k).2 ⟨i, hi, hik⟩, hkj⟩

theorem Denotes.union (hF : Denotes n F R) (hG : Denotes n G S) :
    Denotes n (fun p => (F p).union (G p)) fun i j => R i j ∨ S i j := by
  intro p hp
  obtain ⟨hFsize, hFhas⟩ := hF p hp
  obtain ⟨hGsize, hGhas⟩ := hG p hp
  refine ⟨by rw [size_union, hFsize, hGsize, Nat.min_self], fun j => ?_⟩
  rw [has_union (hFsize.trans hGsize.symm), hFhas, hGhas]
  constructor
  · rintro (⟨i, hi, h⟩ | ⟨i, hi, h⟩)
    · exact ⟨i, hi, .inl h⟩
    · exact ⟨i, hi, .inr h⟩
  · rintro ⟨i, hi, h | h⟩
    · exact .inl ⟨i, hi, h⟩
    · exact .inr ⟨i, hi, h⟩

/-- Applying a map `m` times computes `m` steps of its relation. -/
theorem Denotes.iterate (hF : Denotes n F R) :
    ∀ m, Denotes n (iterate F m) (Steps n R m)
  | 0 => denotes_id
  | m + 1 => by
    have hcomp := hF.comp (Denotes.iterate hF m)
    exact fun p hp => ⟨(hcomp p hp).1, fun j => by simp only [Regex.iterate, (hcomp p hp).2 j, Steps]⟩

/-- Growing a set by a map, at most `k` times or until nothing new is reached, computes at most
`k` steps of its relation: once a set is closed under the map, further steps add nothing. -/
theorem Denotes.grow (hF : Denotes n F R) :
    ∀ k, Denotes n (grow F k) fun i j => ∃ m, m ≤ k ∧ Steps n R m i j
  | 0 => denotes_id.congr fun i j => by
      constructor
      · rintro h
        exact ⟨0, Nat.le_refl 0, h⟩
      · rintro ⟨m, hm, h⟩
        obtain rfl : m = 0 := by omega
        exact h
  | k + 1 => by
    intro x hx
    obtain ⟨hFsize, hFhas⟩ := hF x hx
    have hysize : (x.union (F x)).size = n + 1 := by rw [size_union, hx, hFsize, Nat.min_self]
    have hyhas : ∀ j, (x.union (F x)).Has j ↔ x.Has j ∨ ∃ i, x.Has i ∧ R i j := fun j => by
      rw [has_union (hx.trans hFsize.symm), hFhas]
    simp only [Regex.grow]
    split
    · -- nothing new: the set is closed under the relation
      rename_i hstop
      have hclosed : ∀ i j, x.Has i → R i j → x.Has j := by
        intro i j hi hij
        rw [← eq_of_beq hstop]
        exact (hyhas j).2 (.inr ⟨i, hi, hij⟩)
      refine ⟨hx, fun j => ⟨fun h => ⟨j, h, 0, Nat.zero_le _, rfl, ?_⟩, ?_⟩⟩
      · have := h.lt_size
        omega
      · rintro ⟨i, hi, m, -, hm⟩
        exact Steps.closed hclosed hm hi
    · obtain ⟨hsize, hhas⟩ := Denotes.grow hF k _ hysize
      refine ⟨hsize, fun j => ?_⟩
      rw [hhas]
      constructor
      · rintro ⟨i, hi, m, hm, hij⟩
        rcases (hyhas i).1 hi with hi | ⟨i0, hi0, hR⟩
        · exact ⟨i, hi, m, by omega, hij⟩
        · exact ⟨i0, hi0, m + 1, by omega, i, hR, hij⟩
      · rintro ⟨i, hi, m, hm, hij⟩
        cases m with
        | zero => exact ⟨i, (hyhas i).2 (.inl hi), 0, Nat.zero_le _, hij⟩
        | succ m =>
          obtain ⟨l, hil, hlj⟩ := hij
          exact ⟨l, (hyhas l).2 (.inr ⟨i, hi, hil⟩), m, by omega, hlj⟩

end Denotes

theorem denotes_stepChars (t : Subject) (s : CharSet) :
    Denotes t.size (stepChars t s) (Node.Spans t (.chars s)) := by
  intro p hp
  refine ⟨Array.size_ofFn, fun j => ?_⟩
  simp only [Has, stepChars, Array.getElem?_ofFn, Node.Spans]
  cases j with
  | zero => simp
  | succ i =>
    cases hc : t[i]? with
    | none =>
      have : ¬ i + 1 < t.size + 1 := by rw [Array.getElem?_eq_none_iff] at hc; omega
      simp [this, hc]
    | some c =>
      have hi : i + 1 < t.size + 1 := by
        have := (Array.getElem?_eq_some_iff.1 hc).1
        omega
      cases hpi : p[i]? with
      | none => simp [hi, hc, hpi]
      | some b => cases b <;> simp [hi, hc, hpi]

theorem denotes_look (t : Subject) (l : Look) :
    Denotes t.size (fun p => p.mapIdx fun i b => b && l.holds t i) (Node.Spans t (.look l)) := by
  intro p hp
  refine ⟨by rw [Array.size_mapIdx, hp], fun j => ?_⟩
  simp only [Has, Array.getElem?_mapIdx, Node.Spans]
  constructor
  · intro h
    obtain ⟨b, hb, hbj⟩ := Option.map_eq_some_iff.1 h
    have hj := (Array.getElem?_eq_some_iff.1 hb).1
    cases b <;> simp at hbj
    exact ⟨j, hb, rfl, by omega, hbj⟩
  · rintro ⟨i, hi, rfl, -, hl⟩
    simp [hi, hl]

/-- Some count of steps, from at least `lo` on, split as `lo` steps and then the rest. -/
theorem exists_steps_after {n : Nat} {R : Nat → Nat → Prop} (hR : ∀ i j, R i j → i ≤ n ∧ j ≤ n)
    (lo : Nat) (P : Nat → Prop) {i j : Nat} :
    (∃ k, Steps n R lo i k ∧ ∃ m, P m ∧ Steps n R m k j) ↔
      ∃ m, lo ≤ m ∧ P (m - lo) ∧ Steps n R m i j := by
  constructor
  · rintro ⟨k, hik, m, hm, hkj⟩
    exact ⟨lo + m, Nat.le_add_right lo m, by simpa using hm,
      (steps_add hR lo m).2 ⟨k, hik, hkj⟩⟩
  · rintro ⟨m, hlo, hm, hij⟩
    rw [← Nat.add_sub_cancel' hlo, steps_add hR] at hij
    obtain ⟨k, hik, hkj⟩ := hij
    exact ⟨k, hik, m - lo, hm, hkj⟩

namespace Node

/-- Running a node computes what it spans: from any set of start places it gives exactly the
places that a span of the node from one of them reaches. -/
theorem reach_denotes (t : Subject) :
    ∀ r : Node, r.wellBounded = true → Denotes t.size (r.reach t) (r.Spans t)
  | .empty, _ => denotes_id
  | .chars s, _ => denotes_stepChars t s
  | .look l, _ => denotes_look t l
  | .cat a b, h => by
    simp only [wellBounded, Bool.and_eq_true] at h
    exact (reach_denotes t a h.1).comp (reach_denotes t b h.2)
  | .alt a b, h => by
    simp only [wellBounded, Bool.and_eq_true] at h
    exact (reach_denotes t a h.1).union (reach_denotes t b h.2)
  | .rep a lo hi, h => by
    simp only [wellBounded, Bool.and_eq_true] at h
    have hA := reach_denotes t a h.2
    have hR : ∀ i j, a.Spans t i j → i ≤ t.size ∧ j ≤ t.size := fun _ _ => Spans.le
    cases hi with
    | some top =>
      -- at least `lo` times, then up to `top - lo` more
      have hlo : lo ≤ top := by simpa using h.1
      refine ((hA.iterate lo).comp (hA.grow (top - lo))).congr fun i j => ?_
      rw [exists_steps_after hR lo]
      simp only [Spans, Option.mem_def, Option.some.injEq, forall_eq']
      constructor
      · rintro ⟨m, hm, htop, hij⟩
        exact ⟨m, hm, by omega, hij⟩
      · rintro ⟨m, hm, htop, hij⟩
        exact ⟨m, hm, by omega, hij⟩
    | none =>
      -- at least `lo` times, then as often as it goes: one more step than the text has
      -- characters is more than any chain needs
      refine ((hA.iterate lo).comp (hA.grow (t.size + 1))).congr fun i j => ?_
      simp only [Spans, Option.mem_def, reduceCtorEq, false_implies, implies_true, true_and]
      constructor
      · rintro ⟨k, hik, m, -, hkj⟩
        exact ⟨lo + m, Nat.le_add_right lo m, (steps_add hR lo m).2 ⟨k, hik, hkj⟩⟩
      · rintro ⟨m, hlo, hij⟩
        rw [← Nat.add_sub_cancel' hlo, steps_add hR] at hij
        obtain ⟨k, hik, hkj⟩ := hij
        obtain ⟨m', hm', hkj'⟩ := Steps.shorten hR hkj
        exact ⟨k, hik, m', by omega, hkj'⟩

/-- A text matches a node exactly when the node spans some part of it. -/
theorem isMatch_iff_spans {r : Node} (hr : r.wellBounded = true) (s : String) :
    r.isMatch s = true ↔ ∃ i j, r.Spans s.toList.toArray i j := by
  let t : Subject := s.toList.toArray
  have hall : (Array.replicate (t.size + 1) true).size = t.size + 1 := Array.size_replicate
  obtain ⟨-, hhas⟩ := reach_denotes t r hr _ hall
  have hany : ((r.reach t (Array.replicate (t.size + 1) true)).any id = true) ↔
      ∃ j, (r.reach t (Array.replicate (t.size + 1) true)).Has j := by
    rw [Array.any_eq_true]
    constructor
    · rintro ⟨j, hj, hb⟩
      exact ⟨j, by simpa [Has, Array.getElem?_eq_getElem hj] using hb⟩
    · rintro ⟨j, hj⟩
      obtain ⟨hlt, hb⟩ := Array.getElem?_eq_some_iff.1 hj
      exact ⟨j, hlt, by simpa using hb⟩
  show (r.reach t (Array.replicate (t.size + 1) true)).any id = true ↔ _
  rw [hany]
  simp only [hhas]
  constructor
  · rintro ⟨j, i, -, hij⟩
    exact ⟨i, j, hij⟩
  · rintro ⟨i, j, hij⟩
    have : i ≤ t.size ∧ j ≤ t.size := hij.le
    exact ⟨j, i, by rw [Has, Array.getElem?_replicate, if_pos (by omega)], hij⟩

end Node

end ConsoleSweep.Regex
