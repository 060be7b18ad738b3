-- Lower case against ASCII lower case. Outside ASCII only two characters lower-case to
-- something ASCII: the Kelvin sign goes to `k`, and the capital I with dot above goes to `i`
-- followed by a combining dot. So a text whose lower case is a word of ASCII characters other
-- than `k` is itself ASCII, and on ASCII the two lower cases agree.
import Mathlib
import ConsoleSweep.Text.Lower
import ConsoleSweep.Text.Lines

namespace ConsoleSweep.Text

/-! ## The table -/

/-- Every run of the table stays within ASCII, is the Kelvin sign, or sends its code points to
characters above ASCII. -/
theorem lowerRuns_images : ∀ r ∈ lowerRuns, (r.first < 0x80 ∧ r.last < 0x80) ∨
    r = ⟨0x212A, 0x212A, 0x6B, false⟩ ∨
    (0x80 ≤ r.target ∧ (r.target + (r.last - r.first) < 0xD800 ∨
      (0xE000 ≤ r.target ∧ r.target + (r.last - r.first) < 0x110000))) := by
  decide +kernel

/-- The first run is the ASCII capitals, and every other run starts above ASCII. -/
theorem lowerRuns_eq_cons : lowerRuns = ⟨0x41, 0x5A, 0x61, false⟩ :: lowerRuns.tail ∧
    ∀ r ∈ lowerRuns.tail, 0x80 ≤ r.first :=
  ⟨rfl, by decide +kernel⟩

theorem LowerRun.image?_eq_some {r : LowerRun} {n m : Nat} (h : r.image? n = some m) :
    r.first ≤ n ∧ n ≤ r.last ∧ m = n - r.first + r.target := by
  unfold LowerRun.image? at h
  split at h
  · rename_i hr
    exact ⟨hr.1, hr.2.1, (Option.some.inj h).symm⟩
  · cases h

theorem LowerRun.image?_of_lt_first {r : LowerRun} {n : Nat} (h : n < r.first) :
    r.image? n = none := by
  simp only [LowerRun.image?, ite_eq_right_iff, reduceCtorEq, imp_false, not_and]
  omega

/-! ## One character -/

theorem toNat_toLower (c : Char) :
    c.toLower.toNat = if 0x41 ≤ c.toNat ∧ c.toNat ≤ 0x5A then c.toNat + 0x20 else c.toNat := by
  -- `Char.toLower` compares and adds code points as `UInt32`; read both on `Nat`.
  have hrange : (c.val ≥ 'A'.val ∧ c.val ≤ 'Z'.val) ↔ 0x41 ≤ c.toNat ∧ c.toNat ≤ 0x5A := by
    simp [UInt32.le_iff_toNat_le]
  unfold Char.toLower
  split
  · rename_i h
    rw [if_pos (hrange.1 h)]
    have hle := (hrange.1 h).2
    simp [UInt32.toNat_add] at hle ⊢
    omega
  · rename_i h
    rw [if_neg (mt hrange.2 h)]

theorem toLower_of_not_ascii {c : Char} (h : 0x80 ≤ c.toNat) : c.toLower = c := by
  apply Char.toNat_inj.1
  rw [toNat_toLower, if_neg (by omega)]

/-- On ASCII, only the first run can cover a code point. -/
theorem findSome?_lowerRuns_of_ascii {c : Char} (h : c.toNat < 0x80) :
    lowerRuns.findSome? (·.image? c.toNat) =
      if 0x41 ≤ c.toNat ∧ c.toNat ≤ 0x5A then some (c.toNat - 0x41 + 0x61) else none := by
  have hrest : lowerRuns.tail.findSome? (·.image? c.toNat) = none :=
    List.findSome?_eq_none_iff.2 fun r hr =>
      LowerRun.image?_of_lt_first (Nat.lt_of_lt_of_le h (lowerRuns_eq_cons.2 r hr))
  rw [lowerRuns_eq_cons.1, List.findSome?_cons]
  by_cases hu : 0x41 ≤ c.toNat ∧ c.toNat ≤ 0x5A
  · simp [LowerRun.image?, hu]
  · simp only [LowerRun.image?, true_or, and_true, if_neg hu]
    exact hrest

theorem lowerSimple_of_ascii {c : Char} (h : c.toNat < 0x80) : lowerSimple c = c.toLower := by
  apply Char.toNat_inj.1
  rw [lowerSimple, findSome?_lowerRuns_of_ascii h, toNat_toLower]
  by_cases hu : 0x41 ≤ c.toNat ∧ c.toNat ≤ 0x5A
  · have hv : (c.toNat - 0x41 + 0x61).isValidChar := Or.inl (by omega)
    simp only [if_pos hu]
    rw [Char.toNat_ofNat, if_pos hv]
    omega
  · simp only [if_neg hu]

/-- A character whose simple lower case is ASCII is ASCII, or is the Kelvin sign. -/
theorem lowerSimple_ascii {c : Char} (h : (lowerSimple c).toNat < 0x80) :
    c.toNat < 0x80 ∨ lowerSimple c = 'k' := by
  unfold lowerSimple at h ⊢
  split at h
  · rename_i n hn
    obtain ⟨r, hr, himg⟩ := List.exists_of_findSome?_eq_some hn
    obtain ⟨hlo, hhi, rfl⟩ := LowerRun.image?_eq_some himg
    rcases lowerRuns_images r hr with hascii | rfl | ⟨htarget, hvalid⟩
    · exact Or.inl (by omega)
    · right
      simp only at hlo hhi ⊢
      rw [show c.toNat = 0x212A by omega]
    · -- The image lies above ASCII and is a character, so it cannot be ASCII.
      have hv : (c.toNat - r.first + r.target).isValidChar := by
        unfold Nat.isValidChar
        omega
      rw [Char.toNat_ofNat, if_pos hv] at h
      omega
  · exact Or.inl h

theorem lowerChar_of_ascii {c : Char} (h : c.toNat < 0x80) : lowerChar c = [c.toLower] := by
  have hne : c ≠ 'İ' := fun he => by subst he; simp at h
  rw [lowerChar, if_neg hne, lowerSimple_of_ascii h]

/-- A character whose lower case is ASCII and holds no `k` is ASCII. -/
theorem ascii_of_lowerChar {c : Char} (h : ∀ x ∈ lowerChar c, x.toNat < 0x80 ∧ x ≠ 'k') :
    c.toNat < 0x80 := by
  unfold lowerChar at h
  split at h
  · exact absurd (h '\u0307' (by simp)).1 (by decide)
  · have hc := h (lowerSimple c) (List.mem_singleton_self _)
    exact (lowerSimple_ascii hc.1).resolve_right hc.2

theorem lowerSigma_not_ascii (before after : List Char) : 0x80 ≤ (lowerSigma before after).toNat := by
  unfold lowerSigma
  split <;> decide

/-! ## A text -/

theorem lowerFrom_of_ascii (before : List Char) {cs : List Char}
    (h : ∀ c ∈ cs, c.toNat < 0x80) : lowerFrom before cs = cs.map Char.toLower := by
  induction cs generalizing before with
  | nil => rfl
  | cons c cs ih =>
    have hc := h c List.mem_cons_self
    have hsigma : c ≠ 'Σ' := fun he => by subst he; simp at hc
    rw [lowerFrom, if_neg hsigma, lowerChar_of_ascii hc,
      ih (c :: before) fun x hx => h x (List.mem_cons_of_mem c hx)]
    rfl

/-- Characters whose lower case is ASCII and holds no `k` are ASCII. -/
theorem ascii_of_lowerFrom (before : List Char) {cs : List Char}
    (h : ∀ x ∈ lowerFrom before cs, x.toNat < 0x80 ∧ x ≠ 'k') : ∀ c ∈ cs, c.toNat < 0x80 := by
  induction cs generalizing before with
  | nil => simp
  | cons c cs ih =>
    rw [lowerFrom] at h
    have hhere := fun x hx => h x (List.mem_append_left _ hx)
    have hc : c.toNat < 0x80 := by
      split at hhere
      · have := lowerSigma_not_ascii before cs
        have := (hhere _ (List.mem_singleton_self _)).1
        omega
      · exact ascii_of_lowerChar hhere
    exact List.forall_mem_cons.2 ⟨hc, ih (c :: before) fun y hy => h y (List.mem_append_right _ hy)⟩

theorem ascii_of_map_toLower {cs : List Char} (h : ∀ x ∈ cs.map Char.toLower, x.toNat < 0x80) :
    ∀ c ∈ cs, c.toNat < 0x80 := by
  intro c hc
  rcases Nat.lt_or_ge c.toNat 0x80 with hlt | hge
  · exact hlt
  · simpa [toLower_of_not_ascii hge] using h _ (List.mem_map_of_mem hc)

/-- On ASCII text, lower case is ASCII lower case. -/
theorem toLowercase_of_ascii {s : String} (h : ∀ c ∈ s.toList, c.toNat < 0x80) :
    toLowercase s = asciiLower s := by
  apply String.toList_injective
  rw [toLowercase, String.toList_ofList, lowerFrom_of_ascii [] h, asciiLower, String.toList_map]

theorem asciiLower_eq_self {s : String} (h : ∀ c ∈ s.toList, c.toLower = c) :
    asciiLower s = s := by
  apply String.toList_injective
  rw [asciiLower, String.toList_map, List.map_congr_left h, List.map_id']

/-- Lower case and ASCII lower case agree on whether a text goes to a word of ASCII characters
other than `k`. -/
theorem toLowercase_eq_iff {s w : String} (hw : ∀ x ∈ w.toList, x.toNat < 0x80 ∧ x ≠ 'k') :
    toLowercase s = w ↔ asciiLower s = w := by
  constructor
  · intro h
    have hs : ∀ c ∈ s.toList, c.toNat < 0x80 := by
      apply ascii_of_lowerFrom []
      have hl : (toLowercase s).toList = lowerFrom [] s.toList := String.toList_ofList
      exact hl ▸ h ▸ hw
    rw [← toLowercase_of_ascii hs, h]
  · intro h
    have hs : ∀ c ∈ s.toList, c.toNat < 0x80 := by
      apply ascii_of_map_toLower
      rw [← String.toList_map]
      exact fun x hx => (hw x (h ▸ hx)).1
    rw [toLowercase_of_ascii hs, h]

end ConsoleSweep.Text
