-- The texts a node matches. Without assertions a node is a regular expression over characters,
-- and its language is built from those of its parts: a class gives its one-character texts, a
-- sequence the concatenations, a choice the union, a repetition the powers within its bounds.
-- For such a node, a span between two places of a text is exactly a piece of the text, between
-- those places, that lies in the node's language.
import Mathlib.Computability.Language
import ConsoleSweep.Proofs.CharSet
import ConsoleSweep.Proofs.Reach

namespace ConsoleSweep.Regex

/-! ## Pieces of a text -/

/-- The characters of the text from place `i` to place `j`. -/
def piece (t : Subject) (i j : Nat) : List Char := (t.toList.drop i).take (j - i)

theorem length_piece {t : Subject} {i j : Nat} (hij : i ≤ j) (hj : j ≤ t.size) :
    (piece t i j).length = j - i := by
  simp only [piece, List.length_take, List.length_drop, Array.length_toList]
  omega

theorem piece_append {t : Subject} {i k j : Nat} (hik : i ≤ k) (hkj : k ≤ j) :
    piece t i k ++ piece t k j = piece t i j := by
  simp only [piece]
  have hdrop : t.toList.drop k = (t.toList.drop i).drop (k - i) := by
    rw [List.drop_drop, Nat.add_sub_cancel' hik]
  rw [hdrop, ← List.take_add, Nat.add_comm, Nat.sub_add_sub_cancel hkj hik]

theorem piece_succ {t : Subject} {i : Nat} {c : Char} (h : t[i]? = some c) :
    piece t i (i + 1) = [c] := by
  obtain ⟨hi, rfl⟩ := Array.getElem?_eq_some_iff.1 h
  simp only [piece, Nat.add_sub_cancel_left]
  rw [List.take_one, List.head?_drop]
  simp [hi]

/-- A piece of a text stands in it. -/
theorem piece_infix (t : Subject) (i j : Nat) : piece t i j <:+: t.toList :=
  (List.take_prefix _ _).isInfix.trans (List.drop_suffix _ _).isInfix

/-- A piece that is two texts one after the other splits where the first ends. -/
theorem piece_eq_append {t : Subject} {i j : Nat} {u v : List Char} (hij : i ≤ j)
    (hj : j ≤ t.size) (h : piece t i j = u ++ v) :
    i + u.length ≤ j ∧ piece t i (i + u.length) = u ∧ piece t (i + u.length) j = v := by
  have hlen := length_piece hij hj
  rw [h, List.length_append] at hlen
  have hk : i + u.length ≤ j := by omega
  have hsplit := piece_append (t := t) (Nat.le_add_right i u.length) hk
  rw [h] at hsplit
  have hulen : (piece t i (i + u.length)).length = u.length := by
    rw [length_piece (Nat.le_add_right _ _) (by omega)]
    omega
  obtain ⟨hu, hv⟩ := List.append_inj hsplit hulen
  exact ⟨hk, hu, hv⟩

/-- The pieces from place `i` to place `j` of a text that lie in a language. -/
def PieceIn (t : Subject) (L : Language Char) (i j : Nat) : Prop :=
  i ≤ j ∧ j ≤ t.size ∧ piece t i j ∈ L

theorem pieceIn_one {t : Subject} {i j : Nat} :
    PieceIn t 1 i j ↔ i = j ∧ i ≤ t.size := by
  unfold PieceIn
  rw [Language.mem_one]
  constructor
  · rintro ⟨hij, hj, h⟩
    have := length_piece hij hj
    rw [h] at this
    exact ⟨by simp at this; omega, by omega⟩
  · rintro ⟨rfl, hi⟩
    exact ⟨Nat.le_refl i, hi, by simp [piece]⟩

/-- A piece of a concatenation splits into a piece of each language, one after the other. -/
theorem pieceIn_mul {t : Subject} {L M : Language Char} {P Q : Nat → Nat → Prop}
    (hP : ∀ i j, P i j ↔ PieceIn t L i j) (hQ : ∀ i j, Q i j ↔ PieceIn t M i j) {i j : Nat} :
    (∃ k, P i k ∧ Q k j) ↔ PieceIn t (L * M) i j := by
  simp only [hP, hQ, PieceIn, Language.mem_mul]
  constructor
  · rintro ⟨k, ⟨hik, hk, hu⟩, ⟨hkj, hj, hv⟩⟩
    exact ⟨by omega, hj, _, hu, _, hv, piece_append hik hkj⟩
  · rintro ⟨hij, hj, u, hu, v, hv, huv⟩
    obtain ⟨hk, hpu, hpv⟩ := piece_eq_append hij hj huv.symm
    refine ⟨i + u.length, ⟨Nat.le_add_right _ _, by omega, ?_⟩, ⟨hk, hj, ?_⟩⟩
    · rw [hpu]
      exact hu
    · rw [hpv]
      exact hv

/-! ## The language of a node -/

namespace Node

/-- The node has no assertion. -/
def lookFree : Node → Bool
  | .look _ => false
  | .cat a b | .alt a b => a.lookFree && b.lookFree
  | .rep a _ _ => a.lookFree
  | _ => true

/-- The texts the node matches, when it has no assertion. -/
def lang : Node → Language Char
  | .empty => 1
  | .chars s => {w | ∃ c, w = [c] ∧ s.contains c = true}
  | .look _ => 1
  | .cat a b => a.lang * b.lang
  | .alt a b => a.lang + b.lang
  | .rep a lo hi => {w | ∃ m, lo ≤ m ∧ (∀ h ∈ hi, m ≤ h) ∧ w ∈ a.lang ^ m}

@[simp] theorem mem_lang_empty {w : List Char} : w ∈ Node.empty.lang ↔ w = [] :=
  Language.mem_one w

@[simp] theorem mem_lang_chars {s : CharSet} {w : List Char} :
    w ∈ (Node.chars s).lang ↔ ∃ c, w = [c] ∧ s.contains c = true := Iff.rfl

@[simp] theorem mem_lang_cat {a b : Node} {w : List Char} :
    w ∈ (cat a b).lang ↔ ∃ u ∈ a.lang, ∃ v ∈ b.lang, u ++ v = w := Language.mem_mul

@[simp] theorem mem_lang_alt {a b : Node} {w : List Char} :
    w ∈ (alt a b).lang ↔ w ∈ a.lang ∨ w ∈ b.lang := Language.mem_add _ _ _

@[simp] theorem mem_lang_rep {a : Node} {lo : Nat} {hi : Option Nat} {w : List Char} :
    w ∈ (rep a lo hi).lang ↔ ∃ m, lo ≤ m ∧ (∀ h ∈ hi, m ≤ h) ∧ w ∈ a.lang ^ m := Iff.rfl

/-- `m` characters of a class. -/
theorem mem_lang_chars_pow {s : CharSet} :
    ∀ (m : Nat) {w : List Char}, w ∈ (Node.chars s).lang ^ m ↔
      w.length = m ∧ ∀ c ∈ w, s.contains c = true
  | 0, w => by
    rw [pow_zero, Language.mem_one]
    constructor
    · rintro rfl
      simp
    · rintro ⟨h, -⟩
      exact List.eq_nil_of_length_eq_zero h
  | m + 1, w => by
    rw [pow_succ', Language.mem_mul]
    constructor
    · rintro ⟨_, ⟨c, rfl, hc⟩, v, hv, rfl⟩
      obtain ⟨hlen, hall⟩ := (mem_lang_chars_pow m).1 hv
      refine ⟨by simp [hlen], fun x hx => ?_⟩
      rcases List.mem_cons.1 hx with rfl | hx
      · exact hc
      · exact hall x hx
    · rintro ⟨hlen, hall⟩
      cases w with
      | nil => simp at hlen
      | cons c v =>
        refine ⟨[c], ⟨c, rfl, hall c (by simp)⟩, v, (mem_lang_chars_pow m).2 ⟨?_, ?_⟩, rfl⟩
        · simpa using hlen
        · exact fun x hx => hall x (List.mem_cons_of_mem c hx)

/-- Any number of characters of a class. -/
theorem mem_lang_star_chars {s : CharSet} {w : List Char} :
    w ∈ (star (.chars s)).lang ↔ ∀ c ∈ w, s.contains c = true := by
  simp only [star, mem_lang_rep, mem_lang_chars_pow]
  constructor
  · rintro ⟨m, -, -, -, h⟩
    exact h
  · intro h
    exact ⟨w.length, Nat.zero_le _, by simp, rfl, h⟩

/-- At least one character of a class. -/
theorem mem_lang_plus_chars {s : CharSet} {w : List Char} :
    w ∈ (plus (.chars s)).lang ↔ w ≠ [] ∧ ∀ c ∈ w, s.contains c = true := by
  simp only [plus, mem_lang_rep, mem_lang_chars_pow]
  constructor
  · rintro ⟨m, hm, -, hlen, h⟩
    exact ⟨fun hw => by simp [hw] at hlen; omega, h⟩
  · rintro ⟨hne, h⟩
    exact ⟨w.length, List.length_pos_iff.2 hne, by simp, rfl, h⟩

@[simp] theorem mem_lang_char {c : Char} {w : List Char} : w ∈ (Node.char c).lang ↔ w = [c] := by
  simp only [char, mem_lang_chars, CharSet.contains_single, Char.toNat_inj]
  constructor
  · rintro ⟨d, rfl, rfl⟩
    rfl
  · rintro rfl
    exact ⟨c, rfl, rfl⟩

theorem steps_iff_pieceIn {t : Subject} {a : Node}
    (ha : ∀ i j, a.Spans t i j ↔ PieceIn t a.lang i j) :
    ∀ m i j, Steps t.size (a.Spans t) m i j ↔ PieceIn t (a.lang ^ m) i j
  | 0, i, j => by rw [pow_zero, pieceIn_one]; rfl
  | m + 1, i, j => by
    rw [pow_succ']
    exact pieceIn_mul ha (steps_iff_pieceIn ha m)

/-- A node without assertions spans exactly the pieces of the text in its language. -/
theorem spans_iff_pieceIn (t : Subject) :
    ∀ r : Node, r.lookFree = true → ∀ i j, r.Spans t i j ↔ PieceIn t r.lang i j
  | .empty, _, i, j => by rw [lang, pieceIn_one]; rfl
  | .chars s, _, i, j => by
    simp only [Spans, lang, PieceIn]
    constructor
    · rintro ⟨rfl, c, hc, hs⟩
      have := (Array.getElem?_eq_some_iff.1 hc).1
      exact ⟨by omega, by omega, c, piece_succ hc, hs⟩
    · rintro ⟨hij, hj, c, hc, hs⟩
      have hlen := length_piece hij hj
      rw [hc] at hlen
      have hji : j = i + 1 := by simp at hlen; omega
      subst hji
      have hi : i < t.size := by omega
      have hpiece := piece_succ (Array.getElem?_eq_getElem hi)
      rw [hc, List.singleton_inj] at hpiece
      exact ⟨rfl, c, by rw [Array.getElem?_eq_getElem hi, hpiece], hs⟩
  | .look _, h, _, _ => by simp [lookFree] at h
  | .cat a b, h, i, j => by
    simp only [lookFree, Bool.and_eq_true] at h
    exact pieceIn_mul (spans_iff_pieceIn t a h.1) (spans_iff_pieceIn t b h.2)
  | .alt a b, h, i, j => by
    simp only [lookFree, Bool.and_eq_true] at h
    simp only [Spans, spans_iff_pieceIn t a h.1, spans_iff_pieceIn t b h.2, PieceIn, lang,
      Language.mem_add]
    constructor
    · rintro (⟨hij, hj, hw⟩ | ⟨hij, hj, hw⟩)
      · exact ⟨hij, hj, .inl hw⟩
      · exact ⟨hij, hj, .inr hw⟩
    · rintro ⟨hij, hj, hw | hw⟩
      · exact .inl ⟨hij, hj, hw⟩
      · exact .inr ⟨hij, hj, hw⟩
  | .rep a lo hi, h, i, j => by
    simp only [lookFree] at h
    have hsteps := steps_iff_pieceIn (spans_iff_pieceIn t a h)
    simp only [Spans, hsteps, PieceIn, lang]
    constructor
    · rintro ⟨m, hlo, hhi, hij, hj, hw⟩
      exact ⟨hij, hj, m, hlo, hhi, hw⟩
    · rintro ⟨hij, hj, m, hlo, hhi, hw⟩
      exact ⟨m, hlo, hhi, hij, hj, hw⟩

/-! ## Sequences -/

theorem seq_cons_cons (a b : Node) (rest : List Node) :
    seq (a :: b :: rest) = .cat a (seq (b :: rest)) := rfl

/-- A sequence spans a span of each part in turn. -/
theorem spans_seq_append {t : Subject} (xs : List Node) (hxs : xs ≠ []) (z : Node) {i j : Nat} :
    (seq (xs ++ [z])).Spans t i j ↔ ∃ k, (seq xs).Spans t i k ∧ z.Spans t k j := by
  induction xs generalizing i with
  | nil => exact absurd rfl hxs
  | cons a xs ih =>
    cases xs with
    | nil => rfl
    | cons b xs =>
      simp only [List.cons_append, seq_cons_cons, Spans]
      simp only [← List.cons_append, ih (List.cons_ne_nil b xs)]
      constructor
      · rintro ⟨k, hik, l, hkl, hlj⟩
        exact ⟨l, ⟨k, hik, hkl⟩, hlj⟩
      · rintro ⟨l, ⟨k, hik, hkl⟩, hlj⟩
        exact ⟨k, hik, l, hkl, hlj⟩

/-- Splitting a sequence into two runs of parts splits its language into a product. -/
theorem lang_seq_append {xs ys : List Node} (hxs : xs ≠ []) (hys : ys ≠ []) :
    (seq (xs ++ ys)).lang = (seq xs).lang * (seq ys).lang := by
  induction xs with
  | nil => exact absurd rfl hxs
  | cons a xs ih =>
    cases xs with
    | nil =>
      obtain ⟨b, ys, rfl⟩ := List.exists_cons_of_ne_nil hys
      rfl
    | cons b xs =>
      rw [List.cons_append, List.cons_append, seq_cons_cons, seq_cons_cons, lang, lang,
        ← List.cons_append, ih (List.cons_ne_nil b xs), mul_assoc]

/-- A text is in the language of a sequence when it is made of one text of each part's
language, in turn. -/
theorem mem_lang_seq {ns : List Node} {w : List Char} :
    w ∈ (seq ns).lang ↔ ∃ ws, List.Forall₂ (fun n u => u ∈ n.lang) ns ws ∧ w = ws.flatten := by
  induction ns generalizing w with
  | nil => simp [seq, lang, Language.mem_one]
  | cons a ns ih =>
    cases ns with
    | nil =>
      simp only [seq, List.forall₂_cons_left_iff, List.forall₂_nil_left_iff]
      constructor
      · intro hw
        exact ⟨[w], ⟨w, [], hw, rfl, rfl⟩, by simp⟩
      · rintro ⟨ws, ⟨u, _, hu, rfl, rfl⟩, rfl⟩
        simpa using hu
    | cons b ns =>
      rw [seq_cons_cons, lang, Language.mem_mul]
      simp only [ih, List.forall₂_cons_left_iff]
      constructor
      · rintro ⟨u, hu, v, ⟨vs, hvs, rfl⟩, rfl⟩
        exact ⟨u :: vs, ⟨u, vs, hu, hvs, rfl⟩, by simp⟩
      · rintro ⟨ws, ⟨u, vs, hu, hvs, rfl⟩, rfl⟩
        exact ⟨u, hu, vs.flatten, ⟨vs, hvs, rfl⟩, by simp⟩

/-- A literal matches its own characters and nothing else. -/
theorem mem_lang_literal {str : String} {w : List Char} :
    w ∈ (literal str).lang ↔ w = str.toList := by
  rw [literal, mem_lang_seq]
  suffices h : ∀ cs w : List Char,
      (∃ ws, List.Forall₂ (fun n u => u ∈ n.lang) (cs.map char) ws ∧ w = ws.flatten) ↔ w = cs from
    h _ _
  intro cs
  induction cs with
  | nil => simp
  | cons c cs ih =>
    intro w
    simp only [List.map_cons, List.forall₂_cons_left_iff, mem_lang_char]
    constructor
    · rintro ⟨_, ⟨_, vs, rfl, hvs, rfl⟩, rfl⟩
      simp [(ih _).1 ⟨vs, hvs, rfl⟩]
    · rintro rfl
      obtain ⟨vs, hvs, hflat⟩ := (ih cs).2 rfl
      exact ⟨[c] :: vs, ⟨[c], vs, rfl, hvs, rfl⟩, by simp [← hflat]⟩

/-- A node without assertions matches somewhere in a text exactly when some text of its language
stands in it. -/
theorem isMatch_iff_infix {r : Node} (hwb : r.wellBounded = true) (hfree : r.lookFree = true)
    (s : String) : r.isMatch s = true ↔ ∃ w ∈ r.lang, w <:+: s.toList := by
  rw [isMatch_iff_spans hwb]
  simp only [spans_iff_pieceIn _ r hfree, PieceIn]
  constructor
  · rintro ⟨i, j, -, -, hw⟩
    exact ⟨_, hw, by simpa using piece_infix s.toList.toArray i j⟩
  · rintro ⟨w, hw, a, b, hab⟩
    have hsize : s.toList.toArray.size = a.length + w.length + b.length := by
      simp only [← hab, List.size_toArray, List.length_append]
    have hpiece : piece s.toList.toArray a.length (a.length + w.length) = w := by
      simp [piece, ← hab]
    refine ⟨a.length, a.length + w.length, by omega, by omega, ?_⟩
    rwa [hpiece]

end Node

end ConsoleSweep.Regex
