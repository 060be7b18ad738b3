-- Reading back what was written: the UTF-8 bytes of a text read as that text. Each character's
-- bytes fall in the windows that the strict reader accepts for a lead byte of their length, so
-- the reader takes exactly them and rebuilds the character's code point.
import Mathlib.Tactic.SplitIfs
import ConsoleSweep.Text.Utf8

namespace ConsoleSweep.Text

/-! ## The windows of the reader -/

theorem decodeFirst_one {b : UInt8} (rest : List UInt8) (hb : b.toNat < 0x80) :
    decodeFirst (b :: rest) = .ok (b.toNat, 1) := by
  have hb' : b < 0x80 := UInt8.lt_iff_toNat_lt.2 hb
  simp [decodeFirst, hb']

theorem decodeFirst_two {b c : UInt8} (rest : List UInt8)
    (hb : 0xC2 ≤ b.toNat ∧ b.toNat ≤ 0xDF) (hc : 0x80 ≤ c.toNat ∧ c.toNat ≤ 0xBF) :
    decodeFirst (b :: c :: rest) = .ok ((b.toNat - 0xC0) * 64 + (c.toNat - 0x80), 2) := by
  -- The lead byte is past ASCII and in the window of two-byte characters, and the second byte
  -- continues it.
  have hlead : ¬b < 0x80 := by
    simp only [UInt8.lt_iff_toNat_lt, UInt8.reduceToNat]
    omega
  have hwindow : (0xC2 ≤ b && b ≤ 0xDF) = true := by
    simp only [Bool.and_eq_true, decide_eq_true_eq, UInt8.le_iff_toNat_le, UInt8.reduceToNat]
    omega
  have hcont : isCont c = true := by
    simp only [isCont, Bool.and_eq_true, decide_eq_true_eq, UInt8.le_iff_toNat_le,
      UInt8.reduceToNat]
    omega
  simp only [decodeFirst, hlead, hwindow, hcont, if_false, if_true]

/-- A three-byte character: its second byte is narrowed after `E0` (no overlong form) and after
`ED` (no surrogate). -/
theorem decodeFirst_three {b c d : UInt8} (rest : List UInt8)
    (hb : 0xE0 ≤ b.toNat ∧ b.toNat ≤ 0xEF)
    (hc : (b.toNat = 0xE0 → 0xA0 ≤ c.toNat) ∧ (b.toNat = 0xED → c.toNat ≤ 0x9F) ∧
      0x80 ≤ c.toNat ∧ c.toNat ≤ 0xBF)
    (hd : 0x80 ≤ d.toNat ∧ d.toNat ≤ 0xBF) :
    decodeFirst (b :: c :: d :: rest) =
      .ok ((b.toNat - 0xE0) * 4096 + (c.toNat - 0x80) * 64 + (d.toNat - 0x80), 3) := by
  simp only [decodeFirst, isCont, UInt8.lt_iff_toNat_lt, UInt8.le_iff_toNat_le, beq_iff_eq,
    ← UInt8.toNat_inj, UInt8.reduceToNat, Bool.and_eq_true, decide_eq_true_eq, Bool.not_eq_true']
  split_ifs <;> simp_all <;> omega

/-- A four-byte character: its second byte is narrowed after `F0` (no overlong form) and after
`F4` (nothing past the greatest code point). -/
theorem decodeFirst_four {b c d e : UInt8} (rest : List UInt8)
    (hb : 0xF0 ≤ b.toNat ∧ b.toNat ≤ 0xF4)
    (hc : (b.toNat = 0xF0 → 0x90 ≤ c.toNat) ∧ (b.toNat = 0xF4 → c.toNat ≤ 0x8F) ∧
      0x80 ≤ c.toNat ∧ c.toNat ≤ 0xBF)
    (hd : 0x80 ≤ d.toNat ∧ d.toNat ≤ 0xBF) (he : 0x80 ≤ e.toNat ∧ e.toNat ≤ 0xBF) :
    decodeFirst (b :: c :: d :: e :: rest) =
      .ok ((b.toNat - 0xF0) * 262144 + (c.toNat - 0x80) * 4096 + (d.toNat - 0x80) * 64 +
        (e.toNat - 0x80), 4) := by
  simp only [decodeFirst, isCont, UInt8.lt_iff_toNat_lt, UInt8.le_iff_toNat_le, beq_iff_eq,
    ← UInt8.toNat_inj, UInt8.reduceToNat, Bool.and_eq_true, decide_eq_true_eq, Bool.not_eq_true']
  split_ifs <;> simp_all <;> omega

/-! ## One character -/

/-- The bytes of a character, whatever follows them, read as that character and as many bytes as
it takes. -/
theorem decodeFirst_utf8EncodeChar (c : Char) (rest : List UInt8) :
    decodeFirst (String.utf8EncodeChar c ++ rest) = .ok (c.toNat, c.utf8Size) := by
  -- A character is no surrogate and no greater than `10FFFF`: that is what lets its bytes
  -- pass the narrowed windows after `ED` and `F4`.
  have hvalid : c.toNat < 0xD800 ∨ (0xDFFF < c.toNat ∧ c.toNat < 0x110000) := c.valid
  have hv : c.toNat = c.val.toNat := rfl
  simp only [String.utf8EncodeChar]
  split_ifs with h1 h2 h3
  · have hsize : c.utf8Size = 1 :=
      Char.utf8Size_eq_one_iff.2 (UInt32.le_iff_toNat_le.2 (by simpa using h1))
    have hb := UInt8.toNat_ofNat_of_lt' (n := c.val.toNat) (show _ < 256 by omega)
    rw [List.cons_append, List.nil_append, decodeFirst_one rest (by omega), hb, hsize, hv]
  · have hsize : c.utf8Size = 2 := Char.utf8Size_eq_two_iff.2
      ⟨UInt32.lt_iff_toNat_lt.2 (by simp; omega), UInt32.le_iff_toNat_le.2 (by simpa using h2)⟩
    have hb := UInt8.toNat_ofNat_of_lt' (n := c.val.toNat / 64 % 32 + 192) (show _ < 256 by omega)
    have hb2 := UInt8.toNat_ofNat_of_lt' (n := c.val.toNat % 64 + 128) (show _ < 256 by omega)
    rw [List.cons_append, List.cons_append, List.nil_append,
      decodeFirst_two rest (by omega) (by omega), hb, hb2, hsize]
    simp only [Except.ok.injEq, Prod.mk.injEq, and_true]
    omega
  · have hsize : c.utf8Size = 3 := Char.utf8Size_eq_three_iff.2
      ⟨UInt32.lt_iff_toNat_lt.2 (by simp; omega), UInt32.le_iff_toNat_le.2 (by simpa using h3)⟩
    have hb := UInt8.toNat_ofNat_of_lt' (n := c.val.toNat / 4096 % 16 + 224) (show _ < 256 by omega)
    have hb2 := UInt8.toNat_ofNat_of_lt' (n := c.val.toNat / 64 % 64 + 128) (show _ < 256 by omega)
    have hb3 := UInt8.toNat_ofNat_of_lt' (n := c.val.toNat % 64 + 128) (show _ < 256 by omega)
    rw [List.cons_append, List.cons_append, List.cons_append, List.nil_append,
      decodeFirst_three rest (by omega) (by omega) (by omega), hb, hb2, hb3, hsize]
    simp only [Except.ok.injEq, Prod.mk.injEq, and_true]
    omega
  · have hsize : c.utf8Size = 4 :=
      Char.utf8Size_eq_four_iff.2 (UInt32.lt_iff_toNat_lt.2 (by simp; omega))
    have hb := UInt8.toNat_ofNat_of_lt' (n := c.val.toNat / 262144 % 8 + 240)
      (show _ < 256 by omega)
    have hb2 := UInt8.toNat_ofNat_of_lt' (n := c.val.toNat / 4096 % 64 + 128)
      (show _ < 256 by omega)
    have hb3 := UInt8.toNat_ofNat_of_lt' (n := c.val.toNat / 64 % 64 + 128) (show _ < 256 by omega)
    have hb4 := UInt8.toNat_ofNat_of_lt' (n := c.val.toNat % 64 + 128) (show _ < 256 by omega)
    rw [List.cons_append, List.cons_append, List.cons_append, List.cons_append, List.nil_append,
      decodeFirst_four rest (by omega) (by omega) (by omega) (by omega), hb, hb2, hb3, hb4, hsize]
    simp only [Except.ok.injEq, Prod.mk.injEq, and_true]
    omega

/-! ## A whole text -/

theorem byteArray_toList_loop (bs : ByteArray) (i : Nat) (r : List UInt8) :
    ByteArray.toList.loop bs i r = r.reverse ++ bs.data.toList.drop i := by
  fun_induction ByteArray.toList.loop bs i r with
  | case1 i r h ih =>
    have hi : i < bs.data.toList.length := by simpa using h
    rw [ih, List.drop_eq_getElem_cons hi]
    simp [ByteArray.get!, h]
  | case2 i r h =>
    rw [List.drop_eq_nil_of_le (by simpa using Nat.le_of_not_lt h)]
    simp

/-- The bytes of a text are the bytes of its characters in turn. -/
theorem utf8Bytes_eq_flatMap (s : String) :
    utf8Bytes s = s.toList.flatMap String.utf8EncodeChar := by
  rw [utf8Bytes, String.toUTF8_eq_toByteArray, ← String.utf8Encode_toList, List.utf8Encode,
    ByteArray.toList, byteArray_toList_loop, List.toList_data_toByteArray]
  simp

theorem length_le_length_flatMap_utf8EncodeChar (cs : List Char) :
    cs.length ≤ (cs.flatMap String.utf8EncodeChar).length := by
  induction cs with
  | nil => simp
  | cons c cs ih =>
    have hpos := c.utf8Size_pos
    simp only [List.flatMap_cons, List.length_append, String.length_utf8EncodeChar,
      List.length_cons]
    omega

/-- The reader takes the bytes of the characters one character at a time, as long as its fuel
outlasts the characters. -/
theorem decodeUtf8_go_flatMap (cs : List Char) (pos : Nat) (acc : List Char) (fuel : Nat)
    (hfuel : cs.length < fuel) :
    decodeUtf8.go (cs.flatMap String.utf8EncodeChar) pos acc fuel =
      .ok (String.ofList (acc.reverse ++ cs)) := by
  induction cs generalizing pos acc fuel with
  | nil =>
    obtain ⟨f, rfl⟩ : ∃ f, fuel = f + 1 := ⟨fuel - 1, by simp at hfuel; omega⟩
    simp [decodeUtf8.go]
  | cons c cs ih =>
    obtain ⟨f, rfl⟩ : ∃ f, fuel = f + 1 := ⟨fuel - 1, by simp at hfuel; omega⟩
    obtain ⟨b, bs, hbs⟩ := List.exists_cons_of_ne_nil
      (List.append_ne_nil_of_left_ne_nil (String.utf8EncodeChar_ne_nil (c := c))
        (cs.flatMap String.utf8EncodeChar))
    have hfirst := decodeFirst_utf8EncodeChar c (cs.flatMap String.utf8EncodeChar)
    have hdrop : (String.utf8EncodeChar c ++ cs.flatMap String.utf8EncodeChar).drop c.utf8Size =
        cs.flatMap String.utf8EncodeChar := by
      rw [← String.length_utf8EncodeChar, List.drop_left]
    rw [hbs] at hfirst hdrop
    rw [List.flatMap_cons, hbs, decodeUtf8.go]
    · simp only [hfirst, hdrop, Char.ofNat_toNat]
      rw [ih _ _ _ (by simpa using hfuel)]
      simp
    · exact List.cons_ne_nil b bs

/-- The UTF-8 bytes of a text read back as the text. -/
theorem decodeUtf8_utf8Bytes (s : String) : decodeUtf8 (utf8Bytes s) = .ok s := by
  rw [decodeUtf8, utf8Bytes_eq_flatMap,
    decodeUtf8_go_flatMap _ _ _ _ (Nat.lt_succ_of_le (length_le_length_flatMap_utf8EncodeChar _))]
  simp

end ConsoleSweep.Text
