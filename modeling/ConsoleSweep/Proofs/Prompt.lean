-- The prompt over bytes. The question is written whatever the input holds, and the answer is
-- yes exactly when the first line of input, through its line feed, is UTF-8 and lower-cases,
-- once trimmed, to `y` or `yes`. Nothing after the first line feed reaches the answer. On the
-- UTF-8 bytes of some characters it answers as the prompt over those characters, and leaves the
-- bytes of the characters that prompt leaves.
import ConsoleSweep.Prompt
import ConsoleSweep.Proofs.Lower
import ConsoleSweep.Proofs.Utf8

namespace ConsoleSweep.Prompt

open Text

/-! ## The first line -/

/-- The first line of some bytes: the bytes before the first line feed, and the line feed if
there is one. -/
def firstLine (b : List UInt8) : List UInt8 :=
  b.takeWhile (· != 10) ++ (b.dropWhile (· != 10)).take 1

theorem drop_length_takeWhile {α : Type} (p : α → Bool) (b : List α) :
    b.drop (b.takeWhile p).length = b.dropWhile p := by
  induction b with
  | nil => rfl
  | cons x xs ih =>
    by_cases hx : p x
    · simp [hx, ih]
    · simp [hx]

theorem splitLineBytes_eq (b : List UInt8) :
    splitLineBytes b = (firstLine b, (b.dropWhile (· != 10)).drop 1) := by
  unfold splitLineBytes firstLine
  dsimp only
  rw [drop_length_takeWhile]
  cases b.dropWhile (· != 10) <;> simp

theorem firstLine_eq_nil_iff (b : List UInt8) : firstLine b = [] ↔ b = [] := by
  cases b with
  | nil => rfl
  | cons x xs => by_cases hx : x = 10 <;> simp [firstLine, hx]

/-- The first line of a first line is itself. -/
theorem firstLine_firstLine (b : List UInt8) : firstLine (firstLine b) = firstLine b := by
  induction b with
  | nil => rfl
  | cons x xs ih =>
    by_cases hx : x = 10
    · simp [firstLine, hx]
    · have hstep : ∀ l, firstLine (x :: l) = x :: firstLine l := fun l => by
        simp [firstLine, hx]
      rw [hstep, hstep, ih]

/-- Input that is not used up gives its first line, read as UTF-8, and the bytes after it. -/
theorem readLine_of_ne_nil {b : List UInt8} (h : b ≠ []) :
    readLine b = ((decodeUtf8 (splitLineBytes b).1).map some, (splitLineBytes b).2) := by
  obtain ⟨x, xs, rfl⟩ := List.exists_cons_of_ne_nil h
  rfl

/-! ## One question -/

/-- With a writer that works, the question is written, the line is used up, and the answer is
read from the line. -/
theorem confirm_of_writer (b : List UInt8) (w m : String) :
    Gate.confirm ⟨b, w, false⟩ m =
      (match (readLine b).1 with
        | .ok (some line) => isYes line
        | _ => false,
       ⟨(readLine b).2, w ++ shown m, false⟩) := by
  unfold Gate.confirm
  rcases readLine b with ⟨_ | _ | line, rest⟩ <;> rfl

/-- The answer is yes exactly when there is input and its first line reads as UTF-8 to a line
that says yes. -/
theorem confirm_eq_true_iff (b : List UInt8) (w m : String) :
    (Gate.confirm ⟨b, w, false⟩ m).1 = true ↔
      b ≠ [] ∧ ∃ s, decodeUtf8 (firstLine b) = .ok s ∧ isYes s = true := by
  rw [confirm_of_writer]
  cases b with
  | nil => simp [readLine]
  | cons x xs =>
    rw [readLine_of_ne_nil (List.cons_ne_nil x xs), splitLineBytes_eq]
    cases decodeUtf8 (firstLine (x :: xs)) <;> simp [Except.map]

/-- Yes read through lower case: ASCII lower-casing decides it as lower case does. -/
theorem isYes_iff (line : String) :
    isYes line = true ↔ toLowercase (trim line) = "y" ∨ toLowercase (trim line) = "yes" := by
  rw [toLowercase_eq_iff (by simp), toLowercase_eq_iff (by simp)]
  simp [isYes]

/-- The prompt over bytes, with a writer that works: it writes the question and ` [y/N] `, and
says yes exactly when there is input whose first line, through its line feed, is UTF-8 and
lower-cases once trimmed to `y` or `yes`; the answer is the one the first line alone gives. -/
theorem confirm_yes_iff_first_line (m : String) (b : List UInt8) (w : String) :
    (Gate.confirm ⟨b, w, false⟩ m).2.written = w ++ (m ++ " [y/N] ") ∧
    ((Gate.confirm ⟨b, w, false⟩ m).1 = true ↔ b ≠ [] ∧ ∃ s, decodeUtf8 (firstLine b) = .ok s ∧
      (toLowercase (trim s) = "y" ∨ toLowercase (trim s) = "yes")) ∧
    (Gate.confirm ⟨b, w, false⟩ m).1 = (Gate.confirm ⟨firstLine b, w, false⟩ m).1 := by
  refine ⟨by rw [confirm_of_writer]; rfl, ?_, ?_⟩
  · rw [confirm_eq_true_iff]
    simp only [isYes_iff]
  · apply Bool.eq_iff_iff.2
    rw [confirm_eq_true_iff, confirm_eq_true_iff, firstLine_firstLine, Ne, Ne,
      firstLine_eq_nil_iff]

/-! ## Over characters and over bytes -/

theorem utf8EncodeChar_feed : String.utf8EncodeChar '\n' = [10] := rfl

/-- A character other than the line feed has no line feed among its bytes. -/
theorem ne_feed_of_mem_utf8EncodeChar {c : Char} (hc : c ≠ '\n') :
    ∀ b ∈ String.utf8EncodeChar c, (b != 10) = true := by
  have hv : c.val.toNat ≠ 10 := fun h => hc (Char.toNat_inj.1 h)
  intro b hb
  rw [bne_iff_ne, ne_eq]
  rintro rfl
  -- Read each byte as a number: the one byte of an ASCII character is its code point, and every
  -- byte of a longer character is at least `80`.
  simp only [String.utf8EncodeChar] at hb
  split_ifs at hb <;>
    simp only [List.mem_cons, List.not_mem_nil, or_false, ← UInt8.toNat_inj, UInt8.toNat_ofNat,
      UInt8.toNat_ofNat', Nat.reducePow] at hb <;>
    omega

/-- The bytes before the first line feed are the bytes of the characters before it. -/
theorem takeWhile_flatMap_utf8EncodeChar (cs : List Char) :
    (cs.flatMap String.utf8EncodeChar).takeWhile (· != 10) =
      (cs.takeWhile (· != '\n')).flatMap String.utf8EncodeChar := by
  induction cs with
  | nil => rfl
  | cons c cs ih =>
    by_cases hc : c = '\n'
    · subst hc
      simp [utf8EncodeChar_feed]
    · rw [List.flatMap_cons, List.takeWhile_append_of_pos (ne_feed_of_mem_utf8EncodeChar hc), ih,
        List.takeWhile_cons_of_pos (by simpa using hc), List.flatMap_cons]

/-- The bytes from the first line feed on are the bytes of the characters from it on. -/
theorem dropWhile_flatMap_utf8EncodeChar (cs : List Char) :
    (cs.flatMap String.utf8EncodeChar).dropWhile (· != 10) =
      (cs.dropWhile (· != '\n')).flatMap String.utf8EncodeChar := by
  induction cs with
  | nil => rfl
  | cons c cs ih =>
    by_cases hc : c = '\n'
    · subst hc
      simp [utf8EncodeChar_feed]
    · rw [List.flatMap_cons, List.dropWhile_append_of_pos (ne_feed_of_mem_utf8EncodeChar hc), ih,
        List.dropWhile_cons_of_pos (by simpa using hc)]

/-- What is left from the first line feed on starts with it, if anything is left. -/
theorem dropWhile_feed (cs : List Char) :
    cs.dropWhile (· != '\n') = [] ∨ ∃ r, cs.dropWhile (· != '\n') = '\n' :: r := by
  rcases h : cs.dropWhile (· != '\n') with _ | ⟨d, r⟩
  · exact Or.inl rfl
  · have hne : cs.dropWhile (· != '\n') ≠ [] := by simp [h]
    have hd := List.head_dropWhile_not (· != '\n') hne
    simp only [h, List.head_cons, bne_eq_false_iff_eq] at hd
    exact Or.inr ⟨r, by rw [hd]⟩

/-- The next line of characters, through its line feed, and what follows it. -/
theorem nextLine_eq {cs : List Char} (h : cs ≠ []) :
    nextLine cs = some (cs.takeWhile (· != '\n') ++ (cs.dropWhile (· != '\n')).take 1,
      (cs.dropWhile (· != '\n')).drop 1) := by
  obtain ⟨c, cs', rfl⟩ := List.exists_cons_of_ne_nil h
  unfold nextLine
  dsimp only
  rw [drop_length_takeWhile]
  rcases dropWhile_feed (c :: cs') with hd | ⟨r, hd⟩ <;> simp [hd]

/-- Bytes of characters read as UTF-8 give the characters back. -/
theorem decodeUtf8_flatMap_utf8EncodeChar (cs : List Char) :
    decodeUtf8 (cs.flatMap String.utf8EncodeChar) = .ok (String.ofList cs) := by
  have h := decodeUtf8_utf8Bytes (String.ofList cs)
  rwa [utf8Bytes_eq_flatMap, String.toList_ofList] at h

/-- The first line of the bytes of characters is the bytes of their first line, and what follows
it the bytes of what follows theirs. -/
theorem splitLineBytes_flatMap_utf8EncodeChar (cs : List Char) :
    splitLineBytes (cs.flatMap String.utf8EncodeChar) =
      ((cs.takeWhile (· != '\n') ++ (cs.dropWhile (· != '\n')).take 1).flatMap
          String.utf8EncodeChar,
        ((cs.dropWhile (· != '\n')).drop 1).flatMap String.utf8EncodeChar) := by
  rw [splitLineBytes_eq, firstLine, takeWhile_flatMap_utf8EncodeChar,
    dropWhile_flatMap_utf8EncodeChar, List.flatMap_append]
  rcases dropWhile_feed cs with hd | ⟨r, hd⟩ <;> simp [hd, utf8EncodeChar_feed]

/-- On UTF-8 input the prompt over bytes answers as the prompt over characters does, and leaves
the bytes of the characters that it leaves. -/
theorem confirm_utf8_eq_ask (m w : String) (cs : List Char) :
    Gate.confirm ⟨cs.flatMap String.utf8EncodeChar, w, false⟩ m =
      ((ask cs).1, ⟨(ask cs).2.flatMap String.utf8EncodeChar, w ++ shown m, false⟩) := by
  rw [confirm_of_writer]
  cases cs with
  | nil => rfl
  | cons c cs =>
    have hne : (c :: cs).flatMap String.utf8EncodeChar ≠ [] := by
      simp [String.utf8EncodeChar_ne_nil]
    rw [ask, nextLine_eq (List.cons_ne_nil c cs), readLine_of_ne_nil hne,
      splitLineBytes_flatMap_utf8EncodeChar, decodeUtf8_flatMap_utf8EncodeChar]
    rfl

end ConsoleSweep.Prompt
