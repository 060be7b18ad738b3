-- Reading bytes as UTF-8. Strict reading stops at the first bad sequence and says where it
-- starts and how long it is (or that the bytes end inside a character); lenient reading puts
-- one replacement character for each maximal bad part and goes on.
namespace ConsoleSweep.Text

/-- Where and why bytes are not UTF-8: the length of the good prefix, and the length of the bad
sequence there (`none` when the bytes end in the middle of a character). -/
structure Utf8Fault where
  validUpTo : Nat
  badLength : Option Nat
deriving Repr, BEq, Inhabited

/-- The description of a fault, as said after "invalid UTF-8 encoding: ". -/
def Utf8Fault.message (f : Utf8Fault) : String :=
  match f.badLength with
  | some n => s!"invalid utf-8 sequence of {n} bytes from index {f.validUpTo}"
  | none => s!"incomplete utf-8 byte sequence from index {f.validUpTo}"

/-- A continuation byte: `10xxxxxx`. -/
def isCont (b : UInt8) : Bool := 0x80 ≤ b && b ≤ 0xBF

/-- The first character of some bytes: its code point and its length in bytes, or the length of
the bad sequence at the start (`none` when the bytes end too early). The second byte of a
three- or four-byte character has a narrower range that rules out overlong forms, surrogates
and code points past the greatest. -/
def decodeFirst : List UInt8 → Except (Option Nat) (Nat × Nat)
  | [] => .error none
  | b :: rest =>
    if b < 0x80 then .ok (b.toNat, 1)
    else if 0xC2 ≤ b && b ≤ 0xDF then
      match rest with
      | [] => .error none
      | c :: _ => if isCont c then .ok ((b.toNat - 0xC0) * 64 + (c.toNat - 0x80), 2) else .error (some 1)
    else if 0xE0 ≤ b && b ≤ 0xEF then
      match rest with
      | [] => .error none
      | c :: rest2 =>
        let okSecond := if b == 0xE0 then 0xA0 ≤ c && c ≤ 0xBF
          else if b == 0xED then 0x80 ≤ c && c ≤ 0x9F else isCont c
        if !okSecond then .error (some 1)
        else match rest2 with
          | [] => .error none
          | d :: _ =>
            if isCont d then
              .ok ((b.toNat - 0xE0) * 4096 + (c.toNat - 0x80) * 64 + (d.toNat - 0x80), 3)
            else .error (some 2)
    else if 0xF0 ≤ b && b ≤ 0xF4 then
      match rest with
      | [] => .error none
      | c :: rest2 =>
        let okSecond := if b == 0xF0 then 0x90 ≤ c && c ≤ 0xBF
          else if b == 0xF4 then 0x80 ≤ c && c ≤ 0x8F else isCont c
        if !okSecond then .error (some 1)
        else match rest2 with
          | [] => .error none
          | d :: rest3 =>
            if !isCont d then .error (some 2)
            else match rest3 with
              | [] => .error none
              | e :: _ =>
                if isCont e then
                  .ok ((b.toNat - 0xF0) * 262144 + (c.toNat - 0x80) * 4096 +
                    (d.toNat - 0x80) * 64 + (e.toNat - 0x80), 4)
                else .error (some 3)
    else .error (some 1)

/-- Reads bytes as UTF-8, or says where the first fault is. -/
def decodeUtf8 (bs : List UInt8) : Except Utf8Fault String :=
  go bs 0 [] (bs.length + 1)
where
  go (bs : List UInt8) (pos : Nat) (acc : List Char) : Nat → Except Utf8Fault String
    | 0 => .ok (String.ofList acc.reverse)
    | fuel + 1 =>
      match bs with
      | [] => .ok (String.ofList acc.reverse)
      | _ =>
        match decodeFirst bs with
        | .ok (cp, n) => go (bs.drop n) (pos + n) (Char.ofNat cp :: acc) fuel
        | .error len => .error { validUpTo := pos, badLength := len }

/-- Reads bytes as UTF-8, putting U+FFFD for each maximal bad part. -/
def decodeLossy (bs : List UInt8) : String :=
  go bs [] (bs.length + 1)
where
  go (bs : List UInt8) (acc : List Char) : Nat → String
    | 0 => String.ofList acc.reverse
    | fuel + 1 =>
      match bs with
      | [] => String.ofList acc.reverse
      | _ =>
        match decodeFirst bs with
        | .ok (cp, n) => go (bs.drop n) (Char.ofNat cp :: acc) fuel
        | .error (some n) => go (bs.drop n) ('�' :: acc) fuel
        | .error none => String.ofList ('�' :: acc).reverse

/-- The bytes of a text in UTF-8. -/
def utf8Bytes (s : String) : List UInt8 := s.toUTF8.toList

end ConsoleSweep.Text
