-- The UTF-8 forms of a range of code points, as sequences of byte ranges. A range whose forms
-- all have one length, and whose first and last forms differ only in bytes after which every
-- continuation value is taken, is one sequence: the bytes of its first point paired with those
-- of its last. Any other range is cut until its pieces are of that kind: first around the
-- surrogates, which have no UTF-8 form, then where the length of the form changes, then at the
-- boundaries of the blocks that a continuation byte spans, the smallest block first. The
-- sequences come in the order of the points they cover.
import ConsoleSweep.Regex.CharSet
namespace ConsoleSweep.Regex

/-- The UTF-8 form of a code point, as its bytes. -/
def utf8Encode (c : Nat) : List Nat :=
  if c < 0x80 then [c]
  else if c < 0x800 then [0xC0 + c / 64, 0x80 + c % 64]
  else if c < 0x10000 then [0xE0 + c / 4096, 0x80 + c / 64 % 64, 0x80 + c % 64]
  else [0xF0 + c / 262144, 0x80 + c / 4096 % 64, 0x80 + c / 64 % 64, 0x80 + c % 64]

/-- The number of bytes in the UTF-8 form of a code point. -/
def utf8Length (c : Nat) : Nat :=
  if c < 0x80 then 1 else if c < 0x800 then 2 else if c < 0x10000 then 3 else 4

/-- One inclusive range of bytes for each byte of a UTF-8 form. -/
abbrev ByteSeq := List (Nat × Nat)

/-- Where the length of the form changes inside `[s, e]`: the last point of the shorter forms. -/
def lengthCut (s e : Nat) : Option Nat :=
  [0x7F, 0x7FF, 0xFFFF].find? fun m => s ≤ m && m < e

/-- Where `[s, e]` must be cut so that each piece starts and ends on the boundaries of the
blocks of `64`, `64 ^ 2` and `64 ^ 3` points that it leaves: for the smallest block size at
which the ends fall in different blocks and one end is not on a boundary, the last point
before the boundary next to that end. -/
def blockCut (s e : Nat) : Option Nat :=
  go [64, 4096, 262144]
where
  go : List Nat → Option Nat
    | [] => none
    | b :: bs =>
      if s / b != e / b then
        if s % b != 0 then some (s / b * b + b - 1)
        else if e % b != b - 1 then some (e / b * b - 1)
        else go bs
      else go bs

/-- The greatest depth of cutting needed: one cut for the surrogates, three where the length
changes, and two for each of the three block sizes, with room to spare. -/
def cutDepth : Nat := 32

/-- The sequences of the points `[s, e]` that are not surrogates, in order; `fuel` bounds the
depth of cutting. -/
def sequencesOf : Nat → Nat → Nat → List ByteSeq
  | 0, _, _ => []
  | fuel + 1, s, e =>
    if s < 0xE000 && 0xD7FF < e then sequencesOf fuel s 0xD7FF ++ sequencesOf fuel 0xE000 e
    else if e < s then []
    else match lengthCut s e with
      | some m => sequencesOf fuel s m ++ sequencesOf fuel (m + 1) e
      | none =>
        if e ≤ 0x7F then [[(s, e)]]
        else match blockCut s e with
          | some m => sequencesOf fuel s m ++ sequencesOf fuel (m + 1) e
          | none => [List.zip (utf8Encode s) (utf8Encode e)]

/-- The sequences of every range of a set, in order. -/
def CharSet.sequences (cs : CharSet) : List ByteSeq :=
  cs.ranges.toList.flatMap fun (s, e) => sequencesOf cutDepth s e

end ConsoleSweep.Regex
