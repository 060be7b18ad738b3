-- How alike two words are, by Jaro's measure, and which of some words is close enough to a
-- mistyped one to be offered in its place. The measure is the mean of three ratios; each
-- division and sum is rounded as binary64 arithmetic rounds it (to nearest, ties to even), so
-- a measure that lands next to the threshold falls on the same side as on a machine. Numbers
-- are kept exactly as `mant / 2 ^ shift`, with no runtime float anywhere.
namespace ConsoleSweep.Text

/-- A non-negative number `mant / 2 ^ shift`. -/
structure Dyadic where
  mant : Nat
  shift : Nat
deriving Repr, Inhabited, DecidableEq

namespace Dyadic

/-- The greatest shift tried when scaling a number up to 53 bits: more than any normal binary64
number needs. -/
def maxShift : Nat := 1100

/-- The least shift from `s` on, within `fuel` steps, at which `n / d` scaled by `2 ^ shift`
reaches `2 ^ 52`. -/
def scaleShift (n d : Nat) (s : Nat) : Nat → Nat
  | 0 => s
  | fuel + 1 => if Nat.pow 2 52 * d ≤ n * Nat.pow 2 s then s else scaleShift n d (s + 1) fuel

/-- `n / d` rounded to 53 significant bits, to nearest with ties to even. This is binary64
rounding for positive numbers below `2 ^ 52` in the normal range: at the shift found, the
scaled number lies in `[2 ^ 52, 2 ^ 53)`, so its integer part holds exactly 53 bits. -/
def ofRatio (n d : Nat) : Dyadic :=
  if n = 0 then ⟨0, 0⟩
  else
    let s := scaleShift n d 0 maxShift
    let q := n * Nat.pow 2 s / d
    let r := n * Nat.pow 2 s % d
    let up := 2 * r > d || (2 * r == d && q % 2 == 1)
    ⟨if up then q + 1 else q, s⟩

/-- The rounded sum. -/
def add (x y : Dyadic) : Dyadic :=
  let s := max x.shift y.shift
  ofRatio (x.mant * Nat.pow 2 (s - x.shift) + y.mant * Nat.pow 2 (s - y.shift)) (Nat.pow 2 s)

/-- The rounded quotient by a positive whole number. -/
def divNat (x : Dyadic) (k : Nat) : Dyadic := ofRatio x.mant (k * Nat.pow 2 x.shift)

/-- Whether `x` is greater than `y`, exactly. -/
def gt (x y : Dyadic) : Bool := x.mant * Nat.pow 2 y.shift > y.mant * Nat.pow 2 x.shift

end Dyadic

/-- The position of the first character of `b` in `[lo, hi)` equal to `c` and not yet taken. -/
def firstFree (b : List Char) (taken : List Bool) (c : Char) (lo hi : Nat) : Option Nat :=
  ((List.range hi).filter (lo ≤ ·)).find? fun j => b[j]? == some c && taken[j]? == some false

/-- Matches each character of `a`, in turn, to the first free equal character of `b` within
the search range of its position; gives which characters of `a` and of `b` were matched. -/
def matchFlags (a b : List Char) : List Bool × List Bool :=
  let range := max a.length b.length / 2 - 1
  a.zipIdx.foldl (fun (aFlags, taken) (c, i) =>
    match firstFree b taken c (i - range) (min b.length (i + range + 1)) with
    | some j => (aFlags ++ [true], taken.set j true)
    | none => (aFlags ++ [false], taken)) ([], b.map fun _ => false)

/-- The characters of a word that a list of flags marks. -/
def flagged (w : List Char) (flags : List Bool) : List Char :=
  ((w.zip flags).filter (·.2)).map (·.1)

/-- Jaro's counts: the matched characters, and half the matched pairs out of order. -/
def jaroCounts (a b : List Char) : Nat × Nat :=
  let (aFlags, bFlags) := matchFlags a b
  let ma := flagged a aFlags
  let mb := flagged b bFlags
  (ma.length, ((ma.zip mb).filter fun (x, y) => x != y).length / 2)

/-- Jaro's measure of two words, in binary64 arithmetic: one for two empty words, zero when one
is empty or nothing matches, else the mean of the matched share of each word and the share of
matches in order. -/
def jaro (a b : String) : Dyadic :=
  let (la, lb) := (a.length, b.length)
  if la = 0 && lb = 0 then ⟨1, 0⟩
  else if la = 0 || lb = 0 then ⟨0, 0⟩
  else
    let (m, t) := jaroCounts a.toList b.toList
    if m = 0 then ⟨0, 0⟩
    else
      let sum := ((Dyadic.ofRatio m la).add (Dyadic.ofRatio m lb)).add (Dyadic.ofRatio (m - t) m)
      sum.divNat 3

/-- The threshold a measure must pass: the binary64 number nearest `0.7`. -/
def closeness : Dyadic := Dyadic.ofRatio 7 10

/-- The word most like `typed` among those whose measure passes the threshold; of equally close
words, the last. -/
def closest (typed : String) (words : List String) : Option String :=
  (words.foldl (fun best w =>
    let score := jaro typed w
    if !score.gt closeness then best
    else match best with
      | some (_, s) => if s.gt score then best else some (w, score)
      | none => some (w, score)) none).map (·.1)

end ConsoleSweep.Text
