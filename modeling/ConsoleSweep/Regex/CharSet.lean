-- Sets of code points, kept as inclusive ranges in increasing order that neither overlap nor
-- touch. Every class of a pattern (a bracket, a property, a case-blind letter) becomes one of
-- these, and matching a character asks the set by binary search.
namespace ConsoleSweep.Regex

/-- The greatest code point. -/
def maxCodePoint : Nat := 0x10FFFF

/-- A set of code points as sorted, disjoint, non-adjacent inclusive ranges. -/
structure CharSet where
  ranges : Array (Nat × Nat)
deriving Inhabited, BEq, Repr

namespace CharSet

/-- Joins ranges sorted by their first point wherever they overlap or touch. -/
def mergeSorted : List (Nat × Nat) → List (Nat × Nat)
  | [] => []
  | [r] => [r]
  | (a, b) :: (c, d) :: rest =>
    if c ≤ b + 1 then mergeSorted ((a, max b d) :: rest)
    else (a, b) :: mergeSorted ((c, d) :: rest)
termination_by rs => rs.length

/-- The set of the code points in any of the given ranges; a range with its ends swapped is empty. -/
def ofList (rs : List (Nat × Nat)) : CharSet :=
  let kept := rs.filter fun (a, b) => a ≤ b
  ⟨(mergeSorted (kept.mergeSort fun x y => x.1 ≤ y.1)).toArray⟩

/-- The empty set. -/
def empty : CharSet := ⟨#[]⟩

/-- Every code point. -/
def full : CharSet := ⟨#[(0, maxCodePoint)]⟩

/-- One code point. -/
def single (c : Nat) : CharSet := ⟨#[(c, c)]⟩

/-- The code points from `a` to `b`, both included. -/
def span (a b : Nat) : CharSet := ofList [(a, b)]

/-- The code points in either set. -/
def union (s t : CharSet) : CharSet := ofList (s.ranges.toList ++ t.ranges.toList)

/-- The gaps between sorted ranges, from `next` up to the greatest code point. -/
def gaps (next : Nat) : List (Nat × Nat) → List (Nat × Nat)
  | [] => if next ≤ maxCodePoint then [(next, maxCodePoint)] else []
  | (a, b) :: rs => (if next < a then [(next, a - 1)] else []) ++ gaps (b + 1) rs

/-- The code points not in the set. -/
def complement (s : CharSet) : CharSet := ⟨(gaps 0 s.ranges.toList).toArray⟩

/-- The common part of two sorted range lists. -/
def interList : List (Nat × Nat) → List (Nat × Nat) → List (Nat × Nat)
  | [], _ => []
  | _ :: _, [] => []
  | (a, b) :: xs, (c, d) :: ys =>
    let rest := if b < d then interList xs ((c, d) :: ys) else interList ((a, b) :: xs) ys
    if max a c ≤ min b d then (max a c, min b d) :: rest else rest

/-- The code points in both sets. -/
def inter (s t : CharSet) : CharSet := ofList (interList s.ranges.toList t.ranges.toList)

/-- The code points of the first set that are not in the second. -/
def diff (s t : CharSet) : CharSet := s.inter t.complement

/-- The code points in exactly one of the two sets. -/
def symmDiff (s t : CharSet) : CharSet := (s.diff t).union (t.diff s)

/-- Whether a code point is in the set, by binary search over the ranges. -/
def containsNat (s : CharSet) (c : Nat) : Bool :=
  go 0 s.ranges.size
where
  go (lo hi : Nat) : Bool :=
    if lo < hi then
      let mid := (lo + hi) / 2
      match s.ranges[mid]? with
      | some (a, b) =>
        if c < a then go lo mid
        else if b < c then go (mid + 1) hi
        else true
      | none => false
    else false
  termination_by hi - lo

/-- Whether a character is in the set. -/
def contains (s : CharSet) (c : Char) : Bool := s.containsNat c.toNat

/-- Whether every code point of the set is ASCII. -/
def isAscii (s : CharSet) : Bool := s.ranges.all fun (_, b) => b ≤ 0x7F

/-- The set of a list of single code points. -/
def ofPoints (cs : List Nat) : CharSet := ofList (cs.map fun c => (c, c))

/-- Reads hexadecimal digits as a number; `none` if a character is not a digit. -/
def readHexChars (cs : List Char) : Option Nat :=
  if cs.isEmpty then none
  else cs.foldl (fun acc ch => acc.bind fun n =>
    if '0' ≤ ch ∧ ch ≤ '9' then some (n * 16 + (ch.toNat - '0'.toNat))
    else if 'A' ≤ ch ∧ ch ≤ 'F' then some (n * 16 + (ch.toNat - 'A'.toNat + 10))
    else if 'a' ≤ ch ∧ ch ≤ 'f' then some (n * 16 + (ch.toNat - 'a'.toNat + 10))
    else none) (some 0)

/-- Reads a text of hexadecimal digits as a number. -/
def readHex (s : String) : Option Nat := readHexChars s.toList

/-- The ranges of a table text of comma-separated ranges, each `A-B` or a single `A` in
hexadecimal; a piece that reads as neither is skipped. -/
def tableRanges (t : String) : List (Nat × Nat) :=
  (t.toList.splitOn ',').filterMap fun piece =>
    match piece.splitOn '-' with
    | [a] => (readHexChars a).map fun n => (n, n)
    | [a, b] => match readHexChars a, readHexChars b with
      | some x, some y => some (x, y)
      | _, _ => none
    | _ => none

/-- The set of a table text. -/
def ofTable (t : String) : CharSet := ofList (tableRanges t)

end CharSet

end ConsoleSweep.Regex
