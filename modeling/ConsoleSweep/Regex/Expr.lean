-- A pattern in the normal form that its automaton is built from. Sequences are flattened, with
-- adjacent literals joined and empty parts dropped. A choice is flattened; a choice of single
-- characters, or of classes, becomes one class; and a first part that every branch shares is
-- lifted out of the choice. A repetition of what can only match the empty text is cut to at
-- most once, none of a thing is the empty match and once is the thing itself. A class of one
-- character is that character as a literal, and surrogates are never in a class. These rewrites
-- keep the texts matched; the shape they give decides how large the automaton is.
import ConsoleSweep.Regex.Node
import ConsoleSweep.Regex.Utf8Split
namespace ConsoleSweep.Regex

/-- A pattern in normal form: the empty match, a literal text, one character of a class, an
assertion, a repetition (greedy or not), a numbered capture group, a sequence and a choice. -/
inductive Expr where
  | empty
  | lit (cs : List Char)
  | cls (s : CharSet)
  | look (l : Look)
  | rep (a : Expr) (min : Nat) (max : Option Nat) (greedy : Bool)
  | capture (index : Nat) (a : Expr)
  | cat (xs : List Expr)
  | alt (xs : List Expr)
deriving Repr, Inhabited, BEq

/-- What the building of an automaton asks of an expression: the least and the greatest
length of a match in UTF-8 bytes (none when nothing matches, or for the greatest when there is
no bound), and whether every match starts at the start of the text, or ends at its end. -/
structure Shape where
  minLen : Option Nat
  maxLen : Option Nat
  atStart : Bool
  atEnd : Bool
deriving Repr, Inhabited, BEq

namespace Shape

/-- The shape of what matches the empty text only and asserts nothing. -/
def none0 : Shape := ⟨some 0, some 0, false, false⟩

/-- Whether a part can match more than the empty text, or matches nothing at all. -/
def widens (s : Shape) : Bool := s.maxLen != some 0

/-- Whether every match is at least one byte long. -/
def neverEmpty (s : Shape) : Bool :=
  match s.minLen with
  | some (_ + 1) => true
  | _ => false

/-- Whether some part, up to and including the first that can match more than the empty text,
asserts the start of the text. -/
def anyAtStart : List Shape → Bool
  | [] => false
  | s :: rest => s.atStart || (!s.widens && anyAtStart rest)

/-- The shape of parts in sequence: lengths add, and a sequence is anchored at the start when
one of its leading parts that only match the empty text, or the first after them, is. -/
def seq (ss : List Shape) : Shape where
  minLen := ss.foldl (fun acc s => do let a ← acc; let b ← s.minLen; pure (a + b)) (some 0)
  maxLen := ss.foldl (fun acc s => do let a ← acc; let b ← s.maxLen; pure (a + b)) (some 0)
  atStart := anyAtStart ss
  atEnd := anyAtStart (ss.reverse.map fun s => { s with atStart := s.atEnd })

/-- The least of the least lengths of branches; no length when a branch matches nothing. -/
def leastOf (ls : List (Option Nat)) : Option Nat :=
  match ls with
  | [] => none
  | l :: rest => rest.foldl (fun acc x => do let a ← acc; let b ← x; pure (min a b)) l

/-- The greatest of the greatest lengths of branches; none when a branch has none. -/
def greatestOf (ls : List (Option Nat)) : Option Nat :=
  match ls with
  | [] => none
  | l :: rest => rest.foldl (fun acc x => do let a ← acc; let b ← x; pure (max a b)) l

/-- The shape of a choice: lengths are the extremes of the branches, and a choice is anchored
when every branch is. -/
def choice (ss : List Shape) : Shape where
  minLen := leastOf (ss.map (·.minLen))
  maxLen := greatestOf (ss.map (·.maxLen))
  atStart := !ss.isEmpty && ss.all (·.atStart)
  atEnd := !ss.isEmpty && ss.all (·.atEnd)

/-- The shape of a repetition: lengths scale with the counts, and the anchors of the body hold
only when it must occur at least once. -/
def repeated (s : Shape) (lo : Nat) (hi : Option Nat) : Shape where
  minLen := s.minLen.map (· * lo)
  maxLen := match hi with
    | some h => s.maxLen.map (· * h)
    | none => none
  atStart := lo > 0 && s.atStart
  atEnd := lo > 0 && s.atEnd

end Shape

/-- The number of bytes in the UTF-8 form of a text. -/
def litLength (cs : List Char) : Nat := cs.foldl (fun n c => n + utf8Length c.toNat) 0

/-- The shape of a class: its least and greatest points give the lengths. -/
def classShape (s : CharSet) : Shape :=
  match s.ranges[0]?, s.ranges.back? with
  | some (a, _), some (_, b) => ⟨some (utf8Length a), some (utf8Length b), false, false⟩
  | _, _ => ⟨none, none, false, false⟩

namespace Expr

mutual

/-- The shape of an expression. -/
def shape : Expr → Shape
  | .empty => Shape.none0
  | .lit cs => ⟨some (litLength cs), some (litLength cs), false, false⟩
  | .cls s => classShape s
  | .look l => ⟨some 0, some 0, l == .textStart, l == .textEnd⟩
  | .rep a lo hi _ => a.shape.repeated lo hi
  | .capture _ a => a.shape
  | .cat xs => Shape.seq (shapes xs)
  | .alt xs => Shape.choice (shapes xs)

/-- The shapes of a list of expressions. -/
def shapes : List Expr → List Shape
  | [] => []
  | x :: xs => x.shape :: shapes xs

end

/-- The code points that are surrogates, which no text holds. -/
def surrogates : CharSet := CharSet.span 0xD800 0xDFFF

/-- A class without its surrogates: a literal when one character is left, and a class that
matches nothing when none is. -/
def ofSet (s : CharSet) : Expr :=
  let s := s.diff surrogates
  match s.ranges.toList with
  | [(a, b)] => if a == b then .lit [Char.ofNat a] else .cls s
  | _ => .cls s

/-- Joins each run of adjacent literals into one literal. -/
def joinLiterals : List Expr → List Expr
  | .lit a :: .lit b :: rest => joinLiterals (.lit (a ++ b) :: rest)
  | x :: rest => x :: joinLiterals rest
  | [] => []
termination_by xs => xs.length

/-- Parts in sequence: nested sequences are spliced in, empty parts dropped and adjacent
literals joined; no part left is the empty match, and one part is itself. -/
def concat (xs : List Expr) : Expr :=
  let parts := xs.flatMap fun x => match x with
    | .cat ys => ys
    | .empty => []
    | x => [x]
  match joinLiterals parts with
  | [] => .empty
  | [x] => x
  | ys => .cat ys

/-- The characters of branches that are each a literal of one character. -/
def singleChars : List Expr → Option (List Nat)
  | [] => some []
  | .lit [c] :: rest => (singleChars rest).map (c.toNat :: ·)
  | _ => none

/-- The union of branches that are each a class. -/
def classUnion : List Expr → Option CharSet
  | [] => some CharSet.empty
  | .cls s :: rest => (classUnion rest).map s.union
  | _ => none

/-- The parts of branches that are each a sequence. -/
def sequences : List Expr → Option (List (List Expr))
  | [] => some []
  | .cat ys :: rest => (sequences rest).map (ys :: ·)
  | _ => none

/-- The length of the longest common start of two lists. -/
def commonLength : List Expr → List Expr → Nat
  | x :: xs, y :: ys => if x == y then commonLength xs ys + 1 else 0
  | _, _ => 0

/-- Branches of a choice with nested choices spliced in: none matches nothing, one is itself,
single characters or classes become one class, and any other branches stay a choice. -/
def alternationFlat (xs : List Expr) : Expr :=
  let flat := xs.flatMap fun x => match x with
    | .alt ys => ys
    | x => [x]
  match flat with
  | [] => .cls CharSet.empty
  | [x] => x
  | _ =>
    match singleChars flat with
    | some cs => ofSet (CharSet.ofPoints cs)
    | none =>
      match classUnion flat with
      | some s => ofSet s
      | none => .alt flat

/-- A choice in normal form. When every branch is a sequence and all start with the same
parts, those parts are lifted out and the choice is made of what follows them; the branches
left then share no first part, so lifting once is enough. -/
def alternation (xs : List Expr) : Expr :=
  match alternationFlat xs with
  | .alt flat =>
    match sequences flat with
    | some (first :: rest) =>
      let n := rest.foldl (fun n ys => min n (commonLength first ys)) first.length
      if n == 0 then .alt flat
      else concat (first.take n ++ [alternationFlat (flat.filterMap fun x => match x with
        | .cat ys => some (concat (ys.drop n))
        | _ => none)])
    | _ => .alt flat
  | e => e

/-- A repetition in normal form. A body that only matches the empty text is repeated at most
once; none of a thing is the empty match, and exactly once is the thing. -/
def repetition (a : Expr) (lo : Nat) (hi : Option Nat) (greedy : Bool) : Expr :=
  let (lo, hi) :=
    if a.shape.maxLen == some 0 then (min lo 1, some ((hi.map (min · 1)).getD 1)) else (lo, hi)
  if lo == 0 && hi == some 0 then .empty
  else if lo == 1 && hi == some 1 then a
  else .rep a lo hi greedy

mutual

/-- The node that matches the same texts, for searching. -/
def toNode : Expr → Node
  | .empty => .empty
  | .lit cs => Node.seq (cs.map Node.char)
  | .cls s => .chars s
  | .look l => .look l
  | .rep a lo hi _ => .rep a.toNode lo hi
  | .capture _ a => a.toNode
  | .cat xs => Node.seq (toNodes xs)
  | .alt xs => Node.choice (toNodes xs)

/-- The nodes of a list of expressions. -/
def toNodes : List Expr → List Node
  | [] => []
  | x :: xs => x.toNode :: toNodes xs

end

end Expr

end ConsoleSweep.Regex
