-- Matching by places: a node takes the set of places where a match may start to the set of
-- places where it can end. A text matches a node when some place is reached from some
-- place, which is all a line rule needs; no capture, greed or leftmost choice is kept.
import ConsoleSweep.Regex.Node
import ConsoleSweep.Regex.Property
namespace ConsoleSweep.Regex

/-- A text being searched, as its characters. -/
abbrev Subject := Array Char

/-- A set of places in a text of `n` characters: one flag for each place from 0 to `n`. -/
abbrev Places := Array Bool

/-- Places in either set. -/
def Places.union (a b : Places) : Places := Array.zipWith (· || ·) a b

/-- A word character: any of Unicode's, or only ASCII letters, digits and the underscore. -/
def isWordChar (unicode : Bool) (c : Char) : Bool :=
  if unicode then wordSet.contains c else c.isAlphanum || c == '_'

/-- Whether the character just before place `i` is a word character. -/
def wordBefore (unicode : Bool) (t : Subject) (i : Nat) : Bool :=
  match i with
  | 0 => false
  | j + 1 => (t[j]?.map (isWordChar unicode)).getD false

/-- Whether the character just after place `i` is a word character. -/
def wordAfter (unicode : Bool) (t : Subject) (i : Nat) : Bool :=
  (t[i]?.map (isWordChar unicode)).getD false

/-- Whether an assertion holds at place `i` of a text. -/
def Look.holds (t : Subject) (i : Nat) : Look → Bool
  | .textStart => i == 0
  | .textEnd => i == t.size
  | .lineStart => i == 0 || t[i - 1]? == some '\n'
  | .lineEnd => i == t.size || t[i]? == some '\n'
  | .lineStartCrlf =>
    i == 0 || t[i - 1]? == some '\n' || (t[i - 1]? == some '\r' && t[i]? != some '\n')
  | .lineEndCrlf =>
    i == t.size || t[i]? == some '\r' || (t[i]? == some '\n' && (i == 0 || t[i - 1]? != some '\r'))
  | .wordBoundary u => wordBefore u t i != wordAfter u t i
  | .notWordBoundary u => wordBefore u t i == wordAfter u t i
  | .wordStart u => !wordBefore u t i && wordAfter u t i
  | .wordEnd u => wordBefore u t i && !wordAfter u t i
  | .wordStartHalf u => !wordBefore u t i
  | .wordEndHalf u => !wordAfter u t i

/-- The places just after a character of the set that stands at one of the given places. -/
def stepChars (t : Subject) (s : CharSet) (p : Places) : Places :=
  Array.ofFn (n := t.size + 1) fun j =>
    match j.val with
    | 0 => false
    | i + 1 => p[i]?.getD false && (t[i]?.map s.contains).getD false

/-- `f` applied `k` times. -/
def iterate (f : Places → Places) : Nat → Places → Places
  | 0, x => x
  | k + 1, x => iterate f k (f x)

/-- The places reached by at most `k` further applications of `f`, stopping early once nothing
new is reached. -/
def grow (f : Places → Places) : Nat → Places → Places
  | 0, x => x
  | k + 1, x =>
    let y := x.union (f x)
    if y == x then x else grow f k y

/-- The places where a match of the node can end, given the places where it may start. A
repetition takes its least count of steps first, then grows by further steps: up to its
greatest count, or until nothing new is reached, which takes at most one step per place. -/
def Node.reach (t : Subject) : Node → Places → Places
  | .empty, p => p
  | .chars s, p => stepChars t s p
  | .look l, p => p.mapIdx fun i b => b && l.holds t i
  | .cat a b, p => b.reach t (a.reach t p)
  | .alt a b, p => (a.reach t p).union (b.reach t p)
  | .rep a lo hi, p =>
    let base := iterate (a.reach t) lo p
    grow (a.reach t) (match hi with | some h => h - lo | none => t.size + 1) base

/-- Whether the node matches somewhere in the text. -/
def Node.isMatch (r : Node) (s : String) : Bool :=
  let t := s.toList.toArray
  (r.reach t (Array.replicate (t.size + 1) true)).any id

end ConsoleSweep.Regex
