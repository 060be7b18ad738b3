-- A pattern once read: classes of characters, assertions about the place between two
-- characters, sequence, choice and bounded or unbounded repetition. Every flag of the pattern
-- has already been applied, so a node means the same wherever it stands.
import ConsoleSweep.Regex.CharSet
namespace ConsoleSweep.Regex

/-- What an assertion asks about the place between two characters. `unicode` picks the word
characters: all of Unicode's, or the ASCII letters, digits and underscore only. -/
inductive Look where
  /-- The start of the text. -/
  | textStart
  /-- The end of the text. -/
  | textEnd
  /-- The start of the text or just after a line feed. -/
  | lineStart
  /-- The end of the text or just before a line feed. -/
  | lineEnd
  /-- A line start where a carriage return, a line feed or the pair of them ends lines. -/
  | lineStartCrlf
  /-- A line end where a carriage return, a line feed or the pair of them ends lines. -/
  | lineEndCrlf
  /-- A word character on exactly one side. -/
  | wordBoundary (unicode : Bool)
  /-- Word characters on both sides or on neither. -/
  | notWordBoundary (unicode : Bool)
  /-- No word character before and one after. -/
  | wordStart (unicode : Bool)
  /-- A word character before and none after. -/
  | wordEnd (unicode : Bool)
  /-- No word character before. -/
  | wordStartHalf (unicode : Bool)
  /-- No word character after. -/
  | wordEndHalf (unicode : Bool)
deriving Repr, Inhabited, BEq

/-- A pattern as a tree: the empty match, one character of a class, an assertion, two nodes in
sequence, a choice of two, and a node repeated at least `min` and at most `max` times. -/
inductive Node where
  | empty
  | chars (s : CharSet)
  | look (l : Look)
  | cat (a b : Node)
  | alt (a b : Node)
  | rep (a : Node) (min : Nat) (max : Option Nat)
deriving Repr, Inhabited

namespace Node

/-- One character. -/
def char (c : Char) : Node := .chars (CharSet.single c.toNat)

/-- Nodes in sequence; none is the empty match. -/
def seq : List Node → Node
  | [] => .empty
  | [a] => a
  | a :: rest => .cat a (seq rest)

/-- A choice among nodes; none matches nothing. -/
def choice : List Node → Node
  | [] => .chars CharSet.empty
  | [a] => a
  | a :: rest => .alt a (choice rest)

/-- The characters of a text in sequence. -/
def literal (s : String) : Node := seq (s.toList.map char)

/-- Zero or more times. -/
def star (a : Node) : Node := .rep a 0 none

/-- One or more times. -/
def plus (a : Node) : Node := .rep a 1 none

end Node

end ConsoleSweep.Regex
