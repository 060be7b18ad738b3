-- Reading a pattern. The grammar is that of the common Rust-style regular expressions: groups
-- (plain, named, flag-setting), alternation, the repetition operators and counted repetition,
-- bracket classes with nesting, ASCII classes and set operations, escapes, Unicode property
-- classes and the flags `imsuURx`. Reading fails exactly where that grammar does: on
-- look-around and back-references, empty or unclosed constructs, unknown escapes, names or
-- properties, a nesting deeper than 250, and any construct that with Unicode turned off could
-- match text that is not valid UTF-8. Flags are applied while reading, so the result is an
-- expression that needs none.
import ConsoleSweep.Regex.Expr
import ConsoleSweep.Regex.Property
import ConsoleSweep.Text.Lines
namespace ConsoleSweep.Regex

open ConsoleSweep.Text

/-! ## Faults and flags -/

/-- Why a pattern cannot be read. -/
inductive PatternFault where
  | unclosedGroup
  | unopenedGroup
  | unclosedClass
  | badClassRange
  | badClassItem
  | badEscape
  | badHex
  | badRepetition
  | missingRepetition
  | badFlag
  | badGroupName
  | lookAround
  | backReference
  | unknownClass
  | unicodeOff
  | invalidUtf8
  | tooDeep
  | tooBig
deriving Repr, BEq, Inhabited

/-- The flags in force at a place of a pattern. -/
structure Flags where
  caseless : Bool := false
  multiLine : Bool := false
  dotAll : Bool := false
  swapGreed : Bool := false
  crlf : Bool := false
  unicode : Bool := true
  verbose : Bool := false
deriving Repr, Inhabited

/-- A flag letter: `i` case-blind, `m` multi-line anchors, `s` dot matches line feeds, `U`
swapped greed, `u` Unicode, `R` CRLF line ends, `x` blanks and comments ignored. -/
inductive Flag where
  | caseless
  | multiLine
  | dotAll
  | swapGreed
  | unicode
  | crlf
  | verbose
deriving Repr, BEq, Inhabited

/-- The flag a letter stands for. -/
def Flag.ofChar? : Char → Option Flag
  | 'i' => some .caseless
  | 'm' => some .multiLine
  | 's' => some .dotAll
  | 'U' => some .swapGreed
  | 'u' => some .unicode
  | 'R' => some .crlf
  | 'x' => some .verbose
  | _ => none

/-- Turns one flag on or off. -/
def Flags.set (f : Flags) (flag : Flag) (on : Bool) : Flags :=
  match flag with
  | .caseless => { f with caseless := on }
  | .multiLine => { f with multiLine := on }
  | .dotAll => { f with dotAll := on }
  | .swapGreed => { f with swapGreed := on }
  | .unicode => { f with unicode := on }
  | .crlf => { f with crlf := on }
  | .verbose => { f with verbose := on }

/-- An item of a flag list: a flag, or the `-` after which flags are turned off. -/
inductive FlagItem where
  | flag (f : Flag)
  | negation
deriving Repr, BEq, Inhabited

/-- Applies a flag list: flags before the `-` are turned on, those after it off. -/
def Flags.apply (f : Flags) (items : List FlagItem) : Flags :=
  (items.foldl (fun (acc : Flags × Bool) item =>
    match item with
    | .negation => (acc.1, false)
    | .flag g => (acc.1.set g acc.2, acc.2)) (f, true)).1

/-- The greatest nesting of groups, repetitions, sequences, choices and classes. -/
def nestLimit : Nat := 250

/-! ## The cursor -/

/-- A place in a pattern, and whether blanks and `#` comments are skipped there. -/
structure Cursor where
  pat : Array Char
  pos : Nat
  verbose : Bool

namespace Cursor

/-- Whether the whole pattern has been read. -/
def atEnd (c : Cursor) : Bool := c.pat.size ≤ c.pos

/-- The character at the cursor (a NUL past the end). -/
def char (c : Cursor) : Char := c.pat[c.pos]?.getD '\x00'

/-- The character after the one at the cursor. -/
def peek (c : Cursor) : Option Char := c.pat[c.pos + 1]?

/-- One character on. -/
def bump (c : Cursor) : Cursor := { c with pos := c.pos + 1 }

/-- Skips blanks and `#` comments (to the end of the line) when blanks are ignored. -/
def skipSpace (c : Cursor) : Cursor :=
  if c.verbose then go c.pos (c.pat.size + 1) else c
where
  go (p : Nat) : Nat → Cursor
    | 0 => { c with pos := p }
    | fuel + 1 =>
      match c.pat[p]? with
      | some ch =>
        if isBlank ch then go (p + 1) fuel
        else if ch == '#' then go (skipComment (p + 1) (c.pat.size + 1)) fuel
        else { c with pos := p }
      | none => { c with pos := p }
  skipComment (p : Nat) : Nat → Nat
    | 0 => p
    | fuel + 1 =>
      match c.pat[p]? with
      | some ch => if ch == '\n' then p + 1 else skipComment (p + 1) fuel
      | none => p

/-- One character on, then past blanks; `false` when that reaches the end. -/
def bumpSpace (c : Cursor) : Cursor × Bool :=
  let d := c.bump.skipSpace
  (d, !d.atEnd)

/-- Whether the pattern continues with the given characters at the cursor. -/
def startsWith (c : Cursor) (s : String) : Bool :=
  (s.toList.zipIdx.all fun (ch, i) => c.pat[c.pos + i]? == some ch) &&
    c.pos + s.length ≤ c.pat.size

/-- The cursor past the given characters. -/
def skip (c : Cursor) (n : Nat) : Cursor := { c with pos := c.pos + n }

/-- The next character after the cursor's one when blanks are skipped: blanks and at most one
`#` are passed over; if nothing else follows, the character right after the cursor's. -/
def peekSpace (c : Cursor) : Option Char :=
  if !c.verbose then c.peek
  else if c.atEnd then none
  else go (c.pos + 1) false (c.pat.size + 1)
where
  go (p : Nat) (inComment : Bool) : Nat → Option Char
    | 0 => c.pat[c.pos + 1]?
    | fuel + 1 =>
      match c.pat[p]? with
      | none => c.pat[c.pos + 1]?
      | some ch =>
        if isBlank ch then go (p + 1) inComment fuel
        else if !inComment && ch == '#' then go (p + 1) true fuel
        else some ch

/-- The characters from place `a` up to place `b`. -/
def slice (c : Cursor) (a b : Nat) : List Char :=
  ((List.range (b - a)).filterMap fun i => c.pat[a + i]?)

end Cursor

/-! ## Primitives -/

/-- The three Perl classes. -/
inductive PerlKind where
  | digit
  | space
  | word
deriving Repr, BEq, Inhabited

/-- What an assertion was written as, before the flags decide what it means. -/
inductive LookKind where
  | lineStartMark
  | lineEndMark
  | textStart
  | textEnd
  | wordBoundary
  | notWordBoundary
  | wordStart
  | wordEnd
  | wordStartHalf
  | wordEndHalf
deriving Repr, BEq, Inhabited

/-- One item of a pattern as written: a literal (with its byte when written `\xNN`), the dot,
an assertion, a Perl class or a property class. -/
inductive Prim where
  | lit (c : Char) (byte : Option Nat)
  | dot
  | look (k : LookKind)
  | perl (k : PerlKind) (negated : Bool)
  | prop (q : PropertyQuery) (negated : Bool)
deriving Repr, Inhabited

/-- The result of reading: a value and the cursor after it, or a fault. -/
abbrev Reading (α : Type) := Except PatternFault (α × Cursor)

/-- Characters that an escape turns into themselves. -/
def isMetaChar (c : Char) : Bool :=
  "\\.+*?()|[]\x7b\x7d^$#&-~".toList.contains c

/-- Characters that may be escaped to stand for themselves: the meta characters and every ASCII
character other than letters, digits, `<` and `>`. -/
def isEscapable (c : Char) : Bool :=
  isMetaChar c ||
    (c.toNat < 0x80 && !c.isAlphanum && c != '<' && c != '>')

/-- A hexadecimal digit. -/
def isHexDigit (c : Char) : Bool :=
  ('0' ≤ c && c ≤ '9') || ('a' ≤ c && c ≤ 'f') || ('A' ≤ c && c ≤ 'F')

/-- The value of hexadecimal digits. -/
def hexValue (ds : List Char) : Nat :=
  ds.foldl (fun n ch =>
    n * 16 + (if ch ≤ '9' then ch.toNat - '0'.toNat
      else if ch ≤ 'F' then ch.toNat - 'A'.toNat + 10 else ch.toNat - 'a'.toNat + 10)) 0

/-- The character of a code point, if it is one (not a surrogate, not past the greatest). -/
def charOfCode? (n : Nat) : Option Char :=
  if n.isValidChar then some (Char.ofNat n) else none

/-- A fixed number of hexadecimal digits, blanks allowed between them when skipped. -/
def readHexDigits (c : Cursor) (count : Nat) : Reading Char :=
  go c 0 [] (count + 1)
where
  go (c : Cursor) (i : Nat) (acc : List Char) : Nat → Reading Char
    | 0 => .error .badHex
    | fuel + 1 =>
      if i < count then
        let (c', ok) := if i > 0 then c.bumpSpace else (c, true)
        if !ok then .error .badHex
        else if !isHexDigit c'.char then .error .badHex
        else go c' (i + 1) (c'.char :: acc) fuel
      else
        let after := c.bumpSpace.1
        match charOfCode? (hexValue acc.reverse) with
        | some ch => .ok (ch, after)
        | none => .error .badHex

/-- Hexadecimal digits in braces, at the `{`. -/
def readHexBrace (c : Cursor) : Reading Char :=
  go c [] (c.pat.size + 1)
where
  go (c : Cursor) (acc : List Char) : Nat → Reading Char
    | 0 => .error .badHex
    | fuel + 1 =>
      let (c', ok) := c.bumpSpace
      if ok && c'.char != '}' then
        if !isHexDigit c'.char then .error .badHex else go c' (c'.char :: acc) fuel
      else if c'.atEnd then .error .badHex
      else
        let after := c'.bumpSpace.1
        if acc.isEmpty then .error .badHex
        else match charOfCode? (hexValue acc.reverse) with
          | some ch => .ok (ch, after)
          | none => .error .badHex

/-- A hexadecimal escape, at its `x`, `u` or `U`; the byte is kept for the two-digit form. -/
def readHex (c : Cursor) : Reading Prim :=
  let count := if c.char == 'x' then 2 else if c.char == 'u' then 4 else 8
  let two := c.char == 'x'
  let (c1, ok) := c.bumpSpace
  if !ok then .error .badHex
  else if c1.char == '{' then
    (readHexBrace c1).map fun (ch, d) => (.lit ch none, d)
  else
    (readHexDigits c1 count).map fun (ch, d) => (.lit ch (if two then some ch.toNat else none), d)

/-- The first occurrence of a needle in a list of characters. -/
def findSub (hay needle : List Char) : Option Nat :=
  (List.range (hay.length + 1)).find? fun i => (hay.drop i).take needle.length == needle

/-- A property class, at its `p` or `P`. -/
def readProperty (c : Cursor) : Reading Prim :=
  let negated := c.char == 'P'
  let (c1, ok) := c.bumpSpace
  if !ok then .error .badEscape
  else if c1.char == '{' then
    match collect c1 [] (c.pat.size + 1) with
    | none => .error .badEscape
    | some (name, after) =>
      let str (l : List Char) := String.ofList l
      match findSub name ['!', '='] with
      | some i => .ok (.prop (.byValue (str (name.take i)) (str (name.drop (i + 2)))) (!negated), after)
      | none =>
        match findSub name [':'] with
        | some i => .ok (.prop (.byValue (str (name.take i)) (str (name.drop (i + 1)))) negated, after)
        | none =>
          match findSub name ['='] with
          | some i => .ok (.prop (.byValue (str (name.take i)) (str (name.drop (i + 1)))) negated, after)
          | none => .ok (.prop (.named (str name)) negated, after)
  else if c1.char == '\\' then .error .badEscape
  else .ok (.prop (.oneLetter c1.char) negated, c1.bumpSpace.1)
where
  collect (c : Cursor) (acc : List Char) : Nat → Option (List Char × Cursor)
    | 0 => none
    | fuel + 1 =>
      let (c', ok) := c.bumpSpace
      if ok && c'.char != '}' then collect c' (c'.char :: acc) fuel
      else if c'.atEnd then none
      else some (acc.reverse, c'.bump)

/-- After `\b`, a `{start}`, `{end}`, `{start-half}` or `{end-half}`; `none` (with the cursor
left at the `{`) when the braces hold no letter or hyphen first, so that they count a repetition. -/
def readSpecialBoundary (c : Cursor) : Except PatternFault (Option LookKind × Cursor) :=
  let isValid (ch : Char) := ('A' ≤ ch && ch ≤ 'Z') || ('a' ≤ ch && ch ≤ 'z') || ch == '-'
  let (c1, ok) := c.bumpSpace
  if !ok then .error .badEscape
  else if !isValid c1.char then .ok (none, c)
  else
    let rec gather (c : Cursor) (acc : List Char) : Nat → List Char × Cursor
      | 0 => (acc.reverse, c)
      | fuel + 1 =>
        if !c.atEnd && isValid c.char then gather c.bumpSpace.1 (c.char :: acc) fuel
        else (acc.reverse, c)
    let (name, c2) := gather c1 [] (c.pat.size + 1)
    if c2.atEnd || c2.char != '}' then .error .badEscape
    else
      let after := c2.bump
      match String.ofList name with
      | "start" => .ok (some .wordStart, after)
      | "end" => .ok (some .wordEnd, after)
      | "start-half" => .ok (some .wordStartHalf, after)
      | "end-half" => .ok (some .wordEndHalf, after)
      | _ => .error .badEscape

/-- An escape, at its backslash. -/
def readEscape (c : Cursor) : Reading Prim :=
  let c1 := c.bump
  if c1.atEnd then .error .badEscape
  else
    let ch := c1.char
    if '0' ≤ ch && ch ≤ '9' then .error .backReference
    else if ch == 'x' || ch == 'u' || ch == 'U' then readHex c1
    else if ch == 'p' || ch == 'P' then readProperty c1
    else if ch == 'd' then .ok (.perl .digit false, c1.bump)
    else if ch == 'D' then .ok (.perl .digit true, c1.bump)
    else if ch == 's' then .ok (.perl .space false, c1.bump)
    else if ch == 'S' then .ok (.perl .space true, c1.bump)
    else if ch == 'w' then .ok (.perl .word false, c1.bump)
    else if ch == 'W' then .ok (.perl .word true, c1.bump)
    else
      let c2 := c1.bump
      if isEscapable ch then .ok (.lit ch none, c2)
      else match ch with
        | 'a' => .ok (.lit '\x07' none, c2)
        | 'f' => .ok (.lit '\x0c' none, c2)
        | 't' => .ok (.lit '\t' none, c2)
        | 'n' => .ok (.lit '\n' none, c2)
        | 'r' => .ok (.lit '\r' none, c2)
        | 'v' => .ok (.lit '\x0b' none, c2)
        | 'A' => .ok (.look .textStart, c2)
        | 'z' => .ok (.look .textEnd, c2)
        | 'b' =>
          if !c2.atEnd && c2.char == '{' then
            match readSpecialBoundary c2 with
            | .ok (some k, c3) => .ok (.look k, c3)
            | .ok (none, c3) => .ok (.look .wordBoundary, c3)
            | .error e => .error e
          else .ok (.look .wordBoundary, c2)
        | 'B' => .ok (.look .notWordBoundary, c2)
        | '<' => .ok (.look .wordStart, c2)
        | '>' => .ok (.look .wordEnd, c2)
        | _ => .error .badEscape

/-! ## Meaning under the flags -/

/-- The ASCII members of a Perl class. -/
def asciiPerl : PerlKind → CharSet
  | .digit => CharSet.span 0x30 0x39
  | .space => CharSet.ofList [(0x09, 0x0D), (0x20, 0x20)]
  | .word => CharSet.ofList [(0x30, 0x39), (0x41, 0x5A), (0x5F, 0x5F), (0x61, 0x7A)]

/-- The Unicode members of a Perl class. -/
def unicodePerl : PerlKind → CharSet
  | .digit => digitSet
  | .space => spaceSet
  | .word => wordSet

/-- Every byte value. -/
def allBytes : CharSet := CharSet.span 0 0xFF

/-- A Perl class under the flags. Negated with Unicode off it would match bytes that are not
UTF-8, so it is refused. -/
def perlSet (f : Flags) (k : PerlKind) (negated : Bool) : Except PatternFault CharSet :=
  if f.unicode then .ok (if negated then (unicodePerl k).complement else unicodePerl k)
  else if negated then .error .invalidUtf8
  else .ok (asciiPerl k)

/-- A property class under the flags: folded when case-blind, then negated. -/
def propertySetUnder (f : Flags) (q : PropertyQuery) (negated : Bool) : Except PatternFault CharSet :=
  if !f.unicode then .error .unicodeOff
  else match q.resolve with
    | none => .error .unknownClass
    | some s =>
      let s := if f.caseless then s.foldCase else s
      .ok (if negated then s.complement else s)

/-- What an assertion means under the flags. -/
def lookUnder (f : Flags) : LookKind → Except PatternFault Look
  | .lineStartMark =>
    .ok (if f.multiLine then (if f.crlf then .lineStartCrlf else .lineStart) else .textStart)
  | .lineEndMark =>
    .ok (if f.multiLine then (if f.crlf then .lineEndCrlf else .lineEnd) else .textEnd)
  | .textStart => .ok .textStart
  | .textEnd => .ok .textEnd
  | .wordBoundary => .ok (.wordBoundary f.unicode)
  | .notWordBoundary => .ok (.notWordBoundary f.unicode)
  | .wordStart => .ok (.wordStart f.unicode)
  | .wordEnd => .ok (.wordEnd f.unicode)
  | .wordStartHalf => .ok (.wordStartHalf f.unicode)
  | .wordEndHalf => .ok (.wordEndHalf f.unicode)

/-- A literal outside a class under the flags. With Unicode off, a `\xNN` byte past ASCII is
refused, a non-ASCII character stands for itself, and only ASCII letters fold their case. -/
def literalExpr (f : Flags) (c : Char) (byte : Option Nat) : Except PatternFault Expr :=
  if f.unicode then
    if f.caseless && hasPartner c.toNat then .ok (Expr.ofSet (CharSet.single c.toNat).foldCase)
    else .ok (.lit [c])
  else match byte with
    | some b => if b ≤ 0x7F then .ok (.lit [c]) else .error .invalidUtf8
    | none =>
      if f.caseless && c.isAlpha then .ok (Expr.ofSet (CharSet.single c.toNat).foldAscii)
      else .ok (.lit [c])

/-- A primitive outside a class under the flags. -/
def primExpr (f : Flags) : Prim → Except PatternFault Expr
  | .lit c b => literalExpr f c b
  | .dot =>
    if !f.unicode then .error .invalidUtf8
    else if f.dotAll then .ok (Expr.ofSet CharSet.full)
    else if f.crlf then .ok (Expr.ofSet (CharSet.ofList [(0, 9), (11, 12), (14, maxCodePoint)]))
    else .ok (Expr.ofSet (CharSet.ofList [(0, 9), (11, maxCodePoint)]))
  | .look k => (lookUnder f k).map .look
  | .perl k n => (perlSet f k n).map Expr.ofSet
  | .prop q n => (propertySetUnder f q n).map Expr.ofSet

/-! ## Bracket classes -/

/-- The ASCII classes by name. -/
def asciiClass? : String → Option CharSet
  | "alnum" => some (CharSet.ofList [(0x30, 0x39), (0x41, 0x5A), (0x61, 0x7A)])
  | "alpha" => some (CharSet.ofList [(0x41, 0x5A), (0x61, 0x7A)])
  | "ascii" => some (CharSet.span 0 0x7F)
  | "blank" => some (CharSet.ofList [(0x09, 0x09), (0x20, 0x20)])
  | "cntrl" => some (CharSet.ofList [(0, 0x1F), (0x7F, 0x7F)])
  | "digit" => some (CharSet.span 0x30 0x39)
  | "graph" => some (CharSet.span 0x21 0x7E)
  | "lower" => some (CharSet.span 0x61 0x7A)
  | "print" => some (CharSet.span 0x20 0x7E)
  | "punct" => some (CharSet.ofList [(0x21, 0x2F), (0x3A, 0x40), (0x5B, 0x60), (0x7B, 0x7E)])
  | "space" => some (CharSet.ofList [(0x09, 0x0D), (0x20, 0x20)])
  | "upper" => some (CharSet.span 0x41 0x5A)
  | "word" => some (CharSet.ofList [(0x30, 0x39), (0x41, 0x5A), (0x5F, 0x5F), (0x61, 0x7A)])
  | "xdigit" => some (CharSet.ofList [(0x30, 0x39), (0x41, 0x46), (0x61, 0x66)])
  | _ => none

/-- The set operations of a bracket class. -/
inductive ClassOp where
  | inter
  | diff
  | symmDiff
deriving Repr, BEq, Inhabited

/-- Applies a set operation. -/
def ClassOp.apply : ClassOp → CharSet → CharSet → CharSet
  | .inter, a, b => a.inter b
  | .diff, a, b => a.diff b
  | .symmDiff, a, b => a.symmDiff b

/-- Members of a class read so far: their union, how many, and their greatest nesting. -/
structure Members where
  set : CharSet := CharSet.empty
  count : Nat := 0
  depth : Nat := 0
deriving Inhabited

/-- One more member. -/
def Members.add (m : Members) (s : CharSet) (d : Nat) : Members :=
  { set := m.set.union s, count := m.count + 1, depth := max m.depth d }

/-- The nesting of the members taken together: a union of two or more is one level more. -/
def Members.nesting (m : Members) : Nat := if 2 ≤ m.count then m.depth + 1 else m.depth

/-- What stands open while a bracket class is read: a bracket (with the members of the class
around it and whether it is negated), or a set operation waiting for its right side. -/
inductive ClassFrame where
  | bracket (outer : Members) (negated : Bool)
  | pending (op : ClassOp) (lhs : CharSet) (lhsDepth : Nat)
deriving Inhabited

/-- Case folding of a class under the flags. -/
def foldUnder (f : Flags) (s : CharSet) : CharSet :=
  if !f.caseless then s else if f.unicode then s.foldCase else s.foldAscii

/-- A finished bracket or ASCII class: folded, then negated, so that a negated class leaves out
every case of what it names; with Unicode off it must stay within ASCII. -/
def closeBracket (f : Flags) (negated : Bool) (s : CharSet) : Except PatternFault CharSet :=
  let s := foldUnder f s
  if f.unicode then .ok (if negated then s.complement else s)
  else
    let s := if negated then allBytes.diff s else s
    if s.isAscii then .ok s else .error .invalidUtf8

/-- Completes a pending set operation with its right side, if one waits. -/
def closeOp (f : Flags) (stack : List ClassFrame) (rhs : CharSet) (rd : Nat) :
    CharSet × Nat × List ClassFrame :=
  match stack with
  | .pending op lhs ld :: rest => (op.apply (foldUnder f lhs) (foldUnder f rhs), max ld rd + 1, rest)
  | _ => (rhs, rd, stack)

/-- A literal inside a class under the flags: with Unicode off it must be an ASCII byte, and a
`\xNN` past ASCII is refused as no UTF-8. -/
def classLiteral (f : Flags) (c : Char) (byte : Option Nat) : Except PatternFault Nat :=
  if f.unicode then .ok c.toNat
  else match byte with
    | some b => if b ≤ 0x7F then .ok b else .error .invalidUtf8
    | none => if c.toNat ≤ 0x7F then .ok c.toNat else .error .unicodeOff

/-- A primitive standing alone inside a class. -/
def classItem (f : Flags) : Prim → Except PatternFault CharSet
  | .lit c b => (classLiteral f c b).map CharSet.single
  | .perl k n => perlSet f k n
  | .prop q n => propertySetUnder f q n
  | _ => .error .badClassItem

/-- An item inside a class at the cursor: an escape or any one character. -/
def readClassPrim (c : Cursor) : Reading Prim :=
  if c.char == '\\' then readEscape c else .ok (.lit c.char none, c.bump)

/-- A member of a class: a single item or a range `a-b`. A `-` before `]` or before another `-`
is no range. -/
def readRange (f : Flags) (c : Cursor) : Except PatternFault (CharSet × Cursor) := do
  let (p1, c) ← readClassPrim c
  let c := c.skipSpace
  if c.atEnd then throw .unclosedClass
  if c.char != '-' || c.peekSpace == some ']' || c.peekSpace == some '-' then
    let s ← classItem f p1
    return (s, c)
  let (c, ok) := c.bumpSpace
  if !ok then throw .unclosedClass
  let (p2, c) ← readClassPrim c
  match p1, p2 with
  | .lit a ba, .lit b bb =>
    if b < a then throw .badClassRange
    let x ← classLiteral f a ba
    let y ← classLiteral f b bb
    return (CharSet.span x y, c)
  | _, _ => throw .badClassRange

/-- An ASCII class `[:name:]` or `[:^name:]` at a `[` inside a class, as whether it is negated
and the set it names, or `none` to read the `[` as a nested class instead. -/
def readAsciiClass (c : Cursor) : Option (Bool × CharSet × Cursor) :=
  let c1 := c.bump
  if c1.atEnd || c1.char != ':' then none
  else
    let c2 := c1.bump
    if c2.atEnd then none
    else
      let (negated, c3) := if c2.char == '^' then (true, c2.bump) else (false, c2)
      if c3.atEnd then none
      else
        let c4 := toColon c3 (c.pat.size + 1)
        if c4.atEnd then none
        else if !c4.startsWith ":]" then none
        else match asciiClass? (String.ofList (c.slice c3.pos c4.pos)) with
          | none => none
          | some s => some (negated, s, c4.skip 2)
where
  toColon (c : Cursor) : Nat → Cursor
    | 0 => c
    | fuel + 1 => if c.char == ':' then c else
      let d := c.bump
      if d.atEnd then d else toColon d fuel

/-- The opening of a bracket, at its `[`: the negation mark, then leading `-` and a leading `]`
as literal members. -/
def openBracket (c : Cursor) : Except PatternFault (Bool × Members × Cursor) := do
  let (c, ok) := c.bumpSpace
  if !ok then throw .unclosedClass
  let (negated, c) ← if c.char == '^' then
      let (d, ok) := c.bumpSpace
      if !ok then throw .unclosedClass else pure (true, d)
    else pure (false, c)
  let (m, c) ← dashes c {} (c.pat.size + 1)
  if m.count == 0 && c.char == ']' then
    let (d, ok) := c.bumpSpace
    if !ok then throw .unclosedClass
    return (negated, m.add (CharSet.single 0x5D) 0, d)
  return (negated, m, c)
where
  dashes (c : Cursor) (m : Members) : Nat → Except PatternFault (Members × Cursor)
    | 0 => .ok (m, c)
    | fuel + 1 =>
      if c.char == '-' then
        let (d, ok) := c.bumpSpace
        if !ok then .error .unclosedClass else dashes d (m.add (CharSet.single 0x2D) 0) fuel
      else .ok (m, c)

/-- A bracket class at its `[`: its set and its nesting. -/
def readClass (f : Flags) (c : Cursor) : Reading (CharSet × Nat) :=
  loop c [] {} (c.pat.size + 1)
where
  loop (c : Cursor) (stack : List ClassFrame) (m : Members) :
      Nat → Reading (CharSet × Nat)
    | 0 => .error .unclosedClass
    | fuel + 1 =>
      let c := c.skipSpace
      if c.atEnd then .error .unclosedClass
      else
        let ch := c.char
        if ch == '[' then
          match (if stack.isEmpty then none else readAsciiClass c) with
          | some (neg, s, d) =>
            match closeBracket f neg s with
            | .ok s => loop d stack (m.add s 0) fuel
            | .error e => .error e
          | none =>
            match openBracket c with
            | .ok (neg, inner, d) => loop d (.bracket m neg :: stack) inner fuel
            | .error e => .error e
        else if ch == ']' then
          let (v, vd, rest) := closeOp f stack m.set m.nesting
          match rest with
          | .bracket outer neg :: rest' =>
            match closeBracket f neg v with
            | .error e => .error e
            | .ok s =>
              if rest'.isEmpty then .ok ((s, vd + 1), c.bump)
              else loop c.bump rest' (outer.add s (vd + 1)) fuel
          | _ => .error .unclosedClass
        else if (ch == '&' && c.peek == some '&') || (ch == '-' && c.peek == some '-') ||
            (ch == '~' && c.peek == some '~') then
          let op := if ch == '&' then ClassOp.inter else if ch == '-' then .diff else .symmDiff
          let (v, vd, rest) := closeOp f stack m.set m.nesting
          loop (c.skip 2) (.pending op v vd :: rest) {} fuel
        else
          match readRange f c with
          | .ok (s, d) => loop d stack (m.add s 0) fuel
          | .error e => .error e

end ConsoleSweep.Regex
