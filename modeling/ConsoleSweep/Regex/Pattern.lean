-- Reading a whole pattern: groups, alternation and repetition around the items that
-- `Regex.Parse` reads. Groups are kept on an explicit stack, flags change where they are
-- written and fall back at the end of the group that holds them, and the nesting of what
-- has been read is counted as it is built, so that a pattern nested more than 250 deep is
-- refused. Capture groups are numbered in the order they open. What is read is put in normal
-- form as it is built.
import ConsoleSweep.Regex.Parse
import ConsoleSweep.Unicode.GroupName
namespace ConsoleSweep.Regex

/-! ## Pieces and groups -/

/-- A piece of the sequence being read: its expression, its nesting, and whether it only sets
flags (a flag setting cannot be repeated). -/
structure Piece where
  expr : Expr
  depth : Nat
  setsFlags : Bool := false
deriving Inhabited

/-- Pieces in sequence, in reading order: one expression, and the nesting (a sequence of two or
more is one level more than its deepest piece). -/
def seqOf (ps : List Piece) : Expr × Nat :=
  match ps with
  | [] => (.empty, 0)
  | [p] => (p.expr, p.depth)
  | _ => (Expr.concat (ps.map (·.expr)), (ps.map (·.depth)).foldl max 0 + 1)

/-- Branches of a choice, in order: one expression, and the nesting. -/
def choiceOf (bs : List (Expr × Nat)) : Expr × Nat :=
  match bs with
  | [] => (.empty, 0)
  | [b] => b
  | _ => (Expr.alternation (bs.map (·.1)), (bs.map (·.2)).foldl max 0 + 1)

/-- What stands open while a pattern is read: a group (the pieces before it, newest first, the
flags outside it, and its number if it captures), or a choice with its finished branches. -/
inductive GroupFrame where
  | group (before : List Piece) (outer : Flags) (capture : Option Nat)
  | choice (branches : List (Expr × Nat))
deriving Inhabited

/-- The state of reading: the cursor, the flags, the open groups, the pieces of the current
sequence (newest first), the group names seen and the number of capture groups opened. -/
structure Reader where
  cur : Cursor
  flags : Flags
  stack : List GroupFrame
  pieces : List Piece
  names : List String
  captures : Nat

/-- Alphabetic characters, which may start a group name. -/
def alphabeticSet : CharSet := CharSet.ofTable (String.join Unicode.nameLetterRanges)

/-- Alphabetic and numeric characters, which may continue a group name. -/
def alphanumericSet : CharSet :=
  alphabeticSet.union (CharSet.ofTable (String.join Unicode.nameNumberRanges))

/-- A character allowed in a group name: the first an underscore or a letter, the rest also
digits, `.`, `[` and `]`. -/
def isNameChar (c : Char) (first : Bool) : Bool :=
  if first then c == '_' || alphabeticSet.contains c
  else c == '_' || c == '.' || c == '[' || c == ']' || alphanumericSet.contains c

/-- A group name after its `<`, up to and past the `>`. -/
def readGroupName (c : Cursor) : Reading String :=
  if c.atEnd then .error .badGroupName
  else
    match go c (c.pat.size + 1) with
    | .error e => .error e
    | .ok d =>
      if d.atEnd then .error .badGroupName
      else
        let name := String.ofList (c.slice c.pos d.pos)
        if name.isEmpty then .error .badGroupName else .ok (name, d.bump)
where
  go (d : Cursor) : Nat → Except PatternFault Cursor
    | 0 => .ok d
    | fuel + 1 =>
      if d.char == '>' then .ok d
      else if !isNameChar d.char (d.pos == c.pos) then .error .badGroupName
      else
        let e := d.bump
        if e.atEnd then .ok e else go e fuel

/-- A flag list, up to its `:` or `)`: no flag twice, at most one `-`, and not ending in `-`. -/
def readFlags (c : Cursor) : Reading (List FlagItem) :=
  go c [] false (c.pat.size + 1)
where
  go (c : Cursor) (items : List FlagItem) (lastNeg : Bool) : Nat → Reading (List FlagItem)
    | 0 => .error .badFlag
    | fuel + 1 =>
      if c.char == ':' || c.char == ')' then
        if lastNeg then .error .badFlag else .ok (items.reverse, c)
      else
        let next : Except PatternFault (FlagItem × Bool) :=
          if c.char == '-' then .ok (.negation, true)
          else match Flag.ofChar? c.char with
            | some g => .ok (.flag g, false)
            | none => .error .badFlag
        match next with
        | .error e => .error e
        | .ok (item, neg) =>
          if items.contains item then .error .badFlag
          else
            let d := c.bump
            if d.atEnd then .error .badFlag else go d (item :: items) neg fuel

namespace Reader

/-- Moves the cursor and keeps its skipping of blanks in step with the flags. -/
def withCursor (r : Reader) (c : Cursor) (f : Flags) : Reader :=
  { r with cur := { c with verbose := f.verbose }, flags := f }

/-- An opening parenthesis: a look-around (refused), a named group, a flag setting, a group
with flags, or a plain group. -/
def openGroup (r : Reader) : Except PatternFault Reader := do
  let c := r.cur.bump.skipSpace
  if c.startsWith "?=" || c.startsWith "?!" || c.startsWith "?<=" || c.startsWith "?<!" then
    throw .lookAround
  if c.startsWith "?P<" || c.startsWith "?<" then
    let c := c.skip (if c.startsWith "?P<" then 3 else 2)
    let (name, c) ← readGroupName c
    if r.names.contains name then throw .badGroupName
    return { r with cur := c, stack := .group r.pieces r.flags (some (r.captures + 1)) :: r.stack,
                    pieces := [], names := name :: r.names, captures := r.captures + 1 }
  if c.startsWith "?" then
    let c := c.bump
    if c.atEnd then throw .unclosedGroup
    let (items, c) ← readFlags c
    let closing := c.char
    let f := r.flags.apply items
    if closing == ')' then
      if items.isEmpty then throw .missingRepetition
      return { r.withCursor c.bump f with
        pieces := { expr := .empty, depth := 0, setsFlags := true } :: r.pieces }
    return { r.withCursor c.bump f with
      stack := .group r.pieces r.flags none :: r.stack, pieces := [] }
  return { r with cur := c, stack := .group r.pieces r.flags (some (r.captures + 1)) :: r.stack,
                  pieces := [], captures := r.captures + 1 }

/-- A closing parenthesis: the open group becomes one piece, a capture if it is one, and its
outer flags return. -/
def closeGroup (r : Reader) : Except PatternFault Reader :=
  let inner := seqOf r.pieces.reverse
  let found : Option (Expr × Nat × List Piece × Flags × Option Nat × List GroupFrame) :=
    match r.stack with
    | .group before outer cap :: rest => some (inner.1, inner.2, before, outer, cap, rest)
    | .choice bs :: .group before outer cap :: rest =>
      let body := choiceOf (bs ++ [inner])
      some (body.1, body.2, before, outer, cap, rest)
    | _ => none
  match found with
  | none => .error .unopenedGroup
  | some (body, depth, before, outer, cap, rest) =>
    let e := match cap with
      | some i => Expr.capture i body
      | none => body
    .ok { r.withCursor r.cur.bump outer with
      stack := rest, pieces := { expr := e, depth := depth + 1 } :: before }

/-- A bar: the current sequence becomes a finished branch of the innermost choice. -/
def alternate (r : Reader) : Reader :=
  let branch := seqOf r.pieces.reverse
  let stack := match r.stack with
    | .choice bs :: rest => .choice (bs ++ [branch]) :: rest
    | s => .choice [branch] :: s
  { r with cur := r.cur.bump, stack := stack, pieces := [] }

/-- The last piece repeated: `?`, `*` or `+`, with an optional `?` after it that makes it lazy
(or greedy, where the flag `U` swaps the two). -/
def repeatLast (r : Reader) (lo : Nat) (hi : Option Nat) : Except PatternFault Reader :=
  match r.pieces with
  | [] => .error .missingRepetition
  | p :: rest =>
    if p.setsFlags then .error .missingRepetition
    else
      let c := r.cur.bump
      let lazy := !c.atEnd && c.char == '?'
      let c := if lazy then c.bump else c
      let e := Expr.repetition p.expr lo hi (lazy == r.flags.swapGreed)
      .ok { r with cur := c, pieces := { expr := e, depth := p.depth + 1 } :: rest }

/-- A decimal count: blanks before and after are allowed, the digits must fit in 32 bits. -/
def readCount (c : Cursor) : Reading Nat :=
  let c := skipBlanks c (c.pat.size + 1)
  let (ds, c) := digits c [] (c.pat.size + 1)
  let c := trailing c (c.pat.size + 1)
  if ds.isEmpty then .error .badRepetition
  else
    let n := ds.foldl (fun n d => n * 10 + (d.toNat - '0'.toNat)) 0
    if n < Nat.pow 2 32 then .ok (n, c) else .error .badRepetition
where
  skipBlanks (c : Cursor) : Nat → Cursor
    | 0 => c
    | fuel + 1 => if !c.atEnd && Text.isBlank c.char then skipBlanks c.bump fuel else c
  digits (c : Cursor) (acc : List Char) : Nat → List Char × Cursor
    | 0 => (acc.reverse, c)
    | fuel + 1 =>
      if !c.atEnd && '0' ≤ c.char && c.char ≤ '9' then digits c.bumpSpace.1 (c.char :: acc) fuel
      else (acc.reverse, c)
  trailing (c : Cursor) : Nat → Cursor
    | 0 => c
    | fuel + 1 => if !c.atEnd && Text.isBlank c.char then trailing c.bumpSpace.1 fuel else c

/-- A counted repetition `{n}`, `{n,}` or `{n,m}` of the last piece; `m` may not be below `n`. -/
def countLast (r : Reader) : Except PatternFault Reader := do
  let p ← match r.pieces with
    | [] => throw .missingRepetition
    | p :: _ => if p.setsFlags then throw .missingRepetition else pure p
  let (c, ok) := r.cur.bumpSpace
  if !ok then throw .badRepetition
  let (lo, c) ← readCount c
  if c.atEnd then throw .badRepetition
  let (hi, c) ← if c.char == ',' then do
      let (c, ok) := c.bumpSpace
      if !ok then throw .badRepetition
      if c.char != '}' then
        let (m, c) ← readCount c
        pure (some m, c)
      else pure (none, c)
    else pure (some lo, c)
  if c.atEnd || c.char != '}' then throw .badRepetition
  let (c, ok) := c.bumpSpace
  let lazy := ok && c.char == '?'
  let c := if lazy then c.bump else c
  if (hi.map fun m => decide (m < lo)) == some true then throw .badRepetition
  let e := Expr.repetition p.expr lo hi (lazy == r.flags.swapGreed)
  let piece : Piece := { expr := e, depth := p.depth + 1 }
  return { r with cur := c, pieces := piece :: r.pieces.tail }

/-- A bracket class as one piece. -/
def bracket (r : Reader) : Except PatternFault Reader :=
  match readClass r.flags r.cur with
  | .error e => .error e
  | .ok ((s, d), c) =>
    .ok { r with cur := c, pieces := { expr := Expr.ofSet s, depth := d } :: r.pieces }

/-- A single item: an escape, the dot, an anchor or a literal character. -/
def item (r : Reader) : Except PatternFault Reader := do
  let c := r.cur
  let (p, c) ← match c.char with
    | '\\' => readEscape c
    | '.' => pure (Prim.dot, c.bump)
    | '^' => pure (Prim.look .lineStartMark, c.bump)
    | '$' => pure (Prim.look .lineEndMark, c.bump)
    | ch => pure (Prim.lit ch none, c.bump)
  let e ← primExpr r.flags p
  return { r with cur := c, pieces := { expr := e, depth := 0 } :: r.pieces }

/-- The end of the pattern: every group must be closed, and the nesting within the limit. -/
def finish (r : Reader) : Except PatternFault Expr :=
  let last := seqOf r.pieces.reverse
  let whole : Except PatternFault (Expr × Nat) :=
    match r.stack with
    | [] => .ok last
    | [.choice bs] => .ok (choiceOf (bs ++ [last]))
    | _ => .error .unclosedGroup
  match whole with
  | .error e => .error e
  | .ok (n, d) => if d ≤ nestLimit then .ok n else .error .tooDeep

/-- Reads until the end of the pattern; every round reads at least one character. -/
def run (r : Reader) : Nat → Except PatternFault Expr
  | 0 => .error .unclosedGroup
  | fuel + 1 =>
    let r := { r with cur := r.cur.skipSpace }
    if r.cur.atEnd then r.finish
    else
      let next : Except PatternFault Reader :=
        match r.cur.char with
        | '(' => r.openGroup
        | ')' => r.closeGroup
        | '|' => .ok r.alternate
        | '[' => r.bracket
        | '?' => r.repeatLast 0 (some 1)
        | '*' => r.repeatLast 0 none
        | '+' => r.repeatLast 1 none
        | '{' => r.countLast
        | _ => r.item
      match next with
      | .error e => .error e
      | .ok r' => run r' fuel

end Reader

/-- Reads a pattern with the given starting flags. -/
def readPatternWith (f : Flags) (s : String) : Except PatternFault Expr :=
  let pat := s.toList.toArray
  Reader.run { cur := { pat := pat, pos := 0, verbose := f.verbose }, flags := f, stack := [],
               pieces := [], names := [], captures := 0 } (pat.size + 1)

/-- Reads a pattern; with `multiLine`, `^` and `$` also match at line feeds. -/
def readPattern (s : String) (multiLine : Bool) : Except PatternFault Expr :=
  readPatternWith { multiLine := multiLine } s

end ConsoleSweep.Regex
