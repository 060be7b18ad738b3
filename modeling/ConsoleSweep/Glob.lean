-- Glob patterns for file names. `?` stands for one character, `*` for any run of characters,
-- `**` standing alone between slashes for any run of path parts, `[...]` for a character of a
-- set of characters and ranges and `[!...]` for one outside it; every other character stands
-- for itself, and matching is case-sensitive. A pattern is refused when it holds `***`, a `**`
-- that is not a whole part, or a bracket with no closing `]`.
namespace ConsoleSweep.Glob

/-- A member of a bracket: one character, or a range of them, both ends included. -/
inductive CharItem where
  | single (c : Char)
  | range (lo hi : Char)
deriving Repr, BEq, Inhabited

/-- What a part of a pattern stands for. -/
inductive Token where
  | char (c : Char)
  | anyChar
  | anySequence
  | anyParts
  | within (items : List CharItem)
  | except (items : List CharItem)
deriving Repr, BEq, Inhabited

/-- A compiled pattern, with the text it was compiled from. -/
structure Pattern where
  source : String
  tokens : List Token
deriving Repr, Inhabited

/-- Why a pattern does not compile. -/
inductive GlobFault where
  /-- Three or more stars in a row. -/
  | tooManyStars
  /-- Two stars that are not a whole part of a path. -/
  | partialRecursion
  /-- A bracket that does not close, or holds nothing. -/
  | badRange
deriving Repr, BEq, Inhabited

/-- Whether a character is one of the members of a bracket. -/
def CharItem.admits (c : Char) : CharItem → Bool
  | .single d => c == d
  | .range lo hi => lo ≤ c && c ≤ hi

/-- The members of a bracket: `a-z` is a range, other characters stand alone. -/
def charItems : List Char → List CharItem
  | lo :: '-' :: hi :: r => .range lo hi :: charItems r
  | c :: r => .single c :: charItems r
  | [] => []

/-- Reads a bracket after its `[`: the members up to the first `]` that is not the first
member, and the rest after it. `[!` negates, and then needs at least two more characters. -/
def readBracket : List Char → Except GlobFault (Token × List Char)
  | '!' :: first :: r@(_ :: _) =>
    match r.idxOf? ']' with
    | some j => .ok (.except (charItems (first :: r.take j)), r.drop (j + 1))
    | none => .error .badRange
  | first :: r =>
    if first == '!' then .error .badRange
    else
      match r.idxOf? ']' with
      | some j => .ok (.within (charItems (first :: r.take j)), r.drop (j + 1))
      | none => .error .badRange
  | [] => .error .badRange

/-- Compiles the rest of a pattern; `prev` is the character just before it, if any, and
`acc` the tokens so far, last first. -/
def compileFrom (fuel : Nat) (prev : Option Char) (acc : List Token) (cs : List Char) :
    Except GlobFault (List Token) :=
  match fuel, cs with
  | _, [] => .ok acc.reverse
  | 0, _ => .error .badRange
  | fuel + 1, '?' :: r => compileFrom fuel (some '?') (.anyChar :: acc) r
  | fuel + 1, '*' :: r =>
    let more := (r.takeWhile (· == '*')).length
    let after := r.dropWhile (· == '*')
    if more ≥ 2 then .error .tooManyStars
    else if more == 0 then compileFrom fuel (some '*') (.anySequence :: acc) after
    else if !(prev.isNone || prev == some '/') then .error .partialRecursion
    else
      let acc := match acc with
        | .anyParts :: _ :: _ => acc
        | _ => .anyParts :: acc
      match after with
      | '/' :: r' => compileFrom fuel (some '/') acc r'
      | [] => .ok acc.reverse
      | _ => .error .partialRecursion
  | fuel + 1, '[' :: r => do
    let (tok, rest) ← readBracket r
    compileFrom fuel (some ']') (tok :: acc) rest
  | fuel + 1, c :: r => compileFrom fuel (some c) (.char c :: acc) r

/-- Compiles a pattern. -/
def Pattern.compile (s : String) : Except GlobFault Pattern := do
  let tokens ← compileFrom (s.length + 1) none [] s.toList
  return { source := s, tokens }

/-- Whether a pattern has no wildcard: no `*`, `?` or `[`. -/
def Pattern.isLiteral (p : Pattern) : Bool :=
  !p.source.toList.any fun c => c == '*' || c == '?' || c == '['

/-- The outcome of matching the rest of a pattern: a match, no match of this rest (an earlier
wildcard may take more), or no match at all (the text ran out). -/
inductive Outcome where
  | matched
  | restFails
  | allFail
deriving Repr, BEq, Inhabited

/-- Tries the tokens after a wildcard after each further character the wildcard takes. A
wildcard for path parts may only end just after a slash. -/
def extend (parts : Bool) (next : Bool → List Char → Outcome) : Bool → List Char → Outcome
  | afterSlash, [] => next afterSlash []
  | _, c :: cs =>
    let afterSlash := c == '/'
    if parts && !afterSlash then extend parts next afterSlash cs
    else
      match next afterSlash cs with
      | .restFails => extend parts next afterSlash cs
      | m => m

/-- A wildcard takes nothing first, then more and more. -/
def wildcard (parts : Bool) (next : Bool → List Char → Outcome) (afterSlash : Bool)
    (cs : List Char) : Outcome :=
  match next afterSlash cs with
  | .restFails => extend parts next afterSlash cs
  | m => m

/-- Whether a token takes a character. -/
def Token.admits (c : Char) : Token → Bool
  | .char d => c == d
  | .anyChar => true
  | .within items => items.any (·.admits c)
  | .except items => !items.any (·.admits c)
  | .anySequence | .anyParts => false

/-- Matches tokens against the rest of a text; `afterSlash` says whether the last character
taken was a slash. -/
def matchFrom : List Token → Bool → List Char → Outcome
  | [], _, cs => if cs.isEmpty then .matched else .restFails
  | .anySequence :: rest, afterSlash, cs => wildcard false (matchFrom rest) afterSlash cs
  | .anyParts :: rest, afterSlash, cs => wildcard true (matchFrom rest) afterSlash cs
  | tok :: rest, _, cs =>
    match cs with
    | [] => .allFail
    | c :: cs' => if tok.admits c then matchFrom rest (c == '/') cs' else .restFails

/-- Whether a pattern matches a whole text. -/
def Pattern.matches (p : Pattern) (s : String) : Bool :=
  matchFrom p.tokens true s.toList == .matched

/-- The patterns that compile, in order; the others are passed over. -/
def compileAll (ps : List String) : List Pattern :=
  ps.filterMap fun p => (Pattern.compile p).toOption

end ConsoleSweep.Glob
