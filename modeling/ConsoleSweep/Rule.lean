-- Line rules. A line is a log line when the built-in rule (a `console.log` call, with any
-- ASCII letters after `log`, then optional white space and an opening parenthesis) or one of
-- the user's rules matches somewhere in it. A line is an import line when the import rule
-- matches the whole of it: `import`, something quoted that mentions `console`, and a final
-- semicolon. User rules are patterns read in multi-line mode; at most 64 are taken, none
-- longer than 1000 bytes or needing an automaton past the size limit, and each one that is
-- refused is reported, in order.
import ConsoleSweep.Regex.Pattern
import ConsoleSweep.Regex.Automaton
import ConsoleSweep.Regex.Match
namespace ConsoleSweep

open Regex

/-- A rule that marks a line: the pattern as written, what it matches, and whether it is the
built-in one. -/
structure Rule where
  source : String
  node : Node
  builtin : Bool
deriving Inhabited

namespace Rule

/-- Unicode white space, any number of times. -/
def blanks : Node := Node.star (.chars spaceSet)

/-- Any character but a line feed. -/
def anyButFeed : Node := .chars (CharSet.ofList [(0, 9), (11, maxCodePoint)])

/-- A double or single quote. -/
def quote : CharSet := CharSet.ofList [(0x22, 0x22), (0x27, 0x27)]

/-- The built-in rule: `console.log`, ASCII letters, white space, then `(`. -/
def consoleLog : Rule where
  source := "console\\.log[A-Za-z]*\\s*\\("
  node := Node.seq [Node.literal "console.log",
    Node.star (.chars (CharSet.ofList [(0x41, 0x5A), (0x61, 0x7A)])), blanks, Node.char '(']
  builtin := true

/-- The import rule, anchored at both ends of the line: white space, `import`, white space,
anything, a quoted part that mentions `console`, anything, `;` and white space. -/
def consoleImport : Rule where
  source := "^\\s*import\\s+.*[\"'][^\"']*console[^\"']*[\"'].*;\\s*$"
  node := Node.seq [.look .textStart, blanks, Node.literal "import", Node.plus (.chars spaceSet),
    Node.star anyButFeed, .chars quote, Node.star (.chars quote.complement), Node.literal "console",
    Node.star (.chars quote.complement), .chars quote, Node.star anyButFeed, Node.char ';', blanks,
    .look .textEnd]
  builtin := true

/-- Whether the rule matches somewhere in the line. -/
def isMatch (r : Rule) (line : String) : Bool := r.node.isMatch line

end Rule

/-- The most user rules that are taken. -/
def maxCustomRules : Nat := 64

/-- The longest user rule, in bytes. -/
def maxRuleBytes : Nat := 1000

/-- Why a user rule was not taken, or that some were left out. -/
inductive RuleIssue where
  /-- The pattern does not read as a regular expression. -/
  | invalid (pattern : String) (fault : PatternFault)
  /-- The pattern is longer than the limit, in bytes. -/
  | tooLong (pattern : String) (bytes : Nat)
  /-- More patterns than the limit were given. -/
  | tooMany (count : Nat)
deriving Inhabited

/-- What is said about an issue. The reason a pattern does not read is not spelled out; the
placeholder `<regex error>` stands for it. -/
def RuleIssue.message : RuleIssue → String
  | .invalid p _ => s!"Invalid custom pattern '{p}': <regex error>"
  | .tooLong p n =>
    let shown := String.ofList (p.toList.take 40)
    s!"Custom pattern '{shown}...' is {n} chars, exceeds maximum of {maxRuleBytes}"
  | .tooMany n => s!"{n} custom patterns supplied, only the first {maxCustomRules} are used"

/-- A user rule from its pattern, or why it is refused: first the length, then the reading,
then the size of the automaton it needs. -/
def Rule.custom (p : String) : Except RuleIssue Rule :=
  if p.utf8ByteSize > maxRuleBytes then .error (.tooLong p p.utf8ByteSize)
  else match readPattern p true with
    | .ok e =>
      if e.fitsSizeLimit then .ok { source := p, node := e.toNode, builtin := false }
      else .error (.invalid p .tooBig)
    | .error e => .error (.invalid p e)

/-- The rules in force: the built-in rule first, then the user rules that were taken, in order. -/
structure RuleSet where
  rules : List Rule
deriving Inhabited

namespace RuleSet

/-- The built-in rule alone. -/
def builtinOnly : RuleSet := ⟨[Rule.consoleLog]⟩

/-- The rules from the user's patterns, with what was refused: a note on surplus patterns
first, then one issue per refused pattern among the first 64. -/
def compile (patterns : List String) : RuleSet × List RuleIssue :=
  let surplus := if patterns.length > maxCustomRules then [RuleIssue.tooMany patterns.length] else []
  let results := (patterns.take maxCustomRules).map Rule.custom
  let taken := results.filterMap fun r => match r with | .ok x => some x | .error _ => none
  let refused := results.filterMap fun r => match r with | .ok _ => none | .error e => some e
  (⟨Rule.consoleLog :: taken⟩, surplus ++ refused)

/-- Whether some rule matches the line. -/
def isLogLine (rs : RuleSet) (line : String) : Bool := rs.rules.any (·.isMatch line)

/-- Whether the import rule matches the line. -/
def isImportLine (line : String) : Bool := Rule.consoleImport.isMatch line

end RuleSet

end ConsoleSweep
