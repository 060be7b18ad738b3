-- A plan of removal: the positions of the log lines and, when asked, of the import lines of
-- a text. An empty line is never a log line. A line may stand in both lists.
import ConsoleSweep.Rule
import ConsoleSweep.Text.Lines
namespace ConsoleSweep

/-- The lines to remove from a text, by position counted from zero. -/
structure Plan where
  logLines : List Nat
  importLines : List Nat
deriving Inhabited, Repr, BEq

namespace Plan

/-- How many entries the plan holds, the two lists together. -/
def total (p : Plan) : Nat := p.logLines.length + p.importLines.length

/-- Whether the plan holds nothing. -/
def isEmpty (p : Plan) : Bool := p.total == 0

/-- The plan for a text: the non-empty lines that a rule matches, and, when `withImports`, the
lines that the import rule matches. -/
def ofText (rs : RuleSet) (text : String) (withImports : Bool) : Plan :=
  let ls := Text.numbered text
  { logLines := (ls.filter fun (_, l) => !l.isEmpty && rs.isLogLine l).map (·.1)
    importLines := if withImports then (ls.filter fun (_, l) => RuleSet.isImportLine l).map (·.1)
      else [] }

end Plan

/-- An import line with its position. -/
structure ImportLine where
  lineNumber : Nat
  text : String
deriving Inhabited, Repr

/-- Every line that the import rule matches, with its position. -/
def findImports (text : String) : List ImportLine :=
  ((Text.numbered text).filter fun (_, l) => RuleSet.isImportLine l).map fun (i, l) => ⟨i, l⟩

end ConsoleSweep
