-- Sweeping a text by a plan. The counts are the lengths of the plan's lists (imports only when
-- they are to be removed). If both are zero the text stays as it is. Otherwise every planned
-- line is dropped, or left as an empty line when blank lines are kept; without kept blank
-- lines, trailing lines that are blank are dropped too.
import ConsoleSweep.Plan
import ConsoleSweep.Text.Lines
namespace ConsoleSweep

/-- How a sweep is done. -/
structure SweepOptions where
  removeImports : Bool := false
  preserveEmptyLines : Bool := true
  confirmBeforeRemoval : Bool := true
  customPatterns : List String := []
deriving Inhabited, Repr

/-- The outcome of a sweep: the new text and how many log and import lines were removed. -/
structure Sweep where
  newText : String
  logsRemoved : Nat
  importsRemoved : Nat
deriving Inhabited, Repr, BEq

/-- A sweep changed something when it removed a line. -/
def Sweep.changed (s : Sweep) : Bool := s.logsRemoved > 0 || s.importsRemoved > 0

/-- Drops trailing blank lines. -/
def dropBlankTail (ls : List String) : List String :=
  (ls.reverse.dropWhile Text.isBlankText).reverse

/-- Applies a plan to a text. -/
def applyPlan (text : String) (o : SweepOptions) (p : Plan) : Sweep :=
  let imports := if o.removeImports then p.importLines.length else 0
  let logs := p.logLines.length
  if logs + imports == 0 then { newText := text, logsRemoved := 0, importsRemoved := 0 }
  else
    let planned (i : Nat) : Bool := p.logLines.contains i || (o.removeImports && p.importLines.contains i)
    let kept := (Text.numbered text).filterMap fun (i, l) =>
      if !planned i then some l else if o.preserveEmptyLines then some "" else none
    let kept := if o.preserveEmptyLines then kept else dropBlankTail kept
    { newText := Text.unlines kept, logsRemoved := logs, importsRemoved := imports }

/-- Sweeps a text by a rule set. -/
def RuleSet.sweep (rs : RuleSet) (text : String) (o : SweepOptions) : Sweep :=
  applyPlan text o (Plan.ofText rs text o.removeImports)

/-- Sweeps a text with the rules of the options. -/
def sweepText (text : String) (o : SweepOptions) : Sweep :=
  (RuleSet.compile o.customPatterns).1.sweep text o

/-- The plan for a text under the options' rules. -/
def planText (text : String) (o : SweepOptions) : Plan :=
  Plan.ofText (RuleSet.compile o.customPatterns).1 text o.removeImports

/-- A text without the lines at the given positions; positions past the end are ignored. -/
def dropLines (text : String) (positions : List Nat) : String :=
  Text.unlines ((Text.numbered text).filterMap fun (i, l) => if positions.contains i then none else some l)

end ConsoleSweep
