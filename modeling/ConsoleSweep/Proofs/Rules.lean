-- The rules in force for a run. Compiling the user's patterns keeps the built-in rule first,
-- then takes the first 64 patterns in order: a pattern of at most 1000 bytes that reads as a
-- multi-line pattern within the automaton's size limit becomes a rule, any other one becomes
-- an issue naming it, after a note on the surplus when more than 64 were given. Patterns added
-- at the end only add rules, so a plan under more patterns lists every log line it listed
-- before; import lines do not depend on the patterns at all.
import ConsoleSweep.Proofs.Classify
import ConsoleSweep.Cli.Run

namespace ConsoleSweep

open Regex Text

/-! ## Compiling one pattern -/

namespace Rule

/-- Whether a pattern reads as a multi-line pattern whose automaton fits the size limit. -/
def compiles (p : String) : Bool :=
  match readPattern p true with
  | .ok e => e.fitsSizeLimit
  | .error _ => false

/-- Whether a user pattern is taken as a rule: short enough, and it compiles. -/
def taken (p : String) : Bool :=
  decide (p.utf8ByteSize ≤ maxRuleBytes) && compiles p

/-- A pattern is taken exactly when it gives a rule, and the rule is the pattern read. -/
theorem custom_eq_ok_iff {p : String} {r : Rule} :
    Rule.custom p = .ok r ↔ p.utf8ByteSize ≤ maxRuleBytes ∧
      ∃ e, readPattern p true = .ok e ∧ e.fitsSizeLimit = true ∧
        r = { source := p, node := e.toNode, builtin := false } := by
  unfold Rule.custom
  by_cases hlen : p.utf8ByteSize > maxRuleBytes
  · simp only [hlen, if_true, reduceCtorEq, false_iff, not_and]
    omega
  · simp only [hlen, if_false]
    cases hread : readPattern p true with
    | error f => simp
    | ok e =>
      by_cases hfit : e.fitsSizeLimit = true
      · simp only [hfit, if_true, Except.ok.injEq]
        constructor
        · rintro rfl
          exact ⟨by omega, e, rfl, hfit, rfl⟩
        · rintro ⟨-, e', he, -, rfl⟩
          cases he
          rfl
      · simp [hfit]

theorem taken_of_custom_eq_ok {p : String} {r : Rule} (h : Rule.custom p = .ok r) :
    taken p = true := by
  obtain ⟨hlen, e, he, hfit, -⟩ := custom_eq_ok_iff.1 h
  simp [taken, compiles, hlen, he, hfit]

/-- What an issue says of a refused pattern: it is too long, with its length in bytes, or it
does not compile. -/
def Refuses (p : String) (e : RuleIssue) : Prop :=
  if maxRuleBytes < p.utf8ByteSize then e = .tooLong p p.utf8ByteSize
  else ∃ f, e = .invalid p f

/-- A refused pattern is not taken, and its issue names it: the length is checked before the
pattern is read. -/
theorem custom_eq_error {p : String} {e : RuleIssue} (h : Rule.custom p = .error e) :
    taken p = false ∧ Refuses p e := by
  unfold Rule.custom at h
  by_cases hlen : p.utf8ByteSize > maxRuleBytes
  · simp only [hlen, if_true, Except.error.injEq] at h
    subst h
    refine ⟨by simp [taken]; omega, ?_⟩
    simp [Refuses, hlen]
  · simp only [hlen, if_false] at h
    have hshort : ¬ maxRuleBytes < p.utf8ByteSize := hlen
    cases hread : readPattern p true with
    | error f =>
      simp only [hread, Except.error.injEq] at h
      subst h
      exact ⟨by simp [taken, compiles, hread], by simp [Refuses, hshort]⟩
    | ok x =>
      by_cases hfit : x.fitsSizeLimit = true
      · simp [hread, hfit] at h
      · simp only [hread, hfit, Bool.false_eq_true, if_false, Except.error.injEq] at h
        subst h
        exact ⟨by simp [taken, compiles, hread, hfit], by simp [Refuses, hshort]⟩

end Rule

/-! ## Compiling a list of patterns -/

/-- The rules from some patterns, in order: those of the patterns that are taken. -/
def takenRules (ps : List String) : List Rule :=
  (ps.map Rule.custom).filterMap fun r => match r with | .ok x => some x | .error _ => none

/-- The issues of some patterns, in order: those of the patterns that are refused. -/
def refusedIssues (ps : List String) : List RuleIssue :=
  (ps.map Rule.custom).filterMap fun r => match r with | .ok _ => none | .error e => some e

theorem takenRules_append (ps qs : List String) :
    takenRules (ps ++ qs) = takenRules ps ++ takenRules qs := by
  simp [takenRules, List.filterMap_append]

theorem compile_eq (cp : List String) :
    RuleSet.compile cp =
      (⟨Rule.consoleLog :: takenRules (cp.take maxCustomRules)⟩,
        (if cp.length > maxCustomRules then [RuleIssue.tooMany cp.length] else []) ++
          refusedIssues (cp.take maxCustomRules)) := rfl

/-- The taken rules are the taken patterns, in order, each read as a user rule. -/
theorem takenRules_spec (ps : List String) :
    (takenRules ps).map Rule.source = ps.filter Rule.taken ∧
      ∀ r ∈ takenRules ps, r.builtin = false ∧
        ∃ e, readPattern r.source true = .ok e ∧ r.node = e.toNode := by
  induction ps with
  | nil => simp [takenRules]
  | cons p ps ih =>
    obtain ⟨ihsrc, ihrules⟩ := ih
    cases h : Rule.custom p with
    | ok r =>
      obtain ⟨-, e, he, -, rfl⟩ := Rule.custom_eq_ok_iff.1 h
      have htaken := Rule.taken_of_custom_eq_ok h
      have hcons : takenRules (p :: ps) =
          { source := p, node := e.toNode, builtin := false } :: takenRules ps := by
        simp [takenRules, h]
      refine ⟨by simp [hcons, htaken, ihsrc], ?_⟩
      rw [hcons]
      rintro r (_ | ⟨_, hr⟩)
      · exact ⟨rfl, e, he, rfl⟩
      · exact ihrules r hr
    | error x =>
      have hcons : takenRules (p :: ps) = takenRules ps := by simp [takenRules, h]
      rw [hcons]
      exact ⟨by simp [(Rule.custom_eq_error h).1, ihsrc], ihrules⟩

/-- The refused patterns, in order, each with the issue that names it. -/
theorem refusedIssues_spec (ps : List String) :
    List.Forall₂ Rule.Refuses (ps.filter fun p => !Rule.taken p) (refusedIssues ps) := by
  induction ps with
  | nil => exact .nil
  | cons p ps ih =>
    cases h : Rule.custom p with
    | ok r =>
      have hcons : refusedIssues (p :: ps) = refusedIssues ps := by simp [refusedIssues, h]
      rw [hcons, List.filter_cons_of_neg (by simp [Rule.taken_of_custom_eq_ok h])]
      exact ih
    | error e =>
      obtain ⟨htaken, hrefuses⟩ := Rule.custom_eq_error h
      have hcons : refusedIssues (p :: ps) = e :: refusedIssues ps := by
        simp [refusedIssues, h]
      rw [hcons, List.filter_cons_of_pos (by simp [htaken])]
      exact .cons hrefuses ih

/-- How compiling sorts the patterns, for every list of patterns: the rules are the built-in
rule, then the rule read from each of the first 64 patterns that is taken (at most 1000 bytes
and compiling), in order; the issues are a note on the surplus when more than 64 were given,
then one issue naming each of the first 64 patterns that is refused, in order, saying that it
is too long when it is over 1000 bytes and that it does not compile otherwise. -/
theorem compile_sorts_patterns (cp : List String) :
    (∃ taken : List Rule, (RuleSet.compile cp).1.rules = Rule.consoleLog :: taken ∧
      taken.map Rule.source = (cp.take maxCustomRules).filter Rule.taken ∧
      ∀ r ∈ taken, r.builtin = false ∧
        ∃ e, readPattern r.source true = .ok e ∧ r.node = e.toNode) ∧
    ∃ refused : List RuleIssue,
      (RuleSet.compile cp).2 =
        (if maxCustomRules < cp.length then [RuleIssue.tooMany cp.length] else []) ++ refused ∧
      List.Forall₂ Rule.Refuses ((cp.take maxCustomRules).filter fun p => !Rule.taken p)
        refused := by
  refine ⟨⟨takenRules (cp.take maxCustomRules), rfl, takenRules_spec _⟩,
    refusedIssues (cp.take maxCustomRules), rfl, refusedIssues_spec _⟩

/-! ## Patterns added at the end -/

/-- Patterns added at the end only add rules after those already there. -/
theorem compile_rules_append (cp cp2 : List String) :
    ∃ more : List Rule,
      (RuleSet.compile (cp ++ cp2)).1.rules = (RuleSet.compile cp).1.rules ++ more := by
  refine ⟨takenRules ((cp2.take (maxCustomRules - cp.length))), ?_⟩
  simp only [compile_eq, List.take_append, takenRules_append, List.cons_append]

theorem isLogLine_of_rules_append {rs rs' : RuleSet} {more : List Rule}
    (h : rs'.rules = rs.rules ++ more) {l : String} (hl : rs.isLogLine l = true) :
    rs'.isLogLine l = true := by
  simp only [RuleSet.isLogLine, List.any_eq_true, h, List.mem_append] at hl ⊢
  obtain ⟨r, hr, hm⟩ := hl
  exact ⟨r, Or.inl hr, hm⟩

/-- A plan under rules that extend others lists every log line the others list, and the
same import lines. -/
theorem ofText_of_rules_append {rs rs' : RuleSet} {more : List Rule}
    (h : rs'.rules = rs.rules ++ more) (t : String) (w : Bool) :
    (∀ i ∈ (Plan.ofText rs t w).logLines, i ∈ (Plan.ofText rs' t w).logLines) ∧
      (Plan.ofText rs t w).importLines = (Plan.ofText rs' t w).importLines := by
  refine ⟨fun i hi => ?_, rfl⟩
  rw [ofText_logLines, mem_linesWhere] at hi ⊢
  obtain ⟨hlt, hq⟩ := hi
  simp only [Bool.and_eq_true] at hq ⊢
  exact ⟨hlt, hq.1, isLogLine_of_rules_append h hq.2⟩

theorem context_patterns (cmd : Cli.Command) (settings : Settings) :
    (cmd.context settings).1.rules =
      (RuleSet.compile (settings.customPatterns ++ cmd.patterns)).1 ∧
      ({ cmd with patterns := [] }.context settings).1.rules =
        (RuleSet.compile settings.customPatterns).1 := by
  refine ⟨?_, ?_⟩ <;>
  · simp only [Cli.Command.context, Settings.sweepOptions]
    split <;> split <;> simp

/-- Patterns added at the end never lose a line, for every text, every choice about imports and
every two lists of patterns: a plan under the patterns with more after them lists every log
line the plan under the first lists, and the same import lines. In particular the lines the
built-in rule finds are listed whatever patterns are given, and the patterns of the command line,
which come after those of the settings, never make a run list fewer lines. -/
theorem ofText_compile_append (t : String) (w : Bool) (cp cp2 : List String) :
    ((∀ i ∈ (Plan.ofText (RuleSet.compile cp).1 t w).logLines,
        i ∈ (Plan.ofText (RuleSet.compile (cp ++ cp2)).1 t w).logLines) ∧
      (Plan.ofText (RuleSet.compile cp).1 t w).importLines =
        (Plan.ofText (RuleSet.compile (cp ++ cp2)).1 t w).importLines) ∧
    ∀ (cmd : Cli.Command) (settings : Settings),
      ∀ i ∈ (Plan.ofText ({ cmd with patterns := [] }.context settings).1.rules t w).logLines,
        i ∈ (Plan.ofText (cmd.context settings).1.rules t w).logLines := by
  refine ⟨?_, fun cmd settings => ?_⟩
  · obtain ⟨more, h⟩ := compile_rules_append cp cp2
    exact ofText_of_rules_append h t w
  · obtain ⟨hwith, hwithout⟩ := context_patterns cmd settings
    obtain ⟨more, h⟩ := compile_rules_append settings.customPatterns cmd.patterns
    rw [hwith, hwithout]
    exact (ofText_of_rules_append h t w).1

/-! ## Import lines -/

theorem map_lineNumber_findImports (t : String) :
    (findImports t).map (·.lineNumber) = linesWhere RuleSet.isImportLine t := by
  rw [findImports, List.map_map]
  exact map_fst_filter_numbered RuleSet.isImportLine t

theorem findImports_text {t : String} {m : ImportLine} (hm : m ∈ findImports t) :
    (lines t)[m.lineNumber]? = some m.text := by
  simp only [findImports, List.mem_map, List.mem_filter] at hm
  obtain ⟨⟨i, l⟩, ⟨hil, -⟩, rfl⟩ := hm
  exact mem_numbered.1 hil

/-- The import lines of a text, for every text: in increasing order, exactly the positions of the
lines the import rule matches, each with the whole line; and they are the import lines of the
plan under any options that look for imports, whatever the user's patterns. -/
theorem findImports_agrees_with_plan (t : String) :
    ((findImports t).map (·.lineNumber)).Pairwise (· < ·) ∧
    (∀ i, i ∈ (findImports t).map (·.lineNumber) ↔
      ∃ h : i < (lines t).length, RuleSet.isImportLine (lines t)[i] = true) ∧
    (∀ m ∈ findImports t, (lines t)[m.lineNumber]? = some m.text) ∧
    ∀ o : SweepOptions, o.removeImports = true →
      (findImports t).map (·.lineNumber) = (planText t o).importLines := by
  rw [map_lineNumber_findImports]
  refine ⟨pairwise_linesWhere _ t, fun i => mem_linesWhere, fun m hm => findImports_text hm,
    fun o ho => ?_⟩
  rw [planText, ofText_importLines, ho, if_pos rfl]

/-- The listing of the import lines is the plan's import list under options that look
for imports, here with one pattern that does not compile and one that does. -/
theorem findImports_agrees_with_plan_under_patterns :
    (SweepOptions.mk true true true ["(unclosed", "dbg!"]).removeImports = true ∧
      (findImports "pragma solidity ^0.8.0;\nimport \"hardhat/console.sol\";\nx").map
          (·.lineNumber) =
        (planText "pragma solidity ^0.8.0;\nimport \"hardhat/console.sol\";\nx"
          (SweepOptions.mk true true true ["(unclosed", "dbg!"])).importLines :=
  ⟨rfl, (findImports_agrees_with_plan _).2.2.2 _ rfl⟩

end ConsoleSweep
