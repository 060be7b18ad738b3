-- The built-in log rule as a grammar: `console.log`, ASCII letters, white space, then `(`. The
-- rule has no anchor, so it matches a line exactly when such a text stands somewhere in it:
-- `console.log(`, `console.logger (` and `xconsole.log(` all match, `console. log(` and a
-- `console.log` with no `(` after it on its line do not. Every rule set in force holds the rule,
-- so a line that calls `console.log` is a log line whatever the user's patterns.
import Mathlib
import ConsoleSweep.Proofs.ImportRule

namespace ConsoleSweep

open Regex Text

namespace Rule

/-- The letters of the built-in rule are the ASCII letters. -/
theorem contains_letters (c : Char) :
    (CharSet.ofList [(0x41, 0x5A), (0x61, 0x7A)]).contains c = c.isAlpha := by
  rw [Bool.eq_iff_iff, CharSet.contains_ofList]
  simp only [CharSet.covers_cons, CharSet.not_covers_nil, or_false, Char.isAlpha, Char.isUpper,
    Char.isLower, Bool.or_eq_true, Bool.and_eq_true, decide_eq_true_eq]
  simp only [UInt32.le_iff_toNat_le, ge_iff_le]
  rfl

/-- The texts of the built-in rule: `console.log`, ASCII letters, white space, then `(`. -/
theorem mem_consoleLog_lang {w : List Char} :
    w ∈ consoleLog.node.lang ↔ ∃ x y, (∀ c ∈ x, c.isAlpha = true) ∧
      (∀ c ∈ y, isBlank c = true) ∧ w = "console.log".toList ++ x ++ y ++ ['('] := by
  simp only [consoleLog, Node.seq, Node.lang, Language.mem_mul,
    Node.mem_lang_literal, Node.mem_lang_star_chars, contains_letters, mem_lang_blanks,
    Node.mem_lang_char]
  constructor
  · rintro ⟨_, rfl, _, ⟨x, hx, _, ⟨y, hy, _, rfl, rfl⟩, rfl⟩, rfl⟩
    exact ⟨x, y, hx, hy, by simp⟩
  · rintro ⟨x, y, hx, hy, rfl⟩
    exact ⟨_, rfl, _, ⟨x, hx, _, ⟨y, hy, _, rfl, rfl⟩, rfl⟩, by simp⟩

/-- The built-in rule matches a line exactly when the line holds `console.log`, then ASCII
letters, then white space, then `(`. -/
theorem consoleLog_isMatch_iff (l : String) :
    consoleLog.isMatch l = true ↔ ∃ x y, (∀ c ∈ x, c.isAlpha = true) ∧
      (∀ c ∈ y, isBlank c = true) ∧ "console.log".toList ++ x ++ y ++ ['('] <:+: l.toList := by
  have hwb : consoleLog.node.wellBounded = true := rfl
  have hfree : consoleLog.node.lookFree = true := rfl
  rw [isMatch, Node.isMatch_iff_infix hwb hfree]
  constructor
  · rintro ⟨w, hw, hinf⟩
    obtain ⟨x, y, hx, hy, rfl⟩ := mem_consoleLog_lang.1 hw
    exact ⟨x, y, hx, hy, hinf⟩
  · rintro ⟨x, y, hx, hy, hinf⟩
    exact ⟨_, mem_consoleLog_lang.2 ⟨x, y, hx, hy, rfl⟩, hinf⟩

end Rule

/-- A line that calls `console.log` is a log line, whatever the user's patterns. -/
theorem isLogLine_compile_of_call (cp : List String) {l : String}
    (h : "console.log(".toList <:+: l.toList) : (RuleSet.compile cp).1.isLogLine l = true := by
  have hcall : "console.log".toList ++ [] ++ [] ++ ['('] = "console.log(".toList := by simp
  rw [RuleSet.isLogLine, List.any_eq_true]
  refine ⟨Rule.consoleLog, by simp [RuleSet.compile], ?_⟩
  exact (Rule.consoleLog_isMatch_iff l).2 ⟨[], [], by simp, by simp, hcall ▸ h⟩

end ConsoleSweep
