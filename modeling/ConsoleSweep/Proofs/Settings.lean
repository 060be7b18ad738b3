-- The laws of settings. Each setting is the file's value when the file gives one that is
-- admissible, and the default otherwise; each refused value is reported once, in the order of
-- the keys. What comes out always holds a depth from 1 to 128, some patterns to include, no
-- blank custom pattern and a known level of logging in lower case; and such settings, written
-- back as a file that gives every one of them, come out again as they are, with no warning.
import ConsoleSweep.Settings
import ConsoleSweep.Proofs.Lines
import ConsoleSweep.Proofs.Lower

namespace ConsoleSweep

open Text

/-! ## What a file asks for -/

/-- The levels of logging, in lower case. -/
theorem logLevels_eq : logLevels = ["error", "warn", "info", "debug", "trace"] := rfl

/-- The settings a file asks for: each one the file's value when it gives an admissible one,
else the default. A custom pattern is admissible unless it trims to nothing, a depth from 1 to
128, patterns to include unless there are none, and a level of logging when its lower case is a
known level, which is kept. -/
def SettingsFile.resolved (f : SettingsFile) : Settings where
  preserveEmptyLines := f.preserveEmptyLines.getD true
  confirmBeforeRemoval := f.confirmBeforeRemoval.getD true
  showNotifications := f.showNotifications.getD true
  customPatterns := (f.customPatterns.map fun ps => ps.filter fun p => trim p ≠ "").getD []
  maxDepth := (f.maxDepth.filter fun d => 1 ≤ d ∧ d ≤ 128).getD 32
  includePatterns := (f.includePatterns.filter fun ps => ps ≠ []).getD ["*.sol"]
  excludePatterns := f.excludePatterns.getD ["node_modules", ".git"]
  logLevel := (f.level.map toLowercase).filter fun l => l ∈ logLevels

/-- One warning for each value a file gives that is refused, in the order of the keys; all the
blank custom patterns share one, which counts them. -/
def SettingsFile.refusals (f : SettingsFile) : List String :=
  ((f.customPatterns.map fun ps => ps.countP fun p => trim p = "").filter (· ≠ 0)).toList.map
      blankPatternsWarning ++
    (f.maxDepth.filter fun d => ¬(1 ≤ d ∧ d ≤ 128)).toList.map depthWarning ++
    (f.includePatterns.filter fun ps => ps = []).toList.map (fun _ => emptyIncludeWarning) ++
    (f.level.filter fun l => toLowercase l ∉ logLevels).toList.map levelWarning

/-- What checked settings always hold. -/
structure Settings.Valid (s : Settings) : Prop where
  depth_pos : 1 ≤ s.maxDepth
  depth_le : s.maxDepth ≤ 128
  include_ne_nil : s.includePatterns ≠ []
  custom_not_blank : ∀ p ∈ s.customPatterns, trim p ≠ ""
  level_known : ∀ l ∈ s.logLevel, l ∈ ["error", "warn", "info", "debug", "trace"]

/-- The file that gives every setting as it is, and a level of logging only when there is one. -/
def Settings.toFile (s : Settings) : SettingsFile where
  preserveEmptyLines := some s.preserveEmptyLines
  confirmBeforeRemoval := some s.confirmBeforeRemoval
  showNotifications := some s.showNotifications
  customPatterns := some s.customPatterns
  maxDepth := some s.maxDepth
  includePatterns := some s.includePatterns
  excludePatterns := some s.excludePatterns
  level := s.logLevel

/-! ## One setting at a time -/

section Steps

variable {α β : Type} {st : Settings × List String}

/-- Taking a value sets the setting to it, or leaves the setting as it is. -/
theorem takeValue_eq {value : Option α} (set : Settings → α → Settings) (get : Settings → α)
    (hget : ∀ s, set s (get s) = s) :
    takeValue value set st = (set st.1 (value.getD (get st.1)), st.2) := by
  cases value with
  | some v => rfl
  | none => simp [takeValue, hget]

/-- Checking a value sets the setting to the accepted form when there is one, and adds the
warning of a refused value. -/
theorem checkValue_eq_map {value : Option α} {accept : α → Option β} {warning : α → String}
    (set : Settings → β → Settings) :
    checkValue value accept set warning st =
      (((value.bind accept).map (set st.1)).getD st.1,
        st.2 ++ (value.filter fun v => (accept v).isNone).toList.map warning) := by
  cases value with
  | none => simp [checkValue]
  | some v =>
    cases h : accept v with
    | none => simp [checkValue, h, Option.filter]
    | some b => simp [checkValue, h]

/-- Checking a value sets the setting to the accepted form, or leaves the setting as it is and
adds the warning of a refused value. -/
theorem checkValue_eq {value : Option α} {accept : α → Option β} {warning : α → String}
    (set : Settings → β → Settings) (get : Settings → β)
    (hget : ∀ s, set s (get s) = s) :
    checkValue value accept set warning st =
      (set st.1 ((value.bind accept).getD (get st.1)),
        st.2 ++ (value.filter fun v => (accept v).isNone).toList.map warning) := by
  rw [checkValue_eq_map]
  cases value.bind accept <;> simp [hget]

/-- The same for a setting that holds an optional value, which an accepted value fills. -/
theorem checkValue_some_eq {value : Option α} {accept : α → Option β} {warning : α → String}
    (set : Settings → Option β → Settings) (get : Settings → Option β)
    (hget : ∀ s, set s (get s) = s) :
    checkValue value accept (fun s b => set s (some b)) warning st =
      (set st.1 ((value.bind accept).or (get st.1)),
        st.2 ++ (value.filter fun v => (accept v).isNone).toList.map warning) := by
  rw [checkValue_eq_map]
  cases value.bind accept <;> simp [hget]

theorem takeCustomPatterns_eq (value : Option (List String)) :
    takeCustomPatterns value st =
      ({ st.1 with customPatterns :=
          (value.map fun ps => ps.filter fun p => !isBlankText p).getD st.1.customPatterns },
        st.2 ++ ((value.map fun ps => (ps.filter isBlankText).length).filter (· ≠ 0)).toList.map
          blankPatternsWarning) := by
  cases value with
  | none => simp [takeCustomPatterns]
  | some ps =>
    by_cases h : (ps.filter isBlankText).isEmpty
    · simp [takeCustomPatterns, List.isEmpty_iff.1 h]
    · have hlen : (ps.filter isBlankText).length ≠ 0 := by
        simpa [List.isEmpty_iff, List.length_eq_zero_iff] using h
      simp [takeCustomPatterns, h, hlen, Option.filter]

end Steps

/-! ## The accepted forms -/

theorem bind_acceptDepth (o : Option Nat) :
    o.bind acceptDepth = o.filter fun d => 1 ≤ d ∧ d ≤ 128 := by
  cases o with
  | none => rfl
  | some d =>
    have hb : (1 ≤ d && d ≤ greatestMaxDepth) = decide (1 ≤ d ∧ d ≤ 128) := by
      rw [Bool.decide_and]
      rfl
    simp only [Option.bind, acceptDepth, Option.filter, hb]

theorem bind_acceptInclude (o : Option (List String)) :
    o.bind acceptInclude = o.filter fun ps => ps ≠ [] := by
  cases o with
  | none => rfl
  | some ps => cases ps <;> rfl

/-- The known levels are words of ASCII lower-case letters, none of them `k`. -/
theorem chars_of_mem_logLevels {w : String} (hw : w ∈ logLevels) :
    ∀ x ∈ w.toList, x.toNat < 0x80 ∧ x ≠ 'k' ∧ x.toLower = x := by
  rw [logLevels_eq] at hw
  simp only [List.mem_cons, List.not_mem_nil, or_false] at hw
  rcases hw with rfl | rfl | rfl | rfl | rfl <;> simp [Char.toLower]

/-- Lower case and ASCII lower case agree on whether a text lower-cases to a known level. -/
theorem toLowercase_eq_level_iff {l w : String} (hw : w ∈ logLevels) :
    toLowercase l = w ↔ asciiLower l = w :=
  toLowercase_eq_iff fun x hx =>
    ⟨(chars_of_mem_logLevels hw x hx).1, (chars_of_mem_logLevels hw x hx).2.1⟩

/-- The known levels are their own lower case. -/
theorem toLowercase_of_mem_logLevels {l : String} (h : l ∈ logLevels) : toLowercase l = l := by
  rw [toLowercase_eq_level_iff h]
  exact asciiLower_eq_self fun x hx => (chars_of_mem_logLevels h x hx).2.2

/-- A level is accepted when its lower case is a known level, which is what is kept. -/
theorem acceptLevel_eq (l : String) :
    acceptLevel l = (some (toLowercase l)).filter fun l => l ∈ logLevels := by
  by_cases h : toLowercase l ∈ logLevels
  · have ha : asciiLower l = toLowercase l := (toLowercase_eq_level_iff h).1 rfl
    simp [acceptLevel, ha, h, Option.filter]
  · have ha : asciiLower l ∉ logLevels := fun ha =>
      h (((toLowercase_eq_level_iff ha).2 rfl) ▸ ha)
    simp [acceptLevel, ha, h, Option.filter]

theorem isNone_acceptDepth (d : Nat) : (acceptDepth d).isNone = decide ¬(1 ≤ d ∧ d ≤ 128) := by
  rw [← Option.bind_some d acceptDepth, bind_acceptDepth]
  simp only [Option.isNone_filter, Option.all_some, decide_not]

theorem isNone_acceptInclude (ps : List String) : (acceptInclude ps).isNone = decide (ps = []) := by
  cases ps <;> rfl

theorem isNone_acceptLevel (l : String) :
    (acceptLevel l).isNone = decide (toLowercase l ∉ logLevels) := by
  rw [acceptLevel_eq]
  simp

theorem bind_acceptLevel (o : Option String) :
    o.bind acceptLevel = (o.map toLowercase).filter fun l => l ∈ logLevels := by
  cases o with
  | none => rfl
  | some l => exact acceptLevel_eq l

/-! ## What a file gives -/

theorem filter_not_blank (ps : List String) :
    (ps.filter fun p => !isBlankText p) = ps.filter fun p => trim p ≠ "" := by
  simp only [isBlankText_eq, decide_not]

/-- The blank patterns are those that trim to nothing. -/
theorem length_filter_blank (ps : List String) :
    (ps.filter isBlankText).length = ps.countP fun p => trim p = "" := by
  rw [List.countP_eq_length_filter, isBlankText_eq]

/-- The settings a file gives are the ones it asks for, with a warning for each refused value. -/
theorem settings_eq (f : SettingsFile) : f.settings = (f.resolved, f.refusals) := by
  unfold SettingsFile.settings
  simp only [
    takeValue_eq (fun s v => { s with preserveEmptyLines := v }) Settings.preserveEmptyLines
      (fun _ => rfl),
    takeValue_eq (fun s v => { s with confirmBeforeRemoval := v }) Settings.confirmBeforeRemoval
      (fun _ => rfl),
    takeValue_eq (fun s v => { s with showNotifications := v }) Settings.showNotifications
      (fun _ => rfl),
    takeCustomPatterns_eq,
    checkValue_eq (fun s d => { s with maxDepth := d }) Settings.maxDepth (fun _ => rfl),
    checkValue_eq (fun s ps => { s with includePatterns := ps }) Settings.includePatterns
      (fun _ => rfl),
    takeValue_eq (fun s ps => { s with excludePatterns := ps }) Settings.excludePatterns
      (fun _ => rfl),
    checkValue_some_eq (fun s l => { s with logLevel := l }) Settings.logLevel (fun _ => rfl),
    bind_acceptLevel, bind_acceptInclude, bind_acceptDepth, isNone_acceptDepth,
    isNone_acceptInclude, isNone_acceptLevel, filter_not_blank, length_filter_blank,
    Option.or_none, List.nil_append]
  rfl

/-! ## Checked settings -/

/-- A value a filter keeps, or else the default, has a property that both have. -/
theorem getD_filter_of {γ : Type} (P : γ → Prop) {p : γ → Bool} (o : Option γ) {d : γ}
    (hp : ∀ x, p x = true → P x) (hd : P d) : P ((o.filter p).getD d) := by
  cases o with
  | none => exact hd
  | some x =>
    by_cases hx : p x = true
    · simpa [Option.filter_some, hx] using hp x hx
    · simpa [Option.filter_some, hx] using hd

/-- What a file asks for is always a checked setting. -/
theorem resolved_valid (f : SettingsFile) : f.resolved.Valid := by
  have hdepth : 1 ≤ f.resolved.maxDepth ∧ f.resolved.maxDepth ≤ 128 :=
    getD_filter_of (fun d => 1 ≤ d ∧ d ≤ 128) f.maxDepth (by simp) (by decide)
  refine ⟨hdepth.1, hdepth.2, ?_, ?_, ?_⟩
  · exact getD_filter_of (fun ps => ps ≠ []) f.includePatterns (by simp) (by simp)
  · intro p hp
    cases hc : f.customPatterns with
    | none => simp [SettingsFile.resolved, hc] at hp
    | some ps =>
      simp only [SettingsFile.resolved, hc, Option.map_some, Option.getD_some] at hp
      exact (List.mem_filter.1 hp).2 |> of_decide_eq_true
  · intro l hl
    have hmem := (Option.mem_filter_iff.1 hl).2
    rw [← logLevels_eq]
    exact of_decide_eq_true hmem

/-- Checked settings are what the file that gives all of them asks for. -/
theorem resolved_toFile {s : Settings} (h : s.Valid) : s.toFile.resolved = s := by
  have hcustom : s.customPatterns.filter (fun p => trim p ≠ "") = s.customPatterns :=
    List.filter_eq_self.2 fun p hp => decide_eq_true (h.custom_not_blank p hp)
  have hdepth : decide (1 ≤ s.maxDepth ∧ s.maxDepth ≤ 128) = true :=
    decide_eq_true ⟨h.depth_pos, h.depth_le⟩
  have hinclude : decide (s.includePatterns ≠ []) = true := decide_eq_true h.include_ne_nil
  have hlevel : (s.logLevel.map toLowercase).filter (fun l => l ∈ logLevels) = s.logLevel := by
    cases hl : s.logLevel with
    | none => rfl
    | some l =>
      have hmem : l ∈ logLevels := logLevels_eq ▸ h.level_known l hl
      simp [toLowercase_of_mem_logLevels hmem, hmem, Option.filter_some]
  simp only [Settings.toFile, SettingsFile.resolved, Option.map_some, Option.getD_some, hcustom,
    Option.filter_some, hdepth, hinclude, if_true, hlevel]

/-- The file that gives checked settings has nothing refused. -/
theorem refusals_toFile {s : Settings} (h : s.Valid) : s.toFile.refusals = [] := by
  have hcount : s.customPatterns.countP (fun p => trim p = "") = 0 :=
    List.countP_eq_zero.2 fun p hp hb => h.custom_not_blank p hp (of_decide_eq_true hb)
  have hlevel : ∀ l, s.logLevel = some l → toLowercase l ∈ logLevels := fun l hl => by
    have hmem : l ∈ logLevels := logLevels_eq ▸ h.level_known l hl
    rwa [toLowercase_of_mem_logLevels hmem]
  simp only [Settings.toFile, SettingsFile.refusals, Option.map_some, hcount, Option.filter_some]
  simp [h.depth_pos, h.depth_le, h.include_ne_nil]
  exact hlevel

/-- Checking a settings file: every setting is the file's value when it gives an admissible one
and the default otherwise, and each refused value gets one warning, in the order of the keys;
the settings hold a depth from 1 to 128, some patterns to include, no blank custom pattern and a
known level of logging; and the file that gives all of them is checked to the same settings with
no warning. -/
theorem settings_checked_and_stable (f : SettingsFile) :
    f.settings = (f.resolved, f.refusals) ∧ f.settings.1.Valid ∧
      f.settings.1.toFile.settings = (f.settings.1, []) := by
  rw [settings_eq]
  refine ⟨rfl, resolved_valid f, ?_⟩
  rw [settings_eq, resolved_toFile (resolved_valid f), refusals_toFile (resolved_valid f)]

end ConsoleSweep
