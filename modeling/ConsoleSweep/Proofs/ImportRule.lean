-- The import rule as a grammar. Between its anchors the rule is white space, a statement and
-- white space, and no statement starts or ends with white space; so a line matches exactly
-- when its trimmed form is a statement: `import`, a white-space character, then two quotes with
-- no quote between them and `console` between them, then a final `;`. The rule's `\s` and
-- trimming both use Unicode's White_Space, so white space at either end of a line never
-- changes whether it matches, and nothing but white space may follow the final `;`.
import ConsoleSweep.Proofs.Language
import ConsoleSweep.Proofs.Trim
import ConsoleSweep.Rule

namespace ConsoleSweep

open Regex Text Unicode

namespace Rule

/-! ## The character classes -/

theorem tableRanges_whiteSpace :
    (propertyRanges.find? fun p => p.1 == "White_Space").map
        (fun p => CharSet.tableRanges (String.join p.2)) =
      some [(0x9, 0xD), (0x20, 0x20), (0x85, 0x85), (0xA0, 0xA0), (0x1680, 0x1680),
        (0x2000, 0x200A), (0x2028, 0x2029), (0x202F, 0x202F), (0x205F, 0x205F),
        (0x3000, 0x3000)] := by
  decide +kernel

/-- The pattern's `\s` holds exactly the characters that trimming cuts. -/
theorem contains_spaceSet (c : Char) : spaceSet.contains c = isBlank c := by
  have h := congrArg (Option.map CharSet.ofList) tableRanges_whiteSpace
  rw [Option.map_map] at h
  have hset : spaceSet = CharSet.ofList [(0x9, 0xD), (0x20, 0x20), (0x85, 0x85), (0xA0, 0xA0),
      (0x1680, 0x1680), (0x2000, 0x200A), (0x2028, 0x2029), (0x202F, 0x202F), (0x205F, 0x205F),
      (0x3000, 0x3000)] := by
    simp only [spaceSet, propertySet, lookupRanges]
    exact congrArg (Option.getD · CharSet.empty) h
  rw [hset, Bool.eq_iff_iff, CharSet.contains_ofList]
  simp [isBlank]
  omega

theorem contains_anyButFeed (c : Char) :
    (CharSet.ofList [(0, 9), (11, maxCodePoint)]).contains c = true ↔ c ≠ '\n' := by
  have hmax := CharSet.toNat_le_maxCodePoint c
  have hfeed : c ≠ '\n' ↔ c.toNat ≠ 10 := by
    rw [Ne, ← Char.toNat_inj]
    rfl
  rw [CharSet.contains_ofList, hfeed]
  simp only [CharSet.covers_cons, CharSet.not_covers_nil, or_false]
  omega

/-- A double or a single quote. -/
def isQuote (c : Char) : Bool := c == '"' || c == '\''

theorem isBlank_of_isQuote {c : Char} (h : isQuote c = true) : isBlank c = false := by
  simp only [isQuote, Bool.or_eq_true, beq_iff_eq] at h
  rcases h with rfl | rfl <;> rfl

theorem contains_quote (c : Char) : quote.contains c = isQuote c := by
  rw [Bool.eq_iff_iff, quote, CharSet.contains_ofList]
  simp [isQuote, ← Char.toNat_inj]
  omega

theorem contains_quote_complement (c : Char) : quote.complement.contains c = !isQuote c := by
  have hord : CharSet.Ordered quote.ranges.toList := (CharSet.ofList_spec _).2
  rw [CharSet.contains_complement hord, contains_quote]

/-! ## The languages of the parts -/

theorem mem_lang_blanks {w : List Char} : w ∈ blanks.lang ↔ ∀ c ∈ w, isBlank c = true := by
  simp only [blanks, Node.mem_lang_star_chars, contains_spaceSet]

theorem mem_lang_plus_space {w : List Char} :
    w ∈ (Node.plus (.chars spaceSet)).lang ↔ w ≠ [] ∧ ∀ c ∈ w, isBlank c = true := by
  simp only [Node.mem_lang_plus_chars, contains_spaceSet]

theorem mem_lang_star_anyButFeed {w : List Char} :
    w ∈ (Node.star anyButFeed).lang ↔ '\n' ∉ w := by
  simp only [anyButFeed, Node.mem_lang_star_chars, contains_anyButFeed]
  constructor
  · intro h hw
    exact h _ hw rfl
  · rintro h c hc rfl
    exact h hc

theorem mem_lang_quote {w : List Char} :
    w ∈ (Node.chars quote).lang ↔ ∃ q, w = [q] ∧ isQuote q = true := by
  simp only [Node.mem_lang_chars, contains_quote]

theorem mem_lang_unquoted {w : List Char} :
    w ∈ (Node.star (.chars quote.complement)).lang ↔ ∀ c ∈ w, isQuote c = false := by
  simp only [Node.mem_lang_star_chars, contains_quote_complement, Bool.not_eq_true']

/-! ## The statement between the white space -/

/-- The parts of the import rule between the white space at either end of the line. -/
def statementParts : List Node :=
  [Node.literal "import", Node.plus (.chars spaceSet), Node.star anyButFeed, .chars quote,
    Node.star (.chars quote.complement), Node.literal "console", Node.star (.chars quote.complement),
    .chars quote, Node.star anyButFeed, Node.char ';']

theorem consoleImport_node : consoleImport.node = .cat (.look .textStart)
    (Node.seq ([blanks] ++ statementParts ++ [blanks] ++ [.look .textEnd])) := rfl

/-- The texts of the statement, part by part. -/
theorem mem_statement_lang {s : List Char} :
    s ∈ (Node.seq statementParts).lang ↔ ∃ b c q d e q' f,
      s = "import".toList ++ b ++ c ++ q :: d ++ "console".toList ++ e ++ q' :: f ++ [';'] ∧
      (b ≠ [] ∧ ∀ x ∈ b, isBlank x = true) ∧ '\n' ∉ c ∧ isQuote q = true ∧
      (∀ x ∈ d, isQuote x = false) ∧ (∀ x ∈ e, isQuote x = false) ∧ isQuote q' = true ∧
      '\n' ∉ f := by
  simp only [statementParts, Node.seq_cons_cons, Node.seq, Node.mem_lang_cat,
    Node.mem_lang_literal, mem_lang_plus_space, mem_lang_star_anyButFeed, mem_lang_quote,
    mem_lang_unquoted, Node.mem_lang_char, exists_eq_left]
  constructor
  · rintro ⟨_, ⟨b, hb, _, ⟨c, hc, _, ⟨_, ⟨q, rfl, hq⟩, _, ⟨d, hd, _, ⟨_, ⟨e, he, _,
      ⟨_, ⟨q', rfl, hq'⟩, _, ⟨f, hf, rfl⟩, rfl⟩, rfl⟩, rfl⟩, rfl⟩, rfl⟩, rfl⟩, rfl⟩, rfl⟩
    exact ⟨b, c, q, d, e, q', f, by simp, hb, hc, hq, hd, he, hq', hf⟩
  · rintro ⟨b, c, q, d, e, q', f, rfl, hb, hc, hq, hd, he, hq', hf⟩
    exact ⟨_, ⟨b, hb, _, ⟨c, hc, _, ⟨[q], ⟨q, rfl, hq⟩, _, ⟨d, hd, _, ⟨_, ⟨e, he, _,
      ⟨[q'], ⟨q', rfl, hq'⟩, _, ⟨f, hf, rfl⟩, rfl⟩, rfl⟩, rfl⟩, rfl⟩, rfl⟩, rfl⟩, rfl⟩, by simp⟩

theorem statement_ends {u : List Char} (hu : u ∈ (Node.seq statementParts).lang) :
    (∃ r, u = 'i' :: r) ∧ ∃ p, u = p ++ [';'] := by
  obtain ⟨b, c, q, d, e, q', f, rfl, -⟩ := mem_statement_lang.1 hu
  exact ⟨⟨_, rfl⟩, ⟨_, rfl⟩⟩

/-- A statement neither starts nor ends with white space. -/
theorem statement_tight {u : List Char} (hu : u ∈ (Node.seq statementParts).lang) :
    (∀ a rest, u = a :: rest → isBlank a = false) ∧
      ∀ rest b, u = rest ++ [b] → isBlank b = false := by
  obtain ⟨⟨r, rfl⟩, p, hp⟩ := statement_ends hu
  constructor
  · intro a rest h
    rw [← (List.cons.inj h).1]
    rfl
  · intro rest b h
    have := (List.append_inj' (hp.symm.trans h) rfl).2
    rw [List.singleton_inj] at this
    rw [← this]
    rfl

/-- White space, then a text of `C`, then white space, is a text whose trimmed form is in `C`,
when no text of `C` starts or ends with white space. -/
theorem mem_blanks_mul_mul_blanks {C : Language Char}
    (hC : ∀ u ∈ C, (∀ a rest, u = a :: rest → isBlank a = false) ∧
      ∀ rest b, u = rest ++ [b] → isBlank b = false) {w : List Char} :
    w ∈ blanks.lang * C * blanks.lang ↔ trimChars w ∈ C := by
  simp only [Language.mem_mul, mem_lang_blanks]
  constructor
  · rintro ⟨_, ⟨a, ha, u, hu, rfl⟩, g, hg, rfl⟩
    rw [trimChars_of_blank_around ha hg (hC u hu).1 (hC u hu).2]
    exact hu
  · intro h
    obtain ⟨a, g, hw, ha, hg⟩ := exists_blank_around_trimChars w
    exact ⟨_, ⟨a, ha, _, h, rfl⟩, g, hg, hw.symm⟩

end Rule

/-! ## Import statements -/

open Rule

/-- A trimmed line that is a console import: `import` and a white-space character; then, before
the final `;`, two quotes with no quote between them and `console` between them. -/
def ImportStatement (s : List Char) : Prop :=
  ∃ sp m, s = "import".toList ++ sp :: m ++ [';'] ∧ isBlank sp = true ∧
    ∃ x q y q' z, sp :: m = x ++ q :: y ++ q' :: z ∧ isQuote q = true ∧ isQuote q' = true ∧
      (∀ c ∈ y, isQuote c = false) ∧ "console".toList <:+: y

theorem importStatement_of_mem {s : List Char} (hs : s ∈ (Node.seq statementParts).lang) :
    ImportStatement s := by
  obtain ⟨b, c, q, d, e, q', f, rfl, ⟨hb, hbl⟩, -, hq, hd, he, hq', -⟩ := mem_statement_lang.1 hs
  obtain ⟨sp, b, rfl⟩ := List.exists_cons_of_ne_nil hb
  have hconsole : ∀ x ∈ "console".toList, isQuote x = false := by simp [isQuote]
  refine ⟨sp, b ++ c ++ q :: d ++ "console".toList ++ e ++ q' :: f, by simp,
    hbl sp List.mem_cons_self, sp :: b ++ c, q, d ++ "console".toList ++ e, q', f, by simp, hq, hq',
    ?_, ⟨d, e, rfl⟩⟩
  intro x hx
  simp only [List.mem_append] at hx
  rcases hx with (hx | hx) | hx
  · exact hd x hx
  · exact hconsole x hx
  · exact he x hx

/-- The converse needs the line feed kept out: the rule's `.` does not match it. -/
theorem mem_of_importStatement {s : List Char} (hs : ImportStatement s) (hfeed : '\n' ∉ s) :
    s ∈ (Node.seq statementParts).lang := by
  obtain ⟨sp, m, rfl, hsp, x, q, _, q', z, hm, hq, hq', hy, ⟨d, e, rfl⟩⟩ := hs
  cases x with
  | nil =>
    -- the white space after `import` would be the opening quote
    obtain ⟨rfl, -⟩ := List.cons.inj hm
    rw [isBlank_of_isQuote hq] at hsp
    cases hsp
  | cons x0 x =>
    obtain ⟨rfl, rfl⟩ := List.cons.inj hm
    refine mem_statement_lang.2 ⟨[sp], x, q, d, e, q', z, by simp, ⟨by simp, by simpa using hsp⟩,
      fun h => hfeed (by simp [h]), hq, fun c hc => hy c (by simp [hc]),
      fun c hc => hy c (by simp [hc]), hq', fun h => hfeed (by simp [h])⟩

/-- A text splits at most one way around a character that neither end part holds. -/
theorem tail_eq_of_append_cons_eq {x : Char} {a b u g : List Char}
    (h : a ++ x :: b = u ++ x :: g) (hb : x ∉ b) (hg : x ∉ g) : b = g := by
  rcases List.append_eq_append_iff.1 h with ⟨as, -, has⟩ | ⟨bs, -, hbs⟩
  · cases as with
    | nil => simpa using has
    | cons y as =>
      obtain ⟨-, rfl⟩ := List.cons.inj has
      exact absurd (by simp) hb
  · cases bs with
    | nil => simpa using hbs.symm
    | cons y bs =>
      obtain ⟨-, rfl⟩ := List.cons.inj hbs
      exact absurd (by simp) hg

namespace RuleSet

/-- A line is an import line exactly when its trimmed form is a statement. -/
theorem isImportLine_iff_trim_mem (l : String) :
    isImportLine l = true ↔ trimChars l.toList ∈ (Node.seq statementParts).lang := by
  have hwb : consoleImport.node.wellBounded = true := rfl
  have hfree : (Node.seq ([blanks] ++ statementParts ++ [blanks])).lookFree = true := rfl
  have hlang : (Node.seq ([blanks] ++ statementParts ++ [blanks])).lang =
      blanks.lang * (Node.seq statementParts).lang * blanks.lang := by
    rw [Node.lang_seq_append (by simp) (by simp), Node.lang_seq_append (by simp)
      (by simp [statementParts])]
    rfl
  rw [← mem_blanks_mul_mul_blanks (fun u hu => statement_tight hu), ← hlang, isImportLine,
    isMatch, Node.isMatch_iff_spans hwb, consoleImport_node]
  simp only [Node.Spans, Node.spans_seq_append ([blanks] ++ statementParts ++ [blanks]) (by simp),
    Look.holds, Node.spans_iff_pieceIn _ _ hfree, PieceIn]
  -- the anchors pin the span to the whole line
  have hpiece : piece l.toList.toArray 0 l.toList.toArray.size = l.toList := by simp [piece]
  constructor
  · rintro ⟨i, j, k, ⟨rfl, -, hi⟩, m, ⟨-, -, hw⟩, rfl, -, hm⟩
    rw [beq_iff_eq] at hi hm
    subst hi hm
    rwa [hpiece] at hw
  · intro h
    rw [← hpiece] at h
    exact ⟨0, _, 0, ⟨rfl, Nat.zero_le _, rfl⟩, _, ⟨Nat.zero_le _, Nat.le_refl _, h⟩, rfl,
      Nat.le_refl _, beq_self_eq_true _⟩

/-- The import rule accepts exactly the lines whose trimmed form is an import statement, when
they hold no line feed. Its white space is trimming's, so an import line is never blank, white
space at either end of a line never changes whether it matches, and a line whose final `;` is
followed by anything but white space never matches. -/
theorem isImportLine_iff_importStatement :
    (∀ c, spaceSet.contains c = isBlank c) ∧
    (∀ l : String, '\n' ∉ l.toList →
      (isImportLine l = true ↔ ImportStatement (trim l).toList)) ∧
    (∀ l : String, isImportLine l = true → isBlankText l = false) ∧
    (∀ l w w' : String, (∀ c ∈ w.toList ++ w'.toList, isBlank c = true) →
      isImportLine (w ++ l ++ w') = isImportLine l) ∧
    (∀ a b : String, ';' ∉ b.toList → isBlankText b = false →
      isImportLine (a ++ ";" ++ b) = false) := by
  refine ⟨contains_spaceSet, ?statement, ?notBlank, ?padding, ?tail⟩
  case statement =>
    intro l hl
    have hfeed : '\n' ∉ trimChars l.toList := fun h => hl ((isInfix_trimChars _).subset h)
    rw [isImportLine_iff_trim_mem, toList_trim]
    exact ⟨importStatement_of_mem, fun h => mem_of_importStatement h hfeed⟩
  case notBlank =>
    intro l h
    obtain ⟨⟨r, hr⟩, -⟩ := statement_ends ((isImportLine_iff_trim_mem l).1 h)
    have hi : 'i' ∈ l.toList := (isInfix_trimChars _).subset (by simp [hr])
    rw [isBlankText, List.all_eq_false]
    exact ⟨'i', hi, by decide⟩
  case padding =>
    intro l w w' hw
    rw [Bool.eq_iff_iff, isImportLine_iff_trim_mem, isImportLine_iff_trim_mem, String.toList_append,
      String.toList_append, trimChars_blank_append (fun c hc => hw c (List.mem_append_left _ hc))
        (fun c hc => hw c (List.mem_append_right _ hc))]
  case tail =>
    intro a b hb hblank
    rw [Bool.eq_false_iff]
    intro h
    rw [isImportLine_iff_trim_mem] at h
    -- the line is white space, its trimmed form ending in `;`, and white space; as `b` holds no
    -- `;`, it is that last white space
    obtain ⟨-, p, hp⟩ := statement_ends h
    obtain ⟨v, g, hline, -, hg⟩ := exists_blank_around_trimChars (a ++ ";" ++ b).toList
    rw [hp] at hline
    have hsplit : a.toList ++ ';' :: b.toList = (v ++ p) ++ ';' :: g := by
      simpa using hline
    have hgb : b.toList = g :=
      tail_eq_of_append_cons_eq hsplit hb fun h => absurd (hg ';' h) (by decide)
    rw [isBlankText, List.all_eq_false] at hblank
    obtain ⟨c, hc, hnot⟩ := hblank
    exact hnot (hg c (hgb ▸ hc))

end RuleSet

end ConsoleSweep
