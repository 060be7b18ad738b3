-- Lower case as the standard library gives it, for Unicode 17.0. Each character goes to its
-- lower-case mapping: one character, or two for the capital I with dot above. A capital sigma
-- becomes a final sigma where it ends a word: a cased letter stands before it, past any
-- case-ignorable characters, and none stands after it.
import ConsoleSweep.Regex.Property
namespace ConsoleSweep.Text

/-- A run of the lower-case table: the code points from `first` to `last` (every other one when
`alternate`) go, in order, to the code points from `target` on. -/
structure LowerRun where
  first : Nat
  last : Nat
  target : Nat
  alternate : Bool
deriving Repr, DecidableEq

/-- The simple lower-case mappings of Unicode 17.0, by increasing code point. -/
def lowerRuns : List LowerRun := [
  ⟨0x41, 0x5A, 0x61, false⟩, ⟨0xC0, 0xD6, 0xE0, false⟩, ⟨0xD8, 0xDE, 0xF8, false⟩,
  ⟨0x100, 0x12E, 0x101, true⟩, ⟨0x132, 0x136, 0x133, true⟩, ⟨0x139, 0x147, 0x13A, true⟩,
  ⟨0x14A, 0x176, 0x14B, true⟩, ⟨0x178, 0x178, 0xFF, false⟩, ⟨0x179, 0x17D, 0x17A, true⟩,
  ⟨0x181, 0x181, 0x253, false⟩, ⟨0x182, 0x184, 0x183, true⟩, ⟨0x186, 0x186, 0x254, false⟩,
  ⟨0x187, 0x187, 0x188, false⟩, ⟨0x189, 0x18A, 0x256, false⟩, ⟨0x18B, 0x18B, 0x18C, false⟩,
  ⟨0x18E, 0x18E, 0x1DD, false⟩, ⟨0x18F, 0x18F, 0x259, false⟩, ⟨0x190, 0x190, 0x25B, false⟩,
  ⟨0x191, 0x191, 0x192, false⟩, ⟨0x193, 0x193, 0x260, false⟩, ⟨0x194, 0x194, 0x263, false⟩,
  ⟨0x196, 0x196, 0x269, false⟩, ⟨0x197, 0x197, 0x268, false⟩, ⟨0x198, 0x198, 0x199, false⟩,
  ⟨0x19C, 0x19C, 0x26F, false⟩, ⟨0x19D, 0x19D, 0x272, false⟩, ⟨0x19F, 0x19F, 0x275, false⟩,
  ⟨0x1A0, 0x1A4, 0x1A1, true⟩, ⟨0x1A6, 0x1A6, 0x280, false⟩, ⟨0x1A7, 0x1A7, 0x1A8, false⟩,
  ⟨0x1A9, 0x1A9, 0x283, false⟩, ⟨0x1AC, 0x1AC, 0x1AD, false⟩, ⟨0x1AE, 0x1AE, 0x288, false⟩,
  ⟨0x1AF, 0x1AF, 0x1B0, false⟩, ⟨0x1B1, 0x1B2, 0x28A, false⟩, ⟨0x1B3, 0x1B5, 0x1B4, true⟩,
  ⟨0x1B7, 0x1B7, 0x292, false⟩, ⟨0x1B8, 0x1B8, 0x1B9, false⟩, ⟨0x1BC, 0x1BC, 0x1BD, false⟩,
  ⟨0x1C4, 0x1C4, 0x1C6, false⟩, ⟨0x1C5, 0x1C5, 0x1C6, false⟩, ⟨0x1C7, 0x1C7, 0x1C9, false⟩,
  ⟨0x1C8, 0x1C8, 0x1C9, false⟩, ⟨0x1CA, 0x1CA, 0x1CC, false⟩, ⟨0x1CB, 0x1DB, 0x1CC, true⟩,
  ⟨0x1DE, 0x1EE, 0x1DF, true⟩, ⟨0x1F1, 0x1F1, 0x1F3, false⟩, ⟨0x1F2, 0x1F4, 0x1F3, true⟩,
  ⟨0x1F6, 0x1F6, 0x195, false⟩, ⟨0x1F7, 0x1F7, 0x1BF, false⟩, ⟨0x1F8, 0x21E, 0x1F9, true⟩,
  ⟨0x220, 0x220, 0x19E, false⟩, ⟨0x222, 0x232, 0x223, true⟩, ⟨0x23A, 0x23A, 0x2C65, false⟩,
  ⟨0x23B, 0x23B, 0x23C, false⟩, ⟨0x23D, 0x23D, 0x19A, false⟩, ⟨0x23E, 0x23E, 0x2C66, false⟩,
  ⟨0x241, 0x241, 0x242, false⟩, ⟨0x243, 0x243, 0x180, false⟩, ⟨0x244, 0x244, 0x289, false⟩,
  ⟨0x245, 0x245, 0x28C, false⟩, ⟨0x246, 0x24E, 0x247, true⟩, ⟨0x370, 0x372, 0x371, true⟩,
  ⟨0x376, 0x376, 0x377, false⟩, ⟨0x37F, 0x37F, 0x3F3, false⟩, ⟨0x386, 0x386, 0x3AC, false⟩,
  ⟨0x388, 0x38A, 0x3AD, false⟩, ⟨0x38C, 0x38C, 0x3CC, false⟩, ⟨0x38E, 0x38F, 0x3CD, false⟩,
  ⟨0x391, 0x3A1, 0x3B1, false⟩, ⟨0x3A3, 0x3AB, 0x3C3, false⟩, ⟨0x3CF, 0x3CF, 0x3D7, false⟩,
  ⟨0x3D8, 0x3EE, 0x3D9, true⟩, ⟨0x3F4, 0x3F4, 0x3B8, false⟩, ⟨0x3F7, 0x3F7, 0x3F8, false⟩,
  ⟨0x3F9, 0x3F9, 0x3F2, false⟩, ⟨0x3FA, 0x3FA, 0x3FB, false⟩, ⟨0x3FD, 0x3FF, 0x37B, false⟩,
  ⟨0x400, 0x40F, 0x450, false⟩, ⟨0x410, 0x42F, 0x430, false⟩, ⟨0x460, 0x480, 0x461, true⟩,
  ⟨0x48A, 0x4BE, 0x48B, true⟩, ⟨0x4C0, 0x4C0, 0x4CF, false⟩, ⟨0x4C1, 0x4CD, 0x4C2, true⟩,
  ⟨0x4D0, 0x52E, 0x4D1, true⟩, ⟨0x531, 0x556, 0x561, false⟩, ⟨0x10A0, 0x10C5, 0x2D00, false⟩,
  ⟨0x10C7, 0x10C7, 0x2D27, false⟩, ⟨0x10CD, 0x10CD, 0x2D2D, false⟩,
  ⟨0x13A0, 0x13EF, 0xAB70, false⟩, ⟨0x13F0, 0x13F5, 0x13F8, false⟩,
  ⟨0x1C89, 0x1C89, 0x1C8A, false⟩, ⟨0x1C90, 0x1CBA, 0x10D0, false⟩,
  ⟨0x1CBD, 0x1CBF, 0x10FD, false⟩, ⟨0x1E00, 0x1E94, 0x1E01, true⟩, ⟨0x1E9E, 0x1E9E, 0xDF, false⟩,
  ⟨0x1EA0, 0x1EFE, 0x1EA1, true⟩, ⟨0x1F08, 0x1F0F, 0x1F00, false⟩, ⟨0x1F18, 0x1F1D, 0x1F10, false⟩,
  ⟨0x1F28, 0x1F2F, 0x1F20, false⟩, ⟨0x1F38, 0x1F3F, 0x1F30, false⟩,
  ⟨0x1F48, 0x1F4D, 0x1F40, false⟩, ⟨0x1F59, 0x1F5F, 0x1F51, true⟩, ⟨0x1F68, 0x1F6F, 0x1F60, false⟩,
  ⟨0x1F88, 0x1F8F, 0x1F80, false⟩, ⟨0x1F98, 0x1F9F, 0x1F90, false⟩,
  ⟨0x1FA8, 0x1FAF, 0x1FA0, false⟩, ⟨0x1FB8, 0x1FB9, 0x1FB0, false⟩,
  ⟨0x1FBA, 0x1FBB, 0x1F70, false⟩, ⟨0x1FBC, 0x1FBC, 0x1FB3, false⟩,
  ⟨0x1FC8, 0x1FCB, 0x1F72, false⟩, ⟨0x1FCC, 0x1FCC, 0x1FC3, false⟩,
  ⟨0x1FD8, 0x1FD9, 0x1FD0, false⟩, ⟨0x1FDA, 0x1FDB, 0x1F76, false⟩,
  ⟨0x1FE8, 0x1FE9, 0x1FE0, false⟩, ⟨0x1FEA, 0x1FEB, 0x1F7A, false⟩,
  ⟨0x1FEC, 0x1FEC, 0x1FE5, false⟩, ⟨0x1FF8, 0x1FF9, 0x1F78, false⟩,
  ⟨0x1FFA, 0x1FFB, 0x1F7C, false⟩, ⟨0x1FFC, 0x1FFC, 0x1FF3, false⟩, ⟨0x2126, 0x2126, 0x3C9, false⟩,
  ⟨0x212A, 0x212A, 0x6B, false⟩, ⟨0x212B, 0x212B, 0xE5, false⟩, ⟨0x2132, 0x2132, 0x214E, false⟩,
  ⟨0x2160, 0x216F, 0x2170, false⟩, ⟨0x2183, 0x2183, 0x2184, false⟩,
  ⟨0x24B6, 0x24CF, 0x24D0, false⟩, ⟨0x2C00, 0x2C2F, 0x2C30, false⟩,
  ⟨0x2C60, 0x2C60, 0x2C61, false⟩, ⟨0x2C62, 0x2C62, 0x26B, false⟩, ⟨0x2C63, 0x2C63, 0x1D7D, false⟩,
  ⟨0x2C64, 0x2C64, 0x27D, false⟩, ⟨0x2C67, 0x2C6B, 0x2C68, true⟩, ⟨0x2C6D, 0x2C6D, 0x251, false⟩,
  ⟨0x2C6E, 0x2C6E, 0x271, false⟩, ⟨0x2C6F, 0x2C6F, 0x250, false⟩, ⟨0x2C70, 0x2C70, 0x252, false⟩,
  ⟨0x2C72, 0x2C72, 0x2C73, false⟩, ⟨0x2C75, 0x2C75, 0x2C76, false⟩, ⟨0x2C7E, 0x2C7F, 0x23F, false⟩,
  ⟨0x2C80, 0x2CE2, 0x2C81, true⟩, ⟨0x2CEB, 0x2CED, 0x2CEC, true⟩, ⟨0x2CF2, 0x2CF2, 0x2CF3, false⟩,
  ⟨0xA640, 0xA66C, 0xA641, true⟩, ⟨0xA680, 0xA69A, 0xA681, true⟩, ⟨0xA722, 0xA72E, 0xA723, true⟩,
  ⟨0xA732, 0xA76E, 0xA733, true⟩, ⟨0xA779, 0xA77B, 0xA77A, true⟩, ⟨0xA77D, 0xA77D, 0x1D79, false⟩,
  ⟨0xA77E, 0xA786, 0xA77F, true⟩, ⟨0xA78B, 0xA78B, 0xA78C, false⟩, ⟨0xA78D, 0xA78D, 0x265, false⟩,
  ⟨0xA790, 0xA792, 0xA791, true⟩, ⟨0xA796, 0xA7A8, 0xA797, true⟩, ⟨0xA7AA, 0xA7AA, 0x266, false⟩,
  ⟨0xA7AB, 0xA7AB, 0x25C, false⟩, ⟨0xA7AC, 0xA7AC, 0x261, false⟩, ⟨0xA7AD, 0xA7AD, 0x26C, false⟩,
  ⟨0xA7AE, 0xA7AE, 0x26A, false⟩, ⟨0xA7B0, 0xA7B0, 0x29E, false⟩, ⟨0xA7B1, 0xA7B1, 0x287, false⟩,
  ⟨0xA7B2, 0xA7B2, 0x29D, false⟩, ⟨0xA7B3, 0xA7B3, 0xAB53, false⟩, ⟨0xA7B4, 0xA7C2, 0xA7B5, true⟩,
  ⟨0xA7C4, 0xA7C4, 0xA794, false⟩, ⟨0xA7C5, 0xA7C5, 0x282, false⟩, ⟨0xA7C6, 0xA7C6, 0x1D8E, false⟩,
  ⟨0xA7C7, 0xA7C9, 0xA7C8, true⟩, ⟨0xA7CB, 0xA7CB, 0x264, false⟩, ⟨0xA7CC, 0xA7DA, 0xA7CD, true⟩,
  ⟨0xA7DC, 0xA7DC, 0x19B, false⟩, ⟨0xA7F5, 0xA7F5, 0xA7F6, false⟩, ⟨0xFF21, 0xFF3A, 0xFF41, false⟩,
  ⟨0x10400, 0x10427, 0x10428, false⟩, ⟨0x104B0, 0x104D3, 0x104D8, false⟩,
  ⟨0x10570, 0x1057A, 0x10597, false⟩, ⟨0x1057C, 0x1058A, 0x105A3, false⟩,
  ⟨0x1058C, 0x10592, 0x105B3, false⟩, ⟨0x10594, 0x10595, 0x105BB, false⟩,
  ⟨0x10C80, 0x10CB2, 0x10CC0, false⟩, ⟨0x10D50, 0x10D65, 0x10D70, false⟩,
  ⟨0x118A0, 0x118BF, 0x118C0, false⟩, ⟨0x16E40, 0x16E5F, 0x16E60, false⟩,
  ⟨0x16EA0, 0x16EB8, 0x16EBB, false⟩, ⟨0x1E900, 0x1E921, 0x1E922, false⟩
]

/-- Where a run sends a code point, if the run covers it. -/
def LowerRun.image? (r : LowerRun) (n : Nat) : Option Nat :=
  if r.first ≤ n ∧ n ≤ r.last ∧ (r.alternate = false ∨ (n - r.first) % 2 = 0) then
    some (n - r.first + r.target)
  else none

/-- The simple lower-case mapping of a character; a character of no run is its own. -/
def lowerSimple (c : Char) : Char :=
  match lowerRuns.findSome? (·.image? c.toNat) with
  | some n => Char.ofNat n
  | none => c

/-- The lower-case mapping of a character alone: `İ` goes to `i` and a combining dot above. -/
def lowerChar (c : Char) : List Char :=
  if c = 'İ' then ['i', '\u0307'] else [lowerSimple c]

/-- The cased characters. -/
def casedSet : Regex.CharSet := (Regex.propertySet "Cased").getD Regex.CharSet.empty

/-- The case-ignorable characters. -/
def caseIgnorableSet : Regex.CharSet :=
  (Regex.propertySet "Case_Ignorable").getD Regex.CharSet.empty

/-- Whether, past the case-ignorable characters at its start, a sequence goes on with a cased
character. -/
def casedPastIgnorable (cs : List Char) : Bool :=
  match cs.dropWhile caseIgnorableSet.contains with
  | c :: _ => casedSet.contains c
  | [] => false

/-- The lower case of a capital sigma: final where it ends a word. `before` holds what precedes
it, nearest first. -/
def lowerSigma (before after : List Char) : Char :=
  if casedPastIgnorable before && !casedPastIgnorable after then 'ς' else 'σ'

/-- The lower case of the characters `cs`, with `before` holding what precedes them, nearest
first. -/
def lowerFrom (before : List Char) : List Char → List Char
  | [] => []
  | c :: after =>
    (if c = 'Σ' then [lowerSigma before after] else lowerChar c) ++ lowerFrom (c :: before) after

/-- The lower case of a text. -/
def toLowercase (s : String) : String :=
  String.ofList (lowerFrom [] s.toList)

end ConsoleSweep.Text
