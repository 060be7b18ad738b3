-- Unicode classes that a pattern may name: general categories and their groups, scripts,
-- script extensions, binary properties, ages and the break values of text segmentation, looked
-- up by loose name; the word, digit and space classes; and simple case folding, which closes a
-- set under case partners.
import ConsoleSweep.Regex.CharSet
import ConsoleSweep.Unicode.Category
import ConsoleSweep.Unicode.Script
import ConsoleSweep.Unicode.Property
import ConsoleSweep.Unicode.CaseFold
import ConsoleSweep.Unicode.Age
import ConsoleSweep.Unicode.Boundary
namespace ConsoleSweep.Regex

open ConsoleSweep.Unicode

/-! ## Loose names -/

/-- The loose form of a property name or value: a leading "is" (in any case) is ignored, spaces,
underscores and hyphens are dropped, so is every non-ASCII character, and ASCII letters go to
lower case. The one exception is "isc", which stays "isc" rather than becoming "c". -/
def looseName (s : String) : String :=
  let cs := s.toList
  let (hasIs, body) := match cs with
    | a :: b :: rest =>
      if (a == 'i' || a == 'I') && (b == 's' || b == 'S') then (true, rest) else (false, cs)
    | _ => (false, cs)
  let kept := body.filterMap fun c =>
    if c == ' ' || c == '_' || c == '-' then none
    else if c.toNat < 0x80 then some c.toLower
    else none
  if hasIs && kept == ['c'] then "isc" else String.ofList kept

/-- The value of a key in a table of pairs. -/
def lookupName (table : List (String × String)) (key : String) : Option String :=
  (table.find? fun p => p.1 == key).map (·.2)

/-- The set of a key in a table of range texts. -/
def lookupRanges (table : List (String × List String)) (key : String) : Option CharSet :=
  (table.find? fun p => p.1 == key).map fun p => CharSet.ofTable (String.join p.2)

/-! ## Named sets -/

/-- The code points of a general category or group of categories by long name, with `Any`,
`ASCII` and `Assigned` (everything but the unassigned code points) beside them. -/
def categorySet (long : String) : Option CharSet :=
  if long == "Any" then some CharSet.full
  else if long == "ASCII" then some (CharSet.span 0 0x7F)
  else if long == "Assigned" then (lookupRanges categoryRanges "Unassigned").map CharSet.complement
  else lookupRanges categoryRanges long

/-- The long name of a category or group written loosely, `any`, `assigned` and `ascii` included. -/
def categoryOf (loose : String) : Option String :=
  if loose == "any" then some "Any"
  else if loose == "assigned" then some "Assigned"
  else if loose == "ascii" then some "ASCII"
  else lookupName categoryNames loose

/-- The code points of a script, by long name. -/
def scriptSet (long : String) : Option CharSet :=
  lookupRanges scriptRanges long

/-- The code points whose script extensions include a script, by long name. -/
def scriptExtensionSet (long : String) : Option CharSet :=
  lookupRanges scriptExtensionRanges long

/-- The code points of a binary property, by long name. -/
def propertySet (long : String) : Option CharSet :=
  lookupRanges propertyRanges long

/-- The code points assigned by a version of the standard or by any version before it, by the
version's name (`V6_2`). -/
def ageSet (version : String) : Option CharSet :=
  match ageRanges.findIdx? fun p => p.1 == version with
  | some i =>
    some ((ageRanges.take (i + 1)).foldl
      (fun acc p => acc.union (CharSet.ofTable (String.join p.2))) CharSet.empty)
  | none => none

/-- Word characters: letters and other alphabetic characters, marks, decimal digits, connector
punctuation and the join controls. -/
def wordSet : CharSet := CharSet.ofTable (String.join wordRanges)

/-- Decimal digits of every script. -/
def digitSet : CharSet := (lookupRanges categoryRanges "Decimal_Number").getD CharSet.empty

/-- White space. -/
def spaceSet : CharSet := (propertySet "White_Space").getD CharSet.empty

/-! ## Asking for a class by name -/

/-- What a property escape names: a one-letter category, a name alone, or a property and its value. -/
inductive PropertyQuery where
  | oneLetter (c : Char)
  | named (name : String)
  | byValue (property value : String)
deriving Repr, Inhabited

/-- The class a name alone means. A property name comes first, except `cf`, `sc` and `lc`, which
mean the categories Format, Currency_Symbol and Cased_Letter; then a category; then a script.
A property that is not binary names no class. -/
def namedSet (name : String) : Option CharSet :=
  let loose := looseName name
  let asProperty :=
    if loose == "cf" || loose == "sc" || loose == "lc" then none
    else lookupName propertyNames loose
  match asProperty with
  | some long => propertySet long
  | none =>
    match categoryOf loose with
    | some long => categorySet long
    | none => (lookupName scriptNames loose).bind scriptSet

/-- The class of a property with a value: a general category, a script, a script extension, an
age, or a grapheme cluster, word or sentence break value. -/
def valueSet (property value : String) : Option CharSet :=
  let v := looseName value
  match lookupName propertyNames (looseName property) with
  | some "General_Category" => (categoryOf v).bind categorySet
  | some "Script" => (lookupName scriptNames v).bind scriptSet
  | some "Script_Extensions" => (lookupName scriptNames v).bind scriptExtensionSet
  | some "Age" => (lookupName ageNames v).bind ageSet
  | some "Grapheme_Cluster_Break" =>
    (lookupName graphemeBreakNames v).bind (lookupRanges graphemeBreakRanges)
  | some "Word_Break" => (lookupName wordBreakNames v).bind (lookupRanges wordBreakRanges)
  | some "Sentence_Break" =>
    (lookupName sentenceBreakNames v).bind (lookupRanges sentenceBreakRanges)
  | _ => none

/-- The class a property escape asks for, or `none` when nothing answers to its name. -/
def PropertyQuery.resolve : PropertyQuery → Option CharSet
  | .oneLetter c => namedSet (String.singleton c)
  | .named n => namedSet n
  | .byValue p v => valueSet p v

/-! ## Case folding -/

/-- Each code point that has case partners, with its partners, in increasing order of the point. -/
def foldPartners : Array (Nat × List Nat) :=
  let orbits := ((String.join foldOrbits).splitOn ",").map fun o => (o.splitOn " ").filterMap CharSet.readHex
  let entries := orbits.flatMap fun orb => orb.map fun c => (c, orb.filter (· != c))
  (entries.mergeSort fun x y => x.1 ≤ y.1).toArray

/-- The first index of the partner table whose code point is at least `x`. -/
def firstPartnerFrom (x : Nat) : Nat :=
  go 0 foldPartners.size
where
  go (lo hi : Nat) : Nat :=
    if lo < hi then
      let mid := (lo + hi) / 2
      match foldPartners[mid]? with
      | some (k, _) => if k < x then go (mid + 1) hi else go lo mid
      | none => lo
    else lo
  termination_by hi - lo

/-- The case partners of the code points from `a` to `b`. -/
def partnersIn (a b : Nat) : List Nat :=
  go (firstPartnerFrom a)
where
  go (i : Nat) : List Nat :=
    if i < foldPartners.size then
      match foldPartners[i]? with
      | some (k, ps) => if k ≤ b then ps ++ go (i + 1) else []
      | none => []
    else []
  termination_by foldPartners.size - i

/-- The set with every case partner of its members added (Unicode simple case folding). -/
def CharSet.foldCase (s : CharSet) : CharSet :=
  s.union (CharSet.ofPoints (s.ranges.toList.flatMap fun (a, b) => partnersIn a b))

/-- Whether a code point has a case partner. -/
def hasPartner (c : Nat) : Bool := !(partnersIn c c).isEmpty

/-- The set with the other case of each ASCII letter added. -/
def CharSet.foldAscii (s : CharSet) : CharSet :=
  let upper := s.inter (CharSet.span 0x41 0x5A)
  let lower := s.inter (CharSet.span 0x61 0x7A)
  let shift (d : Int) (t : CharSet) : List (Nat × Nat) :=
    t.ranges.toList.map fun (a, b) => ((a + d).toNat, (b + d).toNat)
  CharSet.ofList (s.ranges.toList ++ shift 32 upper ++ shift (-32) lower)

end ConsoleSweep.Regex
