-- Reading TOML text into a document tree. The reader follows TOML 1.0: bare, quoted and dotted
-- keys, basic and literal strings on one line or many, integers in four bases within 64 bits,
-- floats, date-times, arrays, inline tables, comments, and headers of tables and of arrays of
-- tables. It says only why the text is not valid, never where.
import ConsoleSweep.Toml.Node
namespace ConsoleSweep.Toml

/-- What a reader gives back: a value and the rest of the text, or why the text is not valid. -/
abbrev Reading (α : Type) := Except TomlError (α × List Char)

/-- A character of a bare key: an ASCII letter or digit, `_` or `-`. -/
def isBareKeyChar (c : Char) : Bool := c.isAlphanum || c == '_' || c == '-'

/-- A character allowed in comments and strings: anything but a control character, the tab
aside. -/
def isTextChar (c : Char) : Bool := c == '\t' || (0x20 ≤ c.toNat && c.toNat != 0x7F)

/-- Drops spaces and tabs. -/
def skipWs : List Char → List Char
  | ' ' :: r => skipWs r
  | '\t' :: r => skipWs r
  | cs => cs

/-- The rest of a comment, up to its line break. -/
def commentRest : List Char → Except TomlError (List Char)
  | [] => .ok []
  | c :: r =>
    if c == '\n' || c == '\r' then .ok (c :: r)
    else if isTextChar c then commentRest r else .error .malformed

/-- Skips a comment that starts here. -/
def skipComment : List Char → Except TomlError (List Char)
  | '#' :: r => commentRest r
  | cs => .ok cs

/-- Takes a line break, LF or CR LF, or the end of the text. -/
def lineBreak : List Char → Except TomlError (List Char)
  | [] => .ok []
  | '\n' :: r => .ok r
  | '\r' :: '\n' :: r => .ok r
  | _ => .error .malformed

/-- The end of a line: blanks, perhaps a comment, and a line break. -/
def endLine (cs : List Char) : Except TomlError (List Char) := do
  lineBreak (← skipComment (skipWs cs))

/-- Skips blanks, comments and line breaks, as between the items of an array; `inComment` says
that a comment has begun. -/
def skipBlankLines : Bool → List Char → Except TomlError (List Char)
  | _, '\n' :: r => skipBlankLines false r
  | _, '\r' :: '\n' :: r => skipBlankLines false r
  | false, ' ' :: r => skipBlankLines false r
  | false, '\t' :: r => skipBlankLines false r
  | false, '#' :: r => skipBlankLines true r
  | false, cs => .ok cs
  | true, [] => .ok []
  | true, c :: r => if isTextChar c then skipBlankLines true r else .error .malformed

/-! ## Strings -/

/-- The value of a hexadecimal digit. -/
def hexDigit? (c : Char) : Option Nat :=
  if c.isDigit then some (c.toNat - '0'.toNat)
  else if 'a' ≤ c && c ≤ 'f' then some (c.toNat - 'a'.toNat + 10)
  else if 'A' ≤ c && c ≤ 'F' then some (c.toNat - 'A'.toNat + 10)
  else none

/-- The character that hexadecimal digits name, if they name a Unicode scalar value. -/
def codePoint? (ds : List Char) : Option Char := do
  let n ← ds.foldlM (fun n d => (hexDigit? d).map (n * 16 + ·)) 0
  if n.isValidChar then some (Char.ofNat n) else none

/-- The character of a one-letter escape. -/
def simpleEscape? : Char → Option Char
  | 'b' => some '\x08'
  | 't' => some '\t'
  | 'n' => some '\n'
  | 'f' => some '\x0c'
  | 'r' => some '\r'
  | '"' => some '"'
  | '\\' => some '\\'
  | _ => none

/-- Goes on with a character, or fails if there is none. -/
def withChar {α : Type} (c : Option Char) (k : Char → Except TomlError α) : Except TomlError α :=
  match c with
  | some ch => k ch
  | none => .error .malformed

/-- The rest of a basic string after its opening quote; `acc` holds what was read, last first. -/
def basicRest (acc : List Char) : List Char → Reading String
  | [] => .error .malformed
  | '"' :: r => .ok (String.ofList acc.reverse, r)
  | '\\' :: 'u' :: a :: b :: c :: d :: r =>
    withChar (codePoint? [a, b, c, d]) fun ch => basicRest (ch :: acc) r
  | '\\' :: 'U' :: a :: b :: c :: d :: e :: f :: g :: h :: r =>
    withChar (codePoint? [a, b, c, d, e, f, g, h]) fun ch => basicRest (ch :: acc) r
  | '\\' :: e :: r => withChar (simpleEscape? e) fun ch => basicRest (ch :: acc) r
  | c :: r => if isTextChar c then basicRest (c :: acc) r else .error .malformed

/-- The rest of a literal string after its opening apostrophe: no escapes, one line. -/
def literalRest (acc : List Char) : List Char → Reading String
  | [] => .error .malformed
  | '\'' :: r => .ok (String.ofList acc.reverse, r)
  | c :: r => if isTextChar c then literalRest (c :: acc) r else .error .malformed

/-- Where a multi-line basic string stands: in its text, after a backslash and blanks that
must end the line, or in the blanks and line breaks that such a backslash drops. -/
inductive MultiState where
  | text
  | lineEnd
  | trimming
deriving Repr, BEq, Inhabited

/-- The rest of a multi-line basic string. Up to two quotes may stand before the closing three;
a line break is read as LF; a backslash at the end of a line drops the blanks and line breaks
after it. -/
def multiBasicRest : MultiState → List Char → List Char → Reading String
  | .lineEnd, acc, ' ' :: r => multiBasicRest .lineEnd acc r
  | .lineEnd, acc, '\t' :: r => multiBasicRest .lineEnd acc r
  | .lineEnd, acc, '\n' :: r => multiBasicRest .trimming acc r
  | .lineEnd, acc, '\r' :: '\n' :: r => multiBasicRest .trimming acc r
  | .lineEnd, _, _ => .error .malformed
  | .trimming, acc, ' ' :: r => multiBasicRest .trimming acc r
  | .trimming, acc, '\t' :: r => multiBasicRest .trimming acc r
  | .trimming, acc, '\n' :: r => multiBasicRest .trimming acc r
  | .trimming, acc, '\r' :: '\n' :: r => multiBasicRest .trimming acc r
  | _, acc, '"' :: '"' :: '"' :: '"' :: '"' :: r => .ok (String.ofList ('"' :: '"' :: acc).reverse, r)
  | _, acc, '"' :: '"' :: '"' :: '"' :: r => .ok (String.ofList ('"' :: acc).reverse, r)
  | _, acc, '"' :: '"' :: '"' :: r => .ok (String.ofList acc.reverse, r)
  | _, acc, '\\' :: ' ' :: r => multiBasicRest .lineEnd acc r
  | _, acc, '\\' :: '\t' :: r => multiBasicRest .lineEnd acc r
  | _, acc, '\\' :: '\n' :: r => multiBasicRest .trimming acc r
  | _, acc, '\\' :: '\r' :: '\n' :: r => multiBasicRest .trimming acc r
  | _, acc, '\\' :: 'u' :: a :: b :: c :: d :: r =>
    withChar (codePoint? [a, b, c, d]) fun ch => multiBasicRest .text (ch :: acc) r
  | _, acc, '\\' :: 'U' :: a :: b :: c :: d :: e :: f :: g :: h :: r =>
    withChar (codePoint? [a, b, c, d, e, f, g, h]) fun ch => multiBasicRest .text (ch :: acc) r
  | _, acc, '\\' :: e :: r => withChar (simpleEscape? e) fun ch => multiBasicRest .text (ch :: acc) r
  | _, acc, '\n' :: r => multiBasicRest .text ('\n' :: acc) r
  | _, acc, '\r' :: '\n' :: r => multiBasicRest .text ('\n' :: acc) r
  | _, acc, c :: r => if isTextChar c then multiBasicRest .text (c :: acc) r else .error .malformed
  | _, _, [] => .error .malformed

/-- The rest of a multi-line literal string: no escapes, and each line break, a line feed or a
carriage return before one, kept as a line feed. -/
def multiLiteralRest (acc : List Char) : List Char → Reading String
  | '\'' :: '\'' :: '\'' :: '\'' :: '\'' :: r =>
    .ok (String.ofList ('\'' :: '\'' :: acc).reverse, r)
  | '\'' :: '\'' :: '\'' :: '\'' :: r => .ok (String.ofList ('\'' :: acc).reverse, r)
  | '\'' :: '\'' :: '\'' :: r => .ok (String.ofList acc.reverse, r)
  | '\n' :: r => multiLiteralRest ('\n' :: acc) r
  | '\r' :: '\n' :: r => multiLiteralRest ('\n' :: acc) r
  | c :: r => if isTextChar c then multiLiteralRest (c :: acc) r else .error .malformed
  | [] => .error .malformed

/-- Drops the line break that may follow the opening of a multi-line string. -/
def dropFirstBreak : List Char → List Char
  | '\n' :: r => r
  | '\r' :: '\n' :: r => r
  | cs => cs

/-! ## Numbers and date-times -/

/-- Digits of a kind with single underscores between them, as `1_000`. -/
def isDigitRun (digit : Char → Bool) (cs : List Char) : Bool :=
  cs.head?.any digit && cs.getLast?.any digit && cs.all (fun c => digit c || c == '_') &&
    !((cs.zip cs.tail).any fun p => p.1 == '_' && p.2 == '_')

/-- The value of digits in a base, underscores skipped. -/
def runValue (base : Nat) (cs : List Char) : Nat :=
  (cs.filter (· != '_')).foldl (fun n d => n * base + (hexDigit? d).getD 0) 0

/-- Decimal digits with no leading zero, unless the number is zero. -/
def isDecimal (cs : List Char) : Bool :=
  isDigitRun Char.isDigit cs && (cs.head? != some '0' || cs == ['0'])

/-- Splits a leading sign off: whether it is a minus, and the rest. -/
def splitSign : List Char → Bool × List Char
  | '+' :: r => (false, r)
  | '-' :: r => (true, r)
  | cs => (false, cs)

/-- An integer: decimal with an optional sign, or unsigned with a prefix `0x`, `0o` or `0b`. -/
def integer? : List Char → Option Int
  | '0' :: 'x' :: ds => if isDigitRun (fun c => (hexDigit? c).isSome) ds then some (runValue 16 ds) else none
  | '0' :: 'o' :: ds => if isDigitRun (fun c => '0' ≤ c && c ≤ '7') ds then some (runValue 8 ds) else none
  | '0' :: 'b' :: ds => if isDigitRun (fun c => c == '0' || c == '1') ds then some (runValue 2 ds) else none
  | cs =>
    let (neg, ds) := splitSign cs
    if isDecimal ds then some (if neg then -(runValue 10 ds : Int) else runValue 10 ds) else none

/-- Integers are 64-bit signed. -/
def fitsInt64 (n : Int) : Bool :=
  -(Int.ofNat (Nat.pow 2 63)) ≤ n && n < Int.ofNat (Nat.pow 2 63)

/-- A digit or an underscore. -/
def isDigitOrUnderscore (c : Char) : Bool := c.isDigit || c == '_'

/-- The parts of a decimal float: sign, digits before the point, after it, and the exponent;
`none` unless it has a fraction, an exponent or both, in the forms TOML allows. -/
def floatParts? (cs : List Char) : Option (Bool × List Char × List Char × Int) :=
  let (neg, body) := splitSign cs
  let whole := body.takeWhile isDigitOrUnderscore
  let afterWhole := body.dropWhile isDigitOrUnderscore
  let (frac, afterFrac, hasFrac) := match afterWhole with
    | '.' :: r => (r.takeWhile isDigitOrUnderscore, r.dropWhile isDigitOrUnderscore, true)
    | r => ([], r, false)
  let exp? : Option (Option Int) := match afterFrac with
    | [] => some none
    | 'e' :: r | 'E' :: r =>
      let (eneg, ds) := splitSign r
      if isDigitRun Char.isDigit ds then
        some (some (if eneg then -(runValue 10 ds : Int) else runValue 10 ds))
      else none
    | _ => none
  match exp? with
  | none => none
  | some e =>
    if isDecimal whole && (!hasFrac || isDigitRun Char.isDigit frac) && (hasFrac || e.isSome) then
      some (neg, whole, frac, e.getD 0)
    else none

/-- The least value that a double rounds to infinity: halfway between the largest double and
`2 ^ 1024`. -/
def infinityThreshold : Nat := Nat.pow 2 1024 - Nat.pow 2 970

/-- Whether `m · 10 ^ e` reaches the threshold. Values of more than 309 digits before the point
do; values of fewer than 309 do not; the rest are compared exactly. -/
def reachesInfinity (m : Nat) (e : Int) : Bool :=
  if m == 0 then false
  else
    let size : Int := (Nat.toDigits 10 m).length + e
    if size > 309 then true
    else if size < 309 then false
    else if 0 ≤ e then m * Nat.pow 10 e.toNat ≥ infinityThreshold
    else m ≥ infinityThreshold * Nat.pow 10 (-e).toNat

/-- A float: decimal, or `inf` or `nan` with an optional sign. One too large for a double is
refused when positive. -/
def floatOk? (cs : List Char) : Option Bool :=
  let (_, body) := splitSign cs
  if body == ['i', 'n', 'f'] || body == ['n', 'a', 'n'] then some true
  else
    match floatParts? cs with
    | none => none
    | some (neg, whole, frac, e) =>
      let m := runValue 10 (whole ++ frac)
      let fracDigits := (frac.filter (· != '_')).length
      some (neg || !reachesInfinity m (e - fracDigits))

/-- The value of exactly two decimal digits. -/
def twoDigits? : List Char → Option Nat
  | [a, b] => if a.isDigit && b.isDigit then some ((a.toNat - 48) * 10 + (b.toNat - 48)) else none
  | _ => none

/-- Days in a month of the Gregorian calendar. -/
def daysInMonth (year month : Nat) : Nat :=
  if month == 2 then
    if year % 4 == 0 && (year % 100 != 0 || year % 400 == 0) then 29 else 28
  else if month == 4 || month == 6 || month == 9 || month == 11 then 30
  else 31

/-- A date `YYYY-MM-DD` that exists. -/
def isFullDate : List Char → Bool
  | [y1, y2, y3, y4, '-', m1, m2, '-', d1, d2] =>
    match twoDigits? [y1, y2], twoDigits? [y3, y4], twoDigits? [m1, m2], twoDigits? [d1, d2] with
    | some hi, some lo, some m, some d => 1 ≤ m && m ≤ 12 && 1 ≤ d && d ≤ daysInMonth (hi * 100 + lo) m
    | _, _, _, _ => false
  | _ => false

/-- A time `HH:MM:SS`, perhaps with a fraction of a second; a leap second is allowed. -/
def isPartialTime : List Char → Bool
  | h1 :: h2 :: ':' :: m1 :: m2 :: ':' :: s1 :: s2 :: frac =>
    match twoDigits? [h1, h2], twoDigits? [m1, m2], twoDigits? [s1, s2] with
    | some h, some m, some s =>
      h ≤ 23 && m ≤ 59 && s ≤ 60 &&
        match frac with
        | [] => true
        | '.' :: ds => !ds.isEmpty && ds.all Char.isDigit
        | _ => false
    | _, _, _ => false
  | _ => false

/-- A time, perhaps followed by an offset: `Z` or a signed `HH:MM`. -/
def isTimeWithOffset (cs : List Char) : Bool :=
  match cs.reverse with
  | 'Z' :: r | 'z' :: r => isPartialTime r.reverse
  | m2 :: m1 :: ':' :: h2 :: h1 :: sign :: r =>
    if sign == '+' || sign == '-' then
      match twoDigits? [h1, h2], twoDigits? [m1, m2] with
      | some h, some m => h ≤ 23 && m ≤ 59 && isPartialTime r.reverse
      | _, _ => false
    else isPartialTime cs
  | _ => isPartialTime cs

/-- A date, a date and a time (with or without offset), or a time alone. The date and time are
parted by `T`, `t` or a space. -/
def isDateTime (cs : List Char) : Bool :=
  (isFullDate (cs.take 10) &&
    match cs.drop 10 with
    | [] => true
    | d :: time => (d == 'T' || d == 't' || d == ' ') && isTimeWithOffset time)
  || isPartialTime cs

/-- A character that may stand in a number, a date-time or a keyword. -/
def isScalarChar (c : Char) : Bool :=
  c.isAlphanum || c == '_' || c == '+' || c == '-' || c == '.' || c == ':'

/-- Reads a boolean, number or date-time. A date followed by a space takes what follows the
space as its time. -/
def readScalar (cs : List Char) : Reading Node :=
  let (tok, rest) := cs.span isScalarChar
  let (tok, rest) := match rest with
    | ' ' :: r =>
      let (time, after) := r.span isScalarChar
      if isFullDate tok && !time.isEmpty then (tok ++ ' ' :: time, after) else (tok, rest)
    | _ => (tok, rest)
  if tok == ['t', 'r', 'u', 'e'] then .ok (.bool true, rest)
  else if tok == ['f', 'a', 'l', 's', 'e'] then .ok (.bool false, rest)
  else if isDateTime tok then .ok (.datetime, rest)
  else
    match integer? tok with
    | some n => if fitsInt64 n then .ok (.int n, rest) else .error .overflow
    | none =>
      match floatOk? tok with
      | some true => .ok (.float, rest)
      | some false => .error .overflow
      | none => .error .malformed

/-! ## Keys, values and the document -/

/-- Reads one key: bare, or a basic or literal string. -/
def readSimpleKey : List Char → Reading String
  | '"' :: r => basicRest [] r
  | '\'' :: r => literalRest [] r
  | cs =>
    match cs.span isBareKeyChar with
    | ([], _) => .error .malformed
    | (k, r) => .ok (String.ofList k, r)

/-- Reads a key of parts parted by dots, with blanks allowed around the dots; the rest starts
after the blanks that follow it. -/
def readKeyPath : Nat → List Char → Except TomlError (List String × List Char)
  | 0, _ => .error .malformed
  | fuel + 1, cs => do
    let (k, r) ← readSimpleKey cs
    match skipWs r with
    | '.' :: r' =>
      let (ks, rest) ← readKeyPath fuel (skipWs r')
      return (k :: ks, rest)
    | r' => return ([k], r')

/-- A dotted key has fewer than this many parts. -/
def maxKeyParts : Nat := 80

/-- Reads a key, refusing one of too many parts. -/
def readKey (cs : List Char) : Except TomlError (List String × List Char) := do
  let (ks, rest) ← readKeyPath (cs.length + 1) cs
  if ks.length < maxKeyParts then .ok (ks, rest) else .error .malformed

/-- Arrays and inline tables nest fewer than this many deep. -/
def maxNesting : Nat := 80

mutual

/-- Reads a value; `depth` counts the arrays and inline tables around it. -/
def readValue : Nat → Nat → List Char → Except TomlError (Node × List Char)
  | 0, _, _ => .error .malformed
  | fuel + 1, depth, cs =>
    match cs with
    | '"' :: '"' :: '"' :: r =>
      (multiBasicRest .text [] (dropFirstBreak r)).map fun (s, rest) => (.str s, rest)
    | '"' :: r => (basicRest [] r).map fun (s, rest) => (.str s, rest)
    | '\'' :: '\'' :: '\'' :: r =>
      (multiLiteralRest [] (dropFirstBreak r)).map fun (s, rest) => (.str s, rest)
    | '\'' :: r => (literalRest [] r).map fun (s, rest) => (.str s, rest)
    | '[' :: r => if depth + 1 < maxNesting then readArray fuel (depth + 1) [] r else .error .malformed
    | '{' :: r =>
      if depth + 1 < maxNesting then readInline fuel (depth + 1) true [] r else .error .malformed
    | _ => readScalar cs

/-- Reads the rest of an array, whose items so far are `acc`, last first. Blanks, comments and
line breaks may stand between items, and a comma may follow the last. -/
def readArray : Nat → Nat → List Node → List Char → Except TomlError (Node × List Char)
  | 0, _, _, _ => .error .malformed
  | fuel + 1, depth, acc, cs => do
    match ← skipBlankLines false cs with
    | ']' :: r => return (.array acc.reverse, r)
    | cs' =>
      let (v, r) ← readValue fuel depth cs'
      match ← skipBlankLines false r with
      | ',' :: r' => readArray fuel depth (v :: acc) r'
      | ']' :: r' => return (.array (v :: acc).reverse, r')
      | _ => .error .malformed

/-- Reads the rest of an inline table, whose entries so far are `es`. It stays on one line and
allows no comma after the last entry. -/
def readInline : Nat → Nat → Bool → Entries → List Char →
    Except TomlError (Node × List Char)
  | 0, _, _, _, _ => .error .malformed
  | fuel + 1, depth, first, es, cs =>
    match skipWs cs with
    | '}' :: r => if first then .ok (.table .inline es, r) else .error .malformed
    | cs' => do
      let (path, r) ← readKey cs'
      match r with
      | '=' :: r' =>
        let (v, r'') ← readValue fuel depth (skipWs r')
        let es ← defineKey .inline es path v
        match skipWs r'' with
        | ',' :: rest => readInline fuel depth false es rest
        | '}' :: rest => return (.table .inline es, rest)
        | _ => .error .malformed
      | _ => .error .malformed

end

/-- Reads a value at the top of a key-value pair. -/
def readTopValue (cs : List Char) : Except TomlError (Node × List Char) := readValue (2 * cs.length + 2) 0 cs

/-- Reads the lines of a document into `root`; `current` names the table that the last header
opened. -/
def readLines : Nat → List String → Entries → List Char → Except TomlError Entries
  | 0, _, _, _ => .error .malformed
  | fuel + 1, current, root, cs =>
    match skipWs cs with
    | [] => .ok root
    | '\n' :: r => readLines fuel current root r
    | '\r' :: '\n' :: r => readLines fuel current root r
    | '#' :: r => do readLines fuel current root (← endLine ('#' :: r))
    | '[' :: '[' :: r => do
      let (path, r) ← readKey (skipWs r)
      match r with
      | ']' :: ']' :: r' => do
        let root ← openArrayTable root path
        readLines fuel path root (← endLine r')
      | _ => .error .malformed
    | '[' :: r => do
      let (path, r) ← readKey (skipWs r)
      match r with
      | ']' :: r' => do
        let root ← openTable root path
        readLines fuel path root (← endLine r')
      | _ => .error .malformed
    | cs' => do
      let (path, r) ← readKey cs'
      match r with
      | '=' :: r' =>
        let (v, r'') ← readTopValue (skipWs r')
        let root ← defineIn root current path v
        readLines fuel current root (← endLine r'')
      | _ => .error .malformed

/-- Reads a TOML document into its top-level entries. A byte order mark may open it. -/
def parse (text : String) : Except TomlError Entries :=
  let cs := match text.toList with
    | '\uFEFF' :: r => r
    | cs => cs
  readLines (cs.length + 1) [] [] cs

end ConsoleSweep.Toml
