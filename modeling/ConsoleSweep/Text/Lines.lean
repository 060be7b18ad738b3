-- A text is read as the pieces between its line feeds. A carriage return is an ordinary
-- character here, so a line of a CRLF text keeps its trailing return; splitting and then
-- joining with line feeds gives the text back. White space is as Unicode defines it (the
-- White_Space property): the characters a line may hold and still count as blank, and the
-- characters that trimming cuts from both ends.
namespace ConsoleSweep.Text

/-! ## Lines -/

/-- The lines of a text: the pieces between line feeds, the empty text being one empty line. -/
def lines (s : String) : List String :=
  (s.toList.splitOn '\n').map String.ofList

/-- Lines joined with a line feed between each two. -/
def unlines (ls : List String) : String :=
  "\n".intercalate ls

/-- How many lines a text has: one more than its line feeds. -/
def lineCount (s : String) : Nat :=
  (lines s).length

/-- The lines of a text with their positions, counted from zero. -/
def numbered (s : String) : List (Nat × String) :=
  (lines s).zipIdx.map fun (l, i) => (i, l)

/-! ## White space -/

/-- The White_Space characters of Unicode: tab to carriage return, space, next line, no-break
space, ogham space, the en quad to hair space block, the line and paragraph separators, narrow
no-break space, medium mathematical space and ideographic space. -/
def isBlank (c : Char) : Bool :=
  let n := c.toNat
  (0x09 ≤ n && n ≤ 0x0D) || n == 0x20 || n == 0x85 || n == 0xA0 || n == 0x1680 ||
  (0x2000 ≤ n && n ≤ 0x200A) || n == 0x2028 || n == 0x2029 || n == 0x202F || n == 0x205F ||
  n == 0x3000

/-- A text with its leading and trailing white space cut off. -/
def trim (s : String) : String :=
  String.ofList ((s.toList.dropWhile isBlank).reverse.dropWhile isBlank).reverse

/-- A text is blank when it holds white space only (the empty text included). -/
def isBlankText (s : String) : Bool :=
  s.toList.all isBlank

/-- Lower case for the ASCII letters; every other character stays. -/
def asciiLower (s : String) : String :=
  s.map Char.toLower

example : isBlank ' ' ∧ isBlank '　' ∧ isBlank '\u0085' ∧ !isBlank '\u200B' := by decide

end ConsoleSweep.Text
