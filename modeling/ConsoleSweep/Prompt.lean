-- Asking before a sweep. The question is shown followed by ` [y/N] `; the answer is the next
-- line of input, through its line feed. Trimmed of white space and read without regard to
-- case it must be `y` or `yes`; anything else, the end of input, a line that is not UTF-8 or
-- a writer that fails, is no.
import ConsoleSweep.Text.Lines
import ConsoleSweep.Text.Utf8
namespace ConsoleSweep.Prompt

/-- What is shown for a question. -/
def shown (message : String) : String := message ++ " [y/N] "

/-- Whether an answer line says yes. Only ASCII letters lower-case to `y`, `e` or `s`, so ASCII
lower-casing decides this exactly as full Unicode lower-casing would. -/
def isYes (line : String) : Bool :=
  let t := Text.asciiLower (Text.trim line)
  t == "y" || t == "yes"

/-- The next line of an input, through its line feed, and what follows; `none` when the input
is used up. -/
def nextLine (input : List Char) : Option (List Char × List Char) :=
  match input with
  | [] => none
  | _ =>
    let line := input.takeWhile (· != '\n')
    let rest := input.drop line.length
    match rest with
    | '\n' :: after => some (line ++ ['\n'], after)
    | _ => some (line, rest)

/-- Asks once: the answer, and the input left for later questions. -/
def ask (input : List Char) : Bool × List Char :=
  match nextLine input with
  | none => (false, input)
  | some (line, rest) => (isYes (String.ofList line), rest)

/-! ## Over bytes -/

/-- The first line of some bytes, through its line feed, and the bytes after it. -/
def splitLineBytes (input : List UInt8) : List UInt8 × List UInt8 :=
  let line := input.takeWhile (· != 10)
  match input.drop line.length with
  | feed :: after => (line ++ [feed], after)
  | [] => (line, [])

/-- Reads the next line of bytes: `none` at the end of input, else the line read as UTF-8 or
where it fails to be. The line's bytes are used up either way. -/
def readLine (input : List UInt8) : Except Text.Utf8Fault (Option String) × List UInt8 :=
  match input with
  | [] => (.ok none, [])
  | _ =>
    let (line, rest) := splitLineBytes input
    ((Text.decodeUtf8 line).map some, rest)

/-- A prompt over bytes of input: the input not yet read, what the writer has taken, and
whether the writer fails. -/
structure Gate where
  input : List UInt8
  written : String
  writerFails : Bool := false
deriving Repr

/-- Asks once. A writer that fails gives no at once; otherwise the question is written and a
line is read, and only an explicit yes is yes. -/
def Gate.confirm (g : Gate) (message : String) : Bool × Gate :=
  if g.writerFails then (false, g)
  else
    let (read, rest) := readLine g.input
    let g' := { g with written := g.written ++ shown message, input := rest }
    match read with
    | .ok (some line) => (isYes line, g')
    | _ => (false, g')

end ConsoleSweep.Prompt
