-- Reading the command line. Words are read in turn: `--` ends the options, after which every
-- word is a path; `--name` or `--name=value` names an option by its long name; `-abc` strings
-- options by their one-letter names, and one that takes a value takes the rest of the word
-- (after an `=`, if there is one) or else the next word; anything else is a path, or the value
-- an option waits for. A value is read when the next argument is taken, or at the end, so a bad
-- value is reported then. A switch or single-valued option may be given once.
--
-- A word that names no option is a misuse, reported with the long name most like it, if one is
-- close enough, and with the arguments taken so far. Help and version stop the reading.
import ConsoleSweep.Cli.Help
import ConsoleSweep.Text.Similarity
namespace ConsoleSweep.Cli

/-- Why reading stopped before the end: help or the version was asked for, or the command line
was misused. -/
inductive Halt where
  | help (long : Bool)
  | version
  | misuse (e : UsageError)
deriving Repr, Inhabited

/-- What the command line asks for. -/
structure Command where
  paths : List String := []
  imports : Bool := false
  noPreserveEmptyLines : Bool := false
  yes : Bool := false
  dryRun : Bool := false
  patterns : List String := []
  config : Option String := none
  maxErrors : Option Nat := none
  json : Bool := false
  quiet : Bool := false
  debug : Bool := false
deriving Repr, Inhabited

/-- The greatest count a value may hold: that of an unsigned 64-bit number. -/
def maxCount : Nat := Nat.pow 2 64 - 1

/-- The value of a run of decimal digits after `acc`, or why it has none: a character that is
not a digit, or a value past the greatest count, whichever comes first. -/
def digitsValue (acc : Nat) : List Char → Except String Nat
  | [] => .ok acc
  | c :: rest =>
    if c.isDigit then
      let n := acc * 10 + (c.toNat - '0'.toNat)
      if n > maxCount then .error "number too large to fit in target type" else digitsValue n rest
    else .error "invalid digit found in string"

/-- An unsigned 64-bit number in decimal, with an optional leading `+`. -/
def readUnsigned (s : String) : Except String Nat :=
  match s.toList with
  | [] => .error "cannot parse integer from empty string"
  | ['+'] | ['-'] => .error "invalid digit found in string"
  | '+' :: rest => digitsValue 0 rest
  | cs => digitsValue 0 cs

/-- A count of at least one. -/
def readCount (s : String) : Except String Nat :=
  match readUnsigned s with
  | .error why => .error why
  | .ok 0 => .error ("0 is not in 1.." ++ toString maxCount)
  | .ok n => .ok n

/-- Checks a value of an argument: paths and files may not be empty, counts must read. -/
def checkValue (a : Arg) (v : String) : Option UsageError :=
  match a with
  | .paths | .config => if v.isEmpty then some (.missingValue a) else none
  | .maxErrors =>
    match readCount v with
    | .error why => some (.invalidValue a v why)
    | .ok _ => none
  | _ => none

/-- The state of reading: the arguments taken, each with its values, in order of first use; the
argument whose values are gathered but not yet taken; the option waiting for its value; and
whether `--` has been read. -/
structure Reading where
  given : List (Arg × List String) := []
  pending : Option (Arg × List String) := none
  awaiting : Option Arg := none
  trailing : Bool := false
deriving Repr, Inhabited

namespace Reading

/-- Whether an argument has been taken. -/
def has (r : Reading) (a : Arg) : Bool := r.given.any fun e => e.1 == a

/-- The arguments taken, in order of first use. -/
def args (r : Reading) : List Arg := r.given.map (·.1)

/-- Marks an argument as taken, keeping its place if it was. -/
def mark (r : Reading) (a : Arg) : Reading :=
  if r.has a then r else { r with given := r.given ++ [(a, [])] }

/-- Adds a value to an argument taken. -/
def addValue (r : Reading) (a : Arg) (v : String) : Reading :=
  { r with given := r.given.map fun e => if e.1 == a then (e.1, e.2 ++ [v]) else e }

/-- Adds values to an argument in turn, up to the first that does not check. -/
def addValues (r : Reading) (a : Arg) : List String → Reading × Option Halt
  | [] => (r, none)
  | v :: rest =>
    match checkValue a v with
    | some e => (r, some (.misuse e))
    | none => (r.addValue a v).addValues a rest

/-- Takes an argument with its values: an argument that takes a value needs one, a switch or
single-valued option may not come again, and help and version stop. The argument counts as
taken even when one of its values does not check. -/
def take (r : Reading) (a : Arg) (vals : List String) (viaLong : Bool) : Reading × Option Halt :=
  if a.takesValue && vals.isEmpty then (r, some (.misuse (.missingValue a)))
  else
    match a.action with
    | .help => (r, some (.help viaLong))
    | .version => (r, some .version)
    | .flag | .single =>
      if r.has a then (r, some (.misuse (.repeated a))) else (r.mark a).addValues a vals
    | .gather => (r.mark a).addValues a vals

/-- Takes the argument whose values are gathered, if any. -/
def settle (r : Reading) : Reading × Option Halt :=
  match r.pending with
  | none => (r, none)
  | some (a, vals) => take { r with pending := none } a vals false

/-- The reading after a step, or why it stopped. -/
def result : Reading × Option Halt → Except Halt Reading
  | (r, none) => .ok r
  | (_, some h) => .error h

/-- Settles what is gathered, then takes an argument. -/
def takeNow (r : Reading) (a : Arg) (vals : List String) (viaLong : Bool) :
    Except Halt Reading := do
  let r ← result r.settle
  let r ← result (r.take a vals viaLong)
  return { r with awaiting := none }

/-- Settles what is gathered, then starts gathering values for an option that waits for one. -/
def await (r : Reading) (a : Arg) : Except Halt Reading := do
  let r ← result r.settle
  return { r with pending := some (a, []), awaiting := some a }

/-- A word that names no option: what is gathered is taken, its faults ignored, and the long
name most like the word, if any, is counted as given for the usage line. -/
def unknownLong (r : Reading) (name : String) : Halt :=
  let r := r.settle.1
  let sug := (Text.closest name Arg.longNames).bind Arg.ofLong?
  let given := match sug with
    | some a => (r.mark a).args
    | none => r.args
  .misuse (.unknown ("--" ++ name) sug sug.isNone given)

/-- Reads `--name` or `--name=value`. -/
def readLong (r : Reading) (body : String) : Except Halt Reading :=
  let name := String.ofList (body.toList.takeWhile (· != '='))
  let attached := if body.toList.contains '=' then
      some (String.ofList ((body.toList.dropWhile (· != '=')).drop 1))
    else none
  match Arg.ofLong? name with
  | none => .error (r.unknownLong name)
  | some a =>
    if a.takesValue then
      match attached with
      | some v => r.takeNow a [v] true
      | none => r.await a
    else
      match attached with
      | some v => .error (.misuse (.extraValue a v r.args))
      | none => r.takeNow a [] true

/-- Reads the letters of `-abc` in turn. -/
def readShort (r : Reading) : List Char → Except Halt Reading
  | [] => .ok { r with awaiting := none }
  | c :: rest =>
    match Arg.ofShort? c with
    | none => .error (.misuse (.unknown ("-" ++ c.toString) none true []))
    | some a =>
      if a.takesValue then
        let v := match rest with
          | [] => none
          | '=' :: after => some (String.ofList after)
          | _ => some (String.ofList rest)
        match v with
        | some v => r.takeNow a [v] false
        | none => r.await a
      else do
        let r ← r.takeNow a [] false
        readShort r rest

/-- Reads a path: what is gathered is taken first. -/
def readPath (r : Reading) (w : String) : Except Halt Reading := do
  let r ← result r.settle
  return { r with pending := some (.paths, [w]), awaiting := none }

/-- Reads one word. -/
def step (r : Reading) (w : String) : Except Halt Reading :=
  if r.trailing then r.readPath w
  else if w == "--" then .ok { r with trailing := true }
  else if w.startsWith "--" then r.readLong (w.drop 2).toString
  else if w.startsWith "-" && w.length > 1 then r.readShort (w.drop 1).toString.toList
  else
    match r.awaiting with
    | some a =>
      .ok { r with pending := some (a, ((r.pending.map (·.2)).getD []) ++ [w]), awaiting := none }
    | none => r.readPath w

/-- Reads the words in turn. -/
def readAll (r : Reading) : List String → Except Halt Reading
  | [] => .ok r
  | w :: rest => do
    let r ← r.step w
    readAll r rest

/-- The values given to an argument. -/
def values (r : Reading) (a : Arg) : List String :=
  ((r.given.find? fun e => e.1 == a).map (·.2)).getD []

/-- What a finished reading asks for. -/
def command (r : Reading) : Command :=
  { paths := r.values .paths
    imports := r.has .imports
    noPreserveEmptyLines := r.has .noPreserveEmptyLines
    yes := r.has .yes
    dryRun := r.has .dryRun
    patterns := r.values .pattern
    config := (r.values .config).head?
    maxErrors := (r.values .maxErrors).head?.bind fun v => (readCount v).toOption
    json := r.has .json
    quiet := r.has .quiet
    debug := r.has .debug }

end Reading

/-- Reads a command line (the words after the command's name). -/
def parseCommand (words : List String) : Except Halt Command := do
  let r ← Reading.readAll {} words
  let r ← Reading.result r.settle
  return r.command

end ConsoleSweep.Cli
