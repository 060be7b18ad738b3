-- Paths as the bytes that name them, read the way a Unix system reads them: a leading slash
-- for the root, parts between slashes, repeated and trailing slashes ignored, `.` kept only
-- at the start, `..` for the parent. A path's file name is its last part when that is a
-- name, and its extension is what follows the last dot of the file name, unless that dot
-- starts the name.
import ConsoleSweep.Text.Utf8
namespace ConsoleSweep

/-- A path, or a name in a path, as its bytes. -/
abbrev Bytes := List UInt8

/-- A part of a path. -/
inductive PathPart where
  | root
  | here
  | up
  | name (n : Bytes)
deriving Repr, BEq, Inhabited

namespace Path

/-- The slash. -/
def slash : UInt8 := 0x2F

/-- The dot. -/
def dot : UInt8 := 0x2E

/-- The pieces between slashes, empty ones included. -/
def pieces (p : Bytes) : List Bytes := p.splitOn slash

/-- The parts of a path. -/
def parts (p : Bytes) : List PathPart :=
  let absolute := p.head? == some slash
  let ps := (pieces p).filter (!·.isEmpty)
  let named := ps.zipIdx.filterMap fun (piece, i) =>
    if piece == [dot] then (if i == 0 && !absolute && p.head? == some dot then some .here else none)
    else if piece == [dot, dot] then some .up
    else some (.name piece)
  if absolute then .root :: named else named

/-- Whether a path names a directory by its form: it ends in a slash, or its last piece is `.`. -/
def endsInDir (p : Bytes) : Bool :=
  p.getLast? == some slash || ((pieces p).filter (!·.isEmpty)).getLast? == some [dot]

/-- The last part of a path when it is a name. -/
def fileName (p : Bytes) : Option Bytes :=
  match (parts p).getLast? with
  | some (.name n) => some n
  | _ => none

/-- What follows the last dot of the file name, unless there is no dot or the only part before
the last dot is empty. -/
def extension (p : Bytes) : Option Bytes :=
  (fileName p).bind fun n =>
    let ps := n.splitOn dot
    match ps.getLast?, ps.dropLast with
    | some after, before@(_ :: _) =>
      if (dot :: []).intercalate before |>.isEmpty then none else some after
    | _, _ => none

/-- Whether a path names a Solidity source: its extension is exactly `sol`. -/
def isSolidity (p : Bytes) : Bool := extension p == some (Text.utf8Bytes "sol")

/-- A path as shown to the user: its bytes read as UTF-8, bad parts replaced. -/
def display (p : Bytes) : String := Text.decodeLossy p

/-- Byte order of paths: the first differing byte decides, and a prefix comes first. -/
def le : Bytes → Bytes → Bool
  | [], _ => true
  | _ :: _, [] => false
  | a :: as, b :: bs => a < b || (a == b && le as bs)

/-- The longest path, in bytes, that the system takes. -/
def maxLength : Nat := 4095

/-- The longest name, in bytes, that the system takes. -/
def maxNameLength : Nat := 255

/-- Joins a path and a name with a slash, unless the path is empty or already ends in one. -/
def join (p : Bytes) (n : Bytes) : Bytes :=
  if p.isEmpty then n
  else if p.getLast? == some slash then p ++ n
  else p ++ [slash] ++ n

end Path

end ConsoleSweep
