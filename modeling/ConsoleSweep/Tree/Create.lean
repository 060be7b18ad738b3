-- Making entries in a tree the way the system makes them. The directories on the way to a new
-- entry are made where missing, and a link on the way is followed to the directory it leads to.
-- A file written where a link stands is written through the link: the file the link leads to
-- gets the bytes, and is made if it is missing. A new directory or link is never put where
-- something already stands, and a directory already there is kept. No new name may be longer
-- than the system takes.
import ConsoleSweep.Tree.Resolve
namespace ConsoleSweep

namespace Tree

/-- Follows the parts of a path from the directory at `cwd`, making each missing directory, as
`mkdir -p` does; a link on the way must lead to a directory. Gives the tree and the names of
the directory reached. -/
def makeDirs (t : Tree) (cwd : List Bytes) : List PathPart → Except IoError (Tree × List Bytes)
  | [] => .ok (t, cwd)
  | .here :: rest => t.makeDirs cwd rest
  | .up :: rest => if cwd.isEmpty then .error .notFound else t.makeDirs cwd.dropLast rest
  | .root :: _ => .error .notFound
  | .name n :: rest =>
    let here := cwd ++ [n]
    match t.get? here with
    | none =>
      if n.length > Path.maxNameLength then .error .nameTooLong
      else (t.alter (fun _ => some (.dir [])) here).makeDirs here rest
    | some (.dir _) => t.makeDirs here rest
    | some (.file _) => .error .notDirectory
    | some (.link target) =>
      match t.walk true maxLinks cwd (Path.parts target) with
      | .ok ⟨names, .dir _⟩ => t.makeDirs names rest
      | .ok _ => .error .notDirectory
      | .error e => .error e

/-- The parts of a path before its last, and its last name; none when the path names a
directory by its form or ends in no name. -/
def splitLast (p : Bytes) : Option (List PathPart × Bytes) :=
  if Path.endsInDir p then none
  else
    match (Path.parts p).reverse with
    | .name n :: before => some (before.reverse, n)
    | _ => none

/-- Writes the file named `n` in the directory at `parent`: a file there gets the bytes, a
missing one is made, and a link there is written through, at most `links` deep. The directory
that a link's target names must already be there. -/
def writeIn (t : Tree) (bs : Bytes) : Nat → List Bytes → Bytes → Except IoError Tree
  | links, parent, n =>
    let here := parent ++ [n]
    match t.get? here with
    | none =>
      if n.length > Path.maxNameLength then .error .nameTooLong
      else .ok (t.alter (fun _ => some (.file bs)) here)
    | some (.file _) => .ok (t.alter (fun _ => some (.file bs)) here)
    | some (.dir _) => .error .isDirectory
    | some (.link target) =>
      match links with
      | 0 => .error .tooManyLinks
      | k + 1 =>
        match splitLast target with
        | none => .error .isDirectory
        | some (before, m) =>
          match t.walk true k parent before with
          | .ok ⟨names, .dir _⟩ => t.writeIn bs k names m
          | .ok _ => .error .notDirectory
          | .error e => .error e

/-- Writes a file at a path, making the directories on the way. -/
def createFile (t : Tree) (p : Bytes) (bs : Bytes) : Except IoError Tree :=
  match splitLast p with
  | none => .error .isDirectory
  | some (before, n) => do
    let (t', parent) ← t.makeDirs [] before
    t'.writeIn bs maxLinks parent n

/-- Makes a directory at a path and the directories on the way; one already there is kept. -/
def createDir (t : Tree) (p : Bytes) : Except IoError Tree :=
  (t.makeDirs [] (Path.parts p)).map (·.1)

/-- Puts a link at a path, making the directories on the way; nothing may stand there yet. -/
def createLink (t : Tree) (p : Bytes) (target : Bytes) : Except IoError Tree :=
  match splitLast p with
  | none => .error .notFound
  | some (before, n) => do
    let (t', parent) ← t.makeDirs [] before
    match t'.get? (parent ++ [n]) with
    | none =>
      if n.length > Path.maxNameLength then .error .nameTooLong
      else .ok (t'.alter (fun _ => some (.link target)) (parent ++ [n]))
    | some _ => .error .notFound

end Tree

end ConsoleSweep
