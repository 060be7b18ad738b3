-- Following a path through a tree the way the system does. Each name must stand in the
-- directory reached so far; a file can only be last; a symbolic link is replaced by the path it
-- points to, read from the directory that holds it, at most forty times in one path; `..` goes
-- up one directory. A path that ends in a slash or in `.` must lead to a directory. A path
-- holding a NUL byte is refused before anything else, and then paths of 4096 bytes or more; a
-- name of more than 255 bytes is refused when it is looked up, in a directory that the walk has
-- reached. Paths that start at the system's root lie outside the tree.
import ConsoleSweep.Tree.Basic
import ConsoleSweep.Tree.IoError
namespace ConsoleSweep

/-- Where a path leads: the names from the top of the tree, and what stands there. -/
structure Place where
  names : List Bytes
  entry : Tree
deriving Repr, Inhabited

/-- The most symbolic links followed in one path. -/
def maxLinks : Nat := 40

namespace Tree

/-- Why a path that continues from the system's root fails: its first name is looked up there,
and refused when too long; any other name lies outside the tree. `..` at the root stays there. -/
def fromRoot : List PathPart → IoError
  | .name n :: _ => if n.length > Path.maxNameLength then .nameTooLong else .notFound
  | _ :: rest => fromRoot rest
  | [] => .notFound

/-- Follows the parts of a path from the directory at `cwd`. A link in last place is followed
only when `follow` says so; `links` more links may be followed. A link whose target names a
directory by its form leaves a `.` behind it, so that what it leads to must be a directory. -/
def walk (top : Tree) (follow : Bool) (links : Nat) (cwd : List Bytes) :
    List PathPart → Except IoError Place
  | [] => .ok ⟨cwd, (top.get? cwd).getD (.dir [])⟩
  | .here :: rest => top.walk follow links cwd rest
  | .up :: rest => if cwd.isEmpty then .error .notFound else top.walk follow links cwd.dropLast rest
  | .root :: rest => .error (fromRoot rest)
  | .name n :: rest =>
    let here := cwd ++ [n]
    match top.get? here with
    | none => if n.length > Path.maxNameLength then .error .nameTooLong else .error .notFound
    | some (.dir _) => top.walk follow links here rest
    | some (.file bs) => if rest.isEmpty then .ok ⟨here, .file bs⟩ else .error .notDirectory
    | some (.link target) =>
      if rest.isEmpty && !follow then .ok ⟨here, .link target⟩
      else
        match links with
        | 0 => .error .tooManyLinks
        | k + 1 =>
          let tail := if Path.endsInDir target then PathPart.here :: rest else rest
          top.walk follow k cwd (Path.parts target ++ tail)
termination_by parts => (links, parts.length)

/-- Where a path leads from the top of the tree; `follow` says whether a link in last place is
followed. A path ending in a slash or in `.` names the directory itself, so a link in last
place is followed and what it leads to must be a directory. -/
def resolve (t : Tree) (p : Bytes) (follow : Bool) : Except IoError Place :=
  if p.contains 0 then .error .nulInPath
  else if p.isEmpty then .error .notFound
  else if p.length > Path.maxLength then .error .nameTooLong
  else
    let dirOnly := Path.endsInDir p
    match t.walk (follow || dirOnly) maxLinks [] (Path.parts p) with
    | .ok pl => if dirOnly && !pl.entry.isDir then .error .notDirectory else .ok pl
    | .error e => .error e

/-- The bytes of the file a path leads to. -/
def readFile (t : Tree) (p : Bytes) : Except IoError Bytes :=
  match t.resolve p true with
  | .ok ⟨_, .file bs⟩ => .ok bs
  | .ok ⟨_, .dir _⟩ => .error .isDirectory
  | .ok ⟨_, .link _⟩ => .error .notFound
  | .error e => .error e

/-- The tree with the file a path leads to replaced by new bytes. -/
def writeFile (t : Tree) (p : Bytes) (bs : Bytes) : Except IoError Tree :=
  match t.resolve p true with
  | .ok ⟨names, .file _⟩ => .ok (t.alter (fun _ => some (.file bs)) names)
  | .ok ⟨_, .dir _⟩ => .error .isDirectory
  | .ok ⟨_, .link _⟩ => .error .notFound
  | .error e => .error e

/-- Whether something stands where a path leads, links followed. -/
def exists? (t : Tree) (p : Bytes) : Bool := (t.resolve p true).toOption.isSome

end Tree

end ConsoleSweep
