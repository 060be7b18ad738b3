-- A tree of files held in memory: directories hold named entries, files hold bytes, symbolic
-- links hold the path they point to. Names are bytes, as the system keeps them, and a
-- directory keeps its entries in byte order of their names. A tree is built by putting entries
-- at paths, the directories on the way made as needed, and read back as the list of its files
-- and links under their paths.
import ConsoleSweep.Tree.Path
namespace ConsoleSweep

/-- A file, a symbolic link, or a directory of named entries. -/
inductive Tree where
  | file (bytes : Bytes)
  | link (target : Bytes)
  | dir (entries : List (Bytes × Tree))
deriving Repr, Inhabited

namespace Tree

/-- The entry of a name among a directory's entries. -/
def lookup (es : List (Bytes × Tree)) (n : Bytes) : Option Tree :=
  (es.find? fun e => e.1 == n).map (·.2)

/-- Sets the entry of a name: in its place if the name is there, else where byte order puts
it. -/
def setEntry (n : Bytes) (t : Tree) : List (Bytes × Tree) → List (Bytes × Tree)
  | [] => [(n, t)]
  | (m, u) :: rest =>
    if m == n then (n, t) :: rest
    else if Path.le n m then (n, t) :: (m, u) :: rest
    else (m, u) :: setEntry n t rest

/-- Whether an entry is a directory. -/
def isDir : Tree → Bool
  | .dir _ => true
  | _ => false

/-- What stands at a list of names from the top, no link followed. -/
def get? : Tree → List Bytes → Option Tree
  | t, [] => some t
  | .dir es, n :: ns => (lookup es n).bind fun t => t.get? ns
  | _, _ :: _ => none

/-- Changes what stands at a list of names by `f`, which sees what stands there now, if
anything. Missing directories on the way are made; a path through a file or a link changes
nothing. -/
def alter (f : Option Tree → Option Tree) : Tree → List Bytes → Tree
  | .dir es, [n] =>
    match f (lookup es n) with
    | some t => .dir (setEntry n t es)
    | none => .dir es
  | .dir es, n :: ns =>
    match lookup es n with
    | none => .dir (setEntry n ((Tree.dir []).alter f ns) es)
    | some (.dir inner) => .dir (setEntry n ((Tree.dir inner).alter f ns) es)
    | some _ => .dir es
  | t, _ => t

/-- The names of a path relative to the top of a tree. -/
def namesOf (p : Bytes) : List Bytes :=
  (Path.parts p).filterMap fun
    | .name n => some n
    | _ => none

/-- Puts a file at a path, in place of a file that is there. -/
def putFile (t : Tree) (p : Bytes) (bs : Bytes) : Tree :=
  t.alter (fun
    | none | some (.file _) => some (.file bs)
    | other => other) (namesOf p)

/-- Puts a directory at a path, unless something stands there. -/
def putDir (t : Tree) (p : Bytes) : Tree :=
  t.alter (fun
    | none => some (.dir [])
    | other => other) (namesOf p)

/-- Puts a link at a path, unless something stands there. -/
def putLink (t : Tree) (p : Bytes) (target : Bytes) : Tree :=
  t.alter (fun
    | none => some (.link target)
    | other => other) (namesOf p)

mutual

/-- The files and links of a tree under their paths, in the order of the entries. -/
def listFrom (pre : Bytes) : Tree → List (Bytes × Tree)
  | .dir es => listEntries pre es
  | t => [(pre, t)]

/-- The files and links under each of a directory's entries. -/
def listEntries (pre : Bytes) : List (Bytes × Tree) → List (Bytes × Tree)
  | [] => []
  | (n, t) :: rest => listFrom (Path.join pre n) t ++ listEntries pre rest

end

/-- The files and links of a tree that the system can reach by their paths, sorted by path,
when the tree stands in a directory whose path and the slash after it take `base` bytes: a path
is reached only when, with those bytes in front, it is no longer than the system takes. -/
def listing (base : Nat) (t : Tree) : List (Bytes × Tree) :=
  ((listFrom [] t).filter fun e => base + e.1.length ≤ Path.maxLength).mergeSort
    fun a b => Path.le a.1 b.1

end Tree

end ConsoleSweep
