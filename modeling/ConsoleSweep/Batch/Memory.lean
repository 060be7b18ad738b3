-- A store kept in memory: documents by name, as bytes. It can be told to refuse edits to some
-- documents, and it counts the edits it makes. Two names stand for the same document when their
-- paths have the same parts, so `a//b.sol`, `a/./b.sol` and `a/b.sol/` all name `a/b.sol`.
import ConsoleSweep.Batch.Store
namespace ConsoleSweep

/-- Documents in memory, the names whose edits are refused, and the number of edits made. -/
structure MemoryStore where
  docs : List (Bytes × Bytes)
  refused : List Bytes := []
  writes : Nat := 0
deriving Inhabited

namespace MemoryStore

/-- Whether two names stand for the same document: their paths have the same parts. -/
def sameName (p q : Bytes) : Bool := Path.parts p == Path.parts q

/-- The bytes of a document. -/
def get? (m : MemoryStore) (p : Bytes) : Option Bytes :=
  (m.docs.find? fun d => sameName d.1 p).map (·.2)

/-- The store with a document's bytes set, in place and under its first name if it was there,
else added at the end. -/
def put (m : MemoryStore) (p : Bytes) (bs : Bytes) : MemoryStore :=
  if m.docs.any fun d => sameName d.1 p then
    { m with docs := m.docs.map fun d => if sameName d.1 p then (d.1, bs) else d }
  else { m with docs := m.docs ++ [(p, bs)] }

/-- A store of the given documents, refusing edits to the given names. A later document of a
name already held replaces its bytes and keeps the first name. -/
def ofList (docs : List (Bytes × Bytes)) (refused : List Bytes) : MemoryStore :=
  docs.foldl (fun m d => m.put d.1 d.2) { docs := [], refused }

/-- Whether edits to a document are refused. -/
def refuses (m : MemoryStore) (p : Bytes) : Bool := m.refused.any (sameName · p)

end MemoryStore

instance : DocumentStore MemoryStore where
  read m p := match m.get? p with
    | none => .error (.read .noSuchDocument)
    | some bs => textOfBytes bs
  apply m p text :=
    if m.refuses p then .error (.rejected "Failed to apply edit")
    else .ok { m.put p (Text.utf8Bytes text) with writes := m.writes + 1 }

end ConsoleSweep
