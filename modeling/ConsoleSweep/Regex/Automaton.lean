-- How large the automaton of a pattern is, and the limit it must keep to. The automaton is
-- built from the normal form of the pattern, part by part, in a fixed order of states. Every
-- state takes the same number of bytes, and more for each transition of a state that picks
-- among byte ranges and for each branch of a state that forks. A class of non-ASCII characters
-- becomes a tree of byte-range states over the UTF-8 forms of its characters; equal states are
-- shared through a table of bounded size whose slots are picked by hashing, so what is shared
-- depends on the numbers the states get. A choice of literals becomes a trie of their bytes.
-- Two automata are built: one that reads forward and records the capture groups, and one that
-- reads backward without them. A pattern is refused when either grows past the limit; the
-- building stops as soon as it does, so a huge count of repetitions costs no more than that.
import ConsoleSweep.Regex.Expr
namespace ConsoleSweep.Regex

namespace Automaton

/-- The bytes every state takes. -/
def stateBytes : Nat := 32

/-- The bytes each transition of a state that picks among byte ranges takes. -/
def transitionBytes : Nat := 8

/-- The bytes each branch of a forking state takes. -/
def branchBytes : Nat := 4

/-- The greatest size of an automaton, in bytes: ten mebibytes. -/
def sizeLimit : Nat := 10 * Nat.pow 2 20

/-- A transition of a state picking among byte ranges: a byte range and the number of the
state it leads to. -/
abbrev Edge := Nat × Nat × Nat

/-- The slots of the table that shares the states of a class read forward. -/
def treeSlots : Nat := 10000

/-- The slots of the table that shares the tails of a class read backward. -/
def suffixSlots : Nat := 1000

/-- The tables through which the states of a class are shared, picked by slot. They are kept
from class to class: an entry counts only in the round of the class that made it, so every
class starts from empty tables. -/
structure Tables where
  round : Nat
  tree : Array (Option (Nat × Array Edge × Nat))
  suffix : Array (Option (Nat × Edge × Nat))

/-- Tables with every slot empty. -/
def Tables.empty : Tables :=
  ⟨0, Array.replicate treeSlots none, Array.replicate suffixSlots none⟩

/-- An automaton being built: how many states it has, the bytes its states take beyond their
fixed size, and the sharing tables. The next state added gets the number `states`. -/
structure Tally where
  states : Nat
  extra : Nat
  tables : Tables

/-- The size of the automaton so far, in bytes. -/
def Tally.bytes (t : Tally) : Nat := t.states * stateBytes + t.extra

/-- A step of building: it gives a value and the automaton after it, or nothing once the
automaton has grown past the limit. -/
abbrev Build := StateT Tally Option

/-- Adds a state taking `extra` bytes beyond the fixed size, and gives its number. -/
def addState (extra : Nat) : Build Nat := fun t =>
  let t' : Tally := { t with states := t.states + 1, extra := t.extra + extra }
  if t'.bytes ≤ sizeLimit then some (t.states, t') else none

/-- Adds a branch to a forking state. -/
def addBranch : Build Unit := fun t =>
  let t' : Tally := { t with extra := t.extra + branchBytes }
  if t'.bytes ≤ sizeLimit then some ((), t') else none

/-- Joins the end of a part to what follows it: a part that ends in a forking state gains a
branch to it. -/
def link (endsInFork : Bool) : Build Unit := if endsInFork then addBranch else pure ()

/-- Joins the end of the part before, if there is one. -/
def linkLast : Option Bool → Build Unit
  | some e => link e
  | none => pure ()

/-- Builds a part `n` times in sequence, each joined to the next, after a part whose end is
`last`; gives whether the last part built ends in a fork. -/
def repeatLinked (step : Build Bool) : Nat → Option Bool → Tally → Option (Option Bool × Tally)
  | 0, last, t => some (last, t)
  | n + 1, last, t =>
    match step t with
    | none => none
    | some (e, t) =>
      match linkLast last t with
      | none => none
      | some ((), t) => repeatLinked step n (some e) t

/-- Builds `n` optional copies of a part after a part ending in `prev`: each copy is one branch
of a new fork whose other branch skips to the common end. -/
def repeatOptional (step : Build Bool) : Nat → Bool → Tally → Option (Bool × Tally)
  | 0, prev, t => some (prev, t)
  | n + 1, prev, t =>
    let one : Build Bool := do
      let _ ← addState 0
      let e ← step
      link prev
      addBranch
      addBranch
      pure e
    match one t with
    | none => none
    | some (e, t) => repeatOptional step n e t

/-- A part repeated exactly `n` times; the empty match when `n` is zero. -/
def exactly (step : Build Bool) (n : Nat) : Build Bool := do
  match ← fun t => repeatLinked step n none t with
  | some e => pure e
  | none => do
    let _ ← addState 0
    pure false

/-! ## Classes -/

/-- A state of the tree of a class not yet added: its finished transitions, and the byte range
of its last transition, whose target is not yet known. -/
structure Pending where
  edges : Array Edge
  last : Option (Nat × Nat)
deriving Inhabited

/-- The transitions of a pending state once its last one leads to `next`. -/
def Pending.freeze (p : Pending) (next : Nat) : Array Edge :=
  match p.last with
  | some (a, b) => p.edges.push (a, b, next)
  | none => p.edges

/-- The start of an FNV-1a hash over 64 bits. -/
def fnvStart : UInt64 := 14695981039346656037

/-- One number mixed into an FNV-1a hash. -/
def fnvMix (h : UInt64) (x : Nat) : UInt64 := (h ^^^ x.toUInt64) * 1099511628211

/-- The hash of transitions: each one's range and target mixed in, in order. -/
def edgesHash (edges : Array Edge) : UInt64 :=
  edges.foldl (fun h (a, b, n) => fnvMix (fnvMix (fnvMix h a) b) n) fnvStart

/-- Starts the sharing of a new class: entries of earlier rounds no longer count. -/
def newRound : Build Unit := fun t =>
  some ((), { t with tables := { t.tables with round := t.tables.round + 1 } })

/-- Adds a state picking among the given transitions, unless the state in its slot of the tree
table was made for this class with the same ones; gives the number of the state. -/
def shareNode (edges : Array Edge) : Build Nat := fun t =>
  let slot := (edgesHash edges % treeSlots.toUInt64).toNat
  match t.tables.tree[slot]? with
  | some (some (r, k, v)) => if r == t.tables.round && k == edges then some (v, t) else fresh t slot
  | _ => fresh t slot
where
  /-- Adds the state and records it in its slot. -/
  fresh (t : Tally) (slot : Nat) : Option (Nat × Tally) :=
    match addState (transitionBytes * edges.size) t with
    | none => none
    | some (id, ⟨states, extra, ⟨round, tree, suffix⟩⟩) =>
      some (id, ⟨states, extra, ⟨round, tree.set! slot (some (round, edges, id)), suffix⟩⟩)

/-- Adds a byte-range state leading to `next`, unless the state in its slot of the tail table
was made for this class with the same range and target; gives the number of the state. -/
def shareTail (next : Nat) (r : Nat × Nat) : Build Nat := fun t =>
  let key : Edge := (next, r.1, r.2)
  let slot := (fnvMix (fnvMix (fnvMix fnvStart next) r.1) r.2 % suffixSlots.toUInt64).toNat
  match t.tables.suffix[slot]? with
  | some (some (rd, k, v)) => if rd == t.tables.round && k == key then some (v, t) else fresh t key slot
  | _ => fresh t key slot
where
  /-- Adds the state and records it in its slot. -/
  fresh (t : Tally) (key : Edge) (slot : Nat) : Option (Nat × Tally) :=
    match addState 0 t with
    | none => none
    | some (id, ⟨states, extra, ⟨round, tree, suffix⟩⟩) =>
      some (id, ⟨states, extra, ⟨round, tree, suffix.set! slot (some (round, key, id))⟩⟩)

/-- The tree of a class being built: the state every path ends at, and the pending states
from the root down. -/
structure ClassTree where
  target : Nat
  pending : Array Pending

namespace ClassTree

/-- The deepest pending state, with its last transition leading to `next`. -/
def freezeTop (c : ClassTree) (next : Nat) : ClassTree :=
  match c with
  | ⟨target, pending⟩ =>
    match pending.back? with
    | some p => ⟨target, pending.pop.push ⟨p.freeze next, none⟩⟩
    | none => ⟨target, pending⟩

/-- Adds the pending states below the first `keep + 1`, deepest first, each leading to the one
added before it and the deepest to the end of every path. -/
def compileFrom (keep : Nat) : Nat → Nat → ClassTree → Build ClassTree
  | 0, next, c => pure (c.freezeTop next)
  | fuel + 1, next, ⟨target, pending⟩ =>
    if keep + 1 < pending.size then
      match pending.back? with
      | none => pure ⟨target, pending⟩
      | some p => fun t =>
        let rest := pending.pop
        match shareNode (p.freeze next) t with
        | none => none
        | some (id, t) => compileFrom keep fuel id ⟨target, rest⟩ t
    else pure (freezeTop ⟨target, pending⟩ next)

/-- How many pending states, from the root, have a last transition equal to the sequence's
byte range at the same depth. -/
def sharedPrefix (c : ClassTree) (seq : ByteSeq) : Nat :=
  go 0 seq
where
  go (i : Nat) : ByteSeq → Nat
    | [] => i
    | r :: rest =>
      match c.pending[i]? with
      | some p => if p.last == some r then go (i + 1) rest else i
      | none => i

/-- Adds one sequence: the pending states past the part it shares are added, and the rest of
the sequence becomes pending. -/
def addSeq (c : ClassTree) (seq : ByteSeq) : Build ClassTree := do
  let keep := c.sharedPrefix seq
  let ⟨target, pending⟩ ← compileFrom keep c.pending.size c.target c
  match seq.drop keep with
  | [] => pure ⟨target, pending⟩
  | r :: rest =>
    let top := match pending.back? with
      | some p => pending.pop.push { p with last := some r }
      | none => pending
    pure ⟨target, rest.foldl (fun acc r => acc.push ⟨#[], some r⟩) top⟩

/-- Adds every pending state and then the root. -/
def finish (c : ClassTree) : Build Unit := do
  let c ← compileFrom 0 c.pending.size c.target c
  match c.pending[0]? with
  | some root => do
    let _ ← shareNode root.edges
    pure ()
  | none => pure ()

end ClassTree

/-- A class of non-ASCII characters read forward: a tree over the sequences of its UTF-8
forms, sharing equal states, which ends at one empty state. -/
def forwardClass (cs : CharSet) : Build Bool := do
  let target ← addState 0
  newRound
  let start : ClassTree := ⟨target, #[⟨#[], none⟩]⟩
  let c ← cs.sequences.foldlM ClassTree.addSeq start
  c.finish
  pure false

/-- A class of non-ASCII characters read backward: a fork with one branch per sequence, each a
chain of byte-range states to one empty state, sharing equal tails. -/
def backwardClass (cs : CharSet) : Build Bool := do
  let _ ← addState 0
  let altEnd ← addState 0
  newRound
  for seq in cs.sequences do
    let _ ← seq.foldlM shareTail altEnd
    addBranch
  pure false

/-- A class: ASCII classes, and the class that matches nothing, are one state picking among
byte ranges before an empty state; others are built by their UTF-8 forms. -/
def classStates (back : Bool) (cs : CharSet) : Build Bool :=
  if cs.isAscii then do
    let _ ← addState 0
    let _ ← addState (transitionBytes * cs.ranges.size)
    pure false
  else if back then backwardClass cs
  else forwardClass cs

/-- Adds `n` states that take no bytes beyond the fixed size. -/
def addPlain : Nat → Build Unit
  | 0 => pure ()
  | n + 1 => do
    let _ ← addState 0
    addPlain n

/-- A literal: one byte-range state per byte; the empty match when it has none. -/
def literalStates (bytes : Nat) : Build Bool := do
  addPlain (if bytes == 0 then 1 else bytes)
  pure false

/-! ## Choices of literals -/

/-- A state of the trie of a choice of literals: its transitions by byte, and the chunks its
transitions are cut into by the matches that end at it. -/
structure TrieNode where
  edges : Array (Nat × Nat)
  chunks : Array (Nat × Nat)
deriving Inhabited

namespace TrieNode

/-- Where the transitions after the last match start. -/
def activeStart (n : TrieNode) : Nat := (n.chunks.back?.map (·.2)).getD 0

/-- A state that no transition leaves: only a match ends there, so a transition to it can
lead straight to the end of the trie. -/
def isLeaf (n : TrieNode) : Bool := n.edges.isEmpty

/-- Records a match ending at the state, which cuts off the transitions made so far; a state
that is already a match and has no transition gains nothing from a second one. -/
def addMatch (n : TrieNode) : TrieNode :=
  if n.edges.isEmpty && !n.chunks.isEmpty then n
  else { n with chunks := n.chunks.push (n.activeStart, n.edges.size) }

/-- The chunks of transitions: those cut by matches, then those after the last match. -/
def allChunks (n : TrieNode) : List (List (Nat × Nat)) :=
  (n.chunks.toList.map fun (a, b) => (n.edges.extract a b).toList) ++
    [(n.edges.extract n.activeStart n.edges.size).toList]

end TrieNode

/-- The state reached from state `src` by byte `b` after its last match, made when missing;
transitions after the last match are kept in order of their bytes. -/
def trieStep (nodes : Array TrieNode) (src b : Nat) : Array TrieNode × Nat :=
  let n := nodes[src]?.getD default
  let start := n.activeStart
  let active := (n.edges.extract start n.edges.size).toList
  match active.find? (·.1 == b) with
  | some (_, next) => (nodes, next)
  | none =>
    let pos := start + (active.takeWhile (·.1 < b)).length
    let next := nodes.size
    let n' := { n with edges := n.edges.insertIdxIfInBounds pos (b, next) }
    ((nodes.set! src n').push default, next)

/-- Adds a literal's bytes to the trie and records its match at the state they reach. -/
def trieAdd (nodes : Array TrieNode) (src : Nat) : List Nat → Array TrieNode
  | [] => nodes.modify src TrieNode.addMatch
  | b :: bs =>
    let (nodes, next) := trieStep nodes src b
    trieAdd nodes next bs

/-- The trie of literals, each read forward or backward. -/
def trieOf (back : Bool) (lits : List (List Char)) : Array TrieNode :=
  lits.foldl (fun nodes cs =>
    let bytes := cs.flatMap fun c => utf8Encode c.toNat
    trieAdd nodes 0 (if back then bytes.reverse else bytes)) #[default]

/-- The states of a trie state, its subtries first: per chunk of transitions one state picking
among the bytes (a plain byte-range state for one), and then one fork over the chunks, with a
branch to the end between each two. Transitions to a state where only a match ends lead to the
end. `fuel` bounds the depth. -/
def trieStates (nodes : Array TrieNode) : Nat → Nat → Build Unit
  | 0, _ => pure ()
  | fuel + 1, id => do
    let chunks := (nodes[id]?.getD default).allChunks
    let mut branches := chunks.length - 1
    for chunk in chunks do
      for (_, next) in chunk do
        if !(nodes[next]?.map TrieNode.isLeaf).getD false then
          trieStates nodes fuel next
      if chunk.length == 1 then
        let _ ← addState 0
        branches := branches + 1
      else if chunk.length > 1 then
        let _ ← addState (transitionBytes * chunk.length)
        branches := branches + 1
    let _ ← addState (branchBytes * branches)

/-- A choice of two or more literals, as a trie ending at one empty state. -/
def literalChoice (back : Bool) (lits : List (List Char)) : Build Bool := do
  let nodes := trieOf back lits
  let _ ← addState 0
  trieStates nodes nodes.size 0
  pure false

/-- The literals of a choice whose branches are all literals. -/
def literalsOf : List Expr → Option (List (List Char))
  | [] => some []
  | .lit cs :: rest => (literalsOf rest).map (cs :: ·)
  | _ => none

/-! ## Expressions -/

mutual

/-- Builds an expression, forward or backward; gives whether its end is a fork. -/
def build (back : Bool) : Expr → Build Bool
  | .empty => do
    let _ ← addState 0
    pure false
  | .lit cs => literalStates (litLength cs)
  | .cls s => classStates back s
  | .look _ => do
    let _ ← addState 0
    pure false
  | .capture _ a =>
    if back then build back a
    else do
      let _ ← addState 0
      let e ← build back a
      let _ ← addState 0
      link e
      pure false
  | .rep a 0 (some 1) _ => do
    let _ ← addState 0
    let e ← build back a
    let _ ← addState 0
    addBranch
    addBranch
    link e
    pure false
  | .rep a 0 none _ =>
    if a.shape.neverEmpty then do
      let _ ← addState 0
      let e ← build back a
      addBranch
      link e
      pure true
    else do
      let e ← build back a
      let _ ← addState 0
      link e
      addBranch
      let _ ← addState 0
      let _ ← addState 0
      addBranch
      addBranch
      addBranch
      pure false
  | .rep a (n + 1) none _ => do
    let p ← fun t => repeatLinked (build back a) n none t
    let e ← build back a
    let _ ← addState 0
    linkLast p
    link e
    addBranch
    pure true
  | .rep a lo (some hi) _ =>
    if lo == hi then exactly (build back a) lo
    else do
      let p ← exactly (build back a) lo
      let _ ← addState 0
      let last ← fun t => repeatOptional (build back a) (hi - lo) p t
      link last
      pure false
  | .cat xs => do
    let r ← if back then seqBackward back xs else seqForward back xs
    match r with
    | some e => pure e
    | none => do
      let _ ← addState 0
      pure false
  | .alt xs =>
    match literalsOf xs with
    | some lits => if lits.length ≥ 2 then literalChoice back lits else choice back xs
    | none => choice back xs

/-- Parts in sequence, first to last, each joined to the next; gives whether the last ends in
a fork, or none for no parts. -/
def seqForward (back : Bool) : List Expr → Build (Option Bool)
  | [] => pure none
  | x :: xs => do
    let e ← build back x
    let r ← seqForward back xs
    match r with
    | none => pure (some e)
    | some r => do
      link e
      pure (some r)

/-- Parts in sequence built last to first, as an automaton reading backward needs them. -/
def seqBackward (back : Bool) : List Expr → Build (Option Bool)
  | [] => pure none
  | x :: xs => do
    let r ← seqBackward back xs
    let e ← build back x
    linkLast r
    pure (some e)

/-- A choice: the first two branches, then a fork and the empty state where all branches end,
then every further branch. A single branch is itself, and no branch a state that fails. -/
def choice (back : Bool) : List Expr → Build Bool
  | [] => do
    let _ ← addState 0
    pure false
  | [x] => build back x
  | x :: y :: rest => do
    let e1 ← build back x
    let e2 ← build back y
    let _ ← addState 0
    let _ ← addState 0
    addBranch
    link e1
    addBranch
    link e2
    branches back rest
    pure false

/-- Further branches of a choice, each built and joined to the fork and to the end. -/
def branches (back : Bool) : List Expr → Build Unit
  | [] => pure ()
  | x :: xs => do
    let e ← build back x
    addBranch
    link e
    branches back xs

end

/-- Whether the automaton of an expression, reading forward or backward, keeps within the
limit. Unless every match is anchored at the side it starts reading from, it begins with a
loop over any byte; reading forward, the whole expression is the capture group numbered zero;
and it ends in a state that reports the match. -/
def fits (back : Bool) (e : Expr) : Bool :=
  let anchored := if back then e.shape.atEnd else e.shape.atStart
  let whole : Build Unit := do
    let pre ← if anchored then do
        let _ ← addState 0
        pure false
      else do
        let _ ← addState 0
        let _ ← addState 0
        let _ ← addState transitionBytes
        addBranch
        pure true
    let body ← if back then build back e
      else do
        let _ ← addState 0
        let b ← build back e
        let _ ← addState 0
        link b
        pure false
    let _ ← addState 0
    link body
    link pre
  (whole ⟨0, 0, Tables.empty⟩).isSome

end Automaton

/-- Whether both automata of an expression keep within the size limit. -/
def Expr.fitsSizeLimit (e : Expr) : Bool :=
  Automaton.fits false e && Automaton.fits true e

end ConsoleSweep.Regex
