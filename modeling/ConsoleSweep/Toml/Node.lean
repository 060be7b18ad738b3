-- A TOML document as a tree, and the rules for growing it. Tables remember how they came to
-- be: named by a header, made on the way to a header, made by dotted keys, or written inline.
-- A header may name a table once, and only one made on the way to another header; dotted keys
-- may pass only through tables they or other headers' paths made; inline tables and arrays
-- are values and cannot be extended; a key is defined once.
namespace ConsoleSweep.Toml

/-- How a table came to be. -/
inductive TableKind where
  /-- Named by a `[header]`, or an element of an array of tables. -/
  | header
  /-- Made on the way to a header, and not (yet) named by one. -/
  | implicit
  /-- Made by a dotted key. -/
  | dotted
  /-- Written inline, `{ ... }`: a value, closed to later additions. -/
  | inline
deriving Repr, BEq, Inhabited, DecidableEq

/-- A node of a TOML document. Floats and date-times are kept only as such: their values do
not matter here. -/
inductive Node where
  | str (s : String)
  | int (n : Int)
  | float
  | bool (b : Bool)
  | datetime
  | array (items : List Node)
  | table (kind : TableKind) (entries : List (String × Node))
  | tables (items : List (List (String × Node)))
deriving Repr, Inhabited

/-- The entries of a table, in order of definition. -/
abbrev Entries := List (String × Node)

/-- The node of a key. -/
def Entries.get? (es : Entries) (k : String) : Option Node :=
  (es.find? fun e => e.1 == k).map (·.2)

/-- Replaces the node of a key. -/
def Entries.set (es : Entries) (k : String) (n : Node) : Entries :=
  es.map fun e => if e.1 == k then (k, n) else e

/-- Why a document is not valid TOML. -/
inductive TomlError where
  /-- The text does not follow the grammar. -/
  | malformed
  /-- A key or table is defined twice, or something is extended that cannot be. -/
  | duplicate
  /-- An integer is outside the 64-bit signed range. -/
  | overflow
deriving Repr, BEq, Inhabited

/-- Applies `f` to the table at a path of keys, making missing tables of kind `made` on the way.
With `dotted`, the path may not pass through a table named by a header. An array of tables is
passed through its last element; any other value stops the path. -/
def modifyAt (dotted : Bool) (made : TableKind) :
    List String → TableKind → Entries → (TableKind → Entries → Except TomlError Entries) →
      Except TomlError Entries
  | [], kind, es, f => f kind es
  | k :: ks, _, es, f =>
    match es.get? k with
    | none => do
      let inner ← modifyAt dotted made ks made [] f
      return es ++ [(k, .table made inner)]
    | some (.table kind inner) =>
      if kind == .inline || (dotted && kind == .header) then .error .duplicate
      else do
        let inner' ← modifyAt dotted made ks kind inner f
        return es.set k (.table kind inner')
    | some (.tables items) =>
      match items.getLast? with
      | some last => do
        let last' ← modifyAt dotted made ks .header last f
        return es.set k (.tables (items.dropLast ++ [last']))
      | none => .error .duplicate
    | some _ => .error .duplicate

/-- Defines a key (possibly dotted) in a table of the given kind. The table reached by a dotted
key must be one that dotted keys made, and the last key must be new. -/
def defineKey (kind : TableKind) (es : Entries) (path : List String) (v : Node) :
    Except TomlError Entries :=
  match path.getLast? with
  | none => .error .malformed
  | some last =>
    let pre := path.dropLast
    modifyAt true .dotted pre kind es fun reached inner =>
      if !pre.isEmpty && reached != .dotted then .error .duplicate
      else if (inner.get? last).isSome then .error .duplicate
      else .ok (inner ++ [(last, v)])

/-- A `[header]`: the named table must be new, or made only on the way to another header. -/
def openTable (root : Entries) (path : List String) : Except TomlError Entries :=
  match path.getLast? with
  | none => .error .malformed
  | some last =>
    modifyAt false .implicit path.dropLast .header root fun _ es =>
      match es.get? last with
      | none => .ok (es ++ [(last, .table .header [])])
      | some (.table .implicit inner) => .ok (es.set last (.table .header inner))
      | some _ => .error .duplicate

/-- A `[[header]]`: a new element of an array of tables, which must be new or made by such
headers. -/
def openArrayTable (root : Entries) (path : List String) : Except TomlError Entries :=
  match path.getLast? with
  | none => .error .malformed
  | some last =>
    modifyAt false .implicit path.dropLast .header root fun _ es =>
      match es.get? last with
      | none => .ok (es ++ [(last, .tables [[]])])
      | some (.tables items) => .ok (es.set last (.tables (items ++ [[]])))
      | some _ => .error .duplicate

/-- Defines a key in the table that the current header names (the root for none). -/
def defineIn (root : Entries) (current : List String) (path : List String) (v : Node) :
    Except TomlError Entries :=
  modifyAt false .implicit current .header root fun kind es => defineKey kind es path v

end ConsoleSweep.Toml
