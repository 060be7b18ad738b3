-- What a scan finds. The files and links of a tree are its leaves, each under the names of the
-- directories that lead to it, and a scan meets them in the order of the entries, depth first.
-- It finds a leaf when it lists the directory holding it (no deeper than the greatest depth
-- allows, no directory on the way left out, each one opened) and keeps the leaf's name. One
-- step of the walk, over an entry or over a directory's entries, adds exactly the leaves below
-- it that are found; so does the whole scan, after the root itself when that is a link.
import Mathlib.Tactic.SplitIfs
import ConsoleSweep.Scan

namespace ConsoleSweep

/-! ## The leaves of a tree -/

/-- A file or link of a tree: the names of the directories that lead to it from the top, and
its own name. -/
structure Leaf where
  dirs : List Bytes
  name : Bytes
deriving Repr, DecidableEq

namespace Tree

mutual

/-- The leaves of an entry under its name, in the order a scan meets them. -/
def leavesFrom (dirs : List Bytes) (name : Bytes) : Tree → List Leaf
  | .dir es => leavesIn (dirs ++ [name]) es
  | _ => [⟨dirs, name⟩]

/-- The leaves of a directory's entries in turn. -/
def leavesIn (dirs : List Bytes) : List (Bytes × Tree) → List Leaf
  | [] => []
  | (n, t) :: rest => leavesFrom dirs n t ++ leavesIn dirs rest

end

mutual

theorem prefix_of_mem_leavesFrom {ds : List Bytes} {n : Bytes} :
    (t : Tree) → ∀ l ∈ leavesFrom ds n t, ds <+: l.dirs
  | .dir es, l, hl => (List.prefix_append ds [n]).trans (prefix_of_mem_leavesIn es l hl)
  | .file _, l, hl => by
    simp only [leavesFrom, List.mem_singleton] at hl
    subst hl
    exact List.prefix_refl ds
  | .link _, l, hl => by
    simp only [leavesFrom, List.mem_singleton] at hl
    subst hl
    exact List.prefix_refl ds

/-- Every leaf below a directory lies under the names that lead to it. -/
theorem prefix_of_mem_leavesIn {ds : List Bytes} :
    (es : List (Bytes × Tree)) → ∀ l ∈ leavesIn ds es, ds <+: l.dirs
  | [], l, hl => by simp [leavesIn] at hl
  | (n, t) :: rest, l, hl => by
    rw [leavesIn, List.mem_append] at hl
    rcases hl with hl | hl
    · exact prefix_of_mem_leavesFrom t l hl
    · exact prefix_of_mem_leavesIn rest l hl

end

end Tree

/-! ## The leaves a scan finds -/

/-- The path of the directory reached from `root` through some names. -/
def dirPath (root : Bytes) (dirs : List Bytes) : Bytes := dirs.foldl Path.join root

/-- The path of a leaf below `root`. -/
def Leaf.path (root : Bytes) (l : Leaf) : Bytes := Path.join (dirPath root l.dirs) l.name

namespace ScanPlan

/-- Whether a file is kept by its name: the name is UTF-8, matched by no exclude pattern, and
matched by some include pattern, or there are none. -/
def keeps (p : ScanPlan) (name : Bytes) : Bool :=
  match Text.decodeUtf8 name with
  | .ok s => !p.excludes.any (·.matches s) && (p.includes.isEmpty || p.includes.any (·.matches s))
  | .error _ => false

/-- Whether a scan from `root` lists the entries of the directory reached through `dirs`: they
are no deeper than the greatest depth, no directory on the way is left out, and the directory
can be opened. -/
def lists (p : ScanPlan) (root : Bytes) (dirs : List Bytes) : Bool :=
  decide (dirs.length + 1 ≤ p.maxDepth) && dirs.all (!p.skipsDir ·) &&
    (openDir (dirPath root dirs)).isNone

/-- Whether a scan from `root` finds a leaf: it lists the directory holding the leaf and keeps
its name. -/
def takes (p : ScanPlan) (root : Bytes) (l : Leaf) : Bool :=
  p.lists root l.dirs && p.keeps l.name

/-- The files a scan from `root` finds below the directory with entries `es`: the leaves it
takes, in the order it meets them. -/
def finds (p : ScanPlan) (root : Bytes) (es : List (Bytes × Tree)) : List Bytes :=
  ((Tree.leavesIn [] es).filter (p.takes root)).map (Leaf.path root)

end ScanPlan

/-- The root itself, when it is a link whose name is kept: a scan takes such a root as a file
before it lists the directory the link leads to. -/
def Tree.rootFile (t : Tree) (root : Bytes) (p : ScanPlan) : List Bytes :=
  match t.resolve root false with
  | .ok ⟨_, .link _⟩ => if (Path.fileName root).any p.keeps then [root] else []
  | _ => []

/-! ## The paths of directories -/

theorem Path.length_le_join (p n : Bytes) : p.length ≤ (Path.join p n).length := by
  unfold Path.join
  split_ifs with h
  · simp [List.isEmpty_iff.1 h]
  · simp
  · simp

/-- A directory's path is no shorter than the path of any directory above it. -/
theorem length_le_dirPath (root : Bytes) (dirs : List Bytes) :
    root.length ≤ (dirPath root dirs).length := by
  induction dirs generalizing root with
  | nil => exact Nat.le_refl _
  | cons d ds ih => exact Nat.le_trans (Path.length_le_join root d) (ih _)

@[simp]
theorem dirPath_nil (root : Bytes) : dirPath root [] = root := rfl

theorem dirPath_append (root : Bytes) (ds es : List Bytes) :
    dirPath root (ds ++ es) = dirPath (dirPath root ds) es := List.foldl_append

theorem dirPath_snoc (root : Bytes) (ds : List Bytes) (n : Bytes) :
    dirPath root (ds ++ [n]) = Path.join (dirPath root ds) n := by
  rw [dirPath_append]
  rfl

theorem openDir_isNone_iff (path : Bytes) :
    (openDir path).isNone ↔ path.length ≤ Path.maxLength := by
  unfold openDir
  split_ifs <;> simp <;> omega

/-! ## One step of the walk -/

namespace ScanPlan

variable (p : ScanPlan) (root : Bytes)

/-- A scan that lists a directory lists every directory above it: those are shallower, on the
same way, and their paths shorter. -/
theorem lists_of_prefix {ds es : List Bytes} (h : ds <+: es) (he : p.lists root es = true) :
    p.lists root ds = true := by
  obtain ⟨more, rfl⟩ := h
  simp only [lists, Bool.and_eq_true, decide_eq_true_eq, List.all_append, openDir_isNone_iff,
    dirPath_append, List.length_append] at he ⊢
  obtain ⟨⟨hdepth, hall, -⟩, hopen⟩ := he
  exact ⟨⟨by omega, hall⟩, Nat.le_trans (length_le_dirPath _ more) hopen⟩

/-- Below a listed directory, a scan lists a directory entry when the entry is not too deep, is
not left out, and can be opened. -/
theorem lists_snoc {ds : List Bytes} (hd : p.lists root ds = true) (n : Bytes) :
    p.lists root (ds ++ [n]) = (decide (ds.length + 1 + 1 ≤ p.maxDepth) && !p.skipsDir n &&
      (openDir (Path.join (dirPath root ds) n)).isNone) := by
  simp only [lists, Bool.and_eq_true, decide_eq_true_eq] at hd
  simp only [lists, List.all_append, hd.1.2, List.all_cons, List.all_nil, Bool.and_true,
    Bool.true_and, List.length_append, List.length_singleton, dirPath_snoc]

/-- A leaf below a directory the scan does not list is not found. -/
theorem takes_eq_false {ds : List Bytes} (hd : p.lists root ds = false) {l : Leaf}
    (hl : ds <+: l.dirs) : p.takes root l = false := by
  rw [← Bool.not_eq_true] at hd ⊢
  intro ht
  exact hd (p.lists_of_prefix root hl (Bool.and_eq_true_iff.1 ht).1)

/-- Nothing below a directory the scan does not list is found. -/
theorem filter_takes_leavesIn {ds : List Bytes} (hd : p.lists root ds = false)
    (es : List (Bytes × Tree)) : (Tree.leavesIn ds es).filter (p.takes root) = [] :=
  List.filter_eq_nil_iff.2 fun l hl => by
    rw [p.takes_eq_false root hd (Tree.prefix_of_mem_leavesIn es l hl)]
    exact Bool.false_ne_true

/-- Taking a file into the result adds its path when its name is kept. -/
theorem consider_files (path : Bytes) (name : Option Bytes) (r : ScanResult) :
    (p.consider path name r).files = r.files ++ if name.any p.keeps then [path] else [] := by
  unfold consider
  cases name with
  | none => simp
  | some n =>
    cases h : Text.decodeUtf8 n with
    | error f => simp [h, keeps, Except.toOption]
    | ok s =>
      simp only [Option.bind_some, h, Except.toOption, Option.any_some, keeps]
      cases p.excludes.any (·.matches s) <;>
        cases p.includes.isEmpty || p.includes.any (·.matches s) <;> simp

theorem enter_files (path : Bytes) (r : ScanResult) (f : ScanResult → ScanResult) :
    (enter path r f).files = if (openDir path).isNone then (f r).files else r.files := by
  unfold enter
  cases openDir path <;> rfl

/-- A directory entry of a listed directory: the scan lists its entries when it lists the
directory they are in, and else passes over it. -/
theorem entry_dir_files {ds : List Bytes} (hd : p.lists root ds = true) (n : Bytes)
    (es : List (Bytes × Tree)) (r : ScanResult) :
    (p.entry (Path.join (dirPath root ds) n) n (ds.length + 1) (.dir es) r).files =
      if p.lists root (ds ++ [n]) then
        (p.entries (dirPath root (ds ++ [n])) ((ds ++ [n]).length + 1) es r).files
      else r.files := by
  rw [p.lists_snoc root hd n, dirPath_snoc, List.length_append, List.length_singleton]
  simp only [entry]
  by_cases hskip : p.skipsDir n = true
  · simp [hskip]
  · by_cases hdepth : ds.length + 1 + 1 ≤ p.maxDepth
    · simp [hskip, hdepth, enter_files]
    · simp [hskip, hdepth]

/-- A file or link of a listed directory is found when its name is kept. -/
theorem map_filter_takes_leaf {ds : List Bytes} (hd : p.lists root ds = true) (n : Bytes) :
    (([⟨ds, n⟩] : List Leaf).filter (p.takes root)).map (Leaf.path root) =
      if p.keeps n then [Path.join (dirPath root ds) n] else [] := by
  cases h : p.keeps n <;> simp [takes, hd, h, Leaf.path]

mutual

/-- The files a scan finds under an entry of a directory it lists are the leaves below the
entry that it takes, in order. -/
theorem entry_files {ds : List Bytes} (hd : p.lists root ds = true) :
    (t : Tree) → (n : Bytes) → (r : ScanResult) →
    (p.entry (Path.join (dirPath root ds) n) n (ds.length + 1) t r).files =
      r.files ++ ((Tree.leavesFrom ds n t).filter (p.takes root)).map (Leaf.path root)
  | .dir es, n, r => by
    rw [entry_dir_files p root hd, Tree.leavesFrom]
    cases he : p.lists root (ds ++ [n])
    · rw [filter_takes_leavesIn p root he]
      simp
    · exact entries_files he es r
  | .file _, n, r => by
    simp only [entry, Tree.leavesFrom, consider_files, Option.any_some,
      map_filter_takes_leaf p root hd]
  | .link _, n, r => by
    simp only [entry, Tree.leavesFrom, consider_files, Option.any_some,
      map_filter_takes_leaf p root hd]

/-- The files a scan finds under the entries of a directory it lists are the leaves below them
that it takes, in order. -/
theorem entries_files {ds : List Bytes} (hd : p.lists root ds = true) :
    (es : List (Bytes × Tree)) → (r : ScanResult) →
    (p.entries (dirPath root ds) (ds.length + 1) es r).files =
      r.files ++ ((Tree.leavesIn ds es).filter (p.takes root)).map (Leaf.path root)
  | [], r => by simp [entries, Tree.leavesIn]
  | (n, t) :: rest, r => by
    rw [entries, entries_files hd rest, entry_files hd t n r, Tree.leavesIn, List.filter_append,
      List.map_append, List.append_assoc]

end

/-- The scan of a root directory finds the leaves below it that it takes. -/
theorem enterRoot_files (es : List (Bytes × Tree)) (r : ScanResult) :
    (if 0 < p.maxDepth then enter root r (p.entries root 1 es) else r).files =
      r.files ++ p.finds root es := by
  cases he : p.lists root []
  · -- The root is too deep or cannot be opened: nothing below it is found.
    rw [finds, filter_takes_leavesIn p root he]
    simp only [lists, List.length_nil, List.all_nil, Bool.and_true, dirPath_nil,
      Bool.and_eq_false_iff, decide_eq_false_iff_not] at he
    split_ifs with hdepth
    · have hopen : (openDir root).isNone = false := by
        rcases he with h | h
        · omega
        · exact h
      simp [enter_files, hopen]
    · simp
  · have hlisted := he
    simp only [lists, List.length_nil, List.all_nil, Bool.and_true, dirPath_nil, Bool.and_eq_true,
      decide_eq_true_eq] at he
    rw [if_pos (show 0 < p.maxDepth by omega), enter_files, if_pos he.2]
    exact entries_files p root hlisted es r

end ScanPlan

/-! ## A whole scan -/

/-- A scan fails when nothing is at the root, or when what is there is not a directory once
links are followed. Otherwise, unless it is called off, it finds the root itself when that is a
link whose name is kept, then every file and link below the root that it takes, in the order
of the walk. -/
theorem Tree.scan_eq_finds (t : Tree) (root : Bytes) (o : ScanOptions) :
    (∀ e, t.resolve root true = .error e → t.scan root o = .error (.rootNotFound root)) ∧
    (∀ pl, t.resolve root true = .ok pl → pl.entry.isDir = false →
      t.scan root o = .error (.notADirectory root)) ∧
    (∀ ns es, t.resolve root true = .ok ⟨ns, .dir es⟩ → o.cancelled = false →
      ∃ r, t.scan root o = .ok r ∧ r.files = t.rootFile root o.plan ++ o.plan.finds root es) := by
  refine ⟨fun e he => ?_, fun pl hpl hdir => ?_, fun ns es hres hc => ?_⟩
  · rw [scan, he]
  · obtain ⟨ns, entry⟩ := pl
    cases entry with
    | dir es => simp [isDir] at hdir
    | file bs => rw [scan, hpl]
    | link target => rw [scan, hpl]
  · rw [scan, hres]
    simp only [hc, Bool.false_eq_true, if_false]
    refine ⟨_, rfl, ?_⟩
    rw [ScanPlan.enterRoot_files]
    congr 1
    unfold rootFile
    cases t.resolve root false with
    | error e => rfl
    | ok pl =>
      obtain ⟨_, entry⟩ := pl
      cases entry <;> simp [ScanPlan.consider_files]

/-- A directory `d` that holds a source `a.sol`: the scan from `d` finds what the leaves say. -/
theorem Tree.scan_of_directory_with_source :
    let es : List (Bytes × Tree) := [([97, 46, 115, 111, 108], .file [])]
    let t : Tree := .dir [([100], .dir es)]
    t.resolve [100] true = .ok ⟨[[100]], .dir es⟩ ∧ ({} : ScanOptions).cancelled = false ∧
      ∃ r, t.scan [100] {} = .ok r ∧
        r.files = t.rootFile [100] ({} : ScanOptions).plan ++
          ({} : ScanOptions).plan.finds [100] es := by
  intro es t
  have hparts : Path.parts [100] = [.name [100]] := rfl
  have hdir : Path.endsInDir [100] = false := rfl
  have hres : t.resolve [100] true = .ok ⟨[[100]], .dir es⟩ := by
    simp [t, es, Tree.resolve, hparts, hdir, Tree.walk, Tree.get?, Tree.lookup, Path.maxLength]
  exact ⟨hres, rfl, (Tree.scan_eq_finds t [100] {}).2.2 [[100]] es hres rfl⟩

-- With the default options a scan from `d` finds the sources at any depth, links among them,
-- and nothing else.
example : ({} : ScanOptions).plan.finds [100]
    [([97, 46, 115, 111, 108], .file []), ([110], .file []),
      ([101], .dir [([98, 46, 115, 111, 108], .link [])])] =
    [[100, 47, 97, 46, 115, 111, 108], [100, 47, 101, 47, 98, 46, 115, 111, 108]] := by
  decide +kernel

end ConsoleSweep
