import Mathlib.Data.String.Basic
import Mathlib.Data.List.Sort
import Mathlib.Algebra.Order.BigOperators.Group.List
import MeshControl.Charts

/-! Rendering a version's components from a chart tree: the budgeted walk is a depth-first visit
that fits its budget, and on a tree a file system can hold it records the directories holding files. -/

namespace MeshControl

/-- The text a file's body reads as: its text, or its bytes where they are UTF-8. -/
def FileBody.text? : FileBody → Option String
  | .text s => some s
  | .bytes bs => String.fromUTF8? (ByteArray.mk bs.toArray)

namespace FileTree

/-- Every path the tree lists, directories and files. -/
def paths (t : FileTree) : List (List String) := t.dirs ++ t.files.map (·.1)

/-- The file the tree lists at a path, the first where it lists several. -/
def fileAt? (t : FileTree) (p : List String) : Option FileBody :=
  (t.files.find? (·.1 == p)).map (·.2)

theorem fileAt?_isSome_iff (t : FileTree) (p : List String) :
    (t.fileAt? p).isSome ↔ ∃ f ∈ t.files, f.1 = p := by
  simp [fileAt?, List.find?_isSome]

/-- A file the tree lists and that reads as text is read as that text. -/
theorem readText_of_fileAt? {t : FileTree} {p : List String} {body : FileBody} {s : String}
    (found : t.fileAt? p = some body) (text : body.text? = some s) : t.readText p = .ok s := by
  -- The file found is the first the tree lists at the path.
  obtain ⟨⟨q, b⟩, first, rfl⟩ := Option.map_eq_some_iff.1 found
  unfold readText
  rw [first]
  -- A text body is read as it is; bytes are read where they are UTF-8.
  cases b with
  | text c => simp_all [FileBody.text?]
  | bytes bs => simp_all [FileBody.text?]

theorem isDir_iff (t : FileTree) (q : List String) :
    t.isDir q = true ↔ (∀ f ∈ t.files, f.1 ≠ q) ∧
      ((∃ p ∈ t.dirs, q <+: p) ∨ ∃ f ∈ t.files, q <+: f.1 ∧ q.length < f.1.length) := by
  simp only [isDir, Bool.and_eq_true, Bool.or_eq_true, List.all_eq_true, List.any_eq_true,
    bne_iff_ne, ne_eq, List.isPrefixOf_iff_prefix, decide_eq_true_eq, gt_iff_lt]

/-- A directory lies on the way to some path the tree lists. -/
theorem isDir_on_path {t : FileTree} {q : List String} (dir : t.isDir q = true) :
    ∃ p ∈ t.paths, q <+: p := by
  obtain ⟨-, ⟨p, listed, under⟩ | ⟨f, listed, under, -⟩⟩ := (isDir_iff t q).1 dir
  · exact ⟨p, List.mem_append_left _ listed, under⟩
  · exact ⟨f.1, List.mem_append_right _ (List.mem_map_of_mem listed), under⟩

/-! ### Listing a directory -/

theorem prefix_append_singleton_iff {d p : List String} {s : String} :
    d ++ [s] <+: p ↔ d <+: p ∧ p[d.length]? = some s := by
  constructor
  -- A path through d ++ [s] extends d and names s at d's length.
  · rintro ⟨r, rfl⟩
    exact ⟨⟨s :: r, by simp⟩, by simp⟩
  · rintro ⟨⟨r, rfl⟩, named⟩
    -- d itself names nothing at its own length.
    cases r with
    | nil => simp at named
    | cons a r =>
      simp only [List.getElem?_append_right (Nat.le_refl _), Nat.sub_self, List.getElem?_cons_zero,
        Option.some.injEq] at named
      exact ⟨r, by simp [named]⟩

/-- A path passes through `d ++ [s]` when it extends `d`, goes further, and names `s` next. -/
theorem passes_iff {d p : List String} {s : String} :
    (d <+: p ∧ p.length > d.length) ∧ p[d.length]? = some s ↔ d ++ [s] <+: p := by
  rw [prefix_append_singleton_iff]
  constructor
  · exact fun passes => ⟨passes.1.1, passes.2⟩
  · exact fun passes => ⟨⟨passes.1, (List.getElem?_eq_some_iff.1 passes.2).1⟩, passes.2⟩

/-- A path one name longer than `d` that passes through `d ++ [s]` is that path. -/
theorem child_iff {d f : List String} {s : String} :
    (f.length = d.length + 1 ∧ d ++ [s] <+: f) ↔ f = d ++ [s] := by
  constructor
  · exact fun child => (child.2.eq_of_length (by simp [child.1])).symm
  · rintro rfl
    simp

/-- Two directories `d ++ [a]` and `d ++ [b]` on the way to one path have one name. -/
theorem eq_of_prefix_append_singleton {d e : List String} {a b : String}
    (viaA : d ++ [a] <+: e) (viaB : d ++ [b] <+: e) : a = b := by
  -- Both names stand at position d.length of e.
  have named := (prefix_append_singleton_iff.1 viaA).2
  rw [(prefix_append_singleton_iff.1 viaB).2] at named
  exact (Option.some.inj named).symm

/-- The subdirectories listed in `d` are the names `s` with `d ++ [s]` a directory. -/
theorem mem_entries_dirs (t : FileTree) (d : List String) (s : String) :
    s ∈ (t.entries d).1 ↔ t.isDir (d ++ [s]) = true := by
  simp only [entries, List.mem_eraseDups, List.mem_mergeSort, List.mem_filter, List.mem_append,
    List.mem_filterMap, Option.ite_none_right_eq_some, isDir, beq_iff_eq, Bool.and_eq_true,
    Bool.or_eq_true, List.all_eq_true, List.any_eq_true, bne_iff_ne, ne_eq,
    List.isPrefixOf_iff_prefix, decide_eq_true_eq, Bool.not_eq_true', Bool.eq_false_iff,
    List.contains_iff_mem, passes_iff, List.length_append, List.length_singleton]
  -- A subdirectory comes from a longer path through `d ++ [s]`, and no file sits at `d ++ [s]`.
  simp only [child_iff, not_exists, not_and]
  grind

/-- The files listed in `d` are the names `s` with a file at `d ++ [s]`. -/
theorem mem_entries_files (t : FileTree) (d : List String) (s : String) :
    s ∈ (t.entries d).2 ↔ ∃ f ∈ t.files, f.1 = d ++ [s] := by
  simp only [entries, List.mem_eraseDups, List.mem_mergeSort, List.mem_filterMap,
    Option.ite_none_right_eq_some, beq_iff_eq, Bool.and_eq_true, List.isPrefixOf_iff_prefix,
    decide_eq_true_eq, passes_iff, child_iff]

/-- Dropping repeats from an ascending list leaves it strictly ascending. -/
theorem pairwise_lt_eraseDups : ∀ {l : List String}, l.Pairwise (· ≤ ·) → l.eraseDups.Pairwise (· < ·)
  | [], _ => by simp
  | a :: as, sorted => by
    -- The head stays, and its repeats are dropped from the rest.
    rw [List.eraseDups_cons]
    have rest : (as.filter fun b => !b == a).Pairwise (· ≤ ·) := (List.pairwise_cons.1 sorted).2.filter _
    refine List.pairwise_cons.2 ⟨fun b kept => ?_, pairwise_lt_eraseDups rest⟩
    -- What is kept after `a` is neither `a` nor below it.
    simp only [List.mem_eraseDups, List.mem_filter, Bool.not_eq_true', beq_eq_false_iff_ne] at kept
    exact lt_of_le_of_ne ((List.pairwise_cons.1 sorted).1 b kept.1) (Ne.symm kept.2)
termination_by l => l.length
decreasing_by exact Nat.lt_succ_of_le (List.length_filter_le _ _)

/-- Sorting names and dropping repeats leaves them strictly ascending. -/
theorem sortDedup_sorted (xs : List String) :
    ((xs.mergeSort fun a b => decide (a ≤ b)).eraseDups).Pairwise (· < ·) := by
  apply pairwise_lt_eraseDups
  -- Merge sort leaves the names ascending under ≤.
  have sorted : (xs.mergeSort fun a b => decide (a ≤ b)).Pairwise (fun a b => decide (a ≤ b)) :=
    List.pairwise_mergeSort (fun a b c ab bc => by simp_all only [decide_eq_true_eq]; exact le_trans ab bc)
      (fun a b => by simpa using le_total a b) xs
  exact sorted.imp (by simp)

/-- A directory lists its subdirectories and its files each in strictly ascending name order. -/
theorem entries_sorted (t : FileTree) (d : List String) :
    (t.entries d).1.Pairwise (· < ·) ∧ (t.entries d).2.Pairwise (· < ·) := by
  simp only [entries]
  exact ⟨sortDedup_sorted _, sortDedup_sorted _⟩

/-! ### One step of the walk, and a whole visit -/

/-- What the walk adds on visiting a directory: nothing for the version directory or a
directory without files, else the directory's component, its files read in name order. -/
def visit (t : FileTree) (base d : List String) (acc : List (String × List Manifest)) :
    Except Error (List (String × List Manifest)) :=
  if (d == base || (t.entries d).2.isEmpty) = true then pure acc
  else do
    let manifests ← (t.entries d).2.mapM fun f => do
      return (⟨f, ← t.readText (d ++ [f])⟩ : Manifest)
    return acc ++ [("/".intercalate (d.drop base.length), manifests)]

/-- The subdirectories a visit pushes, in the order the walk pops them. -/
def pushed (t : FileTree) (d : List String) : List (List String) :=
  ((t.entries d).1.map (d ++ [·])).reverse

/-- One step pops a directory, records it and pushes its subdirectories. -/
theorem walk_cons (t : FileTree) (base d : List String) (fuel : Nat) (pending : List (List String))
    (acc : List (String × List Manifest)) :
    components.walk t base (fuel + 1) (d :: pending) acc =
      t.visit base d acc >>= components.walk t base fuel (t.pushed d ++ pending) := by
  rw [components.walk]
  -- A step reads the directory's listing once, for its files and its subdirectories.
  rcases listed : t.entries d with ⟨subdirs, files⟩
  simp only [visit, pushed, listed]
  -- The version directory and a directory without files record nothing.
  split
  · rfl
  · simp only [bind_assoc, pure_bind]

theorem walk_nil (t : FileTree) (base : List String) (fuel : Nat) (acc : List (String × List Manifest)) :
    components.walk t base fuel [] acc = .ok acc := by
  -- An empty stack ends the walk, with budget or without.
  cases fuel <;> rfl

/-- No listed path reaches more than `depth` names below `d`. -/
def Shallow (t : FileTree) (d : List String) (depth : Nat) : Prop :=
  ∀ p ∈ t.paths, d <+: p → p.length ≤ d.length + depth

theorem Shallow.child {t : FileTree} {d : List String} {depth : Nat} (s : String)
    (shallow : t.Shallow d (depth + 1)) : t.Shallow (d ++ [s]) depth := by
  intro p listed under
  -- A path below d ++ [s] is below d, so at most depth + 1 names below it.
  have := shallow p listed ((List.prefix_append d [s]).trans under)
  simp only [List.length_append, List.length_singleton]
  omega

/-- A directory at the bottom of the tree pushes nothing. -/
theorem pushed_of_shallow {t : FileTree} {d : List String} (shallow : t.Shallow d 0) :
    t.pushed d = [] := by
  rw [pushed, List.reverse_eq_nil_iff, List.map_eq_nil_iff, List.eq_nil_iff_forall_not_mem]
  intro s named
  -- A subdirectory would lie on the way to a path one name deeper than `d`.
  obtain ⟨p, listed, under⟩ := isDir_on_path ((mem_entries_dirs t d s).1 named)
  have deep := under.length_le
  have := shallow p listed ((List.prefix_append d [s]).trans under)
  simp only [List.length_append, List.length_singleton] at deep
  omega

/-- The directories a walk from `d` visits, down to a depth: `d`, then the subtree of each
directory it pushes, in the order they are popped. -/
def visitOrder (t : FileTree) : Nat → List String → List (List String)
  | 0, d => [d]
  | depth + 1, d => d :: (t.pushed d).flatMap (t.visitOrder depth)

/-- The walk from `d` goes through the directories `order`, then on with the rest of its stack. -/
def WalksThrough (t : FileTree) (base d : List String) (order : List (List String)) : Prop :=
  ∀ fuel rest acc, components.walk t base (fuel + order.length) (d :: rest) acc =
    order.foldlM (fun acc e => t.visit base e acc) acc >>= components.walk t base fuel rest

/-- A stack of directories is walked through one after the other. -/
theorem walk_flatMap {t : FileTree} {base : List String} {f : List String → List (List String)} :
    ∀ (ds : List (List String)), (∀ d ∈ ds, t.WalksThrough base d (f d)) →
      ∀ fuel rest acc, components.walk t base (fuel + (ds.flatMap f).length) (ds ++ rest) acc =
        (ds.flatMap f).foldlM (fun acc e => t.visit base e acc) acc >>=
          components.walk t base fuel rest
  | [], _ => fun fuel rest acc => by simp
  | d :: ds, walks => fun fuel rest acc => by
    have later := walk_flatMap ds (fun e held => walks e (List.mem_cons_of_mem d held))
    simp only [List.flatMap_cons, List.length_append, List.foldlM_append, bind_assoc, List.cons_append]
    -- The first directory spends its share of the budget, leaving the others' share.
    rw [show fuel + ((f d).length + (ds.flatMap f).length) =
      (fuel + (ds.flatMap f).length) + (f d).length by omega]
    rw [walks d List.mem_cons_self]
    congr 1
    funext acc'
    exact later fuel rest acc'

/-- Down to a depth below which nothing lies, the walk from `d` visits `visitOrder`. -/
theorem walksThrough_visitOrder (t : FileTree) (base : List String) :
    ∀ (depth : Nat) (d : List String), t.Shallow d depth → t.WalksThrough base d (t.visitOrder depth d)
  | 0, d, shallow => fun fuel rest acc => by
    -- At the bottom the directory pushes nothing, so the walk takes one step.
    rw [visitOrder, List.length_singleton, walk_cons, pushed_of_shallow shallow, List.nil_append]
    simp
  | depth + 1, d, shallow => fun fuel rest acc => by
    -- The pushed subdirectories are walked through one level shallower, before the rest.
    have below := walk_flatMap (t.pushed d) (fun s pushedS => walksThrough_visitOrder t base depth s ?_)
    · rw [visitOrder, List.length_cons, ← Nat.add_assoc, walk_cons, List.foldlM_cons, bind_assoc]
      congr 1
      funext acc'
      exact below fuel rest acc'
    · obtain ⟨name, -, rfl⟩ : ∃ name, name ∈ (t.entries d).1 ∧ d ++ [name] = s := by
        simpa [pushed] using pushedS
      exact shallow.child name

/-! ### What a visit reaches -/

/-- Every directory a walk from `d` visits lies below `d`, and is `d` or a directory. -/
theorem mem_visitOrder {t : FileTree} :
    ∀ {depth : Nat} {d e : List String}, e ∈ t.visitOrder depth d → d <+: e ∧ (e = d ∨ t.isDir e = true)
  | 0, d, e, visited => by
    -- At the bottom only d itself is visited.
    simp only [visitOrder, List.mem_singleton] at visited
    exact ⟨visited ▸ List.prefix_refl d, .inl visited⟩
  | depth + 1, d, e, visited => by
    simp only [visitOrder, List.mem_cons, List.mem_flatMap] at visited
    -- The directory is d, or lies in the subtree of a pushed subdirectory.
    rcases visited with rfl | ⟨c, pushedC, below⟩
    · exact ⟨List.prefix_refl e, .inl rfl⟩
    · obtain ⟨s, named, rfl⟩ : ∃ s, s ∈ (t.entries d).1 ∧ d ++ [s] = c := by
        simpa [pushed] using pushedC
      obtain ⟨under, here | dir⟩ := mem_visitOrder below
      · exact ⟨(List.prefix_append d [s]).trans under, .inr (here ▸ (mem_entries_dirs t d s).1 named)⟩
      · exact ⟨(List.prefix_append d [s]).trans under, .inr dir⟩

/-- A walk visits each directory once. -/
theorem visitOrder_nodup (t : FileTree) : ∀ (depth : Nat) (d : List String), (t.visitOrder depth d).Nodup
  | 0, d => List.nodup_singleton d
  | depth + 1, d => by
    -- d comes first and once; the pushed subtrees are disjoint and each without repeats.
    rw [visitOrder, List.nodup_cons, List.nodup_flatMap]
    refine ⟨fun again => ?_, fun c _ => visitOrder_nodup t depth c, ?_⟩
    · -- Every directory below a pushed one is longer than `d`.
      obtain ⟨c, pushedC, below⟩ := List.mem_flatMap.1 again
      obtain ⟨s, -, rfl⟩ : ∃ s, s ∈ (t.entries d).1 ∧ d ++ [s] = c := by
        simpa [pushed] using pushedC
      have := (mem_visitOrder below).1.length_le
      simp at this
    · -- Pushed directories differ in their last name, so their subtrees share nothing.
      rw [pushed, List.pairwise_reverse, List.pairwise_map]
      refine (entries_sorted t d).1.imp fun {a b} before e inB inA => ?_
      exact ne_of_lt before (eq_of_prefix_append_singleton (mem_visitOrder inA).1 (mem_visitOrder inB).1)

/-- A walk deep enough reaches every directory below `d` whose way down is all directories. -/
theorem mem_visitOrder_of_dirs {t : FileTree} :
    ∀ (rel : List String) (depth : Nat) (d : List String), rel.length ≤ depth →
      (∀ q, d <+: q → q <+: d ++ rel → q ≠ d → t.isDir q = true) → d ++ rel ∈ t.visitOrder depth d
  -- d itself is visited first.
  | [], depth, d, _, _ => by cases depth <;> simp [visitOrder]
  | _ :: _, 0, _, deep, _ => absurd deep (by simp)
  | s :: rel, depth + 1, d, deep, dirs => by
    -- The first name down from d is a subdirectory, so d pushes it.
    have child : d ++ [s] ∈ t.pushed d := by
      simp only [pushed, List.mem_reverse, List.mem_map]
      refine ⟨s, (mem_entries_dirs t d s).2 (dirs _ (List.prefix_append d [s]) ?_ (by simp)), rfl⟩
      exact ⟨rel, by simp⟩
    -- Below `d ++ [s]`, the way down is the rest of the way from `d`.
    have below := mem_visitOrder_of_dirs rel depth (d ++ [s]) (by simpa using deep)
      fun q under onWay => by
        have longer := under.length_le
        refine fun _ => dirs q ((List.prefix_append d [s]).trans under) (by simpa using onWay) ?_
        rintro rfl
        simp at longer
    rw [visitOrder]
    exact List.mem_cons_of_mem d (List.mem_flatMap.2 ⟨d ++ [s], child, by simpa using below⟩)

/-- The nonempty prefixes of the listed paths, with repeats: every directory but the root. -/
def prefixes (t : FileTree) : List (List String) :=
  t.paths.flatMap fun p => (List.range p.length).map fun i => p.take (i + 1)

theorem mem_prefixes {t : FileTree} {q : List String} (dir : t.isDir q = true) (nonempty : q ≠ []) :
    q ∈ t.prefixes := by
  -- A directory is a prefix of a listed path, as long as itself.
  obtain ⟨p, listed, under⟩ := isDir_on_path dir
  have positive := List.length_pos_iff.2 nonempty
  simp only [prefixes, List.mem_flatMap, List.mem_map, List.mem_range]
  refine ⟨p, listed, q.length - 1, by have := under.length_le; omega, ?_⟩
  rw [Nat.sub_add_cancel positive]
  exact (List.prefix_iff_eq_take.1 under).symm

/-- The walk's budget counts the nonempty prefixes of the listed paths, and one more. -/
theorem size_eq (t : FileTree) : t.size = t.prefixes.length + 1 := by
  simp [size, prefixes, paths, List.length_flatMap, List.sum_eq_foldl_nat, List.foldl_map]

/-- A walk visits no more directories than the tree's size. -/
theorem length_visitOrder_le (t : FileTree) (depth : Nat) (d : List String) :
    (t.visitOrder depth d).length ≤ t.size := by
  -- The visit starts at d.
  obtain ⟨rest, split⟩ : ∃ rest, t.visitOrder depth d = d :: rest := by
    cases depth <;> simp [visitOrder]
  have nodup := visitOrder_nodup t depth d
  rw [split, List.nodup_cons] at nodup
  -- Past the start, every directory visited is a nonempty prefix of a listed path.
  have within : rest ⊆ t.prefixes := by
    intro e listed
    obtain ⟨under, same | dir⟩ := mem_visitOrder (split ▸ List.mem_cons_of_mem d listed)
    · exact absurd (same ▸ listed) nodup.1
    · refine mem_prefixes dir ?_
      rintro rfl
      exact nodup.1 (List.prefix_nil.1 under ▸ listed)
  -- The rest of the visit has no repeats and lies among the prefixes.
  rw [split, List.length_cons, size_eq]
  exact Nat.succ_le_succ (nodup.2.length_le_of_subset within)

/-- No listed path is longer than the tree's size. -/
theorem shallow_size (t : FileTree) (d : List String) : t.Shallow d t.size := by
  intro p listed _
  -- A listed path has one prefix per name.
  have : p.length ≤ t.prefixes.length := by
    simp only [prefixes, List.length_flatMap, List.length_map, List.length_range]
    exact List.le_sum_of_mem (List.mem_map_of_mem listed)
  rw [size_eq]
  omega

/-! ### Reading the files -/

/-- The manifests of a directory's own files in name order, each with the file's text. -/
def manifestsAt (t : FileTree) (d : List String) : List Manifest :=
  (t.entries d).2.filterMap fun f => ((t.fileAt? (d ++ [f])).bind FileBody.text?).map fun s => ⟨f, s⟩

/-- What a visit records when every file reads as text. -/
def recorded (t : FileTree) (base d : List String) : List (String × List Manifest) :=
  if (d == base || (t.entries d).2.isEmpty) = true then []
  else [("/".intercalate (d.drop base.length), t.manifestsAt d)]

section Reading

variable {t : FileTree} {base : List String}

/-- Reading the files a directory holds, each as text, gives its manifests. -/
theorem read_names (texts : ∀ f ∈ t.files, base <+: f.1 → f.2.text?.isSome) {d : List String}
    (under : base <+: d) :
    ∀ names : List String, (∀ f ∈ names, f ∈ (t.entries d).2) →
      (names.mapM fun f => do return (⟨f, ← t.readText (d ++ [f])⟩ : Manifest)) =
        .ok (names.filterMap fun f =>
          ((t.fileAt? (d ++ [f])).bind FileBody.text?).map fun s => ⟨f, s⟩)
  | [], _ => rfl
  | f :: names, held => by
    -- The name is a file of d, so the tree lists a file at its path.
    obtain ⟨g, listed, at_path⟩ := (mem_entries_files t d f).1 (held f List.mem_cons_self)
    obtain ⟨body, found⟩ := Option.isSome_iff_exists.1 ((fileAt?_isSome_iff t _).2 ⟨g, listed, at_path⟩)
    -- The file read is the first listed at its path, which lies below the version directory.
    obtain ⟨⟨q, b⟩, first, rfl⟩ := Option.map_eq_some_iff.1 found
    have below : base <+: q := by
      have := List.find?_some first
      simp only [beq_iff_eq] at this
      rw [this]
      exact under.trans (List.prefix_append d [f])
    obtain ⟨s, text⟩ := Option.isSome_iff_exists.1 (texts _ (List.mem_of_find?_eq_some first) below)
    have rest := read_names texts under names (fun f' h => held f' (List.mem_cons_of_mem f h))
    -- The file reads as its text, and the other names read as before.
    simp only [List.mapM_cons, readText_of_fileAt? found text, rest, List.filterMap_cons, found,
      Option.bind_some, text, Option.map_some]
    rfl

theorem visit_ok (texts : ∀ f ∈ t.files, base <+: f.1 → f.2.text?.isSome) {d : List String}
    (under : base <+: d) (acc : List (String × List Manifest)) :
    t.visit base d acc = .ok (acc ++ t.recorded base d) := by
  unfold visit recorded
  -- A skipped directory adds nothing; any other adds its manifests read in name order.
  split
  · simp
    rfl
  · rw [read_names texts under _ (fun _ h => h)]
    rfl

theorem foldlM_visit (texts : ∀ f ∈ t.files, base <+: f.1 → f.2.text?.isSome) :
    ∀ ds : List (List String), (∀ d ∈ ds, base <+: d) → ∀ acc,
      ds.foldlM (fun acc e => t.visit base e acc) acc = .ok (acc ++ ds.flatMap (t.recorded base))
  | [], _, acc => by
    simp
    rfl
  | d :: ds, under, acc => by
    -- Visit the first directory, then the others from where it left.
    rw [List.foldlM_cons, visit_ok texts (under d List.mem_cons_self)]
    simp only [List.flatMap_cons, ← List.append_assoc]
    exact foldlM_visit texts ds (fun e h => under e (List.mem_cons_of_mem d h)) _

/-- Where every file below the version directory is text, the components are what the walk's
visits record, in name order. -/
theorem components_eq (texts : ∀ f ∈ t.files, base <+: f.1 → f.2.text?.isSome) :
    t.components base = .ok (((t.visitOrder t.size base).flatMap (t.recorded base)).mergeSort
      fun a b => decide (a.1 ≤ b.1)) := by
  -- The budget covers a whole visit from the version directory, with steps to spare.
  have fuel : t.size + 1 =
      (t.size + 1 - (t.visitOrder t.size base).length) + ([base].flatMap (t.visitOrder t.size)).length := by
    have := length_visitOrder_le t t.size base
    simp only [List.flatMap_cons, List.flatMap_nil, List.append_nil]
    omega
  have walked := walk_flatMap [base]
    (fun d _ => walksThrough_visitOrder t base t.size d (shallow_size t d))
    (t.size + 1 - (t.visitOrder t.size base).length) [] []
  have visited := foldlM_visit texts (t.visitOrder t.size base) (fun _ held => (mem_visitOrder held).1) []
  simp only [List.flatMap_cons, List.flatMap_nil, List.append_nil] at walked
  -- The walk visits the whole order and ends with its stack empty.
  unfold components
  rw [fuel]
  simp only [List.flatMap_cons, List.flatMap_nil, List.append_nil]
  rw [walked, visited]
  simp only [List.nil_append, bind, Except.bind, walk_nil]
  rfl

end Reading

/-! ### Trees a file system can hold -/

/-- A path below `base` is named by its names below `base` joined with `/`; names without a `/`
make that name unambiguous. -/
theorem intercalate_inj {rel₁ rel₂ : List String} (nonempty₁ : rel₁ ≠ []) (nonempty₂ : rel₂ ≠ [])
    (clean₁ : ∀ c ∈ rel₁, '/' ∉ c.toList) (clean₂ : ∀ c ∈ rel₂, '/' ∉ c.toList)
    (same : "/".intercalate rel₁ = "/".intercalate rel₂) : rel₁ = rel₂ := by
  -- Cutting the joined text at every `/` gives the names back.
  have split : ∀ rel : List String, rel ≠ [] → (∀ c ∈ rel, '/' ∉ c.toList) →
      ("/".intercalate rel).toList.splitOn '/' = rel.map String.toList := by
    intro rel nonempty clean
    rw [String.toList_intercalate]
    exact List.splitOn_intercalate '/' (by simpa using clean) (by simpa using nonempty)
  have names := split rel₁ nonempty₁ clean₁
  rw [same, split rel₂ nonempty₂ clean₂] at names
  exact List.map_injective_iff.2 (fun _ _ => String.toList_injective) names.symm

/-- A tree a file system can hold: no name holds the separator, and nothing lies below a file. -/
structure WellFormed (t : FileTree) : Prop where
  names : ∀ p ∈ t.paths, ∀ c ∈ p, '/' ∉ c.toList
  leaves : ∀ f ∈ t.files, ∀ p ∈ t.paths, f.1 <+: p → p = f.1

/-- `manifests` are those of the files directly in `d`: one per file that reads as text, with
its name and text, in strictly ascending name order. -/
def ManifestsOf (t : FileTree) (d : List String) (manifests : List Manifest) : Prop :=
  manifests.Pairwise (·.name < ·.name) ∧
    ∀ m, m ∈ manifests ↔ ∃ body, t.fileAt? (d ++ [m.name]) = some body ∧ body.text? = some m.content

theorem manifestsOf_manifestsAt (t : FileTree) (d : List String) : t.ManifestsOf d (t.manifestsAt d) := by
  -- The manifests keep the listing's order and hold exactly the files that read as text.
  refine ⟨List.pairwise_filterMap.2 ((entries_sorted t d).2.imp fun {a b} before => ?_), fun m => ?_⟩
  · intro ma readA mb readB
    obtain ⟨_, -, rfl⟩ := Option.map_eq_some_iff.1 readA
    obtain ⟨_, -, rfl⟩ := Option.map_eq_some_iff.1 readB
    exact before
  · simp only [manifestsAt, List.mem_filterMap, Option.map_eq_some_iff, Option.bind_eq_some_iff]
    constructor
    · rintro ⟨f, -, s, ⟨body, found, text⟩, rfl⟩
      exact ⟨body, found, text⟩
    · rintro ⟨body, found, text⟩
      -- A file at d ++ [m.name] is listed among d's files.
      have named : m.name ∈ (t.entries d).2 :=
        (mem_entries_files t d m.name).2 ((fileAt?_isSome_iff t _).1 (by simp [found]))
      exact ⟨m.name, named, m.content, ⟨body, found, text⟩, rfl⟩

/-- Two name-ordered manifest lists with the same members are one list. -/
theorem ManifestsOf.unique {t : FileTree} {d : List String} {ms ms' : List Manifest}
    (one : t.ManifestsOf d ms) (other : t.ManifestsOf d ms') : ms = ms' := by
  -- Two lists sorted by a strict order with the same members agree.
  have : Std.Antisymm fun a b : Manifest => a.name < b.name :=
    ⟨fun _ _ ab ba => absurd (ab.trans ba) (lt_irrefl _)⟩
  have : Std.Irrefl fun a b : Manifest => a.name < b.name := ⟨fun _ => lt_irrefl _⟩
  exact one.1.eq_of_mem_iff other.1 fun m => (one.2 m).trans (other.2 m).symm

theorem mem_recorded {t : FileTree} {base d : List String} {x : String × List Manifest} :
    x ∈ t.recorded base d ↔
      d ≠ base ∧ (t.entries d).2 ≠ [] ∧ x = ("/".intercalate (d.drop base.length), t.manifestsAt d) := by
  unfold recorded
  -- The version directory and directories without files are skipped.
  split
  · rename_i skipped
    simp only [Bool.or_eq_true, beq_iff_eq, List.isEmpty_iff] at skipped
    simp only [List.not_mem_nil, false_iff]
    tauto
  · rename_i kept
    simp only [Bool.or_eq_true, beq_iff_eq, List.isEmpty_iff, not_or] at kept
    simp [kept.1, kept.2]

section WellFormed

variable {t : FileTree} {base : List String} (wf : t.WellFormed)
include wf

/-- The names on the way to a directory hold no separator. -/
theorem WellFormed.clean_of_isDir {q : List String} (dir : t.isDir q = true) : ∀ c ∈ q, '/' ∉ c.toList := by
  -- A directory lies on the way to a listed path, whose names hold no separator.
  obtain ⟨p, listed, under⟩ := isDir_on_path dir
  exact fun c named => wf.names p listed c (under.subset named)

/-- Everything on the way to a file, short of the file, is a directory. -/
theorem WellFormed.isDir_of_prefix {f : List String × FileBody} (listed : f ∈ t.files)
    {q : List String} (under : q <+: f.1) (shorter : q.length < f.1.length) : t.isDir q = true := by
  refine (isDir_iff t q).2 ⟨fun g filed same => ?_, .inr ⟨f, listed, under, shorter⟩⟩
  -- A file at `q` would have the file `f` below it.
  have := wf.leaves g filed f.1 (List.mem_append_right _ (List.mem_map_of_mem listed)) (same ▸ under)
  rw [this, same] at shorter
  exact Nat.lt_irrefl _ shorter

/-- A directory the walk visits past the version directory is named by a nonempty path below it
whose names hold no separator. -/
theorem WellFormed.visited_below {depth : Nat} {e : List String}
    (visited : e ∈ t.visitOrder depth base) (past : e ≠ base) :
    ∃ rel ≠ [], e = base ++ rel ∧ ∀ c ∈ rel, '/' ∉ c.toList := by
  -- A visited directory lies below the version directory, and past it is a directory.
  obtain ⟨⟨rel, rfl⟩, same | dir⟩ := mem_visitOrder visited
  · exact absurd same past
  · refine ⟨rel, fun empty => past (by simp [empty]), rfl, fun c named => ?_⟩
    exact wf.clean_of_isDir dir c (List.mem_append_right base named)

/-- The directories the walk records have distinct names. -/
theorem WellFormed.recorded_names_distinct (depth : Nat) :
    ((t.visitOrder depth base).flatMap (t.recorded base)).Pairwise (·.1 ≠ ·.1) := by
  refine List.pairwise_flatMap.2 ⟨fun d _ => ?_, (visitOrder_nodup t depth base).imp_of_mem ?_⟩
  -- Each directory records at most one entry.
  · unfold recorded
    split <;> simp
  -- Two recorded names agree only where the directories' paths below the version do.
  · intro a b visitedA visitedB differ x recordedA y recordedB same
    obtain ⟨pastA, -, rfl⟩ := mem_recorded.1 recordedA
    obtain ⟨pastB, -, rfl⟩ := mem_recorded.1 recordedB
    obtain ⟨relA, nonemptyA, rfl, cleanA⟩ := wf.visited_below visitedA pastA
    obtain ⟨relB, nonemptyB, rfl, cleanB⟩ := wf.visited_below visitedB pastB
    simp only [List.drop_left] at same
    exact differ (by rw [intercalate_inj nonemptyA nonemptyB cleanA cleanB same])

/-- The walk records exactly the directories strictly below the version directory that hold a
file, each with its name and manifests. -/
theorem WellFormed.mem_recorded_iff (x : String × List Manifest) :
    x ∈ (t.visitOrder t.size base).flatMap (t.recorded base) ↔
      ∃ rel ≠ [], (∃ s, (t.fileAt? (base ++ rel ++ [s])).isSome) ∧
        x.1 = "/".intercalate rel ∧ t.ManifestsOf (base ++ rel) x.2 := by
  simp only [List.mem_flatMap]
  constructor
  -- A recorded entry comes from a visited directory with a file.
  · rintro ⟨e, visited, recordedE⟩
    obtain ⟨past, holding, rfl⟩ := mem_recorded.1 recordedE
    obtain ⟨rel, nonempty, rfl, -⟩ := wf.visited_below visited past
    obtain ⟨s, named⟩ := List.exists_mem_of_ne_nil _ holding
    refine ⟨rel, nonempty, ⟨s, (fileAt?_isSome_iff t _).2 ((mem_entries_files t _ s).1 named)⟩, ?_,
      manifestsOf_manifestsAt t _⟩
    simp only [List.drop_left]
  · rintro ⟨rel, nonempty, ⟨s, filed⟩, named, manifests⟩
    obtain ⟨f, listed, at_path⟩ := (fileAt?_isSome_iff t _).1 filed
    -- Everything between the version directory and the file is a directory the walk reaches.
    have deep := shallow_size t base f.1 (List.mem_append_right _ (List.mem_map_of_mem listed))
      (at_path ▸ (List.prefix_append base rel).trans (List.prefix_append _ [s]))
    have visited := mem_visitOrder_of_dirs rel t.size base
      (by simp only [at_path, List.length_append, List.length_singleton] at deep; omega)
      fun q _ onWay _ => wf.isDir_of_prefix listed
        (at_path ▸ onWay.trans (List.prefix_append _ [s]))
        (by
          rw [at_path]
          have := onWay.length_le
          simp only [List.length_append, List.length_singleton] at this ⊢
          omega)
    refine ⟨base ++ rel, visited, mem_recorded.2 ⟨fun same => nonempty (by simpa using same), ?_, ?_⟩⟩
    · exact List.ne_nil_of_mem ((mem_entries_files t _ s).2 ⟨f, listed, at_path⟩)
    · rw [List.drop_left, ← named, ← ManifestsOf.unique manifests (manifestsOf_manifestsAt t _)]

end WellFormed

end FileTree

/-- A version the renderer refuses: blank after trimming, climbing out with `..`, or holding
a `/`. -/
def refusedVersion (v : String) : Bool :=
  v.isEmpty || (v.splitOn "..").length > 1 || v.contains '/'

theorem renderCharts_of_refused (t : FileTree) {version : String}
    (refused : refusedVersion (trimVersion version) = true) :
    renderCharts t version = .error (.render ("invalid control plane version " ++ Text.quoted version)) := by
  unfold renderCharts
  unfold refusedVersion at refused
  simp only []
  rw [if_pos refused]
  rfl

theorem renderCharts_of_accepted (t : FileTree) {version : String}
    (accepted : refusedVersion (trimVersion version) = false) :
    renderCharts t version =
      if (!t.isDir (pathComponents (trimVersion version)) &&
          !(pathComponents (trimVersion version)).isEmpty) = true then
        .error (.render ("no charts for version " ++ trimVersion version ++ " under " ++ t.root))
      else t.components (pathComponents (trimVersion version)) := by
  unfold renderCharts
  unfold refusedVersion at accepted
  simp only [accepted, Bool.false_eq_true, ↓reduceIte]
  split <;> rfl

/-- The chart components of a version: a refused or missing version is an error, and on a
well-formed tree of text files they are the directories holding a file, in name order. -/
theorem renderCharts_components (t : FileTree) (version : String) :
    let v := trimVersion version
    let base := pathComponents v
    (refusedVersion v = true →
      renderCharts t version = .error (.render ("invalid control plane version " ++ Text.quoted version))) ∧
    (refusedVersion v = false → t.isDir base = false → base ≠ [] →
      renderCharts t version = .error (.render ("no charts for version " ++ v ++ " under " ++ t.root))) ∧
    (refusedVersion v = false → (t.isDir base = true ∨ base = []) → t.WellFormed →
      (∀ f ∈ t.files, base <+: f.1 → f.2.text?.isSome) →
      ∃ components, renderCharts t version = .ok components ∧
        components.Pairwise (·.1 < ·.1) ∧
        ∀ name manifests, (name, manifests) ∈ components ↔
          ∃ rel ≠ [], (∃ s, (t.fileAt? (base ++ rel ++ [s])).isSome) ∧
            name = "/".intercalate rel ∧ t.ManifestsOf (base ++ rel) manifests) := by
  dsimp only
  -- Refused, missing or present: the last case rests on what the walk records.
  refine ⟨renderCharts_of_refused t, fun accepted missing nonempty => ?_,
    fun accepted present wf texts => ?_⟩
  · rw [renderCharts_of_accepted t accepted, if_pos (by simp [missing, nonempty])]
  · let base := pathComponents (trimVersion version)
    -- A version directory that exists, or the root, is walked.
    have rendered : renderCharts t version = t.components base := by
      rw [renderCharts_of_accepted t accepted]
      rcases present with dir | root
      · rw [if_neg (by simp [dir])]
      · rw [if_neg (by simp [root])]
    refine ⟨_, rendered.trans (FileTree.components_eq texts), ?_, fun name manifests => ?_⟩
    · -- The sort puts names in order, and no two recorded directories share a name.
      let recorded := (t.visitOrder t.size base).flatMap (t.recorded base)
      have sorted : (recorded.mergeSort fun a b => decide (a.1 ≤ b.1)).Pairwise
          (fun a b => decide (a.1 ≤ b.1)) :=
        List.pairwise_mergeSort
          (fun a b c ab bc => by simp only [decide_eq_true_eq] at ab bc ⊢; exact le_trans ab bc)
          (fun a b => by simpa using le_total a.1 b.1) recorded
      have distinct : recorded.Pairwise (·.1 ≠ ·.1) := wf.recorded_names_distinct t.size
      have apart : (recorded.mergeSort fun a b => decide (a.1 ≤ b.1)).Pairwise (·.1 ≠ ·.1) :=
        ((List.mergeSort_perm recorded _).pairwise_iff (fun differ => Ne.symm differ)).2 distinct
      exact (sorted.and apart).imp fun both => lt_of_le_of_ne (by simpa using both.1) both.2
    -- Sorting keeps the members, which the walk's record describes.
    · rw [List.mem_mergeSort]
      exact wf.mem_recorded_iff (name, manifests)

/-- A chart tree holding one component, `istio/pilot`, with one manifest. -/
def pilotChartTree : FileTree :=
  { root := "charts", files := [(["v2.0", "istio", "pilot", "pilot.yaml"], .text "kind: ConfigMap\n")] }

theorem renderCharts_pilotChartTree :
    refusedVersion (trimVersion "v2.0") = false ∧
      (pilotChartTree.isDir (pathComponents (trimVersion "v2.0")) = true ∨ pathComponents (trimVersion "v2.0") = []) ∧
      pilotChartTree.WellFormed ∧
      (∀ f ∈ pilotChartTree.files, pathComponents (trimVersion "v2.0") <+: f.1 → f.2.text?.isSome) ∧
      ∃ components, renderCharts pilotChartTree "v2.0" = .ok components ∧
        components.Pairwise (·.1 < ·.1) ∧
        ∀ name manifests, (name, manifests) ∈ components ↔
          ∃ rel ≠ [], (∃ s, (pilotChartTree.fileAt? (pathComponents (trimVersion "v2.0") ++ rel ++ [s])).isSome) ∧
            name = "/".intercalate rel ∧ pilotChartTree.ManifestsOf (pathComponents (trimVersion "v2.0") ++ rel) manifests := by
  -- The version names one directory and climbs nowhere.
  have trimmed : trimVersion "v2.0" = "v2.0" := by decide +kernel
  have base : pathComponents (trimVersion "v2.0") = ["v2.0"] := by
    rw [trimmed]
    simp +decide [pathComponents, String.splitOn, String.splitOnAux]
  have accepted : refusedVersion (trimVersion "v2.0") = false := by
    rw [trimmed]
    simp +decide [refusedVersion, String.splitOn, String.splitOnAux]
  -- The tree lists a file below v2.0, so v2.0 is a directory.
  have present : pilotChartTree.isDir (pathComponents (trimVersion "v2.0")) = true := by
    rw [base]
    decide
  -- The one file's names hold no separator, and nothing lies below it.
  have wf : pilotChartTree.WellFormed := ⟨by decide, by decide⟩
  have texts : ∀ f ∈ pilotChartTree.files, pathComponents (trimVersion "v2.0") <+: f.1 → f.2.text?.isSome := by
    rw [base]
    decide
  exact ⟨accepted, .inl present, wf, texts,
    (renderCharts_components pilotChartTree "v2.0").2.2 accepted (.inl present) wf texts⟩

end MeshControl
