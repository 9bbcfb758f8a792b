import MeshControl.Proofs.Engine.Prepared
import MeshControl.Proofs.Json.Fields

/-! The Kiali ConfigMap hook: writing URLs at paths of Kiali's configuration, read as a tree of
mappings, and the hook's edit of the `kiali` ConfigMap. -/

namespace MeshControl

namespace Yaml

/-- Comparing a key with a text key is asking whether it is that text. -/
@[simp] theorem beq_str_iff (k : Yaml) (s : String) : k.beq (.str s) = true ↔ k = .str s := by
  cases k <;> simp [beq]

/-- The value under a text key of a mapping, looking through tags; none for anything else. -/
def child? (v : Yaml) (k : String) : Option Yaml :=
  v.mappingOf.bind fun m => (m.1.find? (·.1.beq (.str k))).map (·.2)

/-- The node at a path of text keys, going down through mappings. -/
def at? (v : Yaml) : List String → Option Yaml
  | [] => some v
  | k :: rest => (v.child? k).bind (·.at? rest)

/-- Whether a node is a mapping, inside any tags. -/
def isMapping (v : Yaml) : Bool := v.mappingOf.isSome

/-- Whether a node stops a path from being written through it: neither null nor a mapping,
inside any tags. -/
def blocks (v : Yaml) : Bool := !(v.untagged.beq .null) && v.mappingOf.isNone

@[simp] theorem at?_nil (v : Yaml) : v.at? [] = some v := rfl

theorem at?_cons (v : Yaml) (k : String) (rest : List String) :
    v.at? (k :: rest) = (v.child? k).bind (·.at? rest) := rfl

/-- A mapping rebuilt from new entries is a mapping of those entries, rebuilt the same way. -/
theorem mappingOf_rebuild {v : Yaml} {entries : List (Yaml × Yaml)}
    {rebuild : List (Yaml × Yaml) → Yaml} (found : v.mappingOf = some (entries, rebuild))
    (entries' : List (Yaml × Yaml)) : (rebuild entries').mappingOf = some (entries', rebuild) := by
  -- Tags wrap the mapping one at a time, and rebuilding puts each back.
  fun_induction mappingOf v generalizing entries rebuild with
  | case1 es =>
    simp only [Option.some.injEq, Prod.mk.injEq] at found
    obtain ⟨-, rfl⟩ := found
    rfl
  | case2 t inner ih =>
    simp only [Option.map_eq_some_iff] at found
    obtain ⟨⟨es, inner'⟩, innerFound, same⟩ := found
    simp only [Prod.mk.injEq] at same
    obtain ⟨-, rfl⟩ := same
    simp [mappingOf, ih innerFound]
  | case3 => simp at found

/-- Nothing is below a node that is not a mapping. -/
theorem at?_of_mappingOf_none {v : Yaml} (flat : v.mappingOf = none) (k : String)
    (rest : List String) : v.at? (k :: rest) = none := by
  simp [at?_cons, child?, flat]

end Yaml

/-- Storing a value under a text key reads back that value. -/
theorem find?_putEntry_self (entries : List (Yaml × Yaml)) (k : String) (v : Yaml) :
    ((putEntry entries (.str k) v).find? (·.1.beq (.str k))).map (·.2) = some v := by
  induction entries with
  | nil => simp [putEntry]
  | cons e rest ih =>
    obtain ⟨k', v'⟩ := e
    -- The first entry under k takes the value; an entry before it is passed over.
    by_cases here : k' = .str k
    · simp [putEntry, here]
    · have differ : k'.beq (.str k) = false :=
        Bool.eq_false_iff.mpr fun same => here ((Yaml.beq_str_iff _ _).mp same)
      simpa [putEntry, differ] using ih

/-- Storing under one text key leaves the entries of every other text key as they were. -/
theorem find?_putEntry_of_ne (entries : List (Yaml × Yaml)) {k j : String} (v : Yaml)
    (other : j ≠ k) :
    (putEntry entries (.str k) v).find? (·.1.beq (.str j)) = entries.find? (·.1.beq (.str j)) := by
  induction entries with
  | nil => simp [putEntry, Ne.symm other]
  | cons e rest ih =>
    obtain ⟨k', v'⟩ := e
    -- The entry under k is replaced in place, and the search for j never stops at it.
    by_cases here : k' = .str k
    · subst here
      simp [putEntry, Ne.symm other]
    · have differ : k'.beq (.str k) = false :=
        Bool.eq_false_iff.mpr fun same => here ((Yaml.beq_str_iff _ _).mp same)
      -- An entry under j comes before any change and is found on both sides.
      by_cases there : k' = .str j
      · subst there
        simp [putEntry, other]
      · simp [putEntry, differ, there, ih]

namespace Yaml

@[simp] theorem beq_null_iff (v : Yaml) : v.beq .null = true ↔ v = .null := by
  cases v <;> simp [beq]

/-- A null node, inside any tags, is no mapping. -/
theorem mappingOf_of_untagged_null {v : Yaml} (null : v.untagged.beq .null = true) :
    v.mappingOf = none := by
  -- Tags are peeled one at a time, and the node under them is null.
  fun_induction untagged v with
  | case1 t inner ih => simp [mappingOf, ih null]
  | case2 v _ =>
    rw [beq_null_iff] at null
    subst null
    rfl

/-- The entries a write goes through at a node, with the way to rebuild the node from changed
entries: a null node opens as an empty mapping, a node that blocks as nothing. -/
def opening (v : Yaml) : Option (List (Yaml × Yaml) × (List (Yaml × Yaml) → Yaml)) :=
  if v.untagged.beq .null then some ([], .map) else v.mappingOf

/-- A node opens exactly when it does not block. -/
theorem opening_eq_none_iff (v : Yaml) : v.opening = none ↔ v.blocks = true := by
  unfold opening blocks
  cases v.untagged.beq .null <;> simp

/-- What a node opens as: the entries its children are looked up in, and a rebuild that makes a
mapping of any entries. -/
theorem opening_some {v : Yaml} {entries : List (Yaml × Yaml)}
    {rebuild : List (Yaml × Yaml) → Yaml} (opened : v.opening = some (entries, rebuild)) :
    (∀ k, v.child? k = (entries.find? (·.1.beq (.str k))).map (·.2)) ∧
      ∀ es, (rebuild es).mappingOf = some (es, rebuild) := by
  unfold opening at opened
  -- A null node opens as an empty mapping; any other node as its own mapping.
  split at opened
  · rename_i null
    simp only [Option.some.injEq, Prod.mk.injEq] at opened
    obtain ⟨rfl, rfl⟩ := opened
    exact ⟨fun k => by simp [child?, mappingOf_of_untagged_null null], fun es => rfl⟩
  · exact ⟨fun k => by simp [child?, opened], mappingOf_rebuild opened⟩

/-- After a write under a key of an opened node, the child under that key is what was written. -/
theorem child?_rebuild_self {v : Yaml} {entries : List (Yaml × Yaml)} {rebuild : List (Yaml × Yaml) → Yaml}
    (opened : v.opening = some (entries, rebuild)) (k : String) (c : Yaml) :
    (rebuild (putEntry entries (.str k) c)).child? k = some c := by
  simp [child?, (opening_some opened).2, find?_putEntry_self]

/-- After a write under a key of an opened node, the child under every other key is the one the
node had. -/
theorem child?_rebuild_of_ne {v : Yaml} {entries : List (Yaml × Yaml)} {rebuild : List (Yaml × Yaml) → Yaml}
    (opened : v.opening = some (entries, rebuild)) {j k : String} (c : Yaml) (other : j ≠ k) :
    (rebuild (putEntry entries (.str k) c)).child? j = v.child? j := by
  rw [(opening_some opened).1 j]
  simp [child?, (opening_some opened).2, find?_putEntry_of_ne _ _ other]

end Yaml

/-- The failure of a write of Kiali's configuration at the place a path reached. -/
def kialiPathError (place : List String) : Error :=
  .hook ("kiali " ++ kialiConfigKey ++ " has a non-map value at " ++ ".".intercalate place)

/-- Writing the last key of a path stores the text in the node's entries, or fails where the node
blocks. -/
theorem setYamlPath_single (done : List String) (node : Yaml) (k value : String) :
    setYamlPath done node [k] value =
      node.opening.elim (.error (kialiPathError done))
        fun m => .ok (m.2 (putEntry m.1 (.str k) (.str value))) := by
  unfold setYamlPath Yaml.opening
  cases untagged : node.untagged <;> simp only [Yaml.beq] <;> cases node.mappingOf <;> rfl

/-- Writing a longer path writes the rest of it below the child the node's entries hold (a null
one where there is none), and stores what that gives back in the entries. -/
theorem setYamlPath_cons_cons (done : List String) (node : Yaml) (k k' : String)
    (rest : List String) (value : String) :
    setYamlPath done node (k :: k' :: rest) value =
      node.opening.elim (.error (kialiPathError done)) fun m =>
        (setYamlPath (done ++ [k]) (((m.1.find? (·.1.beq (.str k))).map (·.2)).getD .null)
          (k' :: rest) value).map fun c => m.2 (putEntry m.1 (.str k) c) := by
  conv => lhs; unfold setYamlPath
  unfold Yaml.opening
  cases untagged : node.untagged <;> simp only [Yaml.beq] <;> cases node.mappingOf <;> rfl

/-- Two paths on different branches: neither is a prefix of the other. -/
def Apart (p q : List String) : Prop := ¬ p <+: q ∧ ¬ q <+: p

theorem not_apart_nil (p : List String) : ¬ Apart [] p := fun apart => apart.1 (List.nil_prefix)

theorem apart_cons_cons {a b : String} {p q : List String} :
    Apart (a :: p) (b :: q) ↔ a ≠ b ∨ Apart p q := by
  by_cases same : a = b
  · subst same
    simp [Apart, List.cons_prefix_cons]
  · simp [Apart, List.cons_prefix_cons, same, Ne.symm same]

namespace Yaml

/-- A node on the way to a path, above its last key, blocks it: the path cannot be written. -/
def Blocked (v : Yaml) (path : List String) : Prop :=
  ∃ i < path.length, ∃ n, v.at? (path.take i) = some n ∧ n.blocks = true

@[simp] theorem null_blocks : Yaml.null.blocks = false := rfl

theorem null_at?_cons (k : String) (rest : List String) : Yaml.null.at? (k :: rest) = none :=
  at?_of_mappingOf_none rfl k rest

/-- Below the root, a missing child reads as a null one. -/
theorem at?_getD_null (child : Option Yaml) {p : List String} (below : p ≠ []) :
    (child.getD .null).at? p = child.bind (·.at? p) := by
  obtain ⟨k, rest, rfl⟩ := List.exists_cons_of_ne_nil below
  cases child with
  | none => exact null_at?_cons k rest
  | some c => rfl

/-- A path is blocked at its first node, or further down below the child the write goes to (a
null one where there is none). -/
theorem blocked_cons_iff (v : Yaml) (k : String) (rest : List String) :
    v.Blocked (k :: rest) ↔ v.blocks = true ∨ ((v.child? k).getD .null).Blocked rest := by
  constructor
  · rintro ⟨i, within, n, found, blocking⟩
    -- The blocking node is the root itself, or lies below one of its children.
    cases i with
    | zero =>
      simp only [List.take_zero, at?_nil, Option.some.injEq] at found
      exact .inl (found ▸ blocking)
    | succ i =>
      -- Below the root the node is found under the child.
      refine .inr ⟨i, by simpa using within, n, ?_, blocking⟩
      cases child : v.child? k with
      | none => simp [List.take_succ_cons, at?_cons, child] at found
      | some c => simpa [List.take_succ_cons, at?_cons, child] using found
  · rintro (here | ⟨i, within, n, found, blocking⟩)
    · exact ⟨0, by simp, v, rfl, here⟩
    · refine ⟨i + 1, by simpa using within, n, ?_, blocking⟩
      cases child : v.child? k with
      | none =>
        -- A missing child reads as null, and nothing blocks on or below a null node.
        rw [child, Option.getD_none] at found
        cases take : rest.take i with
        | nil =>
          rw [take, at?_nil, Option.some.injEq] at found
          subst found
          simp at blocking
        | cons j more => rw [take, null_at?_cons] at found; cases found
      | some c => simpa [List.take_succ_cons, at?_cons, child] using found

end Yaml

/-- What writing texts at paths leaves: each text at its path, a mapping at every node on the way
to each, and every node off all the paths as it was. -/
structure Yaml.PathsSet (before : Yaml) (writes : List (List String × String)) (after : Yaml) : Prop where
  at_path : ∀ w ∈ writes, after.at? w.1 = some (.str w.2)
  on_way : ∀ w ∈ writes, ∀ i < w.1.length, ∃ n, after.at? (w.1.take i) = some n ∧ n.isMapping = true
  off_path : ∀ p, (∀ w ∈ writes, Apart p w.1) → after.at? p = before.at? p

/-- A write that meets a node in the way fails, naming where that node is. -/
theorem setYamlPath_blocked : ∀ (rest done : List String) (node : Yaml) (k value : String),
    node.Blocked (k :: rest) → ∃ i < rest.length + 1, ∃ n, node.at? ((k :: rest).take i) = some n ∧
      n.blocks = true ∧
      setYamlPath done node (k :: rest) value = .error (kialiPathError (done ++ (k :: rest).take i)) := by
  intro rest
  -- The induction runs down the path; each step either fails at its node or writes below it.
  induction rest with
  | nil =>
    intro done node k value blocked
    rcases (Yaml.blocked_cons_iff node k []).mp blocked with here | ⟨i, within, _⟩
    · refine ⟨0, by simp, node, rfl, here, ?_⟩
      rw [setYamlPath_single, (Yaml.opening_eq_none_iff node).mpr here]
      simp
    · simp at within
  | cons k' rest ih =>
    intro done node k value blocked
    -- The write fails at this node if it does not open, and otherwise goes below it.
    cases opened : node.opening with
    | none =>
      have here := (Yaml.opening_eq_none_iff node).mp opened
      refine ⟨0, by simp, node, rfl, here, ?_⟩
      rw [setYamlPath_cons_cons, opened]
      simp
    | some m =>
      obtain ⟨entries, rebuild⟩ := m
      have notHere : node.blocks = false := Bool.eq_false_iff.mpr fun here => by
        rw [(Yaml.opening_eq_none_iff node).mpr here] at opened
        cases opened
      have looked := (Yaml.opening_some opened).1 k
      -- The node opened, so what blocks the path lies below the child the write goes to.
      have below : ((node.child? k).getD .null).Blocked (k' :: rest) := by
        simpa [notHere] using (Yaml.blocked_cons_iff node k (k' :: rest)).mp blocked
      obtain ⟨i, within, n, found, blocking, failed⟩ := ih (done ++ [k]) _ k' value below
      refine ⟨i + 1, by simpa using within, n, ?_, blocking, ?_⟩
      · -- Nothing blocks below a missing child, so the child is there.
        cases child : node.child? k with
        | none =>
          rw [child, Option.getD_none] at found
          cases i with
          | zero => simp at found; subst found; simp at blocking
          | succ i => simp [List.take_succ_cons, Yaml.null_at?_cons] at found
        | some c => simpa [List.take_succ_cons, Yaml.at?_cons, child] using found
      · rw [setYamlPath_cons_cons, opened]
        simp only [Option.elim, ← looked, failed, List.take_succ_cons, List.append_assoc,
          List.singleton_append]
        rfl

/-- A write that meets nothing in the way leaves the text at its path, mappings on the way to
it, and every other node as it was. -/
theorem setYamlPath_written : ∀ (rest done : List String) (node : Yaml) (k value : String),
    ¬ node.Blocked (k :: rest) →
      ∃ r, setYamlPath done node (k :: rest) value = .ok r ∧ Yaml.PathsSet node [(k :: rest, value)] r := by
  intro rest
  -- The induction runs down the path: the last key stores the text, a longer path writes below it.
  induction rest with
  | nil =>
    intro done node k value clear
    -- Nothing is in the way, so the node itself does not block and opens.
    have notHere : node.blocks = false := by
      simpa using fun here => clear ((Yaml.blocked_cons_iff node k []).mpr (.inl here))
    cases opened : node.opening with
    | none => simp [Yaml.opening_eq_none_iff, notHere] at opened
    | some m =>
      obtain ⟨entries, rebuild⟩ := m
      have rebuilt := (Yaml.opening_some opened).2
      refine ⟨_, by rw [setYamlPath_single, opened]; rfl, ⟨?_, ?_, ?_⟩⟩
      · simp [Yaml.at?_cons, Yaml.child?_rebuild_self opened]
      · simp [Yaml.isMapping, rebuilt]
      · -- Off the path is under another key of the root.
        intro p apart
        have nonempty : p ≠ [] := by
          rintro rfl
          exact not_apart_nil _ (apart _ (List.mem_singleton_self _))
        obtain ⟨j, p', rfl⟩ := List.exists_cons_of_ne_nil nonempty
        have other : j ≠ k := by
          rintro rfl
          exact (apart _ (List.mem_singleton_self _)).2 (by simp [List.cons_prefix_cons])
        rw [Yaml.at?_cons, Yaml.at?_cons, Yaml.child?_rebuild_of_ne opened _ other]
  | cons k' rest ih =>
    intro done node k value clear
    have notHere : node.blocks = false := by
      simpa using fun here => clear ((Yaml.blocked_cons_iff node k _).mpr (.inl here))
    cases opened : node.opening with
    | none => simp [Yaml.opening_eq_none_iff, notHere] at opened
    | some m =>
      obtain ⟨entries, rebuild⟩ := m
      obtain ⟨looked, rebuilt⟩ := Yaml.opening_some opened
      -- Nothing is in the way below the child either, so the rest of the path is written there.
      have belowClear : ¬ ((node.child? k).getD .null).Blocked (k' :: rest) :=
        fun below => clear ((Yaml.blocked_cons_iff node k _).mpr (.inr below))
      obtain ⟨r, wrote, written⟩ := ih (done ++ [k]) _ k' value belowClear
      have child : (node.child? k).getD .null = ((entries.find? (·.1.beq (.str k))).map (·.2)).getD .null := by
        rw [looked]
      -- The root keeps its other children and holds what the write below gave under `k`.
      have top := Yaml.child?_rebuild_self opened k r
      refine ⟨rebuild (putEntry entries (.str k) r), ?_, ⟨?_, ?_, ?_⟩⟩
      · rw [setYamlPath_cons_cons, opened, Option.elim, ← child, wrote]
        rfl
      · simp only [List.forall_mem_singleton]
        rw [Yaml.at?_cons, top, Option.bind_some]
        exact written.at_path _ (List.mem_singleton_self _)
      · intro w member i within
        simp only [List.mem_singleton] at member
        subst member
        -- The root is a rebuilt mapping; the nodes below it are the ones the write below left.
        cases i with
        | zero => exact ⟨_, rfl, by simp [Yaml.isMapping, rebuilt]⟩
        | succ i =>
          obtain ⟨n, found, mapping⟩ := written.on_way _ (List.mem_singleton_self _) i
            (by simpa using within)
          exact ⟨n, by rw [List.take_succ_cons, Yaml.at?_cons, top, Option.bind_some]; exact found, mapping⟩
      · -- Off the path is under another key of the root, or under the same key off the rest
        -- of the path, where the child kept it.
        intro p apart
        have apartHere := apart _ (List.mem_singleton_self _)
        have nonempty : p ≠ [] := by
          rintro rfl
          exact not_apart_nil _ apartHere
        obtain ⟨j, p', rfl⟩ := List.exists_cons_of_ne_nil nonempty
        by_cases same : j = k
        · subst same
          have apartBelow : Apart p' (k' :: rest) := by
            simpa using (apart_cons_cons.mp apartHere)
          have below : p' ≠ [] := by
            rintro rfl
            exact not_apart_nil _ apartBelow
          have kept := written.off_path p' (by simpa using apartBelow)
          rw [Yaml.at?_cons, top, Option.bind_some, kept, Yaml.at?_getD_null _ below, Yaml.at?_cons]
        · rw [Yaml.at?_cons, Yaml.at?_cons, Yaml.child?_rebuild_of_ne opened _ same]

/-! Several writes in turn, on paths apart from each other. -/

/-- Writes texts at paths in turn, each on what the last one left, as the Kiali hook writes its
URLs. -/
def writeAll (config : Yaml) (writes : List (List String × String)) : Except Error Yaml :=
  writes.foldlM (fun c w => setYamlPath [] c w.1 w.2) config

/-- A mapping blocks no path. -/
theorem Yaml.blocks_of_isMapping {n : Yaml} (mapping : n.isMapping = true) : n.blocks = false := by
  simp_all [Yaml.blocks, Yaml.isMapping]

/-- A prefix of a path that is not the whole path lies on the way to it. -/
theorem take_of_prefix {q p : List String} (onWay : q <+: p) (shorter : q.length < p.length) :
    ∃ i < p.length, q = p.take i :=
  ⟨q.length, shorter, List.prefix_iff_eq_take.mp onWay⟩

/-- A node on the way to one path that is not apart from another path `u` is on the way to `u`,
when `u` is not on the way to the first path. -/
theorem take_prefix_of_not_apart {p u : List String} {i : Nat} (notAbove : ¬ u <+: p) (shared : ¬ Apart (p.take i) u) :
    ∃ j < u.length, p.take i = u.take j := by
  -- Not apart, and u is not above p, so the node lies on the way to u.
  have onWay : p.take i <+: u := by
    by_contra notOn
    have passes : u <+: p.take i := by
      by_contra notPasses
      exact shared ⟨notOn, notPasses⟩
    exact notAbove (passes.trans (List.take_prefix i p))
  refine take_of_prefix onWay ?_
  -- The node is short of u's end: it cannot be u itself, which is not above p.
  rcases Nat.lt_or_ge (p.take i).length u.length with lt | ge
  · exact lt
  · have whole : p.take i = u := onWay.eq_of_length (le_antisymm onWay.length_le ge)
    exact absurd (whole ▸ List.take_prefix i p) notAbove

/-- Where a write has gone through, a node on the way to a path apart from it blocks now exactly
where it blocked before, and is then the node it was: it is off the written path, or on the way
to it, where it was not in the way before and is a mapping now. -/
theorem Yaml.PathsSet.same_of_blocks {before after : Yaml} {w : List String × String} {p : List String}
    (written : Yaml.PathsSet before [w] after) (clear : ¬ before.Blocked w.1) (apart : Apart w.1 p)
    {i : Nat}
    (blocking : (∃ n, after.at? (p.take i) = some n ∧ n.blocks = true) ∨
      ∃ n, before.at? (p.take i) = some n ∧ n.blocks = true) :
    after.at? (p.take i) = before.at? (p.take i) := by
  -- A node off the written path was kept; one on the way to it is a mapping now.
  by_cases off : Apart (p.take i) w.1
  · exact written.off_path _ (by simpa using off)
  · obtain ⟨j, withinW, same⟩ := take_prefix_of_not_apart apart.1 off
    obtain ⟨m, foundAfter, mapping⟩ := written.on_way w (List.mem_singleton_self _) j withinW
    -- A mapping blocks nothing, and a node that blocked before would have blocked w.
    rcases blocking with ⟨n, found, blocks⟩ | ⟨n, found, blocks⟩
    · rw [same, foundAfter, Option.some.injEq] at found
      subst found
      simp [Yaml.blocks_of_isMapping mapping] at blocks
    · exact absurd ⟨j, withinW, n, same ▸ found, blocks⟩ clear

/-- Writes on paths apart from each other add up: what the first leaves, the rest keep. -/
theorem Yaml.PathsSet.cons {c₀ c₁ c₂ : Yaml} {w : List String × String} {ws : List (List String × String)}
    (first : Yaml.PathsSet c₀ [w] c₁) (rest : Yaml.PathsSet c₁ ws c₂) (apart : ∀ v ∈ ws, Apart w.1 v.1) :
    Yaml.PathsSet c₀ (w :: ws) c₂ := by
  refine ⟨fun v member => ?_, fun v member i within => ?_, fun p off => ?_⟩
  · rcases List.mem_cons.mp member with rfl | later
    · -- The first text is off the later paths, so the later writes kept it.
      rw [rest.off_path _ fun u held => apart u held]
      exact first.at_path _ (List.mem_singleton_self _)
    · exact rest.at_path v later
  · rcases List.mem_cons.mp member with rfl | later
    · -- A node on the way to the first path: the rest kept it, or it is on the way to theirs.
      by_cases kept : ∀ u ∈ ws, Apart (v.1.take i) u.1
      · rw [rest.off_path _ kept]
        exact first.on_way _ (List.mem_singleton_self _) i within
      · simp only [not_forall] at kept
        obtain ⟨u, held, shared⟩ := kept
        obtain ⟨j, withinU, same⟩ := take_prefix_of_not_apart (apart u held).2 shared
        rw [same]
        exact rest.on_way u held j withinU
    · exact rest.on_way v later i within
  · -- A node off every path was kept by both writes.
    rw [rest.off_path p fun u held => off u (List.mem_cons_of_mem _ held)]
    exact first.off_path p fun u held => by
      rw [List.mem_singleton.mp held]
      exact off _ (List.mem_cons_self ..)

theorem writeAll_cons (c : Yaml) (w : List String × String) (ws : List (List String × String)) :
    writeAll c (w :: ws) = setYamlPath [] c w.1 w.2 >>= fun c₁ => writeAll c₁ ws := rfl

section Writes

variable {ws : List (List String × String)}

/-- Writes on paths apart from each other, none of them in the way, all go through. -/
theorem writeAll_written (nonempty : ∀ w ∈ ws, w.1 ≠ [])
    (apart : ws.Pairwise fun a b => Apart a.1 b.1) (c : Yaml) (clear : ∀ w ∈ ws, ¬ c.Blocked w.1) :
    ∃ r, writeAll c ws = .ok r ∧ Yaml.PathsSet c ws r := by
  -- The induction runs over the writes; each one leaves the later paths as clear as they were.
  induction ws generalizing c with
  | nil => exact ⟨c, rfl, ⟨by simp, by simp, fun p _ => rfl⟩⟩
  | cons w ws ih =>
    obtain ⟨first, later⟩ := List.pairwise_cons.mp apart
    obtain ⟨k, rest, path⟩ := List.exists_cons_of_ne_nil (nonempty w (List.mem_cons_self ..))
    obtain ⟨c₁, wrote, written⟩ := setYamlPath_written rest [] c k w.2
      (path ▸ clear w (List.mem_cons_self ..))
    rw [← path] at wrote written
    -- A node that would block a later path after the first write blocked it before.
    have stillClear : ∀ v ∈ ws, ¬ c₁.Blocked v.1 := by
      rintro v held ⟨i, within, n, found, blocks⟩
      have same := written.same_of_blocks (clear w (List.mem_cons_self ..)) (first v held)
        (.inl ⟨n, found, blocks⟩)
      exact clear v (List.mem_cons_of_mem _ held) ⟨i, within, n, same ▸ found, blocks⟩
    obtain ⟨r, rest, writtenRest⟩ := ih (fun v held => nonempty v (List.mem_cons_of_mem _ held))
      later c₁ stillClear
    refine ⟨r, ?_, written.cons writtenRest first⟩
    rw [writeAll_cons, wrote]
    exact rest

/-- Writes on paths apart from each other, one of them in the way, fail where a node is in the
way of one of the paths. -/
theorem writeAll_blocked (nonempty : ∀ w ∈ ws, w.1 ≠ [])
    (apart : ws.Pairwise fun a b => Apart a.1 b.1) (c : Yaml) (blocked : ∃ w ∈ ws, c.Blocked w.1) :
    ∃ w ∈ ws, ∃ i < w.1.length, ∃ n, c.at? (w.1.take i) = some n ∧ n.blocks = true ∧
      writeAll c ws = .error (kialiPathError (w.1.take i)) := by
  -- The induction runs over the writes, up to the first one whose path is blocked.
  induction ws generalizing c with
  | nil => simp at blocked
  | cons w ws ih =>
    obtain ⟨first, later⟩ := List.pairwise_cons.mp apart
    obtain ⟨k, rest, path⟩ := List.exists_cons_of_ne_nil (nonempty w (List.mem_cons_self ..))
    by_cases here : c.Blocked w.1
    · -- The first write meets the node in its way.
      obtain ⟨i, within, n, found, blocks, failed⟩ := setYamlPath_blocked rest [] c k w.2 (path ▸ here)
      rw [← path, List.nil_append] at failed
      rw [← path] at found
      refine ⟨w, List.mem_cons_self .., i, by simpa [path] using within, n, found, blocks, ?_⟩
      rw [writeAll_cons, failed]
      rfl
    · -- The first write goes through and keeps the node in the way of a later path.
      obtain ⟨c₁, wrote, written⟩ := setYamlPath_written rest [] c k w.2 (path ▸ here)
      rw [← path] at wrote written
      have stillBlocked : ∃ v ∈ ws, c₁.Blocked v.1 := by
        obtain ⟨v, held, ⟨i, within, n, found, blocks⟩⟩ := blocked
        rcases List.mem_cons.mp held with rfl | held
        · exact absurd ⟨i, within, n, found, blocks⟩ here
        · have same := written.same_of_blocks here (first v held) (.inr ⟨n, found, blocks⟩)
          exact ⟨v, held, i, within, n, same ▸ found, blocks⟩
      obtain ⟨v, held, i, within, n, found, blocks, failed⟩ :=
        ih (fun v held => nonempty v (List.mem_cons_of_mem _ held)) later c₁ stillBlocked
      -- The node the later write fails at is the one the configuration had there.
      have same := written.same_of_blocks here (first v held) (.inl ⟨n, found, blocks⟩)
      refine ⟨v, List.mem_cons_of_mem _ held, i, within, n, same ▸ found, blocks, ?_⟩
      rw [writeAll_cons, wrote]
      exact failed

end Writes

/-! The Kiali hook. -/

/-- The path of a service's URL in Kiali's configuration. -/
def kialiUrlPath (service : String) : List String := ["external_services", service, "url"]

/-- The URLs the Kiali hook writes, Grafana's first: each service's at its path, where its
route serves one. -/
def kialiWrites (grafana tracing : Option String) : List (List String × String) :=
  [("grafana", grafana), ("tracing", tracing)].filterMap fun s => s.2.map fun url => (kialiUrlPath s.1, url)

/-- The text of Kiali's configuration in its ConfigMap; empty where it is missing or not text. -/
def kialiText (obj : Object) : String :=
  ((((obj.field? "data").getD .null).get? kialiConfigKey).bind Json.str?).getD ""

/-- Kiali's configuration as the hook reads it: blank text is an empty mapping, other text is
parsed. -/
def kialiSource (obj : Object) : Except Error Yaml :=
  if (kialiText obj).toList.all isWhiteSpace then pure (.map [])
  else (Yaml.parse (kialiText obj)).mapError .yaml

/-- The entries of the ConfigMap's data; none where it is not an object. -/
def kialiData (obj : Object) : Fields := (((obj.field? "data").getD .null).fields?).getD []

theorem kialiWrites_nonempty (grafana tracing : Option String) :
    ∀ w ∈ kialiWrites grafana tracing, w.1 ≠ [] := by
  cases grafana <;> cases tracing <;> simp [kialiWrites, kialiUrlPath]

/-- The two URLs go under different services. -/
theorem kialiWrites_apart (grafana tracing : Option String) :
    (kialiWrites grafana tracing).Pairwise fun a b => Apart a.1 b.1 := by
  -- The paths part at their second key.
  have services : Apart (kialiUrlPath "grafana") (kialiUrlPath "tracing") := by
    simp [kialiUrlPath, apart_cons_cons]
  cases grafana <;> cases tracing <;> simp [kialiWrites, services]

/-- With a URL to write, the hook reads its configuration and writes the URLs in turn, then
stores the rendering under the key, in data made an object where it was not one. -/
theorem kialiConfigured_eq (obj : Object) {grafana tracing : Option String}
    (writing : (grafana.isNone && tracing.isNone) = false) :
    kialiConfigured obj grafana tracing =
      kialiSource obj >>= fun config =>
        (fun c => obj.setField "data" (.obj ((kialiData obj).insert kialiConfigKey (.str c.render)))) <$>
          writeAll config (kialiWrites grafana tracing) := by
  unfold kialiConfigured kialiSource kialiData kialiText
  rw [if_neg (by simp [writing])]
  simp only []
  generalize (obj.field? "data").getD Json.null = data
  -- For each pair of routes and each kind of data the loop is the writes in turn; data that is
  -- no object holds no text.
  cases grafana <;> cases tracing <;> simp at writing <;> cases data <;>
    simp [writeAll, kialiWrites, kialiUrlPath, Json.get?, Json.fields?, List.forIn_cons]
  -- What is left is data that is an object: the text under the key is a string, or nothing.
  all_goals
    rename_i fields
    split
    · rename_i s found
      simp only [found, Option.bind_some, Json.str?, Option.getD_some]
      by_cases blank : ∃ c ∈ s.toList, isWhiteSpace c = false
      · -- Text that is not blank is parsed, and a failure to parse is the hook's failure.
        have notAll : ¬ ∀ c ∈ s.toList, isWhiteSpace c = true := by
          obtain ⟨c, held, white⟩ := blank
          exact fun all => by simp [all c held] at white
        cases Yaml.parse s <;> simp only [blank, notAll, if_true, if_false, Except.mapError] <;> rfl
      · have all : ∀ c ∈ s.toList, isWhiteSpace c = true := by simpa using blank
        simp only [blank, if_false, if_pos all, pure_bind]
    · rename_i other
      have text : ((Fields.get? fields kialiConfigKey).bind Json.str?).getD "" = "" := by
        cases found : Fields.get? fields kialiConfigKey with
        | none => rfl
        | some j => cases j <;> first | rfl | exact absurd found (other _)
      simp [text]

/-- An object with one text of one of its top-level objects set: the types, the metadata and
every other top-level field kept, and every other entry of that object kept. -/
structure Object.SetsText (o o₁ : Object) (field key text : String) : Prop where
  types : o₁.types = o.types
  metadata : o₁.metadata = o.metadata
  others : ∀ f, f ≠ field → o₁.field? f = o.field? f
  text : (o₁.field? field).bind (·.get? key) = some (.str text)
  entries : ∀ k, k ≠ key → (o₁.field? field).bind (·.get? k) = (o.field? field).bind (·.get? k)

/-- Storing a text under the key of the ConfigMap's data sets it and keeps everything else. -/
theorem kialiData_setsText (obj : Object) (text : String) :
    obj.SetsText (obj.setField "data" (.obj ((kialiData obj).insert kialiConfigKey (.str text))))
      "data" kialiConfigKey text := by
  refine ⟨rfl, rfl, fun f other => ?_, ?_, fun k other => ?_⟩
  · simp [Object.field?, Object.setField, Ne.symm other]
  · simp [Object.field?, Object.setField, Json.get?]
  · simp only [Object.field?, Object.setField, Fields.get?_insert, if_true, Option.bind_some,
      Json.get?, Ne.symm other, if_false]
    -- The entries kept are those of the data where it was an object, and none otherwise.
    unfold kialiData Object.field?
    cases obj.data.get? "data" with
    | none => rfl
    | some j => cases j <;> rfl

/-- The URL a route serves: its host behind `https` where it terminates TLS and `http`
otherwise, where the host is non-empty text. -/
theorem routeUrlOf_eq_some_iff (route : Object) (url : String) :
    routeUrlOf route = some url ↔
      ∃ host, ((route.field? "spec").getD .null).get? "host" = some (.str host) ∧ host ≠ "" ∧
        url = (if ((((route.field? "spec").getD .null).get? "tls").any Json.isObj) then "https"
          else "http") ++ "://" ++ host := by
  unfold routeUrlOf
  simp only []
  split
  · rename_i host found
    -- A route with text under its host serves a URL unless that text is empty.
    by_cases empty : host.isEmpty
    · -- An empty host serves nothing.
      rw [if_pos empty]
      simp only [reduceCtorEq, false_iff, not_exists, not_and]
      intro h same nonempty _
      rw [found, Option.some.injEq, Json.str.injEq] at same
      exact nonempty (same ▸ String.isEmpty_iff.mp empty)
    · have nonempty : host ≠ "" := fun same => empty (String.isEmpty_iff.mpr same)
      rw [if_neg empty]
      constructor
      · intro served
        exact ⟨host, found, nonempty, (Option.some.inj served).symm⟩
      · rintro ⟨h, same, -, rfl⟩
        rw [found, Option.some.injEq, Json.str.injEq] at same
        rw [same]
  · -- A host that is missing or not text serves nothing.
    rename_i other
    simp only [reduceCtorEq, false_iff, not_exists, not_and]
    exact fun host found => absurd found (other host)

/-- A route read gives the URL it serves. -/
theorem routeUrl_run_ok {ns name : String} {w w' : World} {route : Object}
    (read : (Engine.cluster (getObject (routeKey ns name))).run w = .ok route w') :
    (routeUrl ns name).run w = .ok (routeUrlOf route) w' := by
  unfold routeUrl
  rw [EStateM.run_bind, run_tryCatch, run_map, read]
  rfl

/-- A route not found serves no URL; any other failed read is the failure. -/
theorem routeUrl_run_error {ns name : String} {w w' : World} {e : Error}
    (read : (Engine.cluster (getObject (routeKey ns name))).run w = .error e w') :
    (routeUrl ns name).run w = if e.isNotFound then .ok none w' else .error e w' := by
  unfold routeUrl
  rw [EStateM.run_bind, run_tryCatch, run_map, read]
  -- The handler decides on the failure alone, keeping the world the read left.
  cases absent : e.isNotFound <;> simp only [absent] <;> rfl

/-- The hook leaves every object but the `kiali` ConfigMap as it is, without a cluster call. -/
theorem configureKiali_other (ns : String) {obj : Object}
    (other : obj.metadata.name ≠ some kialiConfigMap) (w : World) :
    (configureKiali ns obj).run w = .ok obj w := by
  unfold configureKiali
  rw [if_pos (by simpa using other)]
  rfl

/-- The hook on the `kiali` ConfigMap: the Grafana route is read, then the tracing route, and the
map is edited by the URLs they serve. -/
theorem configureKiali_kiali (ns : String) {obj : Object}
    (kiali : obj.metadata.name = some kialiConfigMap) :
    configureKiali ns obj = routeUrl ns "grafana" >>= fun grafana =>
      routeUrl ns "tracing" >>= fun tracing => Engine.ofExcept (kialiConfigured obj grafana tracing) := by
  unfold configureKiali
  rw [if_neg (by simp [kiali])]

/-- With no URL the map is left as it is. -/
theorem kialiConfigured_none (obj : Object) : kialiConfigured obj none none = .ok obj := rfl

/-- With a URL to write, the edit fails where the configuration does not parse, sets every URL
where nothing is in the way, and fails naming a node in the way otherwise. -/
theorem kialiConfigured_outcome (obj : Object) {grafana tracing : Option String}
    (writing : (grafana.isSome || tracing.isSome) = true) :
    (∀ e, kialiSource obj = .error e → kialiConfigured obj grafana tracing = .error e) ∧
    ∀ config, kialiSource obj = .ok config →
      ((∀ w ∈ kialiWrites grafana tracing, ¬ config.Blocked w.1) →
        ∃ config' r, Yaml.PathsSet config (kialiWrites grafana tracing) config' ∧
          kialiConfigured obj grafana tracing = .ok r ∧ obj.SetsText r "data" kialiConfigKey config'.render) ∧
      ((∃ w ∈ kialiWrites grafana tracing, config.Blocked w.1) →
        ∃ w ∈ kialiWrites grafana tracing, ∃ i < w.1.length, ∃ n, config.at? (w.1.take i) = some n ∧
          n.blocks = true ∧ kialiConfigured obj grafana tracing = .error (kialiPathError (w.1.take i))) := by
  -- With a URL to write the edit is reading the configuration and then the writes.
  have edit := @kialiConfigured_eq obj grafana tracing
    (by cases grafana <;> cases tracing <;> simp_all)
  have read_bind : ∀ {β : Type} (c : Yaml) (f : Yaml → Except Error β), (Except.ok c >>= f) = f c :=
    fun _ _ => rfl
  refine ⟨fun e unreadable => by rw [edit, unreadable]; rfl, fun config read => ⟨fun clear => ?_, fun blocked => ?_⟩⟩
  · -- The two URL paths are apart, so the writes add up when neither is blocked.
    obtain ⟨config', wrote, written⟩ := writeAll_written (kialiWrites_nonempty grafana tracing)
      (kialiWrites_apart grafana tracing) config clear
    refine ⟨config', _, written, by rw [edit, read, read_bind, wrote]; rfl, kialiData_setsText obj _⟩
  · obtain ⟨w, held, i, within, n, found, blocks, failed⟩ := writeAll_blocked
      (kialiWrites_nonempty grafana tracing) (kialiWrites_apart grafana tracing) config blocked
    exact ⟨w, held, i, within, n, found, blocks, by rw [edit, read, read_bind, failed]; rfl⟩

/-- The Kiali hook edits only the `kiali` ConfigMap, by the URLs its two routes serve: it sets each
at `external_services.<service>.url`, keeping every other node, or fails naming a node in the way. -/
theorem kiali_config_edit :
    (∀ ns obj w, obj.metadata.name ≠ some kialiConfigMap → (configureKiali ns obj).run w = .ok obj w) ∧
    (∀ ns obj, obj.metadata.name = some kialiConfigMap →
      configureKiali ns obj = routeUrl ns "grafana" >>= fun grafana =>
        routeUrl ns "tracing" >>= fun tracing => Engine.ofExcept (kialiConfigured obj grafana tracing)) ∧
    (∀ ns name w w' route, (Engine.cluster (getObject (routeKey ns name))).run w = .ok route w' →
      (routeUrl ns name).run w = .ok (routeUrlOf route) w') ∧
    (∀ ns name w w' e, (Engine.cluster (getObject (routeKey ns name))).run w = .error e w' →
      (routeUrl ns name).run w = if e.isNotFound then .ok none w' else .error e w') ∧
    (∀ route url, routeUrlOf route = some url ↔
      ∃ host, ((route.field? "spec").getD .null).get? "host" = some (.str host) ∧ host ≠ "" ∧
        url = (if ((((route.field? "spec").getD .null).get? "tls").any Json.isObj) then "https"
          else "http") ++ "://" ++ host) ∧
    (∀ obj, kialiConfigured obj none none = .ok obj) ∧
    (∀ obj grafana tracing, (grafana.isSome || tracing.isSome) = true →
      (∀ e, kialiSource obj = .error e → kialiConfigured obj grafana tracing = .error e) ∧
      ∀ config, kialiSource obj = .ok config →
        ((∀ w ∈ kialiWrites grafana tracing, ¬ config.Blocked w.1) →
          ∃ config' r, Yaml.PathsSet config (kialiWrites grafana tracing) config' ∧
            kialiConfigured obj grafana tracing = .ok r ∧ obj.SetsText r "data" kialiConfigKey config'.render) ∧
        ((∃ w ∈ kialiWrites grafana tracing, config.Blocked w.1) →
          ∃ w ∈ kialiWrites grafana tracing, ∃ i < w.1.length, ∃ n, config.at? (w.1.take i) = some n ∧
            n.blocks = true ∧ kialiConfigured obj grafana tracing = .error (kialiPathError (w.1.take i)))) :=
  ⟨fun ns _ w other => configureKiali_other ns other w, fun ns _ kiali => configureKiali_kiali ns kiali,
    fun _ _ _ _ _ read => routeUrl_run_ok read, fun _ _ _ _ _ read => routeUrl_run_error read,
    routeUrlOf_eq_some_iff, kialiConfigured_none, fun obj _ _ writing => kialiConfigured_outcome obj writing⟩

/-- A Kiali ConfigMap whose services are switched off by a word where their mapping belongs. -/
def disabledKiali : Object :=
  { types := some ⟨"v1", "ConfigMap"⟩, metadata := { name := some kialiConfigMap, ns := some "istio-system" },
    data := [("data", .obj [(kialiConfigKey, .str "external_services: disabled")])] }

/-- With a Grafana URL to write, the word under external_services stops the edit: the hook fails
naming a node in the way. -/
theorem kiali_edit_stops_at_word :
    ∃ config, kialiSource disabledKiali = .ok config ∧
      (∃ w ∈ kialiWrites (some "http://grafana") none, config.Blocked w.1) ∧
      ∃ w ∈ kialiWrites (some "http://grafana") none, ∃ i < w.1.length, ∃ n, config.at? (w.1.take i) = some n ∧
        n.blocks = true ∧ kialiConfigured disabledKiali (some "http://grafana") none = .error (kialiPathError (w.1.take i)) := by
  -- The text parses, and the node under external_services is a word, neither null nor a mapping.
  have read : ∃ config, kialiSource disabledKiali = .ok config ∧ ((config.at? ["external_services"]).map Yaml.blocks = some true) := by
    have parsed : ((kialiSource disabledKiali).toOption.bind (·.at? ["external_services"])).map Yaml.blocks = some true := by
      decide +kernel
    cases source : kialiSource disabledKiali with
    | error e => simp [source, Except.toOption] at parsed
    | ok config => exact ⟨config, rfl, by simpa [source, Except.toOption] using parsed⟩
  obtain ⟨config, source, word⟩ := read
  obtain ⟨n, found, blocks⟩ := Option.map_eq_some_iff.mp word
  have blocked : ∃ w ∈ kialiWrites (some "http://grafana") none, config.Blocked w.1 :=
    ⟨(kialiUrlPath "grafana", "http://grafana"), by simp [kialiWrites], 1, by simp [kialiUrlPath], n, found, blocks⟩
  exact ⟨config, source, blocked, (kiali_config_edit.2.2.2.2.2.2 disabledKiali _ none rfl).2 config source |>.2 blocked⟩

end MeshControl
