import MeshControl.Engine.ControlPlane

/-! The order of the components of a pass: the prioritized components that rendered, then the
other rendered ones by name, then those of the previous status that no longer render. -/

namespace MeshControl

@[simp] theorem pushNew_of_mem {names : List String} {name : String} (held : name ∈ names) :
    pushNew names name = names := by
  simp [pushNew, held]

@[simp] theorem pushNew_of_not_mem {names : List String} {name : String} (fresh : name ∉ names) :
    pushNew names name = names ++ [name] := by
  simp [pushNew, fresh]

/-- Appending names one at a time unless already present keeps the first occurrence of each
new name: the start, then the names it lacks, duplicates erased. -/
theorem foldl_pushNew (acc names : List String) :
    names.foldl pushNew acc = acc ++ (names.filter (· ∉ acc)).eraseDups := by
  induction names generalizing acc with
  | nil => simp
  | cons n rest ih =>
    rw [List.foldl_cons]
    -- A name already there is skipped, and the filter drops it too.
    by_cases held : n ∈ acc
    · rw [pushNew_of_mem held, ih]
      simp [held]
    · -- The new name goes last; the later names are filtered against it too.
      rw [pushNew_of_not_mem held, ih, List.filter_cons_of_pos (by simpa using held),
        List.eraseDups_cons, List.filter_filter, List.append_assoc]
      have later : rest.filter (· ∉ acc ++ [n]) = rest.filter (fun m => !m == n && decide (m ∉ acc)) :=
        List.filter_congr fun m _ => by by_cases same : m = n <;> simp [same]
      rw [later]
      rfl

/-- Appending a name only when it is missing keeps a list free of repeats. -/
theorem nodup_foldl_pushNew {acc : List String} (unique : acc.Nodup) (names : List String) :
    (names.foldl pushNew acc).Nodup := by
  induction names generalizing acc with
  | nil => exact unique
  | cons n rest ih =>
    rw [List.foldl_cons]
    apply ih
    -- A name already there leaves the list; a new one is not in it.
    by_cases held : n ∈ acc
    · rwa [pushNew_of_mem held]
    · rw [pushNew_of_not_mem held]
      refine List.nodup_append.mpr ⟨unique, by simp, ?_⟩
      intro m mem k single same
      rw [List.mem_singleton] at single
      exact held (single ▸ same ▸ mem)

/-- A list without repeats has none to erase. -/
theorem eraseDups_of_nodup {l : List String} (unique : l.Nodup) : l.eraseDups = l := by
  induction l with
  | nil => rfl
  | cons a rest ih =>
    obtain ⟨fresh, uniqueRest⟩ := List.nodup_cons.mp unique
    -- No later element equals the head, so erasing its copies drops nothing.
    have kept : rest.filter (fun b => !b == a) = rest :=
      List.filter_eq_self.mpr fun b mem => by
        have other : b ≠ a := fun same => fresh (same ▸ mem)
        simpa using other
    rw [List.eraseDups_cons, kept, ih uniqueRest]

/-- The components of a pass, group by group: the prioritized names that rendered, each at its
first place in the priority list; the other rendered names in their (ascending) order; the
previous names that no longer render, each at its first place. -/
theorem componentSequence_eq (priority rendered previous : List String) (unique : rendered.Nodup) :
    componentSequence priority rendered previous =
      (priority.filter (· ∈ rendered)).eraseDups ++ rendered.filter (· ∉ priority) ++
        (previous.filter (· ∉ rendered)).eraseDups := by
  have firstEq : (priority.filter rendered.contains).foldl pushNew [] =
      (priority.filter (· ∈ rendered)).eraseDups := by
    rw [foldl_pushNew, List.nil_append, List.filter_filter]
    congr 1
    exact List.filter_congr fun n _ => by simp
  have inFirst : ∀ n, n ∈ (priority.filter (· ∈ rendered)).eraseDups ↔ n ∈ priority ∧ n ∈ rendered := by
    simp
  -- The rendered names already pushed are the prioritized ones.
  have secondEq : rendered.foldl pushNew (priority.filter (· ∈ rendered)).eraseDups =
      (priority.filter (· ∈ rendered)).eraseDups ++ rendered.filter (· ∉ priority) := by
    rw [foldl_pushNew, eraseDups_of_nodup (unique.filter _)]
    congr 1
    apply List.filter_congr
    intro n mem
    simp [inFirst, mem]
  -- After them every rendered name is there, and nothing else.
  have thirdEq : previous.foldl pushNew
        ((priority.filter (· ∈ rendered)).eraseDups ++ rendered.filter (· ∉ priority)) =
      (priority.filter (· ∈ rendered)).eraseDups ++ rendered.filter (· ∉ priority) ++
        (previous.filter (· ∉ rendered)).eraseDups := by
    rw [foldl_pushNew]
    congr 2
    apply List.filter_congr
    intro n _
    by_cases mem : n ∈ rendered <;> by_cases prio : n ∈ priority <;> simp [inFirst, mem, prio]
  simp only [componentSequence, firstEq, secondEq, thirdEq]

/-- **The components of a pass.** Whatever repeats the priority list and the previous status hold,
each name comes once, exactly the rendered and previous names come, and in the three groups. -/
theorem componentSequence_spec (priority rendered previous : List String)
    (ascending : rendered.Pairwise (· < ·)) :
    (componentSequence priority rendered previous).Nodup ∧
    (∀ n, n ∈ componentSequence priority rendered previous ↔ n ∈ rendered ∨ n ∈ previous) ∧
    componentSequence priority rendered previous =
      (priority.filter (· ∈ rendered)).eraseDups ++ rendered.filter (· ∉ priority) ++
        (previous.filter (· ∉ rendered)).eraseDups := by
  -- Ascending names are distinct.
  have unique : rendered.Nodup :=
    ascending.imp fun {a b} (before : a < b) (same : a = b) => String.lt_irrefl b (same ▸ before)
  have spelled := componentSequence_eq priority rendered previous unique
  refine ⟨?_, fun n => ?_, spelled⟩
  -- Each of the three folds keeps the list free of repeats.
  · exact nodup_foldl_pushNew (nodup_foldl_pushNew (nodup_foldl_pushNew List.nodup_nil _) _) _
  · rw [spelled]
    -- A name is in one of the three groups exactly when it rendered or was there before.
    by_cases mem : n ∈ rendered <;> by_cases prio : n ∈ priority <;> simp [mem, prio]

/-- The default order with the pilot and gateways rendered, and an old mixer in the previous
status, listed twice. -/
theorem componentSequence_default_pilot :
    ["istio/charts/gateways", "istio/charts/pilot"].Pairwise (· < ·) ∧
    componentSequence defaultComponentOrder ["istio/charts/gateways", "istio/charts/pilot"]
        ["istio/charts/mixer", "istio/charts/pilot", "istio/charts/mixer"] =
      ["istio/charts/pilot", "istio/charts/gateways", "istio/charts/mixer"] :=
  ⟨by decide, (componentSequence_spec _ _ _ (by decide)).2.2.trans (by decide)⟩

end MeshControl
