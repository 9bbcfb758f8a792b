import MeshControl.Proofs.Status.Conditions

/-! The laws of the condition store of a status, over any list of conditions: writes replace in
place or append, removals filter, and every writer keeps one condition per type. -/

namespace MeshControl

namespace StatusType

/-- At most one condition of each type. -/
def OnePerType (s : StatusType) : Prop := (s.conditions.map (·.type)).Nodup

/-- Where a condition of the type is there, the replacement writes the new one at the first such
position. -/
theorem replaceFirst_eq_set {c : Condition} : ∀ {cs : List Condition},
    (cs.find? (·.type == c.type)).isSome →
      replaceFirst cs c = some (cs.set (cs.findIdx (·.type == c.type)) c)
  | [], found => by simp at found
  | d :: rest, found => by
    -- The head is the first of the type, or the search and the index both move on.
    by_cases same : d.type = c.type
    · simp [replaceFirst, same, List.findIdx_cons]
    · have later : (rest.find? (·.type == c.type)).isSome := by simpa [same] using found
      have differ : (d.type == c.type) = false := by simpa using same
      simp [replaceFirst, differ, List.findIdx_cons, replaceFirst_eq_set later]

section Write

variable (s : StatusType) (now : String) (c : Condition)

/-- A write where a condition of its type is there replaces the first one in place; the time is
kept when the status is. -/
theorem set_of_found {old : Condition} (found : s.conditions.find? (·.type == c.type) = some old) :
    (s.set now c).conditions = s.conditions.set (s.conditions.findIdx (·.type == c.type))
      { c with
        lastTransitionTime := some (if old.status = c.status then old.lastTransitionTime.getD now else now) } := by
  -- The old condition decides the time, and the replacement goes where it was found.
  simp only [set, found, bne_iff_ne, ne_eq, ite_not]
  rw [replaceFirst_eq_set (by simp [found]), Option.getD_some]

/-- A write where no condition of its type is there appends it, stamped with the clock's
reading. -/
theorem set_of_missing (missing : s.conditions.find? (·.type == c.type) = none) :
    (s.set now c).conditions = s.conditions ++ [{ c with lastTransitionTime := some now }] := by
  simp only [set, missing]

/-- Where a condition of the type was there, the type written reads back as written, with the
old time when the status stayed and the clock's reading when it changed. -/
theorem get_set_of_found {old : Condition}
    (found : s.conditions.find? (·.type == c.type) = some old) :
    (s.set now c).get c.type = { c with
      lastTransitionTime := some (if old.status = c.status then old.lastTransitionTime.getD now else now) } := by
  simp only [get, set, found, bne_iff_ne, ne_eq, ite_not]
  rw [find?_replaceFirst_getD (by simp [found]), if_pos rfl, Option.getD_some]

/-- Where no condition of the type was there, the type written reads back as written, stamped
with the clock's reading. -/
theorem get_set_of_missing (missing : s.conditions.find? (·.type == c.type) = none) :
    (s.set now c).get c.type = { c with lastTransitionTime := some now } := by
  -- The old conditions hold none of the type, so the search reaches the appended one.
  rw [get, set_of_missing s now c missing, List.find?_append, missing]
  simp

/-- Every position but the first of the type written is left as it was; where there was none of
the type, that position is just past the old conditions. -/
theorem getElem?_set_of_ne {j : Nat} (other : j ≠ s.conditions.findIdx (·.type == c.type)) :
    (s.set now c).conditions[j]? = s.conditions[j]? := by
  cases found : s.conditions.find? (·.type == c.type) with
  | some old =>
    -- The replacement touched only the first position of the type.
    rw [set_of_found s now c found, List.getElem?_set_ne (Ne.symm other)]
  | none =>
    -- The new condition stands at the end, where the search for its type stopped.
    have atEnd : s.conditions.findIdx (·.type == c.type) = s.conditions.length := by
      rw [List.findIdx_eq_length]
      simpa using List.find?_eq_none.mp found
    rw [set_of_missing s now c found]
    rcases Nat.lt_or_gt_of_ne (atEnd ▸ other) with before | after
    -- Before the end the old conditions are untouched; past it both are empty.
    · rw [List.getElem?_append_left before]
    · rw [List.getElem?_eq_none (by simp; omega), List.getElem?_eq_none (by omega)]

/-- A write leaves the types in order where its type was there, and appends it where it was
not. -/
theorem types_set :
    (s.set now c).conditions.map (·.type) =
      if c.type ∈ s.conditions.map (·.type) then s.conditions.map (·.type)
      else s.conditions.map (·.type) ++ [c.type] := by
  cases found : s.conditions.find? (·.type == c.type) with
  | some old =>
    -- The position replaced held a condition of the type written, so its type stays.
    have sameType : old.type = c.type := by simpa using List.find?_some found
    have present : c.type ∈ s.conditions.map (·.type) :=
      List.mem_map.mpr ⟨old, List.mem_of_find?_eq_some found, sameType⟩
    have within : s.conditions.findIdx (·.type == c.type) < (s.conditions.map (·.type)).length := by
      rw [List.length_map, List.findIdx_lt_length]
      exact ⟨old, List.mem_of_find?_eq_some found, by simpa using sameType⟩
    have atFirst : (s.conditions.map (·.type))[s.conditions.findIdx (·.type == c.type)] = c.type := by
      have w : s.conditions.findIdx (·.type == c.type) < s.conditions.length := by simpa using within
      rw [List.getElem_map]
      simpa using List.findIdx_getElem (w := w)
    rw [if_pos present, set_of_found s now c found, List.map_set]
    calc (s.conditions.map (·.type)).set (s.conditions.findIdx (·.type == c.type)) c.type
        = (s.conditions.map (·.type)).set (s.conditions.findIdx (·.type == c.type))
            (s.conditions.map (·.type))[s.conditions.findIdx (·.type == c.type)] := by rw [atFirst]
      _ = s.conditions.map (·.type) := List.set_getElem_self within
  | none =>
    -- The type was not there, so it is appended at the end.
    have absent : c.type ∉ s.conditions.map (·.type) := by
      simpa using List.find?_eq_none.mp found
    rw [if_neg absent, set_of_missing s now c found, List.map_append]
    rfl

/-- The number of conditions of a type grows only for the type written, and only from none to
one. -/
theorem count_types_set (t : ConditionType) :
    ((s.set now c).conditions.map (·.type)).count t =
      if t = c.type then max 1 ((s.conditions.map (·.type)).count t)
      else (s.conditions.map (·.type)).count t := by
  rw [types_set]
  by_cases present : c.type ∈ s.conditions.map (·.type)
  -- The type was present: only its count may change, and it stays positive.
  · rw [if_pos present]
    by_cases same : t = c.type
    · subst same
      have : 0 < (s.conditions.map (·.type)).count c.type := List.count_pos_iff.mpr present
      rw [if_pos rfl]
      omega
    · rw [if_neg same]
  -- The type was absent: the append adds one of it and nothing else.
  · rw [if_neg present, List.count_append, List.count_singleton]
    by_cases same : t = c.type
    · subst same
      rw [List.count_eq_zero.mpr present]
      simp
    · simp [same, Ne.symm same]

/-- A write keeps at most one condition per type. -/
theorem OnePerType.set {s : StatusType} (one : s.OnePerType) : (s.set now c).OnePerType := by
  unfold OnePerType
  rw [types_set]
  -- The types are unchanged, or the new type is appended to types it is not among.
  split
  · exact one
  · rename_i absent
    exact List.nodup_append.mpr ⟨one, by simp, fun a mem b single => by
      rw [List.mem_singleton] at single
      subst single
      exact fun same => absent (same ▸ mem)⟩

end Write

section Remove

variable (s : StatusType) (t : ConditionType)

/-- A removal keeps the conditions of the other types, in order. -/
theorem remove_conditions : (s.remove t).conditions = s.conditions.filter (fun d => d.type ≠ t) := by
  simp only [remove, ne_eq, decide_not]
  rfl

/-- After a removal the type reads as Unknown. -/
theorem get_remove_self : (s.remove t).get t = Condition.unknownOf t := by
  -- No condition of the type survives, so the read falls back to Unknown.
  rw [get, remove_conditions, List.find?_eq_none.mpr]
  · rfl
  · intro d mem
    simpa using (List.mem_filter.mp mem).2

/-- A removal keeps at most one condition per type. -/
theorem OnePerType.remove {s : StatusType} (one : s.OnePerType) : (s.remove t).OnePerType :=
  -- The types kept are a sublist of the types before.
  List.Nodup.sublist ((List.filter_sublist).map _) one

end Remove

/-- The rules of a reconcile pass keep at most one condition per type. -/
theorem OnePerType.afterReconcile {s : StatusType} (one : s.OnePerType) (now : String)
    (err : Option Error) : (s.afterReconcile now err).OnePerType := by
  unfold StatusType.afterReconcile
  dsimp only
  -- Each branch writes one or two conditions in turn.
  split <;> split
  · exact (one.set now _).set now _
  · exact one.set now _
  · exact (one.set now _).set now _
  · exact one.set now _

/-- The rules of a delete pass keep at most one condition per type. -/
theorem OnePerType.afterDelete {s : StatusType} (one : s.OnePerType) (now : String)
    (err : Option Error) : (s.afterDelete now err).OnePerType := by
  unfold StatusType.afterDelete
  -- A delete pass writes its conditions one at a time too.
  split
  · exact (one.set now _).set now _
  · exact one.set now _

/-- **Condition store laws.** A write reads back as written with the time the rule gives and
leaves other positions alone; a removal reads Unknown; every writer keeps one condition per type. -/
theorem condition_store_laws (s : StatusType) (now : String) (c : Condition) (t : ConditionType) :
    (s.conditions.find? (·.type == c.type) = none →
      (s.set now c).get c.type = { c with lastTransitionTime := some now }) ∧
    (∀ old, s.conditions.find? (·.type == c.type) = some old → old.status ≠ c.status →
      (s.set now c).get c.type = { c with lastTransitionTime := some now }) ∧
    (∀ old, s.conditions.find? (·.type == c.type) = some old → old.status = c.status →
      (s.set now c).get c.type =
        { c with lastTransitionTime := some (old.lastTransitionTime.getD now) }) ∧
    (∀ j, j ≠ s.conditions.findIdx (·.type == c.type) →
      (s.set now c).conditions[j]? = s.conditions[j]?) ∧
    ((s.set now c).conditions.map (·.type)).count t =
      (if t = c.type then max 1 ((s.conditions.map (·.type)).count t)
        else (s.conditions.map (·.type)).count t) ∧
    (s.remove t).get t = Condition.unknownOf t ∧
    (s.remove t).conditions = s.conditions.filter (fun d => d.type ≠ t) ∧
    (s.OnePerType → (s.set now c).OnePerType ∧ (s.remove t).OnePerType ∧
      ∀ err, (s.afterReconcile now err).OnePerType ∧ (s.afterDelete now err).OnePerType) := by
  refine ⟨get_set_of_missing s now c, ?_, ?_, fun j => getElem?_set_of_ne s now c,
    count_types_set s now c t, get_remove_self s t, remove_conditions s t, ?_⟩
  -- A changed status takes the clock's reading.
  · intro old found changed
    rw [get_set_of_found s now c found, if_neg changed]
  -- A kept status keeps the old time.
  · intro old found kept
    rw [get_set_of_found s now c found, if_pos kept]
  -- Every writer keeps one condition per type.
  · intro one
    exact ⟨one.set now c, one.remove t, fun err => ⟨one.afterReconcile now err, one.afterDelete now err⟩⟩

end StatusType

end MeshControl
