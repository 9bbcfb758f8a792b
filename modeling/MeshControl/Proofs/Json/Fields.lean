import Mathlib.Data.String.Basic
import MeshControl.Json.Merge

/-! Field lists read as maps: lookups after inserting and dropping, and, with keys ascending,
merging a patch acts key by key (Json.mergeFields_get?). -/

namespace MeshControl

namespace Fields

/-- Keys strictly ascending, so no key is there twice. -/
def Sorted (fs : Fields) : Prop := fs.Pairwise (fun a b => a.1 < b.1)

instance (fs : Fields) : Decidable fs.Sorted := inferInstanceAs (Decidable (fs.Pairwise _))

@[simp] theorem sorted_nil : Sorted [] := List.Pairwise.nil

theorem sorted_cons {k : String} {v : Json} {rest : Fields} :
    Sorted ((k, v) :: rest) ↔ (∀ a ∈ rest, k < a.1) ∧ Sorted rest := List.pairwise_cons

@[simp] theorem get?_nil (key : String) : Fields.get? [] key = none := rfl

theorem get?_cons (k key : String) (v : Json) (rest : Fields) :
    Fields.get? ((k, v) :: rest) key = if k = key then some v else rest.get? key := by
  simp [Fields.get?]

theorem contains_iff (fs : Fields) (key : String) :
    fs.contains key = true ↔ (fs.get? key).isSome := Iff.rfl

theorem mem_of_get? {fs : Fields} {key : String} {v : Json} (found : fs.get? key = some v) :
    (key, v) ∈ fs := by
  induction fs with
  | nil => simp at found
  | cons kv rest ih =>
    obtain ⟨k, w⟩ := kv
    rw [get?_cons] at found
    -- Found at the head, or further on.
    split at found
    · cases found
      subst_vars
      exact List.mem_cons_self
    · exact List.mem_cons_of_mem _ (ih found)

/-- A key that is there is found. -/
theorem get?_isSome_of_mem {fs : Fields} {key : String} {v : Json} (mem : (key, v) ∈ fs) :
    (fs.get? key).isSome := by
  induction fs with
  | nil => simp at mem
  | cons kv rest ih =>
    obtain ⟨k, w⟩ := kv
    rw [get?_cons]
    -- Either the head has the key, or a later entry does.
    split
    · rfl
    · rcases List.mem_cons.mp mem with same | later
      · cases same
        contradiction
      · exact ih later

theorem get?_eq_none_iff {fs : Fields} {key : String} :
    fs.get? key = none ↔ ∀ v, (key, v) ∉ fs := by
  constructor
  · intro missing v mem
    simpa [missing] using get?_isSome_of_mem mem
  · intro absent
    cases found : fs.get? key with
    | none => rfl
    | some v => exact absent v (mem_of_get? found) |>.elim

/-- In ascending fields the entry of a key is the one lookup finds. -/
theorem Sorted.get?_of_mem {fs : Fields} (sorted : fs.Sorted) {key : String} {v : Json}
    (mem : (key, v) ∈ fs) : fs.get? key = some v := by
  induction fs with
  | nil => simp at mem
  | cons kv rest ih =>
    obtain ⟨k, w⟩ := kv
    obtain ⟨above, sortedRest⟩ := sorted_cons.mp sorted
    rw [get?_cons]
    -- A later entry has a larger key than the head, so lookup passes the head.
    rcases List.mem_cons.mp mem with same | later
    · cases same
      simp
    · have differ : k ≠ key := ne_of_lt (above _ later)
      rw [if_neg differ]
      exact ih sortedRest later

/-- Fields are empty exactly when no key is found. -/
theorem eq_nil_iff (fs : Fields) : fs = [] ↔ ∀ key, fs.get? key = none := by
  constructor
  · rintro rfl key
    rfl
  · intro missing
    cases fs with
    | nil => rfl
    | cons kv rest =>
      obtain ⟨k, v⟩ := kv
      -- The head's own key would be found.
      simpa [get?_cons] using missing k

@[simp] theorem get?_insert (fs : Fields) (k key : String) (v : Json) :
    (Fields.insert fs k v).get? key = if k = key then some v else fs.get? key := by
  induction fs with
  | nil => simp [Fields.insert, get?_cons]
  | cons kv rest ih =>
    obtain ⟨k', w⟩ := kv
    simp only [Fields.insert]
    -- The new key goes before a larger head, replaces an equal one, or goes further on.
    split
    · simp [get?_cons]
    · split
      · rename_i same
        have : k = k' := by simpa using same
        subst this
        -- The head is replaced by the new value under the same key.
        by_cases here : k = key <;> simp [get?_cons, here]
      -- The head is kept before the insertion point.
      · by_cases here : k' = key
        · subst here
          have differ : k ≠ k' := by simpa using ‹¬(k == k') = true›
          simp [get?_cons, differ]
        · simp [get?_cons, here, ih]

theorem mem_insert {fs : Fields} {k : String} {v : Json} {a : String × Json}
    (mem : a ∈ Fields.insert fs k v) : a = (k, v) ∨ a ∈ fs := by
  induction fs with
  | nil => simpa [Fields.insert] using mem
  | cons kv rest ih =>
    simp only [Fields.insert] at mem
    -- The insertion point is before, at or after the head.
    split at mem
    · simpa using mem
    · split at mem
      · rcases List.mem_cons.mp mem with same | later
        · exact .inl same
        · exact .inr (List.mem_cons_of_mem _ later)
      · rcases List.mem_cons.mp mem with same | later
        · exact .inr (same ▸ List.mem_cons_self)
        · exact (ih later).imp id (List.mem_cons_of_mem _)

theorem Sorted.insert {fs : Fields} (sorted : fs.Sorted) (k : String) (v : Json) :
    (Fields.insert fs k v).Sorted := by
  induction fs with
  | nil => simp [Fields.insert, Sorted]
  | cons kv rest ih =>
    obtain ⟨k', w⟩ := kv
    obtain ⟨above, sortedRest⟩ := sorted_cons.mp sorted
    simp only [Fields.insert]
    -- The new key is below the head, equal to it, or above it.
    split
    · rename_i below
      -- Put in front, it is below every key, the head's included.
      refine sorted_cons.mpr ⟨?_, sorted⟩
      intro a mem
      rcases List.mem_cons.mp mem with same | later
      · simpa [same] using below
      · exact lt_trans below (above a later)
    · split
      · rename_i same
        have same : k = k' := by simpa using same
        subst same
        exact sorted_cons.mpr ⟨above, sortedRest⟩
      · rename_i notBelow differ
        -- Put after the head, it is above the head's key.
        have after : k' < k :=
          lt_of_le_of_ne (not_lt.mp notBelow) fun same => differ (by simp [same])
        refine sorted_cons.mpr ⟨fun a mem => ?_, ih sortedRest⟩
        rcases mem_insert mem with same | later
        · simpa [same] using after
        · exact above a later

theorem erase_sublist (fs : Fields) (k : String) : (Fields.erase fs k).Sublist fs := by
  induction fs with
  | nil => exact List.Sublist.slnil
  | cons kv rest ih =>
    simp only [Fields.erase]
    -- The key is dropped at its first place, the rest kept.
    split
    · exact List.sublist_cons_self _ _
    · exact ih.cons_cons _

theorem Sorted.erase {fs : Fields} (sorted : fs.Sorted) (k : String) :
    (Fields.erase fs k).Sorted :=
  List.Pairwise.sublist (erase_sublist fs k) sorted

/-- Dropping a key leaves the other keys as they were; in ascending fields the key itself is
then absent. -/
theorem Sorted.get?_erase {fs : Fields} (sorted : fs.Sorted) (k key : String) :
    (Fields.erase fs k).get? key = if k = key then none else fs.get? key := by
  induction fs with
  | nil => simp [Fields.erase]
  | cons kv rest ih =>
    obtain ⟨k', w⟩ := kv
    obtain ⟨above, sortedRest⟩ := sorted_cons.mp sorted
    simp only [Fields.erase, beq_iff_eq]
    -- The head is dropped when it has the key; no later entry does in sorted fields.
    split
    · rename_i same
      subst same
      split
      · rename_i same
        subst same
        -- Every later key is larger than the dropped one.
        exact get?_eq_none_iff.mpr fun v mem => lt_irrefl _ (above _ mem)
      · simp [get?_cons, *]
    · rename_i differ
      by_cases here : k' = key
      · subst here
        simp [get?_cons, Ne.symm differ]
      · simp [get?_cons, here, ih sortedRest]

/-- Dropping a key leaves every other key as it was, whatever the order of the fields. -/
theorem get?_erase_of_ne (fs : Fields) {k key : String} (differ : k ≠ key) :
    (Fields.erase fs k).get? key = fs.get? key := by
  induction fs with
  | nil => rfl
  | cons kv rest ih =>
    obtain ⟨k', w⟩ := kv
    simp only [Fields.erase, beq_iff_eq]
    -- Dropping another key keeps the lookup of this one.
    split
    · rename_i same
      subst same
      simp [get?_cons, differ]
    · by_cases here : k' = key <;> simp [get?_cons, here, ih]

theorem Sorted.keys_nodup {fs : Fields} (sorted : fs.Sorted) : fs.keys.Nodup := by
  unfold keys
  exact List.Pairwise.map _ (fun _ _ => ne_of_lt) sorted

end Fields

namespace Json

/-- What merging one patch entry does to a field: no entry keeps it, a null entry deletes it,
and any other entry merges into its value (null when absent). -/
def mergeAt (target : Option Json) : Option Json → Option Json
  | none => target
  | some .null => none
  | some v => some ((target.getD .null).mergePatch v)

@[simp] theorem mergeAt_none (target : Option Json) : mergeAt target none = target := by
  cases target <;> rfl

/-- The fields after one patch entry: a null drops the key, anything else is merged into the
key's value. -/
def mergeEntry (fs : Fields) (k : String) (v : Json) : Fields :=
  match v with
  | .null => Fields.erase fs k
  | _ => Fields.insert fs k (((Fields.get? fs k).getD .null).mergePatch v)

theorem mergeFields_cons (fs : Fields) (k : String) (v : Json) (rest : Fields) :
    mergeFields fs ((k, v) :: rest) = mergeFields (mergeEntry fs k v) rest := by
  cases v <;> rfl

end Json

namespace Fields

theorem Sorted.mergeEntry {fs : Fields} (sorted : fs.Sorted) (k : String) (v : Json) :
    (Json.mergeEntry fs k v).Sorted := by
  cases v <;> first | exact sorted.erase k | exact sorted.insert _ _

theorem Sorted.mergeFields {fs : Fields} (sorted : fs.Sorted) (p : Fields) :
    (Json.mergeFields fs p).Sorted := by
  induction p generalizing fs with
  | nil => simpa [Json.mergeFields] using sorted
  | cons kv rest ih =>
    obtain ⟨k, v⟩ := kv
    rw [Json.mergeFields_cons]
    exact ih (sorted.mergeEntry k v)

end Fields

namespace Json

/-- The lookup after one patch entry into ascending fields: `mergeAt` at that key, and the
other keys as they were. -/
theorem get?_mergeEntry {fs : Fields} (sorted : fs.Sorted) (k key : String) (v : Json) :
    (mergeEntry fs k v).get? key = if k = key then mergeAt (fs.get? key) (some v) else fs.get? key := by
  -- A null patch value drops the key; any other is merged and inserted.
  cases v <;> by_cases here : k = key <;>
    simp [mergeEntry, sorted.get?_erase, here, mergeAt]

/-- Merging a patch with no key twice into ascending fields acts key by key. -/
theorem mergeFields_get? {fs : Fields} (sorted : fs.Sorted) {p : Fields} (unique : p.keys.Nodup)
    (key : String) : (mergeFields fs p).get? key = mergeAt (fs.get? key) (p.get? key) := by
  induction p generalizing fs with
  | nil => simp [Json.mergeFields]
  | cons kv rest ih =>
    obtain ⟨k, v⟩ := kv
    have uniqueRest : (Fields.keys rest).Nodup := (List.nodup_cons.mp unique).2
    rw [mergeFields_cons, ih (sorted.mergeEntry k v) uniqueRest, get?_mergeEntry sorted,
      Fields.get?_cons]
    by_cases here : k = key
    · subst here
      -- The key is not in the rest of the patch, so its entry is the last word.
      have absent : Fields.get? rest k = none := Fields.get?_eq_none_iff.mpr fun w mem =>
        (List.nodup_cons.mp unique).1 (List.mem_map.mpr ⟨(k, w), mem, rfl⟩)
      simp [absent]
    · simp [here]

/-- A patch entry at another key leaves a field as it was. -/
theorem get?_mergeEntry_of_ne (fs : Fields) {k key : String} (v : Json) (differ : k ≠ key) :
    (mergeEntry fs k v).get? key = fs.get? key := by
  -- Both the drop and the insert are at another key.
  cases v <;> simp [mergeEntry, Fields.get?_erase_of_ne _ differ, differ]

/-- A key that no entry of a patch names keeps its value, whatever the order of the fields. -/
theorem get?_mergeFields_of_not_mem (fs : Fields) {p : Fields} {key : String} (absent : key ∉ p.keys) :
    (mergeFields fs p).get? key = fs.get? key := by
  induction p generalizing fs with
  | nil => rfl
  | cons kv rest ih =>
    obtain ⟨k, v⟩ := kv
    -- The key is neither the head's nor in the rest of the patch.
    simp only [Fields.keys, List.map_cons, List.mem_cons, not_or] at absent
    rw [mergeFields_cons, ih _ absent.2, get?_mergeEntry_of_ne _ _ (Ne.symm absent.1)]

end Json

end MeshControl
