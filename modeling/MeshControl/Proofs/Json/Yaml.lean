import MeshControl.Resource.Meta
import MeshControl.Proofs.Json.Canonical

/-! Canonical JSON values survive the trip through YAML that every typed reader takes: their
YAML holds no tags and converts back to the value itself. -/

namespace MeshControl

namespace Fields

/-- A key above every key present goes at the end. -/
theorem insert_of_above {fs : Fields} {k : String} (v : Json) (above : ∀ a ∈ fs, a.1 < k) :
    Fields.insert fs k v = fs ++ [(k, v)] := by
  induction fs with
  | nil => rfl
  | cons kv rest ih =>
    obtain ⟨k', w⟩ := kv
    -- The new key is above the head, so insertion walks past it.
    have below : k' < k := above _ List.mem_cons_self
    have notBelow : ¬k < k' := not_lt.mpr (le_of_lt below)
    have differ : (k == k') = false := by simpa using (ne_of_lt below).symm
    simp only [Fields.insert, notBelow, if_false, differ, Bool.false_eq_true, List.cons_append]
    rw [ih fun a mem => above a (List.mem_cons_of_mem _ mem)]

/-- Ascending pairs build the same fields back. -/
theorem ofList_of_sorted {fs : Fields} (sorted : fs.Sorted) : Fields.ofList fs = fs := by
  -- Fields are stored one by one, each above all stored before it.
  have general : ∀ (acc rest : Fields), (acc ++ rest).Sorted →
      rest.foldl (fun acc kv => Fields.insert acc kv.1 kv.2) acc = acc ++ rest := by
    intro acc rest
    induction rest generalizing acc with
    | nil => simp
    | cons kv rest ih =>
      intro ascending
      have above : ∀ a ∈ acc, a.1 < kv.1 := fun a mem =>
        (List.pairwise_append.mp ascending).2.2 a mem kv List.mem_cons_self
      rw [List.foldl_cons, insert_of_above kv.2 above, ih]
      · simp
      · simpa using ascending
  -- Building from the empty fields is the case with nothing stored yet.
  simpa [Fields.ofList] using general [] fs (by simpa using sorted)

end Fields

namespace Json

theorem itemsToYaml_eq (items : List Json) : itemsToYaml items = items.map toYaml := by
  induction items with
  | nil => rfl
  | cons x rest ih => simp [itemsToYaml, ih]

theorem fieldsToYaml_eq (fields : Fields) :
    fieldsToYaml fields = fields.map fun kv => (Yaml.str kv.1, toYaml kv.2) := by
  induction fields with
  | nil => rfl
  | cons kv rest ih =>
    obtain ⟨k, v⟩ := kv
    simp [fieldsToYaml, ih]

theorem tagFreeItems_iff (items : List Yaml) :
    Yaml.tagFreeItems items = true ↔ ∀ x ∈ items, x.tagFree = true := by
  induction items with
  | nil => simp [Yaml.tagFreeItems]
  | cons x rest ih => simp [Yaml.tagFreeItems, ih]

theorem tagFreeEntries_iff (entries : List (Yaml × Yaml)) :
    Yaml.tagFreeEntries entries = true ↔ ∀ e ∈ entries, e.1.tagFree = true ∧ e.2.tagFree = true := by
  induction entries with
  | nil => simp [Yaml.tagFreeEntries]
  | cons e rest ih =>
    obtain ⟨k, x⟩ := e
    simp [Yaml.tagFreeEntries, ih, and_assoc]

/-- The YAML value of a JSON value holds no tagged value. -/
@[simp] theorem tagFree_toYaml (j : Json) : j.toYaml.tagFree = true := by
  induction j with
  | arr items ih =>
    -- Every item is converted as it is, with no tag added.
    simp only [toYaml, Yaml.tagFree, tagFreeItems_iff, itemsToYaml_eq, List.mem_map]
    rintro _ ⟨x, mem, rfl⟩
    exact ih x mem
  | obj fields ih =>
    -- Keys become plain strings, values are converted as they are.
    simp only [toYaml, Yaml.tagFree, tagFreeEntries_iff, fieldsToYaml_eq, List.mem_map]
    rintro _ ⟨kv, mem, rfl⟩
    exact ⟨rfl, ih kv mem⟩
  | _ => rfl

theorem itemsToJson_itemsToYaml {items : List Json} (each : ∀ x ∈ items, x.toYaml.toJson = .ok x) :
    Yaml.itemsToJson (itemsToYaml items) = .ok items := by
  induction items with
  | nil => rfl
  | cons x rest ih =>
    have restOk := ih fun y mem => each y (List.mem_cons_of_mem _ mem)
    simp [itemsToYaml, Yaml.itemsToJson, each x List.mem_cons_self, restOk, bind, Except.bind,
      pure, Except.pure]

theorem entriesToJson_fieldsToYaml {fields : Fields} (i : Nat)
    (each : ∀ kv ∈ fields, kv.2.toYaml.toJson = .ok kv.2) :
    Yaml.entriesToJson i (fieldsToYaml fields) = .ok fields := by
  induction fields generalizing i with
  | nil => rfl
  | cons kv rest ih =>
    obtain ⟨k, v⟩ := kv
    have restOk := ih (i + 1) fun y mem => each y (List.mem_cons_of_mem _ mem)
    simp [fieldsToYaml, Yaml.entriesToJson, each (k, v) List.mem_cons_self, restOk, bind,
      Except.bind, pure, Except.pure]

/-- A canonical value converts back from its YAML value: numbers are finite and object keys
already ascend. -/
theorem toYaml_toJson {j : Json} (canonical : j.Canonical) : j.toYaml.toJson = .ok j := by
  induction j with
  | null => rfl
  | bool b => rfl
  | num n =>
    cases n with
    | int i => rfl
    | float f =>
      -- A finite double stays a number; only NaN and the infinities become null.
      obtain ⟨notNaN, notInf, -⟩ := canonical
      simp only [toYaml, Yaml.toJson, notNaN, notInf, Bool.or_false, Bool.false_eq_true, if_false]
  | str s => rfl
  | arr items ih =>
    -- Every item converts back, so the list does.
    rw [canonical_arr] at canonical
    have converted := itemsToJson_itemsToYaml fun x mem => ih x mem (canonical x mem)
    simp [toYaml, Yaml.toJson, converted, bind, Except.bind, pure, Except.pure]
  | obj fields ih =>
    -- Every value converts back, and ascending keys rebuild the same object.
    obtain ⟨sorted, values⟩ := (canonical_obj fields).mp canonical
    have converted := entriesToJson_fieldsToYaml 0 fun kv mem => ih kv mem (values kv mem)
    simp [toYaml, Yaml.toJson, converted, bind, Except.bind, pure, Except.pure, mkObj,
      Fields.ofList_of_sorted sorted]

end Json

end MeshControl
