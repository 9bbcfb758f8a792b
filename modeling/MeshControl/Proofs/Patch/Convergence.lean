import MeshControl.Patch
import MeshControl.Proofs.Json.Canonical

/-! Three-way merge patches converge: merged into the live fields, a patch leaves nothing for the
next one to do, against any last-applied configuration the desired fields keep whole. -/

namespace MeshControl

mutual
/-- Whether `desired` keeps every field of `original`: each field of an original object is a
field of the desired object, and field values and array items pair up the same way. -/
def dropsNothing : Option Json → Json → Bool
  | some (.obj o), .obj d => o.all (fun kv => Fields.contains d kv.1) && keptEntries o d
  | some (.arr o), .arr d => keptItems o 0 d
  | _, _ => true

/-- Whether each desired field keeps the original value of its key. -/
def keptEntries (o : Fields) : List (String × Json) → Bool
  | [] => true
  | (k, dv) :: rest => dropsNothing (o.get? k) dv && keptEntries o rest

/-- Whether each desired item keeps the original item at its position, counted from `i`. -/
def keptItems (o : List Json) (i : Nat) : List Json → Bool
  | [] => true
  | dv :: rest => dropsNothing o[i]? dv && keptItems o (i + 1) rest
end

/-- Desired fields keep the original fields `o`: every original key is desired, and every
desired value keeps the original value of its key. -/
def FieldsKept (o : Option Fields) (d : Fields) : Prop :=
  (∀ k, (fieldAt? o k).isSome → d.contains k) ∧ ∀ kv ∈ d, dropsNothing (fieldAt? o kv.1) kv.2

theorem keptEntries_iff (o : Fields) (d : Fields) :
    keptEntries o d = true ↔ ∀ kv ∈ d, dropsNothing (o.get? kv.1) kv.2 = true := by
  induction d with
  | nil => simp [keptEntries]
  | cons kv rest ih =>
    obtain ⟨k, dv⟩ := kv
    simp [keptEntries, ih]

theorem keptItems_iff (o : List Json) (i : Nat) (d : List Json) :
    keptItems o i d = true ↔ ∀ n dv, d[n]? = some dv → dropsNothing o[i + n]? dv = true := by
  induction d generalizing i with
  | nil => simp [keptItems]
  | cons dv rest ih =>
    simp only [keptItems, Bool.and_eq_true, ih]
    -- The first item checks at position i, the rest from the next position.
    constructor
    · rintro ⟨here, later⟩ (_ | n) x found
      · cases found
        exact here
      · simpa [Nat.add_assoc, Nat.add_comm 1 n] using later n x found
    · intro each
      exact ⟨each 0 dv rfl, fun n x found => by
        simpa [Nat.add_assoc, Nat.add_comm 1 n] using each (n + 1) x found⟩

@[simp] theorem dropsNothing_none (d : Json) : dropsNothing none d = true := by
  cases d <;> rfl

/-- An original that is no object leaves desired fields nothing to keep. -/
theorem dropsNothing_obj_iff (a : Option Json) (d : Fields) :
    dropsNothing a (.obj d) = true ↔ FieldsKept (a.bind Json.fields?) d := by
  -- Only an original object has fields for the desired ones to keep.
  rcases a with _ | (_ | _ | _ | _ | _ | o) <;>
    simp [dropsNothing, FieldsKept, fieldAt?, Json.fields?, keptEntries_iff]
  intro _
  constructor
  · intro keys k found
    obtain ⟨v, found⟩ := Option.isSome_iff_exists.mp found
    exact keys k v (Fields.mem_of_get? found)
  · intro keys k v mem
    exact keys k (Fields.get?_isSome_of_mem mem)

/-- An original that is no array leaves desired items nothing to keep. -/
theorem dropsNothing_arr_iff (a : Option Json) (d : List Json) :
    dropsNothing a (.arr d) = true ↔
      ∀ n dv, d[n]? = some dv → dropsNothing (itemAt? (a.bind Json.items?) n) dv = true := by
  rcases a with _ | (_ | _ | _ | _ | o | _) <;>
    simp [dropsNothing, itemAt?, Json.items?, keptItems_iff]

/-- Desired fields are covered key by key: each one absent from the live fields is null, and
each one present is null on both sides or covered. -/
theorem coversFields_iff (o : Option Fields) (l : Fields) (d : Fields) :
    coversFields o l d = true ↔ ∀ kv ∈ d,
      (l.get? kv.1 = none → kv.2.isNull = true) ∧
      ∀ lv, l.get? kv.1 = some lv →
        (kv.2.isNull = true ∧ lv.isNull = true) ∨ covers (fieldAt? o kv.1) lv kv.2 = true := by
  induction d with
  | nil => simp [coversFields]
  | cons kv rest ih =>
    obtain ⟨k, w⟩ := kv
    -- A desired key absent from the live fields must be null to be covered.
    cases found : l.get? k <;> simp [coversFields, ih, found]

/-- Items are covered position by position, as far as the live items go. -/
theorem coversItems_iff (o : Option (List Json)) (i : Nat) (l d : List Json) :
    coversItems o i l d = true ↔
      ∀ n lv dv, l[n]? = some lv → d[n]? = some dv → covers (itemAt? o (i + n)) lv dv = true := by
  induction d generalizing i l with
  | nil => simp [coversItems]
  | cons dv rest ih =>
    -- Items past the end of the live array are not checked.
    cases l with
    | nil => simp [coversItems]
    | cons lv ls =>
      simp only [coversItems, Bool.and_eq_true, ih]
      constructor
      · rintro ⟨here, later⟩ (_ | n) x y foundLive foundDesired
        · cases foundLive
          cases foundDesired
          exact here
        · simpa [Nat.add_assoc, Nat.add_comm 1 n] using later n x y foundLive foundDesired
      · intro each
        exact ⟨each 0 lv dv rfl rfl, fun n x y foundLive foundDesired => by
          simpa [Nat.add_assoc, Nat.add_comm 1 n] using each (n + 1) x y foundLive foundDesired⟩

theorem covers_obj (a : Option Json) (l d : Fields) :
    covers a (.obj l) (.obj d) = true ↔ coversFields (a.bind Json.fields?) l d = true ∧
      ∀ k, (fieldAt? (a.bind Json.fields?) k).isSome → d.contains k = true ∨ l.contains k = false := by
  simp only [covers, Bool.and_eq_true]
  -- Without a last-applied object no field can have been dropped.
  cases a.bind Json.fields? with
  | none => simp [fieldAt?]
  | some ofs =>
    simp only [List.all_eq_true, Bool.or_eq_true, Bool.not_eq_true', fieldAt?, Option.bind_some]
    constructor
    · rintro ⟨fields, dropped⟩
      refine ⟨fields, fun k found => ?_⟩
      obtain ⟨v, found⟩ := Option.isSome_iff_exists.mp found
      exact dropped (k, v) (Fields.mem_of_get? found)
    · rintro ⟨fields, dropped⟩
      exact ⟨fields, fun kv mem => dropped kv.1 (Fields.get?_isSome_of_mem mem)⟩

theorem covers_arr (a : Option Json) (l d : List Json) :
    covers a (.arr l) (.arr d) = true ↔ d.length = l.length ∧ coversItems (a.bind Json.items?) 0 l d = true := by
  simp [covers]

/-- Covering only gets easier as the last-applied value loses fields: it checks that fields
dropped since then are gone, and a last-applied value the desired one keeps whole has no
such fields. -/
theorem covers_mono {a a' : Option Json} {x d : Json} (covered : covers a x d = true)
    (kept : dropsNothing a' d = true) : covers a' x d = true := by
  induction d generalizing a a' x with
  | obj d ih =>
    cases x with
    | obj l =>
      -- The kept original's keys are all desired, so none counts as dropped.
      rw [covers_obj] at covered ⊢
      obtain ⟨fieldsCovered, -⟩ := covered
      obtain ⟨keys, values⟩ := (dropsNothing_obj_iff a' d).mp kept
      refine ⟨?_, fun k found => .inl (keys k found)⟩
      rw [coversFields_iff] at fieldsCovered ⊢
      intro kv mem
      obtain ⟨absent, present⟩ := fieldsCovered kv mem
      exact ⟨absent, fun lv found => (present lv found).imp id fun c => ih kv mem c (values kv mem)⟩
    | _ => simp [covers] at covered
  | arr d ih =>
    cases x with
    | arr l =>
      -- Items are covered at each position, each by induction.
      rw [covers_arr] at covered ⊢
      obtain ⟨sameLength, itemsCovered⟩ := covered
      refine ⟨sameLength, ?_⟩
      rw [coversItems_iff] at itemsCovered ⊢
      intro n lv dv foundLive foundDesired
      have keptItem := (dropsNothing_arr_iff a' d).mp kept n dv foundDesired
      simpa using ih dv (List.mem_of_getElem? foundDesired)
        (by simpa using itemsCovered n lv dv foundLive foundDesired) keptItem
    | _ => simp [covers] at covered
  -- Scalars are compared without the last-applied value.
  | null => simpa [covers] using covered
  | bool => simpa [covers] using covered
  | num => simpa [covers] using covered
  | str => simpa [covers] using covered

/-- A canonical value covers itself, against any last-applied value it keeps whole. -/
theorem covers_self {a : Option Json} {d : Json} (canonical : d.Canonical)
    (kept : dropsNothing a d = true) : covers a d d = true := by
  induction d generalizing a with
  | obj d ih =>
    -- Each desired field is live with its own value, which covers itself.
    obtain ⟨sorted, values⟩ := (Json.canonical_obj d).mp canonical
    obtain ⟨keys, keptValues⟩ := (dropsNothing_obj_iff a d).mp kept
    rw [covers_obj]
    refine ⟨?_, fun k found => .inl (keys k found)⟩
    rw [coversFields_iff]
    intro kv mem
    have found : Fields.get? d kv.1 = some kv.2 := sorted.get?_of_mem mem
    refine ⟨fun absent => by simp [found] at absent, fun lv present => .inr ?_⟩
    rw [found] at present
    cases present
    exact ih kv mem (values kv mem) (keptValues kv mem)
  | arr d ih =>
    -- Each desired item is live at its own position.
    rw [Json.canonical_arr] at canonical
    rw [covers_arr]
    refine ⟨rfl, ?_⟩
    rw [coversItems_iff]
    intro n lv dv foundLive foundDesired
    obtain rfl : dv = lv := Option.some.inj (foundDesired.symm.trans foundLive)
    have mem := List.mem_of_getElem? foundDesired
    simpa using ih dv mem (canonical dv mem) ((dropsNothing_arr_iff a d).mp kept n dv foundDesired)
  | null => rfl
  -- A canonical scalar equals itself.
  | bool => simpa [covers] using canonical.beq_self
  | num => simpa [covers] using canonical.beq_self
  | str => simpa [covers] using canonical.beq_self

/-! ### The diff, key by key -/

theorem insert_ne_nil (fs : Fields) (k : String) (v : Json) : Fields.insert fs k v ≠ [] := by
  -- An insertion always leaves at least the key inserted.
  cases fs with
  | nil => simp [Fields.insert]
  | cons kv rest =>
    simp only [Fields.insert]
    split
    · simp
    · split <;> simp

/-- The entries of the desired fields are empty exactly when no desired field needs one. -/
theorem diffEntries_eq_nil_iff (o c : Option Fields) (w : Fields) :
    diffEntries o c w = [] ↔ ∀ kv ∈ w, valuePatch (fieldAt? o kv.1) (fieldAt? c kv.1) kv.2 = none := by
  induction w with
  | nil => simp [diffEntries]
  | cons kv rest ih =>
    obtain ⟨k, wanted⟩ := kv
    simp only [diffEntries, List.forall_mem_cons]
    -- A field with an entry makes the entries non-empty.
    cases valuePatch (fieldAt? o k) (fieldAt? c k) wanted with
    | none => simp [ih]
    | some entry => simp [insert_ne_nil]

/-- The entry of a desired key that is there once is the patch of its value. -/
theorem diffEntries_get? (o c : Option Fields) {w : Fields} (unique : w.keys.Nodup) (k : String) :
    (diffEntries o c w).get? k = (Fields.get? w k).bind (valuePatch (fieldAt? o k) (fieldAt? c k)) := by
  induction w with
  | nil => rfl
  | cons kv rest ih =>
    obtain ⟨k', wanted⟩ := kv
    have uniqueRest : (Fields.keys rest).Nodup := (List.nodup_cons.mp unique).2
    simp only [diffEntries, Fields.get?_cons]
    -- The head's key is found at once; its entry is there only when patched.
    by_cases here : k' = k
    · subst here
      have absent : Fields.get? rest k' = none := Fields.get?_eq_none_iff.mpr fun v mem =>
        (List.nodup_cons.mp unique).1 (List.mem_map.mpr ⟨(k', v), mem, rfl⟩)
      cases patched : valuePatch (fieldAt? o k') (fieldAt? c k') wanted with
      | none => simp [ih uniqueRest, absent, patched]
      | some entry => simp [patched]
    -- Another head leaves the lookup to the rest.
    · cases valuePatch (fieldAt? o k') (fieldAt? c k') wanted with
      | none => simp [ih uniqueRest, here]
      | some entry => simp [ih uniqueRest, here]

theorem Sorted.diffEntries (o c : Option Fields) (w : Fields) : (MeshControl.diffEntries o c w).Sorted := by
  induction w with
  | nil => exact Fields.sorted_nil
  | cons kv rest ih =>
    obtain ⟨k, wanted⟩ := kv
    simp only [MeshControl.diffEntries]
    -- Each entry is inserted into sorted entries.
    cases valuePatch (fieldAt? o k) (fieldAt? c k) wanted with
    | none => exact ih
    | some entry => exact ih.insert k entry

/-- Whether the fields of an optional object hold a key. -/
theorem contains_getD (c : Option Fields) (k : String) :
    (c.map (Fields.contains · k)).getD false = (fieldAt? c k).isSome := by
  cases c <;> rfl

/-- Storing a null under each key of `ofs` that `drop` picks. -/
theorem foldl_insertNull_get? (drop : String → Bool) (ofs written : Fields) (k : String) :
    (ofs.foldl (fun acc kv => if drop kv.1 then Fields.insert acc kv.1 .null else acc) written).get? k =
      if (Fields.get? ofs k).isSome && drop k then some .null else written.get? k := by
  induction ofs generalizing written with
  | nil => simp
  | cons kv rest ih =>
    obtain ⟨k', v⟩ := kv
    rw [List.foldl_cons, ih, Fields.get?_cons]
    -- The key's null goes in only when it is in the original and picked.
    by_cases here : k' = k
    · subst here
      cases drop k' <;> simp
    · have step : (if drop k' = true then Fields.insert written k' .null else written).get? k =
          written.get? k := by
        split <;> simp [here]
      simp [here, step]

/-- A null goes in for each key last applied, no longer desired and still live; the other keys
keep the entries written. -/
theorem nullDropped_get? (o c : Option Fields) (w written : Fields) (k : String) :
    (nullDropped o c w written).get? k =
      if (fieldAt? o k).isSome && !w.contains k && (fieldAt? c k).isSome then some .null
      else written.get? k := by
  -- Without a last-applied object nothing is dropped.
  cases o with
  | none => simp [nullDropped, fieldAt?]
  | some ofs =>
    have fold := foldl_insertNull_get?
      (fun k => !w.contains k && (c.map (Fields.contains · k)).getD false) ofs written k
    simp only [contains_getD] at fold
    simpa [nullDropped, fieldAt?, Bool.and_assoc, contains_getD] using fold

theorem Sorted.nullDropped (o c : Option Fields) (w : Fields) {written : Fields}
    (sorted : written.Sorted) : (MeshControl.nullDropped o c w written).Sorted := by
  cases o with
  | none => exact sorted
  | some ofs =>
    simp only [MeshControl.nullDropped]
    induction ofs generalizing written with
    | nil => exact sorted
    | cons kv rest ih =>
      rw [List.foldl_cons]
      apply ih
      -- Each null is inserted into sorted fields.
      split
      · exact sorted.insert _ _
      · exact sorted

theorem Sorted.diffObject (o c : Option Fields) (w : Fields) : (MeshControl.diffObject o c w).Sorted :=
  Sorted.nullDropped o c w (Sorted.diffEntries o c w)

/-- The patch between fields is empty exactly when every desired field is met and no field
last applied and no longer desired is live. -/
theorem diffObject_eq_nil_iff (o c : Option Fields) (w : Fields) :
    diffObject o c w = [] ↔
      (∀ kv ∈ w, valuePatch (fieldAt? o kv.1) (fieldAt? c kv.1) kv.2 = none) ∧
      ∀ k, (fieldAt? o k).isSome → (fieldAt? c k).isSome → w.contains k = true := by
  rw [← diffEntries_eq_nil_iff, diffObject, Fields.eq_nil_iff, Fields.eq_nil_iff]
  simp only [nullDropped_get?]
  constructor
  -- No entry anywhere: every field is met, and no dropped field is live.
  · intro missing
    refine ⟨fun k => ?_, fun k lastApplied live => ?_⟩
    · have := missing k
      split at this
      · cases this
      · exact this
    · have := missing k
      by_contra notDesired
      simp only [lastApplied, live, Bool.true_and, Bool.and_true, Bool.not_eq_true'] at this
      rw [if_pos (by simpa using notDesired)] at this
      cases this
  -- Every field met and no dropped field live: no entry anywhere.
  · rintro ⟨entries, dropped⟩ k
    have notDropped : ¬((fieldAt? o k).isSome && !w.contains k && (fieldAt? c k).isSome) = true := by
      intro both
      simp only [Bool.and_eq_true, Bool.not_eq_true'] at both
      simp [dropped k both.1.1 both.2] at both
    rw [if_neg notDropped]
    exact entries k

/-- The entry of a key of the patch between fields with no desired key twice. -/
theorem diffObject_get? (o c : Option Fields) {w : Fields} (unique : w.keys.Nodup) (k : String) :
    (diffObject o c w).get? k =
      if (fieldAt? o k).isSome && !w.contains k && (fieldAt? c k).isSome then some .null
      else (Fields.get? w k).bind (valuePatch (fieldAt? o k) (fieldAt? c k)) := by
  rw [diffObject, nullDropped_get?, diffEntries_get? o c unique]

/-! ### Patches of one value -/

theorem valuePatch_eq_none_obj_obj (a : Option Json) (l w : Fields) :
    valuePatch a (some (.obj l)) (.obj w) = none ↔ diffObject (a.bind Json.fields?) (some l) w = [] := by
  simp only [valuePatch, diffObject]
  -- An empty sub-patch means no entry for the object.
  split <;> simp_all

theorem valuePatch_null (a lv : Option Json) :
    valuePatch a lv .null = if lv.all Json.isNull then none else some .null := by
  rcases lv with _ | (_ | _ | _ | _ | _ | _) <;> rfl

theorem mergeAt_some (target : Option Json) (v : Json) :
    Json.mergeAt target (some v) = if v.isNull then none else some ((target.getD .null).mergePatch v) := by
  cases v <;> rfl

theorem mergePatch_obj (t : Json) (w : Fields) :
    t.mergePatch (.obj w) = .obj (Json.mergeFields (t.fields?.getD []) w) := by
  cases t <;> rfl

theorem mergePatch_of_not_obj (t : Json) {v : Json} (notObj : v.isObj = false) : t.mergePatch v = v := by
  cases v <;> simp_all [Json.mergePatch, Json.isObj]

theorem eq_null_of_isNull {v : Json} (isNull : v.isNull = true) : v = .null := by
  cases v <;> simp_all [Json.isNull]

/-- The fields of a canonical value, none when it is no object, are canonical fields. -/
theorem Json.Canonical.fieldsD {t : Json} (canonical : t.Canonical) :
    Json.Canonical (.obj (t.fields?.getD [])) := by
  -- Only an object has fields.
  cases t with
  | obj fields => simpa [Json.fields?] using canonical
  | _ => simp [Json.fields?]

theorem Json.Canonical.getD {t : Option Json} (canonical : ∀ x ∈ t, x.Canonical) :
    (t.getD .null).Canonical := by
  cases t <;> simp_all

/-- Being met only gets easier as the last-applied value loses fields. -/
theorem valuePatch_eq_none_mono {a a' lv : Option Json} {wanted : Json}
    (met : valuePatch a lv wanted = none) (kept : dropsNothing a' wanted = true) :
    valuePatch a' lv wanted = none := by
  induction wanted generalizing a a' lv with
  | obj w ih =>
    -- A missing live value is never met by an object.
    cases lv with
    | none => simp [valuePatch] at met
    | some x =>
      cases x with
      | obj l =>
        rw [valuePatch_eq_none_obj_obj] at met ⊢
        obtain ⟨entries, dropped⟩ := (diffObject_eq_nil_iff _ _ _).mp met
        obtain ⟨keys, values⟩ := (dropsNothing_obj_iff a' w).mp kept
        exact (diffObject_eq_nil_iff _ _ _).mpr
          ⟨fun kv mem => ih kv mem (entries kv mem) (values kv mem), fun k found _ => keys k found⟩
      -- A live scalar under a desired object is never met.
      | _ => simpa [valuePatch] using met
  | arr w =>
    rcases lv with _ | x
    · simp [valuePatch] at met
    · -- An equal live array is met whatever was applied; a covering one stays covering.
      simp only [valuePatch] at met ⊢
      cases equal : (Json.arr w).beq x
      · have covered : (x.isArr && covers a x (.arr w)) = true := by
          by_contra notCovered
          simp [notCovered, equal] at met
        simp only [Bool.and_eq_true] at covered
        simp [covered.1, covers_mono covered.2 kept]
      · simp
  -- Scalars and null are met without the last-applied value.
  | null => simpa [valuePatch_null] using met
  | bool => simpa [valuePatch] using met
  | num => simpa [valuePatch] using met
  | str => simpa [valuePatch] using met

/-- A field the patch wrote whole meets the desired value, whatever it was merged into: a
desired object merges its fields in, and anything else replaces the field. -/
theorem valuePatch_mergePatch {a' : Option Json} {wanted t : Json} (desired : wanted.Canonical)
    (target : t.Canonical) (kept : dropsNothing a' wanted = true) :
    valuePatch a' (some (t.mergePatch wanted)) wanted = none := by
  induction wanted generalizing a' t with
  | obj w ih =>
    -- A desired object is merged field by field; each field is met by induction.
    rw [mergePatch_obj, valuePatch_eq_none_obj_obj]
    obtain ⟨sorted, values⟩ := (Json.canonical_obj w).mp desired
    obtain ⟨targetSorted, targetValues⟩ := (Json.canonical_obj _).mp target.fieldsD
    obtain ⟨keys, keptValues⟩ := (dropsNothing_obj_iff a' w).mp kept
    refine (diffObject_eq_nil_iff _ _ _).mpr ⟨fun kv mem => ?_, fun k found _ => keys k found⟩
    -- The merged field is the desired value merged into the target's field.
    have merged : fieldAt? (some (Json.mergeFields (t.fields?.getD []) w)) kv.1 =
        Json.mergeAt (Fields.get? (t.fields?.getD []) kv.1) (some kv.2) := by
      rw [fieldAt?, Option.bind_some, Json.mergeFields_get? targetSorted sorted.keys_nodup,
        sorted.get?_of_mem mem]
    rw [merged, mergeAt_some]
    -- A null patch value drops the field, which a null desired value accepts.
    split
    · rename_i isNull
      rw [eq_null_of_isNull isNull, valuePatch_null]
      rfl
    · have targetField : ∀ x ∈ Fields.get? (t.fields?.getD []) kv.1, x.Canonical :=
        fun x found => targetValues (kv.1, x) (Fields.mem_of_get? found)
      exact ih kv mem (values kv mem) (Json.Canonical.getD targetField) (keptValues kv mem)
  | arr w =>
    -- An array replaces the target whole and covers itself.
    rw [mergePatch_of_not_obj t rfl]
    simp [valuePatch, Json.isArr, covers_self desired kept]
  | null => rfl
  -- A scalar replaces the target and equals itself.
  | bool => simp [Json.mergePatch, valuePatch, desired.beq_self]
  | num => simp [Json.mergePatch, valuePatch, desired.beq_self]
  | str => simp [Json.mergePatch, valuePatch, desired.beq_self]

/-- Unless both sides are objects, a patch entry is the desired value whole. -/
theorem valuePatch_whole {a lv : Option Json} {wanted x : Json}
    (notNested : ∀ l w, lv = some (.obj l) → wanted = .obj w → False)
    (patched : valuePatch a lv wanted = some x) : x = wanted := by
  cases wanted with
  -- An object patch meets a live value that is not an object by being written whole.
  | obj w =>
    rcases lv with _ | (_ | _ | _ | _ | _ | l)
    all_goals first
      | exact (notNested _ w rfl rfl).elim
      | (simp only [valuePatch] at patched; (try split at patched) <;> simp_all)
  | null =>
    -- A null entry is the null desired.
    rw [valuePatch_null] at patched
    split at patched <;> simp_all
  | arr w =>
    -- An array or scalar entry is always the desired value.
    rcases lv with _ | lv
    · simpa [valuePatch, eq_comm] using patched
    · simp only [valuePatch] at patched
      split at patched
      · cases patched
      · split at patched <;> simp_all
  | _ =>
    rcases lv with _ | lv
    · simpa [valuePatch, eq_comm] using patched
    · simp only [valuePatch] at patched
      split at patched <;> simp_all

/-- Where the patch writes the desired value whole, or nothing, the merged field meets it. -/
theorem valuePatch_mergeAt_whole {a a' lv : Option Json} {wanted : Json}
    (desired : wanted.Canonical) (live : ∀ x ∈ lv, x.Canonical) (kept : dropsNothing a' wanted = true)
    (whole : ∀ x, valuePatch a lv wanted = some x → x = wanted) :
    valuePatch a' (Json.mergeAt lv (valuePatch a lv wanted)) wanted = none := by
  -- No entry: the live value was met, and stays met.
  cases patched : valuePatch a lv wanted with
  | none => simpa using valuePatch_eq_none_mono patched kept
  | some x =>
    obtain rfl := whole x patched
    rw [mergeAt_some]
    -- A null entry deletes the field; anything else merges in whole.
    split
    · rename_i isNull
      rw [eq_null_of_isNull isNull, valuePatch_null]
      rfl
    · exact valuePatch_mergePatch desired (Json.Canonical.getD live) kept

/-- Merging the patch between fields into the live fields meets the desired ones, given that
each desired value is met once its own patch entry is merged in. -/
theorem diffObject_mergeFields_of {o o' : Option Fields} {l w : Fields}
    (live : Json.Canonical (.obj l)) (desired : Json.Canonical (.obj w)) (kept : FieldsKept o' w)
    (each : ∀ kv ∈ w, ∀ a a' lv, (∀ x ∈ lv, x.Canonical) → dropsNothing a' kv.2 = true →
      valuePatch a' (Json.mergeAt lv (valuePatch a lv kv.2)) kv.2 = none) :
    diffObject o' (some (Json.mergeFields l (diffObject o (some l) w))) w = [] := by
  obtain ⟨liveSorted, liveValues⟩ := (Json.canonical_obj l).mp live
  obtain ⟨sorted, _⟩ := (Json.canonical_obj w).mp desired
  -- Every desired key is kept, so no field is dropped on the second patch.
  refine (diffObject_eq_nil_iff _ _ _).mpr ⟨fun kv mem => ?_, fun k found _ => kept.1 k found⟩
  have desiredKey : w.contains kv.1 = true := Fields.get?_isSome_of_mem mem
  -- The merged field is the live one with its own patch entry merged in.
  have merged : fieldAt? (some (Json.mergeFields l (diffObject o (some l) w))) kv.1 =
      Json.mergeAt (Fields.get? l kv.1) (valuePatch (fieldAt? o kv.1) (Fields.get? l kv.1) kv.2) := by
    rw [fieldAt?, Option.bind_some,
      Json.mergeFields_get? liveSorted (Sorted.diffObject o (some l) w).keys_nodup,
      diffObject_get? o (some l) sorted.keys_nodup, sorted.get?_of_mem mem]
    simp [desiredKey, fieldAt?]
  rw [merged]
  exact each kv mem _ _ _ (fun x found => liveValues (kv.1, x) (Fields.mem_of_get? found)) (kept.2 kv mem)

/-- One patch brings a field to the desired value: merge the patch entry into the live value
and the patch entry from there is none. -/
theorem valuePatch_mergeAt {a a' lv : Option Json} {wanted : Json} (desired : wanted.Canonical)
    (live : ∀ x ∈ lv, x.Canonical) (kept : dropsNothing a' wanted = true) :
    valuePatch a' (Json.mergeAt lv (valuePatch a lv wanted)) wanted = none := by
  induction wanted generalizing a a' lv with
  | obj w ih =>
    -- Two objects get a sub-patch, merged field by field; anything else is written whole.
    rcases lv with _ | (_ | _ | _ | _ | _ | l)
    case some.obj =>
      -- An empty sub-patch leaves the live object, already met.
      cases met : diffObject (a.bind Json.fields?) (some l) w with
      | nil =>
        have none_ : valuePatch a (some (.obj l)) (.obj w) = none := (valuePatch_eq_none_obj_obj _ _ _).mpr met
        rw [none_, Json.mergeAt_none]
        exact valuePatch_eq_none_mono none_ kept
      | cons entry rest =>
        -- A non-empty sub-patch is merged, and the merged object meets each field.
        have patched : valuePatch a (some (.obj l)) (.obj w) = some (.obj (entry :: rest)) := by
          simp only [valuePatch, diffObject] at met ⊢
          simp [met]
        rw [patched, mergeAt_some]
        simp only [Json.isNull, Bool.false_eq_true, if_false, Option.getD_some]
        rw [← met, mergePatch_obj, valuePatch_eq_none_obj_obj]
        have liveObj := live _ rfl
        obtain ⟨keys, values⟩ := (dropsNothing_obj_iff a' w).mp kept
        refine diffObject_mergeFields_of (by simpa [Json.fields?] using liveObj) desired ⟨keys, values⟩ ?_
        intro kv mem b b' lv' liveField keptField
        have desiredField := ((Json.canonical_obj w).mp desired).2 kv mem
        exact ih kv mem desiredField liveField keptField
    all_goals
      -- A live value that is not an object gets the desired object whole.
      refine valuePatch_mergeAt_whole desired live kept fun x patched => ?_
      exact valuePatch_whole (fun _ _ isObj _ => by cases isObj) patched
  | _ =>
    -- Any other desired value is written whole.
    refine valuePatch_mergeAt_whole desired live kept fun x patched => ?_
    exact valuePatch_whole (fun _ _ _ isObj => by cases isObj) patched

/-- **Three-way merge patches converge.** After merging the patch into the live fields, the patch
to the same desired fields is empty, against any last-applied value the desired fields keep. -/
theorem diffObject_mergeFields_eq_nil {o o' : Option Fields} {l w : Fields}
    (live : Json.Canonical (.obj l)) (desired : Json.Canonical (.obj w)) (kept : FieldsKept o' w) :
    diffObject o' (some (Json.mergeFields l (diffObject o (some l) w))) w = [] :=
  diffObject_mergeFields_of live desired kept fun kv mem _ _ _ liveField keptField =>
    valuePatch_mergeAt (((Json.canonical_obj w).mp desired).2 kv mem) liveField keptField

end MeshControl
