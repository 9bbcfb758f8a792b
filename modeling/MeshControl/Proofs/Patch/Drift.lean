import MeshControl.Proofs.Patch.Stamped

/-! Drift: a live value `Extends` a desired one when it holds everything the desired one says, and
against a stamped desired object the patch is none exactly when the stripped live object extends it. -/

namespace MeshControl

/-- A live value extends a desired one: an object holds each desired field, null when the
desired one is, and may hold more fields; an array has as many items, each extending the
desired item at its place; any other value equals the desired one, numbers compared as
numbers. -/
inductive Extends : Json → Json → Prop where
  | obj {l d : Fields} :
      (∀ kv ∈ d, l.get? kv.1 = none → kv.2 = .null) →
      (∀ kv ∈ d, ∀ lv, l.get? kv.1 = some lv → Extends lv kv.2) →
      Extends (.obj l) (.obj d)
  | arr {ls ds : List Json} : ls.length = ds.length →
      (∀ (n : Nat) lv dv, ls[n]? = some lv → ds[n]? = some dv → Extends lv dv) →
      Extends (.arr ls) (.arr ds)
  | scalar {x d : Json} : d.isObj = false → d.isArr = false → d.beq x = true → Extends x d

/-- A field meets a desired value: absent only where the desired value is null, and extending
it where present. -/
def Meets (live : Option Json) (desired : Json) : Prop :=
  (live = none → desired = .null) ∧ ∀ lv, live = some lv → Extends lv desired

@[simp] theorem meets_none {desired : Json} : Meets none desired ↔ desired = .null := by
  simp [Meets]

@[simp] theorem meets_some {lv desired : Json} : Meets (some lv) desired ↔ Extends lv desired := by
  simp [Meets]

namespace Extends

theorem obj_iff {l d : Fields} : Extends (.obj l) (.obj d) ↔ ∀ kv ∈ d, Meets (l.get? kv.1) kv.2 := by
  constructor
  · intro extended
    -- Only the object rule builds an object; a scalar is no object.
    cases extended with
    | obj absent present => exact fun kv mem => ⟨absent kv mem, present kv mem⟩
    | scalar notObj => simp [Json.isObj] at notObj
  · intro meets
    exact .obj (fun kv mem => (meets kv mem).1) (fun kv mem => (meets kv mem).2)

theorem arr_iff {ls ds : List Json} : Extends (.arr ls) (.arr ds) ↔
    ls.length = ds.length ∧ ∀ (n : Nat) lv dv, ls[n]? = some lv → ds[n]? = some dv → Extends lv dv := by
  constructor
  · intro extended
    -- Only the array rule builds an array.
    cases extended with
    | arr length items => exact ⟨length, items⟩
    | scalar _ notArr => simp [Json.isArr] at notArr
  · rintro ⟨length, items⟩
    exact .arr length items

/-- What extends a desired object is an object. -/
theorem of_obj {x : Json} {d : Fields} (extended : Extends x (.obj d)) :
    ∃ l : Fields, x = .obj l ∧ ∀ kv ∈ d, Meets (l.get? kv.1) kv.2 := by
  cases extended with
  | obj absent present => exact ⟨_, rfl, fun kv mem => ⟨absent kv mem, present kv mem⟩⟩
  | scalar notObj => simp [Json.isObj] at notObj

/-- What extends a desired array is an array of the same length. -/
theorem of_arr {x : Json} {ds : List Json} (extended : Extends x (.arr ds)) :
    ∃ ls, x = .arr ls ∧ ls.length = ds.length ∧
      ∀ (n : Nat) lv dv, ls[n]? = some lv → ds[n]? = some dv → Extends lv dv := by
  cases extended with
  | arr length items => exact ⟨_, rfl, length, items⟩
  | scalar _ notArr => simp [Json.isArr] at notArr

/-- What extends a desired value other than an object or an array equals it. -/
theorem beq_of_scalar {x d : Json} (extended : Extends x d) (notObj : d.isObj = false)
    (notArr : d.isArr = false) : d.beq x = true := by
  cases extended with
  | obj => simp [Json.isObj] at notObj
  | arr => simp [Json.isArr] at notArr
  | scalar _ _ same => exact same

theorem eq_null {x : Json} (extended : Extends x .null) : x = .null := by
  have same := extended.beq_of_scalar rfl rfl
  -- Only null equals null.
  cases x with
  | null => rfl
  | _ => simp [Json.beq] at same

end Extends

/-- Fields equal entry by entry, with no key twice, pair each field with an equal one under the
same key. -/
theorem beqFields_get? {d l : Fields} (unique : d.keys.Nodup) (same : Json.beqFields d l = true) :
    ∀ kv ∈ d, ∃ lv, l.get? kv.1 = some lv ∧ kv.2.beq lv = true := by
  -- Walk both lists in step; keys are distinct, so each lookup finds its partner.
  induction d generalizing l with
  | nil => simp
  | cons kx rest ih =>
    obtain ⟨k, x⟩ := kx
    cases l with
    | nil => simp [Json.beqFields] at same
    | cons ly ls =>
      obtain ⟨k', y⟩ := ly
      simp only [Json.beqFields, Bool.and_eq_true, beq_iff_eq] at same
      obtain ⟨⟨rfl, here⟩, later⟩ := same
      intro kv mem
      rcases List.mem_cons.mp mem with rfl | mem
      · exact ⟨y, by simp [Fields.get?_cons], here⟩
      · -- A later field has another key, so the lookup passes the head.
        have differ : k ≠ kv.1 := by
          intro same
          apply (List.nodup_cons.mp unique).1
          rw [same]
          exact List.mem_map.mpr ⟨kv, mem, rfl⟩
        obtain ⟨lv, found, equal⟩ := ih (List.nodup_cons.mp unique).2 later kv mem
        exact ⟨lv, by simp [Fields.get?_cons, differ, found], equal⟩

/-- Items equal item by item are as many, and pair up equal at each place. -/
theorem beqItems_getElem? {ds ls : List Json} (same : Json.beqItems ds ls = true) :
    ds.length = ls.length ∧ ∀ (n : Nat) dv lv, ds[n]? = some dv → ls[n]? = some lv → dv.beq lv = true := by
  -- Walk both lists in step.
  induction ds generalizing ls with
  | nil => cases ls <;> simp_all [Json.beqItems]
  | cons d rest ih =>
    cases ls with
    | nil => simp [Json.beqItems] at same
    | cons l ls =>
      simp only [Json.beqItems, Bool.and_eq_true] at same
      obtain ⟨length, later⟩ := ih same.2
      refine ⟨by simp [length], ?_⟩
      -- The head pairs with the head; a later place pairs in the tails.
      rintro (_ | n) dv lv foundDesired foundLive
      · simp only [List.getElem?_cons_zero, Option.some.injEq] at foundDesired foundLive
        subst foundDesired foundLive
        exact same.1
      · exact later n dv lv (by simpa using foundDesired) (by simpa using foundLive)

/-- A value equal to a canonical desired one extends it. -/
theorem extends_of_beq {d x : Json} (canonical : d.Canonical) (same : d.beq x = true) : Extends x d := by
  -- By the desired value: each field and item extends its partner.
  induction d generalizing x with
  | obj d ih =>
    cases x with
    | obj l =>
      obtain ⟨sorted, values⟩ := (Json.canonical_obj d).mp canonical
      simp only [Json.beq] at same
      refine Extends.obj_iff.mpr fun kv mem => ?_
      obtain ⟨lv, found, equal⟩ := beqFields_get? sorted.keys_nodup same kv mem
      refine ⟨fun absent => by simp [found] at absent, fun y live => ?_⟩
      rw [found, Option.some.injEq] at live
      subst live
      exact ih kv mem (values kv mem) equal
    | _ => simp [Json.beq] at same
  | arr ds ih =>
    cases x with
    | arr ls =>
      rw [Json.canonical_arr] at canonical
      simp only [Json.beq] at same
      obtain ⟨length, items⟩ := beqItems_getElem? same
      refine Extends.arr_iff.mpr ⟨length.symm, fun n lv dv live desired => ?_⟩
      have mem := List.mem_of_getElem? desired
      exact ih dv mem (canonical dv mem) (items n dv lv desired live)
    | _ => simp [Json.beq] at same
  | null | bool | num | str => exact .scalar rfl rfl same

/-- A value that covers a desired one, against any value last applied, extends it. -/
theorem extends_of_covers {a : Option Json} {l d : Json} (covered : covers a l d = true) : Extends l d := by
  -- By the desired value, as covers walks it.
  induction d generalizing a l with
  | obj d ih =>
    cases l with
    | obj l =>
      obtain ⟨fieldsCovered, -⟩ := (covers_obj a l d).mp covered
      rw [coversFields_iff] at fieldsCovered
      refine Extends.obj_iff.mpr fun kv mem =>
        ⟨fun absent => eq_null_of_isNull ((fieldsCovered kv mem).1 absent), fun lv found => ?_⟩
      -- Two nulls count as met before the field is compared.
      rcases (fieldsCovered kv mem).2 lv found with ⟨desiredNull, liveNull⟩ | fieldCovered
      · rw [eq_null_of_isNull desiredNull, eq_null_of_isNull liveNull]
        exact .scalar rfl rfl rfl
      · exact ih kv mem fieldCovered
    | _ => simp [covers] at covered
  | arr ds ih =>
    cases l with
    | arr ls =>
      obtain ⟨length, itemsCovered⟩ := (covers_arr a ls ds).mp covered
      rw [coversItems_iff] at itemsCovered
      refine Extends.arr_iff.mpr ⟨length.symm, fun n lv dv live desired => ?_⟩
      exact ih dv (List.mem_of_getElem? desired) (itemsCovered n lv dv live desired)
    | _ => simp [covers] at covered
  | null | bool | num | str => exact .scalar rfl rfl (by simpa [covers] using covered)

/-- A value that extends a desired one covers it against any value last applied that the
desired value keeps whole: no field of that value is dropped, so none has to be gone. -/
theorem covers_of_extends {a : Option Json} {l d : Json} (extended : Extends l d)
    (kept : dropsNothing a d = true) : covers a l d = true := by
  -- By the desired value; no kept field is dropped, so no removal check fires.
  induction d generalizing a l with
  | obj d ih =>
    obtain ⟨lf, rfl, meets⟩ := extended.of_obj
    obtain ⟨keys, values⟩ := (dropsNothing_obj_iff a d).mp kept
    refine (covers_obj a lf d).mpr
      ⟨(coversFields_iff _ lf d).mpr fun kv mem => ?_, fun k found => .inl (keys k found)⟩
    obtain ⟨absent, present⟩ := meets kv mem
    exact ⟨fun missing => by simp [absent missing, Json.isNull],
      fun lv found => .inr (ih kv mem (present lv found) (values kv mem))⟩
  | arr ds ih =>
    obtain ⟨ls, rfl, length, items⟩ := extended.of_arr
    refine (covers_arr a ls ds).mpr
      ⟨length.symm, (coversItems_iff _ 0 ls ds).mpr fun n lv dv live desired => ?_⟩
    have keptItem := (dropsNothing_arr_iff a ds).mp kept n dv desired
    simpa using ih dv (List.mem_of_getElem? desired) (items n lv dv live desired) keptItem
  | null | bool | num | str => simpa [covers] using extended.beq_of_scalar rfl rfl

/-- A field that needs no patch entry meets a canonical desired value. -/
theorem meets_of_valuePatch {a lv : Option Json} {w : Json} (canonical : w.Canonical)
    (met : valuePatch a lv w = none) : Meets lv w := by
  -- By the desired value, following each branch of valuePatch.
  induction w generalizing a lv with
  | obj w ih =>
    cases lv with
    | none => simp [valuePatch] at met
    | some x =>
      rw [meets_some]
      cases x with
      | obj l =>
        -- Two objects: the sub-patch is empty, so each desired field is met.
        obtain ⟨entries, -⟩ := (diffObject_eq_nil_iff _ _ _).mp ((valuePatch_eq_none_obj_obj a l w).mp met)
        have values := ((Json.canonical_obj w).mp canonical).2
        exact Extends.obj_iff.mpr fun kv mem => by
          simpa [fieldAt?] using ih kv mem (values kv mem) (entries kv mem)
      | _ => simp [valuePatch, Json.beq] at met
  | arr w =>
    cases lv with
    | none => simp [valuePatch] at met
    | some x =>
      rw [meets_some]
      simp only [valuePatch] at met
      -- A covering array and an equal one both need no entry.
      split at met
      · rename_i covered
        simp only [Bool.and_eq_true] at covered
        exact extends_of_covers covered.2
      · split at met
        · rename_i same
          exact extends_of_beq canonical same
        · cases met
  -- A desired null is met by an absent field or a null.
  | null =>
    cases lv with
    | none => simp
    | some x =>
      simp [valuePatch_null] at met
      rw [meets_some, eq_null_of_isNull met]
      exact .scalar rfl rfl rfl
  -- A desired scalar is met only by an equal value.
  | bool | num | str =>
    cases lv with
    | none => simp [valuePatch] at met
    | some x => exact meets_some.mpr (extends_of_beq canonical (by simpa [valuePatch] using met))

/-- A field that meets the desired value needs no patch entry, against any value last applied
that the desired value keeps whole. -/
theorem valuePatch_of_meets {a lv : Option Json} {w : Json} (meets : Meets lv w)
    (kept : dropsNothing a w = true) : valuePatch a lv w = none := by
  -- By the desired value, following each branch of valuePatch.
  induction w generalizing a lv with
  | obj w ih =>
    cases lv with
    | none => simp at meets
    | some x =>
      obtain ⟨l, rfl, fields⟩ := (meets_some.mp meets).of_obj
      obtain ⟨keys, values⟩ := (dropsNothing_obj_iff a w).mp kept
      refine (valuePatch_eq_none_obj_obj a l w).mpr ((diffObject_eq_nil_iff _ _ _).mpr
        ⟨fun kv mem => ?_, fun k found _ => keys k found⟩)
      simpa [fieldAt?] using ih kv mem (fields kv mem) (values kv mem)
  | arr w =>
    cases lv with
    | none => simp at meets
    | some x =>
      have extended := meets_some.mp meets
      obtain ⟨ls, rfl, -, -⟩ := extended.of_arr
      simp [valuePatch, Json.isArr, covers_of_extends extended kept]
  | null =>
    cases lv with
    | none => rfl
    | some x => simp [valuePatch_null, (meets_some.mp meets).eq_null, Json.isNull]
  | bool | num | str =>
    cases lv with
    | none => simp at meets
    | some x => simp [valuePatch, (meets_some.mp meets).beq_of_scalar rfl rfl]

/-- Against a last-applied configuration the desired fields keep whole, the patch between
fields is empty exactly when the live fields extend the desired ones. -/
theorem diffObject_eq_nil_iff_extends {o : Option Fields} {l w : Fields} (kept : FieldsKept o w)
    (canonical : Json.Canonical (.obj w)) :
    diffObject o (some l) w = [] ↔ Extends (.obj l) (.obj w) := by
  have values := ((Json.canonical_obj w).mp canonical).2
  -- Both sides read field by field.
  rw [diffObject_eq_nil_iff, Extends.obj_iff]
  constructor
  · rintro ⟨entries, -⟩ kv mem
    simpa [fieldAt?] using meets_of_valuePatch (values kv mem) (entries kv mem)
  · intro meets
    refine ⟨fun kv mem => ?_, fun k found _ => kept.1 k found⟩
    simpa [fieldAt?] using valuePatch_of_meets (meets kv mem) (kept.2 kv mem)

/-- **No false drift and no missed drift.** Against a stamped desired object whose record the live
object carries and reads back, the patch is none exactly when the stripped live object extends it. -/
theorem createPatch_eq_none_iff_extends {live base : Object} {ck dk : ResourceKey}
    (desiredRegular : base.stampLastApplied.Regular)
    (liveKey : live.key = .ok ck) (desiredKey : base.stampLastApplied.key = .ok dk)
    (sameObject : ck.group = dk.group ∧ ck.kind = dk.kind ∧ ck.ns = dk.ns ∧ ck.name = dk.name)
    (carried : live.metadata.annotations.bind (TextMap.get? · lastAppliedAnnotation) =
      some base.appliedConfiguration.render)
    (readsBack : Json.parse base.appliedConfiguration.render = .ok base.appliedConfiguration) :
    createPatch live base.stampLastApplied = .ok none ↔
      Extends (stripServerFields live.toJson) (stripServerFields base.stampLastApplied.toJson) := by
  -- Stripping an object gives an object.
  obtain ⟨l, stripLive⟩ : ∃ l, stripServerFields live.toJson = .obj l := ⟨_, rfl⟩
  obtain ⟨w, stripWanted⟩ : ∃ w, stripServerFields base.stampLastApplied.toJson = .obj w := ⟨_, rfl⟩
  -- The live object's record is the desired object's configuration, which keeps it whole.
  have read : live.lastApplied = .ok (some base.appliedConfiguration) := by
    simp [Object.lastApplied, carried, readsBack]
  have kept := Object.fieldsKept_appliedConfiguration desiredRegular stripWanted
  have canonical : Json.Canonical (.obj w) := stripWanted ▸ desiredRegular.canonical.stripServerFields
  rw [createPatch_eq_none_iff liveKey desiredKey sameObject read stripLive stripWanted,
    diffObject_eq_nil_iff_extends kept canonical, stripLive, stripWanted]

/-- The object the cluster creates from a regular stamped desired object needs no patch to it,
provided the stamped record reads back from its text: it is the desired object with only what
the server writes set, so it extends the desired object and carries its record. -/
theorem createPatch_created_eq_none {base created : Object} {s s' : Store}
    (desiredRegular : base.stampLastApplied.Regular)
    (readsBack : Json.parse base.appliedConfiguration.render = .ok base.appliedConfiguration)
    (ran : (createObject base.stampLastApplied).run s = .ok created s') :
    createPatch created base.stampLastApplied = .ok none := by
  -- The created object is the desired one with the server's fields set.
  obtain ⟨k, desiredKey, -, written, -⟩ := createObject_run_ok ran
  obtain ⟨w, stripWanted⟩ : ∃ w, stripServerFields base.stampLastApplied.toJson = .obj w := ⟨_, rfl⟩
  have createdKey : created.key = .ok k := by
    rw [written]
    exact (Object.key_withMeta _ rfl rfl).trans desiredKey
  have carried : created.metadata.annotations.bind (TextMap.get? · lastAppliedAnnotation) =
      some base.appliedConfiguration.render := by
    rw [written, Object.withMeta, Object.stampLastApplied_eq, Option.bind_some]
    exact TextMap.get?_of_toJson (TextMap.toJson_get?_insert _ _ _)
  have stripCreated : stripServerFields created.toJson = .obj w := by
    rw [written, Object.stripServerFields_withServer desiredRegular.unique
      (desiredRegular.reserved "metadata" (by simp)), stripWanted]
  have canonical : Json.Canonical (.obj w) := stripWanted ▸ desiredRegular.canonical.stripServerFields
  rw [createPatch_eq_none_iff createdKey desiredKey ⟨rfl, rfl, rfl, rfl⟩
      (Object.lastApplied_of_carried carried readsBack) stripCreated stripWanted,
    diffObject_eq_nil_iff_extends (Object.fieldsKept_appliedConfiguration desiredRegular stripWanted) canonical]
  exact extends_of_beq canonical canonical.beq_self

/-- The ConfigMap `cm` as the cluster holds it once its desired form is applied: the desired
value and record, a field the desired form does not name, a status and server metadata. -/
def settledConfigMap : Object where
  types := some ⟨"v1", "ConfigMap"⟩
  metadata := { name := some "cm", ns := some "istio-system", uid := some "uid-cm", resourceVersion := some "8",
                annotations := some [( lastAppliedAnnotation, desiredConfigMap.appliedConfiguration.render)] }
  data := [("data", .obj [("a", .str "c"), ("keep", .str "x")]), ("status", .obj [("phase", .str "ready")])]

/-- The settled ConfigMap extends its desired form, so it needs no patch: the extra field, the
status and the server's metadata cause none. -/
theorem createPatch_settled_configMap :
    desiredConfigMap.stampLastApplied.Regular ∧ settledConfigMap.key = .ok configMapKey ∧
      desiredConfigMap.stampLastApplied.key = .ok configMapKey ∧
      settledConfigMap.metadata.annotations.bind (TextMap.get? · lastAppliedAnnotation) =
        some desiredConfigMap.appliedConfiguration.render ∧
      Json.parse desiredConfigMap.appliedConfiguration.render = .ok desiredConfigMap.appliedConfiguration ∧
      Extends (stripServerFields settledConfigMap.toJson)
        (stripServerFields desiredConfigMap.stampLastApplied.toJson) ∧
      createPatch settledConfigMap desiredConfigMap.stampLastApplied = .ok none := by
  -- The keys and the record compute.
  have settledKey : settledConfigMap.key = .ok configMapKey := rfl
  have desiredKey : desiredConfigMap.stampLastApplied.key = .ok configMapKey := rfl
  have carried : settledConfigMap.metadata.annotations.bind (TextMap.get? · lastAppliedAnnotation) =
      some desiredConfigMap.appliedConfiguration.render := rfl
  have extended : Extends (stripServerFields settledConfigMap.toJson)
      (stripServerFields desiredConfigMap.stampLastApplied.toJson) :=
    @extends_of_covers none _ _ (by decide +kernel)
  exact ⟨desiredConfigMap_stamped_regular, settledKey, desiredKey, carried, desiredConfigMap_record_reads_back,
    extended, (createPatch_eq_none_iff_extends desiredConfigMap_stamped_regular settledKey desiredKey
      ⟨rfl, rfl, rfl, rfl⟩ carried desiredConfigMap_record_reads_back).mpr extended⟩

/-- **A record too deep to read back drifts.** The deep ConfigMap, stamped, carries its own
record and extends itself, yet the patch from it to itself fails: the record nests deeper than
the reader allows. -/
theorem createPatch_deep_record_drifts :
    deepConfigMap.stampLastApplied.key = .ok configMapKey ∧
      deepConfigMap.stampLastApplied.metadata.annotations.bind (TextMap.get? · lastAppliedAnnotation) =
        some deepConfigMap.appliedConfiguration.render ∧
      Extends (stripServerFields deepConfigMap.stampLastApplied.toJson)
        (stripServerFields deepConfigMap.stampLastApplied.toJson) ∧
      createPatch deepConfigMap.stampLastApplied deepConfigMap.stampLastApplied ≠ .ok none := by
  -- Computing the patch fails on the record.
  have fails : (createPatch deepConfigMap.stampLastApplied deepConfigMap.stampLastApplied).toBool = false := by
    decide +kernel
  refine ⟨rfl, rfl, @extends_of_covers none _ _ (by decide +kernel), fun settled => ?_⟩
  rw [settled] at fails
  cases fails

end MeshControl
