import MeshControl.Proofs.Resource.Merged

/-! Three-way patches of stamped objects converge: once the cluster merges the patch to a stamped
desired object, the next patch to it is none, provided its record reads back from its text. -/

namespace MeshControl

/-- A canonical value keeps every field of itself. -/
theorem dropsNothing_self {d : Json} (canonical : d.Canonical) : dropsNothing (some d) d = true := by
  -- The desired value is walked; each field and each item keeps its own copy.
  induction d with
  | obj d ih =>
    obtain ⟨sorted, values⟩ := (Json.canonical_obj d).mp canonical
    rw [dropsNothing_obj_iff]
    refine ⟨fun k found => (Fields.contains_iff d k).mpr (by simpa [fieldAt?, Json.fields?] using found),
      fun kv mem => ?_⟩
    simp only [Option.bind_some, Json.fields?, fieldAt?, sorted.get?_of_mem mem]
    exact ih kv mem (values kv mem)
  | arr d ih =>
    rw [dropsNothing_arr_iff]
    intro n dv found
    have mem := List.mem_of_getElem? found
    simp only [Option.bind_some, Json.items?, itemAt?, found]
    exact ih dv mem ((Json.canonical_arr d).mp canonical dv mem)
  -- Scalars have no fields to keep.
  | null => rfl
  | bool => rfl
  | num => rfl
  | str => rfl

/-- A desired text has no fields to keep. -/
@[simp] theorem dropsNothing_str (a : Option Json) (t : String) : dropsNothing a (.str t) = true := by
  rcases a with _ | (_ | _ | _ | _ | _ | _) <;> rfl

/-- A record that agrees with canonical desired fields off one key, which they hold, keeps them
when it keeps the value they hold there. -/
theorem FieldsKept.of_agree_off {a d : Fields} {key : String} (sorted : d.Sorted)
    (canonical : ∀ kv ∈ d, kv.2.Canonical) (same : ∀ k, k ≠ key → a.get? k = d.get? k)
    (present : d.contains key = true)
    (atKey : ∀ v, d.get? key = some v → dropsNothing (a.get? key) v = true) : FieldsKept (some a) d := by
  refine ⟨fun k found => ?_, fun kv mem => ?_⟩
  -- Every key the record holds is desired: the key itself, and the agreed ones.
  · by_cases here : k = key
    · exact here ▸ present
    · rw [Fields.contains_iff, ← same k here]
      simpa [fieldAt?] using found
  · obtain ⟨k, v⟩ := kv
    have found := sorted.get?_of_mem mem
    simp only [fieldAt?, Option.bind_some]
    by_cases here : k = key
    · subst here
      exact atKey v found
    · -- Off the key the record holds the desired value itself.
      rw [same k here, found]
      exact dropsNothing_self (canonical _ mem)

theorem Fields.Sorted.erase_erase {fs : Fields} (sorted : fs.Sorted) (k : String) :
    Fields.erase (Fields.erase fs k) k = Fields.erase fs k := by
  -- Both are sorted, so they agree when every lookup does.
  refine Fields.Sorted.ext ((sorted.erase k).erase k) (sorted.erase k) fun x => ?_
  rw [(sorted.erase k).get?_erase, sorted.get?_erase]
  split <;> simp_all

/-- Stripping drops status, so one dropped before changes nothing. -/
theorem stripServerFields_erase_status {fs : Fields} (sorted : fs.Sorted) :
    stripServerFields (.obj (Fields.erase fs "status")) = stripServerFields (.obj fs) := by
  simp only [stripServerFields, sorted.erase_erase]

namespace ObjectMeta

/-- Annotations are written under their own key alone. -/
theorem toJson_get?_of_ne_annotations (m : ObjectMeta) (a : Option TextMap) {k : String}
    (other : k ≠ "annotations") : ({ m with annotations := a } : ObjectMeta).toJson.get? k = m.toJson.get? k := by
  rw [get?_toJson, get?_toJson]
  simp only [entries, List.lookup, beq_false_of_ne other]

end ObjectMeta

/-- Storing a key keeps every entry of another key. -/
theorem TextMap.mem_insert_of_ne {m : TextMap} {k key t v : String} (mem : (k, t) ∈ m) (other : k ≠ key) :
    (k, t) ∈ m.insert key v := by
  -- Walk to the entry of key; entries of other keys are kept or moved past.
  induction m with
  | nil => cases mem
  | cons e rest ih =>
    obtain ⟨k', v'⟩ := e
    simp only [TextMap.insert]
    split
    · exact List.mem_cons_of_mem _ mem
    split
    · rename_i same
      rcases List.mem_cons.mp mem with here | later
      · cases here
        exact absurd (beq_iff_eq.mp same).symm other
      · exact List.mem_cons_of_mem _ later
    · rcases List.mem_cons.mp mem with here | later
      · rw [here]
        exact List.mem_cons_self
      · exact List.mem_cons_of_mem _ (ih later)

namespace Object

/-- The object that stamping records: its annotations without an earlier record, and none when
no other annotation is left. -/
def snapshot (o : Object) : Object :=
  { o with metadata := { o.metadata with annotations := o.metadata.annotations.bind fun a =>
      if (a.erase lastAppliedAnnotation).isEmpty then none else some (a.erase lastAppliedAnnotation) } }

/-- The configuration stamping records of an object: its snapshot without status. -/
def appliedConfiguration (o : Object) : Json := o.snapshot.toJson.erase "status"

/-- Stamping stores the rendered configuration under the last-applied annotation. -/
theorem stampLastApplied_eq (o : Object) : o.stampLastApplied =
    { o with metadata := { o.metadata with
      annotations := some (o.annotations.insert lastAppliedAnnotation o.appliedConfiguration.render) } } :=
  rfl

/-- The annotations of a snapshot are those of the object without the last-applied one. -/
theorem snapshot_annotations {o : Object} {a : TextMap} (recorded : o.snapshot.metadata.annotations = some a) :
    ∃ oa, o.metadata.annotations = some oa ∧ a = oa.erase lastAppliedAnnotation := by
  simp only [snapshot] at recorded
  -- No annotations record none; otherwise the record drops the last-applied one.
  cases given : o.metadata.annotations with
  | none => simp [given] at recorded
  | some oa =>
    rw [given, Option.bind_some] at recorded
    split at recorded
    · cases recorded
    · exact ⟨oa, rfl, (Option.some.inj recorded).symm⟩

/-- The writable metadata of a snapshot is kept by that of the stamped object: they agree but
in the annotations, where the stamped ones hold every key of the recorded ones. -/
theorem fieldsKept_snapshot_metadata (o : Object)
    (canonical : ∀ kv ∈ o.stampLastApplied.metadata.writableFields, kv.2.Canonical) :
    FieldsKept (some o.snapshot.metadata.writableFields) o.stampLastApplied.metadata.writableFields := by
  -- Off the annotations the metadata are the same.
  have same : ∀ k, k ≠ "annotations" →
      o.snapshot.metadata.writableFields.get? k = o.stampLastApplied.metadata.writableFields.get? k := by
    intro k other
    simp only [snapshot, stampLastApplied_eq, ObjectMeta.writableFields_get?,
      ObjectMeta.toJson_get?_of_ne_annotations _ _ other]
  have annotated : ∀ m : ObjectMeta, m.writableFields.get? "annotations" = m.annotations.map TextMap.toJson := by
    intro m
    simp [ObjectMeta.writableFields_get?, ObjectMeta.writableKeys, ObjectMeta.get?_toJson,
      ObjectMeta.entries]
  refine FieldsKept.of_agree_off (ObjectMeta.sorted_writableFields _) canonical same ?_ fun v found => ?_
  · rw [Fields.contains_iff, annotated, stampLastApplied_eq]
    rfl
  · rw [annotated, stampLastApplied_eq] at found
    cases found
    rw [annotated]
    cases recorded : o.snapshot.metadata.annotations with
    | none => exact dropsNothing_none _
    | some a =>
      -- The recorded annotations are the object's own without the record, all still there.
      obtain ⟨oa, given, rfl⟩ := snapshot_annotations recorded
      rw [Option.map_some, TextMap.toJson, TextMap.toJson, dropsNothing_obj_iff]
      -- Each recorded key is still present, and every value is a text.
      refine ⟨fun x present => ?_, fun kv mem => ?_⟩
      · obtain ⟨y, found⟩ := Option.isSome_iff_exists.mp present
        simp only [Option.bind_some, Json.fields?, fieldAt?] at found
        obtain ⟨⟨x', t⟩, kept, same⟩ := List.mem_map.mp (Fields.mem_of_get? found)
        simp only [Prod.mk.injEq] at same
        obtain ⟨rfl, -⟩ := same
        obtain ⟨inOriginal, notRecord⟩ := List.mem_filter.mp kept
        have stamped : (x', t) ∈ oa.insert lastAppliedAnnotation o.appliedConfiguration.render :=
          TextMap.mem_insert_of_ne inOriginal (by simpa using notRecord)
        rw [Object.annotations, given, Option.getD_some]
        exact Fields.get?_isSome_of_mem (List.mem_map.mpr ⟨_, stamped, rfl⟩)
      -- A text has no fields to keep.
      · obtain ⟨⟨x, t⟩, -, rfl⟩ := List.mem_map.mp mem
        exact dropsNothing_str _ _

end Object

namespace Object

/-- The stripped configuration stamped on an object is kept by the stripped stamped object:
each of its fields is a field of the object, and each field of the object keeps it. -/
theorem fieldsKept_appliedConfiguration {o : Object} (regular : o.stampLastApplied.Regular) {w : Fields}
    (stripWanted : stripServerFields o.stampLastApplied.toJson = .obj w) :
    FieldsKept (((some o.appliedConfiguration).map stripServerFields).bind Json.fields?) w := by
  -- The snapshot has the stamped object's type and other fields.
  have unique : o.snapshot.data.keys.Nodup := regular.unique
  have noMetadata : Fields.get? o.snapshot.data "metadata" = none := regular.reserved "metadata" (by simp)
  -- The snapshot's JSON is a sorted object, and so is its stripped form.
  obtain ⟨sfs, json, sorted⟩ := o.snapshot.sorted_toJson
  obtain ⟨r, stripped, -⟩ := o.snapshot.stripServerFields_toJson_sorted
  have record : stripServerFields o.appliedConfiguration = .obj r := by
    rw [appliedConfiguration, json, Json.erase, stripServerFields_erase_status sorted, ← json, stripped]
  simp only [Option.map_some, record, Option.bind_some, Json.fields?]
  -- Off the metadata, the stripped snapshot and the stripped stamped object agree.
  have same : ∀ k, k ≠ "metadata" → r.get? k = w.get? k := by
    intro k notMeta
    rw [← Json.get?_obj r, ← stripped, ← Json.get?_obj w, ← stripWanted]
    -- Stripping removes status and the type, and keeps the other fields.
    by_cases removed : k = "status" ∨ k = "apiVersion" ∨ k = "kind"
    · rw [stripServerFields_toJson_types _ removed, stripServerFields_toJson_types _ removed]
    · obtain ⟨notStatus, notApi, notKind⟩ : k ≠ "status" ∧ k ≠ "apiVersion" ∧ k ≠ "kind" := by
        simpa only [not_or] using removed
      rw [stripServerFields_toJson_other unique notStatus notApi notKind notMeta,
        stripServerFields_toJson_other regular.unique notStatus notApi notKind notMeta]
      rfl
  have recordMeta : r.get? "metadata" = some (.obj o.snapshot.metadata.writableFields) := by
    rw [← Json.get?_obj r, ← stripped]
    exact stripServerFields_toJson_metadata unique noMetadata
  have wantedMeta : w.get? "metadata" = some (.obj o.stampLastApplied.metadata.writableFields) := by
    rw [← Json.get?_obj w, ← stripWanted]
    exact stripServerFields_toJson_metadata regular.unique (regular.reserved "metadata" (by simp))
  obtain ⟨wSorted, wValues⟩ := (Json.canonical_obj w).mp (stripWanted ▸ regular.canonical.stripServerFields)
  refine FieldsKept.of_agree_off wSorted wValues same ?_ fun v found => ?_
  · rw [Fields.contains_iff, wantedMeta]
    rfl
  · -- The metadata differs in the annotations alone.
    rw [wantedMeta] at found
    cases found
    rw [recordMeta, dropsNothing_obj_iff]
    exact fieldsKept_snapshot_metadata o ((Json.canonical_obj _).mp (wValues _ (Fields.mem_of_get? wantedMeta))).2

end Object

/-- Against no configuration last applied, an empty diff leaves each desired text live as it
is. -/
theorem diffObject_none_eq_nil_str {c w : Fields} (met : diffObject none (some c) w = []) {k t : String}
    (desired : w.get? k = some (.str t)) : c.get? k = some (.str t) := by
  have fieldMet := ((diffObject_eq_nil_iff _ _ _).mp met).1 _ (Fields.mem_of_get? desired)
  simp only [fieldAt?, Option.bind_none, Option.bind_some] at fieldMet
  -- An absent or different live value would leave a patch.
  cases live : c.get? k with
  | none => simp [live, valuePatch] at fieldMet
  | some x =>
    rw [live] at fieldMet
    cases x <;> simp_all [valuePatch, Json.beq]

/-- Against no configuration last applied, an empty diff leaves each desired object live as an
object whose diff is empty too. -/
theorem diffObject_none_eq_nil_obj {c w : Fields} (met : diffObject none (some c) w = []) {k : String}
    {wk : Fields} (desired : w.get? k = some (.obj wk)) :
    ∃ ck, c.get? k = some (.obj ck) ∧ diffObject none (some ck) wk = [] := by
  have fieldMet := ((diffObject_eq_nil_iff _ _ _).mp met).1 _ (Fields.mem_of_get? desired)
  simp only [fieldAt?, Option.bind_none, Option.bind_some] at fieldMet
  -- An absent or different live value would leave a patch.
  cases live : c.get? k with
  | none => simp [live, valuePatch] at fieldMet
  | some x =>
    rw [live] at fieldMet
    cases x with
    | obj ck => exact ⟨ck, rfl, (valuePatch_eq_none_obj_obj none ck wk).mp fieldMet⟩
    | _ => simp [valuePatch, Json.beq] at fieldMet

namespace TextMap

/-- A stored key is found with its value. -/
theorem toJson_get?_insert (m : TextMap) (k v : String) : (m.insert k v).toJson.get? k = some (.str v) := by
  induction m with
  | nil => simp [TextMap.insert, TextMap.toJson, Json.get?, Fields.get?]
  | cons e rest ih =>
    obtain ⟨k', v'⟩ := e
    simp only [TextMap.insert]
    -- The key is replaced where it stands, or found further on.
    split
    · simp [TextMap.toJson, Json.get?, Fields.get?]
    split
    · simp [TextMap.toJson, Json.get?, Fields.get?]
    · rename_i differ
      simpa [TextMap.toJson, Json.get?, Fields.get?, Ne.symm (by simpa using differ : k ≠ k')] using ih

/-- A text found in the JSON of a text map is its value there. -/
theorem get?_of_toJson {m : TextMap} {k t : String} (found : m.toJson.get? k = some (.str t)) :
    m.get? k = some t := by
  induction m with
  | nil => simp [TextMap.toJson, Json.get?, Fields.get?] at found
  | cons e rest ih =>
    obtain ⟨k', v'⟩ := e
    by_cases here : k' = k
    · subst here
      simp_all [TextMap.toJson, Json.get?, Fields.get?, TextMap.get?]
    · simp only [TextMap.toJson, Json.get?, Fields.get?, List.map_cons, beq_iff_eq, here, if_false] at found
      simpa [TextMap.get?, here] using ih found

end TextMap

namespace ObjectMeta

@[simp] theorem writableFields_get?_annotations (m : ObjectMeta) :
    m.writableFields.get? "annotations" = m.annotations.map TextMap.toJson := by
  simp [writableFields_get?, writableKeys, get?_toJson, entries]

@[simp] theorem writableFields_get?_name (m : ObjectMeta) : m.writableFields.get? "name" = m.name.map .str := by
  simp [writableFields_get?, writableKeys, get?_toJson, entries, List.lookup]

@[simp] theorem writableFields_get?_namespace (m : ObjectMeta) :
    m.writableFields.get? "namespace" = m.ns.map .str := by
  simp [writableFields_get?, writableKeys, get?_toJson, entries, List.lookup]

end ObjectMeta

namespace Object

/-- An object with a key has a type, its name and namespace are the key's. -/
theorem key_eq_ok {o : Object} {k : ResourceKey} (keyed : o.key = .ok k) :
    ∃ t, o.types = some t ∧ o.metadata.name = some k.name ∧ o.ns = k.ns := by
  unfold Object.key at keyed
  -- A key needs a type, a name, and a namespace that fits the kind.
  cases typed : o.types with
  | none => simp [typed] at keyed
  | some t =>
    simp only [typed] at keyed
    split at keyed
    · cases keyed
    cases named : o.metadata.name with
    | none => simp [named] at keyed
    | some n =>
      simp only [named] at keyed
      split at keyed
      · cases keyed
      · cases keyed
        exact ⟨t, rfl, rfl, rfl⟩

/-- The key of an object depends on its type, name and namespace alone. -/
theorem key_congr {a b : Object} (types : a.types = b.types) (name : a.metadata.name = b.metadata.name)
    (ns : a.ns = b.ns) : a.key = b.key := by
  unfold Object.key
  rw [types, name, ns]

/-- The configuration last applied to an object whose last-applied annotation parses. -/
theorem lastApplied_of_carried {o : Object} {raw : String} {v : Json}
    (carried : o.metadata.annotations.bind (TextMap.get? · lastAppliedAnnotation) = some raw)
    (parsed : Json.parse raw = .ok v) : o.lastApplied = .ok (some v) := by
  simp [Object.lastApplied, carried, parsed]

/-- Metadata that leaves the desired metadata nothing to patch carries the desired name. -/
theorem name_of_met {patched desired : Object} {n : String} (named : desired.metadata.name = some n)
    (met : diffObject none (some patched.metadata.writableFields) desired.metadata.writableFields = []) :
    patched.metadata.name = some n := by
  have nameMet := diffObject_none_eq_nil_str met (by rw [ObjectMeta.writableFields_get?_name, named]; rfl)
  rw [ObjectMeta.writableFields_get?_name] at nameMet
  exact Option.map_injective (fun _ _ same => Json.str.inj same) nameMet

/-- Merging a framed patch into the live metadata, with a result that meets the desired metadata,
gives the desired namespace when the live one agreed with it. -/
theorem ns_of_mergeFields {live desired patched : Object} {o : Option Fields} {pmd : Fields}
    (sub : Framed o live.metadata.writableFields desired.metadata.writableFields pmd)
    (merged : patched.metadata.writableFields = Json.mergeFields live.metadata.writableFields pmd)
    (met : diffObject none (some patched.metadata.writableFields) desired.metadata.writableFields = [])
    (agree : live.ns = desired.ns) : patched.ns = desired.ns := by
  -- A desired namespace is written as it is; none desired leaves the live one, empty.
  cases desiredNamespace : desired.metadata.ns with
  | some n =>
    have nsMet := diffObject_none_eq_nil_str met
      (by rw [ObjectMeta.writableFields_get?_namespace, desiredNamespace]; rfl)
    rw [ObjectMeta.writableFields_get?_namespace] at nsMet
    have patchedNamespace : patched.metadata.ns = some n :=
      Option.map_injective (fun _ _ same => Json.str.inj same) nsMet
    simp [Object.ns, patchedNamespace, desiredNamespace]
  | none =>
    have undesired : desired.metadata.writableFields.get? "namespace" = none := by
      rw [ObjectMeta.writableFields_get?_namespace, desiredNamespace]
      rfl
    have liveEmpty : live.ns = "" := by
      rw [agree]
      simp [Object.ns, desiredNamespace]
    have patchedAt := congrArg (Fields.get? · "namespace") merged
    simp only [Json.mergeFields_get? (ObjectMeta.sorted_writableFields _) sub.keys_nodup] at patchedAt
    -- The patch either leaves the namespace alone or drops it with a null.
    cases entry : pmd.get? "namespace" with
    | none =>
      rw [entry, Json.mergeAt_none, ObjectMeta.writableFields_get?_namespace,
        ObjectMeta.writableFields_get?_namespace] at patchedAt
      have sameNs : patched.ns = live.ns := by
        simp [Object.ns, Option.map_injective (fun _ _ same => Json.str.inj same) patchedAt]
      rw [sameNs, liveEmpty]
      simp [Object.ns, desiredNamespace]
    | some e =>
      obtain ⟨rfl, -, -⟩ := sub.entry_of_undesired undesired entry
      rw [entry, ObjectMeta.writableFields_get?_namespace] at patchedAt
      simp [Object.ns, desiredNamespace, Option.map_eq_none_iff.mp patchedAt]

end Object

/-- A patch that createPatch makes carries the desired key, which agrees with the live key in
group, kind, namespace and name. -/
theorem createPatch_keys {current desired : Object} {patch : ObjectPatch}
    (made : createPatch current desired = .ok (some patch)) :
    ∃ ck dk, current.key = .ok ck ∧ desired.key = .ok dk ∧ patch.key = dk ∧
      ck.group = dk.group ∧ ck.kind = dk.kind ∧ ck.ns = dk.ns ∧ ck.name = dk.name := by
  obtain ⟨ck, dk, -, -, -, currentKey, desiredKey, agree, -, -, -, rfl⟩ := createPatch_eq_some made
  exact ⟨ck, dk, currentKey, desiredKey, rfl, agree⟩

/-- With keys that agree and a configuration last applied that reads, no patch is needed from
an object to a desired one exactly when the diff of the stripped fields is empty. -/
theorem createPatch_eq_none_iff {current desired : Object} {ck dk : ResourceKey}
    (currentKey : current.key = .ok ck) (desiredKey : desired.key = .ok dk)
    (agree : ck.group = dk.group ∧ ck.kind = dk.kind ∧ ck.ns = dk.ns ∧ ck.name = dk.name)
    {original : Option Json} (read : current.lastApplied = .ok original) {l w : Fields}
    (live : stripServerFields current.toJson = .obj l) (wanted : stripServerFields desired.toJson = .obj w) :
    createPatch current desired = .ok none ↔
      diffObject ((original.map stripServerFields).bind Json.fields?) (some l) w = [] := by
  obtain ⟨group, kind, ns, name⟩ := agree
  unfold createPatch
  simp [currentKey, desiredKey, bind, Except.bind, group, kind, ns, name, read, live, wanted, pure,
    Except.pure]

/-- What the cluster stores once it merges the patch from a regular live object to a regular
stamped desired one: an object under the live key that carries the stamped record, and whose
fields leave the desired ones nothing to patch, against any configuration they keep. -/
theorem patchObject_meets_stamped {live base patched : Object} {patch : ObjectPatch} {s s' : Store}
    (liveRegular : live.Regular) (desiredRegular : base.stampLastApplied.Regular)
    (made : createPatch live base.stampLastApplied = .ok (some patch))
    (held : s.lookup patch.key = some live)
    (applied : (patchObject patch.key patch.body).run s = .ok patched s') :
    patched.key = live.key ∧
      patched.metadata.annotations.bind (TextMap.get? · lastAppliedAnnotation) =
        some base.appliedConfiguration.render ∧
      ∃ l w, stripServerFields patched.toJson = .obj l ∧ stripServerFields base.stampLastApplied.toJson = .obj w ∧
        ∀ o, FieldsKept o w → diffObject o (some l) w = [] := by
  -- The patch was made from the stripped live and desired objects, with keys that agree.
  obtain ⟨ck, dk, liveKey, desiredKey, -, agree⟩ := createPatch_keys made
  obtain ⟨original, l, w, -, stripLive, stripWanted, body⟩ := createPatch_body made
  have lCanonical : Json.Canonical (.obj l) := stripLive ▸ liveRegular.canonical.stripServerFields
  have wCanonical : Json.Canonical (.obj w) := stripWanted ▸ desiredRegular.canonical.stripServerFields
  -- The diff is framed by the desired fields, so merging it meets them.
  have framed := diffObject_framed ((original.map stripServerFields).bind Json.fields?) l wCanonical
  have liveMeta := liveRegular.stripServerFields_metadata
  have wantedMeta := desiredRegular.stripServerFields_metadata
  rw [stripLive, Json.get?_obj] at liveMeta
  rw [stripWanted, Json.get?_obj] at wantedMeta
  obtain ⟨pmd, sub, metadata⟩ := framed.mergeAt_of_objects wantedMeta liveMeta
  -- The cluster merged the patch into the live object and read the result back.
  obtain ⟨current, r, stored, readBack, g, v, patchedEq⟩ := patchObject_run_ok applied
  rw [held, Option.some.injEq] at stored
  subst stored
  rw [body] at readBack
  obtain ⟨types, writable, stripped⟩ := stripServerFields_ofJson_mergePatch liveRegular desiredRegular
    stripLive stripWanted framed sub metadata readBack
  have stripPatched := stripped g (some v)
  rw [← patchedEq] at stripPatched
  have patchedWritable : patched.metadata.writableFields = Json.mergeFields live.metadata.writableFields pmd := by
    rw [patchedEq, Object.withMeta, ObjectMeta.writableFields_withVersions, writable]
  have mergedMeta : (Json.mergeFields l (diffObject ((original.map stripServerFields).bind Json.fields?)
      (some l) w)).get? "metadata" = some (.obj patched.metadata.writableFields) := by
    rw [Json.mergeFields_get? ((Json.canonical_obj l).mp lCanonical).1 framed.keys_nodup, liveMeta, metadata,
      patchedWritable]
  -- Against no configuration last applied, the result already meets the desired object.
  have noneKept : FieldsKept none w :=
    ⟨fun k found => by simp [fieldAt?] at found, fun kv _ => by simp [fieldAt?]⟩
  have met : diffObject none (some (Json.mergeFields l
      (diffObject ((original.map stripServerFields).bind Json.fields?) (some l) w))) w = [] :=
    diffObject_mergeFields_eq_nil lCanonical wCanonical noneKept
  obtain ⟨pm, pmFound, metaMet⟩ := diffObject_none_eq_nil_obj met wantedMeta
  rw [mergedMeta, Option.some.injEq, Json.obj.injEq] at pmFound
  subst pmFound
  -- So the stamped record is the last-applied annotation of the result.
  have desiredRecord : base.stampLastApplied.metadata.writableFields.get? "annotations" =
      some (TextMap.toJson (base.annotations.insert lastAppliedAnnotation base.appliedConfiguration.render)) := by
    rw [ObjectMeta.writableFields_get?_annotations, Object.stampLastApplied_eq]
    rfl
  obtain ⟨pa, paFound, annotationsMet⟩ := diffObject_none_eq_nil_obj metaMet desiredRecord
  have recordFound := diffObject_none_eq_nil_str annotationsMet (TextMap.toJson_get?_insert _ _ _)
  rw [ObjectMeta.writableFields_get?_annotations, Option.map_eq_some_iff] at paFound
  obtain ⟨annotations, annotated, annotationsJson⟩ := paFound
  have recorded : annotations.get? lastAppliedAnnotation = some base.appliedConfiguration.render :=
    TextMap.get?_of_toJson (by rw [annotationsJson]; exact recordFound)
  -- And the result keeps the live key: the type stays, and the name and namespace are desired.
  obtain ⟨t, liveTyped, liveName, liveNs⟩ := Object.key_eq_ok liveKey
  obtain ⟨-, -, desiredName, desiredNs⟩ := Object.key_eq_ok desiredKey
  have patchedTypes : patched.types = live.types := by
    rw [patchedEq, liveTyped]
    exact types t liveTyped
  have patchedName : patched.metadata.name = live.metadata.name := by
    rw [liveName, agree.2.2.2]
    exact Object.name_of_met desiredName metaMet
  have agreeNs : live.ns = base.stampLastApplied.ns := by
    rw [liveNs, agree.2.2.1, desiredNs]
  have patchedNs : patched.ns = live.ns := by
    rw [Object.ns_of_mergeFields sub patchedWritable metaMet agreeNs, agreeNs]
  refine ⟨Object.key_congr patchedTypes patchedName patchedNs, by rw [annotated, Option.bind_some, recorded],
    _, w, stripPatched, stripWanted, fun o kept => diffObject_mergeFields_eq_nil lCanonical wCanonical kept⟩

/-- **Three-way patches converge.** Once the cluster merges the patch from a regular live object to
a stamped desired one, the next patch is none, provided the stamped record reads back. -/
theorem createPatch_patched_eq_none {live base patched : Object} {patch : ObjectPatch} {s s' : Store}
    (liveRegular : live.Regular) (desiredRegular : base.stampLastApplied.Regular)
    (readsBack : Json.parse base.appliedConfiguration.render = .ok base.appliedConfiguration)
    (made : createPatch live base.stampLastApplied = .ok (some patch))
    (held : s.lookup patch.key = some live)
    (applied : (patchObject patch.key patch.body).run s = .ok patched s') :
    createPatch patched base.stampLastApplied = .ok none := by
  obtain ⟨ck, dk, liveKey, desiredKey, -, agree⟩ := createPatch_keys made
  obtain ⟨patchedKey, carried, l, w, stripPatched, stripWanted, converged⟩ :=
    patchObject_meets_stamped liveRegular desiredRegular made held applied
  -- The record the result carries reads back as the stamped configuration, which it keeps.
  exact (createPatch_eq_none_iff (patchedKey.trans liveKey) desiredKey agree
    (Object.lastApplied_of_carried carried readsBack) stripPatched stripWanted).mpr
    (converged _ (Object.fieldsKept_appliedConfiguration desiredRegular stripWanted))

/-- The key of the ConfigMap `cm`. -/
def configMapKey : ResourceKey := ⟨"", "v1", "ConfigMap", "istio-system", "cm"⟩

/-- A cluster holding the live ConfigMap `cm` alone. -/
def configMapStore : Store := { objects := [(configMapKey, liveConfigMap)] }

/-- The patch from the live ConfigMap `cm` to its stamped desired form: the new value and the
record. -/
def configMapPatch : ObjectPatch :=
  ⟨configMapKey, .obj [("data", .obj [("a", .str "c")]), ("metadata", .obj [("annotations",
    .obj [( lastAppliedAnnotation, .str desiredConfigMap.appliedConfiguration.render)])])]⟩

/-- A text that reads as a value without doubles: the parse is computed and compared. -/
theorem parse_eq_of_check {text : String} {v : Json}
    (check : ((Json.parse text).toOption.map fun w => w.beq v && v.floatFree) = some true) :
    Json.parse text = .ok v := by
  -- A failed parse gives no view to compare.
  cases parsed : Json.parse text with
  | error e =>
    rw [parsed] at check
    cases check
  | ok w =>
    rw [parsed] at check
    simp only [Except.toOption, Option.map_some, Option.some.injEq, Bool.and_eq_true] at check
    rw [Json.eq_of_beq check.2 check.1]

/-- A patch whose body holds no double: the patch is computed and compared. -/
theorem createPatch_eq_of_check {current desired : Object} {patch : ObjectPatch}
    (check : ((createPatch current desired).toOption.map fun made => made.map fun q =>
      q.key == patch.key && q.body.beq patch.body && patch.body.floatFree) = some (some true)) :
    createPatch current desired = .ok (some patch) := by
  -- Only a made patch can be compared.
  cases made : createPatch current desired with
  | error e =>
    rw [made] at check
    cases check
  | ok q =>
    rw [made] at check
    cases q with
    | none => cases check
    | some q =>
      simp only [Except.toOption, Option.map_some, Option.some.injEq, Bool.and_eq_true,
        beq_iff_eq] at check
      obtain ⟨⟨key, body⟩, flat⟩ := check
      obtain ⟨qk, qb⟩ := q
      obtain ⟨pk, pb⟩ := patch
      dsimp only at key body flat
      rw [key, Json.eq_of_beq flat body]

/-- The stamped desired ConfigMap `cm` is as the cluster would hold it. -/
theorem desiredConfigMap_stamped_regular : desiredConfigMap.stampLastApplied.Regular := by
  -- The stamped object's JSON is sorted, canonical and keyed as the cluster keeps it.
  refine ⟨?_, by decide, by decide, ⟨fun a stamped => ?_, by simp [desiredConfigMap, Object.stampLastApplied],
    by simp [desiredConfigMap, Object.stampLastApplied]⟩⟩
  · rw [show desiredConfigMap.stampLastApplied.toJson = .obj [("apiVersion", .str "v1"),
      ("data", .obj [("a", .str "c")]), ("kind", .str "ConfigMap"),
      ("metadata", .obj [("annotations", .obj [( lastAppliedAnnotation,
        .str desiredConfigMap.appliedConfiguration.render)]), ("name", .str "cm"),
        ("namespace", .str "istio-system")])] from rfl]
    simp only [Json.canonical_obj, Json.canonical_str, List.mem_cons, List.mem_nil_iff, or_false,
      forall_eq_or_imp, forall_eq, true_and, and_true]
    exact ⟨by decide, by decide, by decide, List.pairwise_singleton _ _⟩
  -- The annotations hold the record alone.
  · rw [Object.stampLastApplied_eq, Option.some.injEq] at stamped
    rw [← stamped]
    exact List.pairwise_singleton _ _

/-- The record stamped on the desired ConfigMap `cm` reads back from its text. -/
theorem desiredConfigMap_record_reads_back :
    Json.parse desiredConfigMap.appliedConfiguration.render = .ok desiredConfigMap.appliedConfiguration :=
  @parse_eq_of_check desiredConfigMap.appliedConfiguration.render desiredConfigMap.appliedConfiguration
    (by decide +kernel)

/-- The live ConfigMap `cm` patched to its stamped desired form, against the cluster holding it:
the patch is none the second time. -/
theorem createPatch_patched_configMap :
    liveConfigMap.Regular ∧ desiredConfigMap.stampLastApplied.Regular ∧
      Json.parse desiredConfigMap.appliedConfiguration.render = .ok desiredConfigMap.appliedConfiguration ∧
      createPatch liveConfigMap desiredConfigMap.stampLastApplied = .ok (some configMapPatch) ∧
      configMapStore.lookup configMapPatch.key = some liveConfigMap ∧
      ∃ patched s', (patchObject configMapPatch.key configMapPatch.body).run configMapStore = .ok patched s' ∧
        createPatch patched desiredConfigMap.stampLastApplied = .ok none := by
  have liveRegular : liveConfigMap.Regular := by
    -- The live object's JSON is sorted and canonical, as the cluster keeps it.
    refine ⟨?_, by decide, by decide, ⟨by simp [liveConfigMap], by simp [liveConfigMap], by simp [liveConfigMap]⟩⟩
    rw [show liveConfigMap.toJson = .obj [("apiVersion", .str "v1"),
      ("data", .obj [("a", .str "b"), ("keep", .str "x")]), ("kind", .str "ConfigMap"),
      ("metadata", .obj [("name", .str "cm"), ("namespace", .str "istio-system"),
        ("resourceVersion", .str "7"), ("uid", .str "uid-cm")]),
      ("status", .obj [("phase", .str "old")])] from rfl]
    simp only [Json.canonical_obj, Json.canonical_str, List.mem_cons, List.mem_nil_iff, or_false,
      forall_eq_or_imp, forall_eq, true_and, and_true]
    exact ⟨by decide, by decide, by decide⟩
  -- The patch and the lookup compute.
  have made : createPatch liveConfigMap desiredConfigMap.stampLastApplied = .ok (some configMapPatch) := rfl
  have held : configMapStore.lookup configMapPatch.key = some liveConfigMap := rfl
  -- The cluster takes the patch.
  obtain ⟨patched, s', applied, -⟩ : Returns (patchObject configMapPatch.key configMapPatch.body)
      configMapStore fun _ _ => True := Returns.of_check (by decide +kernel)
  exact ⟨liveRegular, desiredConfigMap_stamped_regular, desiredConfigMap_record_reads_back, made, held,
    patched, s', applied, createPatch_patched_eq_none liveRegular desiredConfigMap_stamped_regular
      desiredConfigMap_record_reads_back made held applied⟩

/-- Arrays nested `n` deep around a text. -/
def nestedArray : Nat → Json
  | 0 => .str "x"
  | n + 1 => .arr [nestedArray n]

/-- A live ConfigMap `cm` whose record is the empty object. -/
def shallowConfigMap : Object where
  types := some ⟨"v1", "ConfigMap"⟩
  metadata := { name := some "cm", ns := some "istio-system",
                annotations := some [( lastAppliedAnnotation, "\x7b\x7d")] }
  data := [("data", .obj [("a", .str "b")])]

/-- The ConfigMap `cm` desired with 126 arrays under `data.a`: its record, an object holding an
object holding those arrays, nests 128 deep. -/
def deepConfigMap : Object where
  types := some ⟨"v1", "ConfigMap"⟩
  metadata := { name := some "cm", ns := some "istio-system" }
  data := [("data", .obj [("a", nestedArray 126)])]

/-- A cluster holding the shallow ConfigMap `cm` alone. -/
def shallowStore : Store := { objects := [(configMapKey, shallowConfigMap)] }

/-- The patch from the shallow ConfigMap to the deep one: the arrays and the record. -/
def deepPatch : ObjectPatch :=
  ⟨configMapKey, .obj [("data", .obj [("a", nestedArray 126)]), ("metadata", .obj [("annotations",
    .obj [( lastAppliedAnnotation, .str deepConfigMap.appliedConfiguration.render)])])]⟩

/-- **A record too deep to read back.** The live ConfigMap's record reads, the patch to the deep
desired ConfigMap is made and applied, and the patch from the result fails: the record it now
carries nests deeper than the reader allows. -/
theorem createPatch_deep_record_not_converged :
    (∃ v, shallowConfigMap.lastApplied = .ok (some v)) ∧
      (Json.parse deepConfigMap.appliedConfiguration.render).toBool = false ∧
      createPatch shallowConfigMap deepConfigMap.stampLastApplied = .ok (some deepPatch) ∧
      shallowStore.lookup deepPatch.key = some shallowConfigMap ∧
      ∃ patched s', (patchObject deepPatch.key deepPatch.body).run shallowStore = .ok patched s' ∧
        createPatch patched deepConfigMap.stampLastApplied ≠ .ok none := by
  -- The shallow record reads as the empty object.
  obtain ⟨original, read, recorded⟩ : ∃ o, shallowConfigMap.lastApplied = .ok o ∧ o.isSome = true :=
    Except.exists_of_check (by decide +kernel)
  obtain ⟨v, rfl⟩ := Option.isSome_iff_exists.mp recorded
  -- The patch carries the arrays and the deep record.
  have made : createPatch shallowConfigMap deepConfigMap.stampLastApplied = .ok (some deepPatch) :=
    createPatch_eq_of_check (by decide +kernel)
  -- The patched object carries the deep record, and reading it fails.
  obtain ⟨patched, s', applied, fails⟩ : Returns (patchObject deepPatch.key deepPatch.body) shallowStore
      fun patched _ => (createPatch patched deepConfigMap.stampLastApplied).toBool = false :=
    Returns.of_check (by decide +kernel)
  refine ⟨⟨v, read⟩, by decide +kernel, made, rfl, patched, s', applied, fun converged => ?_⟩
  rw [converged] at fails
  cases fails

end MeshControl
