import MeshControl.Proofs.Patch.Frame
import MeshControl.Proofs.Resource.Objects
import MeshControl.Proofs.Cluster.Keyed

/-! Objects the cluster merges a patch into and reads back: for an object as the cluster holds it,
the type stays and the result strips to the stripped live fields merged with the patch. -/

namespace MeshControl

namespace Fields

/-- Fields whose keys all lie above `y` hold nothing at `y` or below. -/
theorem get?_eq_none_of_le {r : Fields} {x y : String} (bound : ∀ a ∈ r, y < a.1) (le : x ≤ y) :
    r.get? x = none :=
  get?_eq_none_iff.mpr fun _ mem => absurd (lt_of_le_of_lt le (bound _ mem)) (lt_irrefl x)

/-- Ascending fields are determined by their lookups. -/
theorem Sorted.ext {a b : Fields} (sortedA : a.Sorted) (sortedB : b.Sorted)
    (same : ∀ k, a.get? k = b.get? k) : a = b := by
  -- Peel the least field off both sides at once.
  induction a generalizing b with
  | nil => exact ((eq_nil_iff b).mpr fun k => (same k).symm).symm
  | cons kv rest ih =>
    obtain ⟨k, v⟩ := kv
    obtain ⟨above, sortedRest⟩ := sorted_cons.mp sortedA
    cases b with
    | nil => simpa [get?_cons] using same k
    | cons kv' rest' =>
      obtain ⟨k', v'⟩ := kv'
      obtain ⟨above', sortedRest'⟩ := sorted_cons.mp sortedB
      -- The least keys agree: a key below the other side's least is not found there.
      have sameKey : k = k' := by
        rcases lt_trichotomy k k' with below | equal | beyond
        · have missing := same k
          rw [get?_cons, if_pos rfl, get?_cons, if_neg (ne_of_gt below),
            get?_eq_none_of_le above' below.le] at missing
          cases missing
        · exact equal
        · have missing := same k'
          rw [get?_cons, if_neg (ne_of_gt beyond), get?_eq_none_of_le above beyond.le, get?_cons,
            if_pos rfl] at missing
          cases missing
      subst sameKey
      have sameValue : v = v' := by simpa [get?_cons] using same k
      subst sameValue
      congr 1
      refine ih sortedRest sortedRest' fun x => ?_
      -- The rest holds nothing at the least key, on either side.
      by_cases here : k = x
      · subst here
        rw [get?_eq_none_of_le above le_rfl, get?_eq_none_of_le above' le_rfl]
      · simpa [get?_cons, here] using same x

end Fields

/-- A patch that returns merged the patch into the stored object, read the result back, and stored it
under its key with the next version and a generation that moves with the spec; it only logs itself. -/
theorem patchObject_run_eq {key : ResourceKey} {p : Json} {s s' : Store} {patched : Object}
    (ran : (patchObject key p).run s = .ok patched s') :
    ∃ current read, s.lookup key = some current ∧ Object.ofJson (current.toJson.mergePatch p) = .ok read ∧
      patched = read.withMeta (fun m => { m with
        generation := some (if (specPart current.toJson).beq (specPart (current.toJson.mergePatch p)) then
          current.metadata.generation.getD 1 else nextGeneration (current.metadata.generation.getD 1)),
        resourceVersion := some (toString (s.version + 1)) }) ∧
      s'.lookup key = some patched ∧ (∀ k, k ≠ key → s'.lookup k = s.lookup k) ∧
      s'.ops = s.ops ++ [⟨.patch, key, none⟩] ∧ s'.failures = s.failures := by
  unfold patchObject at ran
  -- Step through the patch: record, read, merge and decode, hand out a version, store.
  obtain ⟨_, s₁, recorded, ran⟩ := run_bind_ok ran
  cases record_ok recorded
  obtain ⟨current, s₂, found, ran⟩ := run_bind_ok ran
  rw [stored_run, Store.lookup_log] at found
  -- The patch went to the object stored under its key.
  have held : s.lookup key = some current ∧ s₂ = s.log ⟨.patch, key, none⟩ := by
    cases stored : s.lookup key with
    | none => rw [stored] at found; cases found
    | some o' =>
      rw [stored] at found
      cases found
      exact ⟨rfl, rfl⟩
  obtain ⟨held, rfl⟩ := held
  obtain ⟨read, s₃, decoded, ran⟩ := run_bind_ok ran
  -- Reading the merged value back as an object did not fail, and changed nothing.
  have readOk : Object.ofJson (current.toJson.mergePatch p) = .ok read ∧ s₃ = s.log ⟨.patch, key, none⟩ := by
    cases result : Object.ofJson (current.toJson.mergePatch p) with
    | error e => simp [result, StoreM.ofExcept, Except.mapError] at decoded; cases decoded
    | ok r =>
      simp only [result, StoreM.ofExcept, Except.mapError] at decoded
      cases decoded
      exact ⟨rfl, rfl⟩
  obtain ⟨readOk, rfl⟩ := readOk
  obtain ⟨v, s₄, handed, ran⟩ := run_bind_ok ran
  cases handed
  obtain ⟨_, s₅, put, ran⟩ := run_bind_ok ran
  cases put
  cases ran
  exact ⟨current, read, held, readOk, rfl, Store.lookup_put_self _ _ _,
    fun k other => Store.lookup_put_of_ne _ key _ other, rfl, rfl⟩

/-- A patch that returns merged into the object stored under its key, read the result back as an
object, and stored that with a new generation and the next version, which it returns. -/
theorem patchObject_run_ok {key : ResourceKey} {p : Json} {s s' : Store} {patched : Object}
    (ran : (patchObject key p).run s = .ok patched s') :
    ∃ current read, s.lookup key = some current ∧ Object.ofJson (current.toJson.mergePatch p) = .ok read ∧
      ∃ generation v, patched = read.withMeta fun m => { m with generation := generation, resourceVersion := some v } := by
  obtain ⟨current, read, held, readOk, rfl, -⟩ := patchObject_run_eq ran
  exact ⟨current, read, held, readOk, _, _, rfl⟩

/-- A patch that returns stores what it returns under its key; it logs itself and leaves every
other key and the failures to inject alone. -/
theorem patchObject_stored {key : ResourceKey} {p : Json} {s s' : Store} {patched : Object}
    (ran : (patchObject key p).run s = .ok patched s') :
    s'.lookup key = some patched ∧ (∀ k, k ≠ key → s'.lookup k = s.lookup k) ∧
      s'.ops = s.ops ++ [⟨.patch, key, none⟩] ∧ s'.failures = s.failures := by
  -- The last facts of the run are what is stored and logged.
  obtain ⟨current, read, -, -, -, written⟩ := patchObject_run_eq ran
  exact written

/-- Reading the top-level entries of an object succeeds only when its metadata entry reads. -/
theorem Object.readEntriesFrom_metadata {fs : Fields} (unique : fs.keys.Nodup) {i : Nat}
    {meta0 : Option ObjectMeta} {acc : List (String × Yaml)} {r : Option ObjectMeta × List (String × Yaml)}
    (read : Object.readEntriesFrom i (Json.fieldsToYaml fs) meta0 acc = .ok r) {mj : Json}
    (found : Fields.get? fs "metadata" = some mj) : ∃ m, ObjectMeta.decode mj.toYaml = .ok m := by
  induction fs generalizing i meta0 acc with
  | nil => cases found
  | cons kv rest ih =>
    obtain ⟨k, v⟩ := kv
    have uniqueRest : (Fields.keys rest).Nodup := (List.nodup_cons.mp unique).2
    simp only [Json.fieldsToYaml, Object.readEntriesFrom, Yaml.fieldName, Decoded.inPart,
      Except.mapError, bind, Except.bind] at read
    -- The read either meets the metadata here or passes over another entry.
    by_cases isMetadata : k = "metadata"
    · -- The entry read here is the metadata, and the read went on past it.
      subst isMetadata
      rw [Fields.get?_cons, if_pos rfl, Option.some.injEq] at found
      subst found
      simp only [beq_self_eq_true, if_true] at read
      split at read
      · cases read
      · cases decoded : ObjectMeta.decode v.toYaml with
        | error e => simp [decoded] at read
        | ok m => exact ⟨m, rfl⟩
    -- Another entry was read, and the metadata lies further on.
    · rw [Fields.get?_cons, if_neg isMetadata] at found
      simp only [beq_iff_eq, isMetadata, if_false] at read
      split at read
      · cases read
      · exact ih uniqueRest read found

/-- Taking the type out of entries whose apiVersion and kind are text (given here or met on
the way) gives that type. -/
theorem Object.takeTypes_go_types {a k : String} (G : Fields) (unique : G.keys.Nodup)
    (av kd : Option String) (kept : List (String × Yaml))
    (api : G.get? "apiVersion" = some (.str a) ∨ (G.get? "apiVersion" = none ∧ av = some a))
    (kind : G.get? "kind" = some (.str k) ∨ (G.get? "kind" = none ∧ kd = some k)) :
    (Object.takeTypes.go (G.map fun kv => (kv.1, kv.2.toYaml)) av kd kept).1 = some ⟨a, k⟩ := by
  induction G generalizing av kd kept with
  | nil =>
    obtain ⟨-, rfl⟩ := api.resolve_left (by simp)
    obtain ⟨-, rfl⟩ := kind.resolve_left (by simp)
    rfl
  | cons kv rest ih =>
    obtain ⟨name, v⟩ := kv
    have uniqueRest : (Fields.keys rest).Nodup := (List.nodup_cons.mp unique).2
    -- The key of this entry is not met again.
    have absent : Fields.get? rest name = none := Fields.get?_eq_none_iff.mpr fun w mem =>
      (List.nodup_cons.mp unique).1 (List.mem_map.mpr ⟨(name, w), mem, rfl⟩)
    -- The apiVersion and kind entries set the type's parts; other entries are kept.
    by_cases isApi : name = "apiVersion"
    · subst isApi
      have text : v = .str a := by simpa [Fields.get?_cons] using api
      subst text
      simp only [List.map_cons, Object.takeTypes.go, beq_self_eq_true, Bool.true_or, if_true]
      exact ih uniqueRest _ _ _ (.inr ⟨absent, rfl⟩) (by simpa [Fields.get?_cons] using kind)
    by_cases isKind : name = "kind"
    · subst isKind
      have text : v = .str k := by simpa [Fields.get?_cons] using kind
      subst text
      simp only [List.map_cons, Object.takeTypes.go, beq_self_eq_true, Bool.or_true, if_true]
      exact ih uniqueRest _ _ _ (by simpa [Fields.get?_cons] using api) (.inr ⟨absent, rfl⟩)
    -- Any other entry leaves the type's parts as they were.
    · have other : (name == "apiVersion" || name == "kind") = false := by simp [isApi, isKind]
      simp only [List.map_cons, Object.takeTypes.go, other, Bool.false_eq_true, if_false]
      rw [Fields.get?_cons, if_neg isApi] at api
      rw [Fields.get?_cons, if_neg isKind] at kind
      exact ih uniqueRest _ _ _ api kind

/-- An object read from a canonical JSON object: its metadata is what the metadata entry reads
as, every other field but apiVersion and kind is kept as it was, and text apiVersion and kind
make its type. -/
theorem Object.ofJson_obj_ok {fs : Fields} (canonical : (Json.obj fs).Canonical) {p : Object}
    (read : Object.ofJson (.obj fs) = .ok p) :
    (∀ mj, Fields.get? fs "metadata" = some mj → ObjectMeta.decode mj.toYaml = .ok p.metadata) ∧
      p.data.Sorted ∧ Fields.get? p.data "metadata" = none ∧
      (∀ k, k ≠ "apiVersion" → k ≠ "kind" → k ≠ "metadata" → Fields.get? p.data k = Fields.get? fs k) ∧
      ∀ a k, Fields.get? fs "apiVersion" = some (.str a) → Fields.get? fs "kind" = some (.str k) →
        p.types = some ⟨a, k⟩ := by
  have unique := ((Json.canonical_obj fs).mp canonical).1.keys_nodup
  have decoded := read
  unfold Object.ofJson Object.decode at decoded
  simp only [Json.toYaml, Yaml.readEntries, bind, Except.bind] at decoded
  -- The entries were read, so the metadata entry read.
  have readable : ∀ mj, Fields.get? fs "metadata" = some mj → ∃ m, ObjectMeta.decode mj.toYaml = .ok m := by
    intro mj found
    cases entries : Object.readEntriesFrom 0 (Json.fieldsToYaml fs) none [] with
    | error e => rw [entries] at decoded; cases decoded
    | ok r => exact Object.readEntriesFrom_metadata unique entries found
  obtain ⟨p', read', metadata, sorted, noMetadata, kept⟩ := Object.ofJson_obj canonical readable
  cases read'.symm.trans read
  refine ⟨metadata, sorted, noMetadata, kept, fun a k api kind => ?_⟩
  -- The type is taken from the entries other than the metadata.
  obtain ⟨meta', entries, -⟩ := Object.readEntriesFrom_fields unique 0 none [] (.inl rfl) readable
  rw [entries] at decoded
  simp only [List.nil_append, Object.takeTypes] at decoded
  split at decoded
  · cases decoded
  cases decoded
  -- Leaving the metadata out keeps the apiVersion and kind entries.
  have sortedFs : Fields.Sorted fs := ((Json.canonical_obj fs).mp canonical).1
  have kept : ∀ key, key ≠ "metadata" →
      Fields.get? (fs.filter (·.1 != "metadata")) key = Fields.get? fs key := by
    intro key other
    cases found : Fields.get? fs key with
    | none => exact Fields.get?_eq_none_iff.mpr fun v mem =>
        Fields.get?_eq_none_iff.mp found v (List.mem_filter.mp mem).1
    | some v =>
      have sortedG : Fields.Sorted (fs.filter (·.1 != "metadata")) := sortedFs.sublist List.filter_sublist
      exact sortedG.get?_of_mem (List.mem_filter.mpr ⟨Fields.mem_of_get? found, by simpa using other⟩)
  exact Object.takeTypes_go_types _ (unique.sublist (List.filter_sublist.map _)) none none []
    (.inl ((kept _ (by decide)).trans api)) (.inl ((kept _ (by decide)).trans kind))

/-- The JSON of a typed object finds its apiVersion and kind under their keys, when its other
fields do not hold those keys. -/
theorem Object.get?_toJson_types {o : Object} {t : TypeMeta} (typed : o.types = some t)
    (unique : o.data.keys.Nodup) (noApiVersion : Fields.get? o.data "apiVersion" = none)
    (noKind : Fields.get? o.data "kind" = none) :
    o.toJson.get? "apiVersion" = some (.str t.apiVersion) ∧ o.toJson.get? "kind" = some (.str t.kind) := by
  unfold Object.toJson
  rw [typed, Json.mkObj, Json.get?, Json.get?, Fields.ofList, List.foldl_append,
    Fields.get?_foldl_insert unique, Fields.get?_foldl_insert unique, noApiVersion, noKind]
  simp [Fields.get?_insert]

/-- Stripping keeps every top-level field but status, apiVersion, kind and metadata. -/
theorem stripServerFields_get?_other {fs : Fields} (sorted : fs.Sorted) {k : String}
    (notStatus : k ≠ "status") (notApiVersion : k ≠ "apiVersion") (notKind : k ≠ "kind")
    (notMetadata : k ≠ "metadata") : (stripServerFields (.obj fs)).get? k = fs.get? k := by
  unfold stripServerFields
  dsimp only
  have kept := sorted.get?_erase_types k
  simp only [notStatus, notApiVersion, notKind, or_self, if_false] at kept
  -- Whether or not the object held metadata, the other fields pass through.
  split <;> simp [Json.get?, Fields.get?_insert, Ne.symm notMetadata, kept]

/-- Stripping leaves the metadata object without the fields only the server writes. -/
theorem stripServerFields_get?_metadata_eq {fs : Fields} (sorted : fs.Sorted) {md : Fields}
    (found : fs.get? "metadata" = some (.obj md)) :
    (stripServerFields (.obj fs)).get? "metadata" = some (.obj (serverMetadataFields.foldl Fields.erase md)) := by
  have kept := sorted.get?_erase_types "metadata"
  simp only [show ("metadata" = "status") = False from by decide, show ("metadata" = "apiVersion") = False from by decide,
    show ("metadata" = "kind") = False from by decide, or_self, if_false, found] at kept
  unfold stripServerFields
  simp [kept, Json.get?, Fields.get?_insert]

namespace ObjectMeta

/-- Metadata whose writable fields read back as they are written: text maps with keys
ascending, and a deletion instant whose text reads back as itself. -/
structure Regular (m : ObjectMeta) : Prop where
  annotations : ∀ a, m.annotations = some a → a.Sorted
  labels : ∀ a, m.labels = some a → a.Sorted
  deletionTimestamp : ∀ t, m.deletionTimestamp = some t → Time.ReadsBack t.render

/-- Regular metadata writes each writable field in the shape its reader reads back. -/
theorem Regular.written {m : ObjectMeta} (regular : m.Regular) {k : String} (writable : k ∈ writableKeys)
    {v : Json} (found : m.toJson.get? k = some v) : Written k v := by
  rw [get?_toJson] at found
  simp only [writableKeys, List.mem_cons, List.not_mem_nil, or_false] at writable
  -- One case per writable key: the field that is set, in the writer's shape.
  rcases writable with rfl | rfl | rfl | rfl | rfl | rfl | rfl | rfl | rfl <;>
    simp [entries, List.lookup] at found <;>
    obtain ⟨a, set, rfl⟩ := found
  · exact ⟨a, regular.annotations a set, rfl⟩
  · exact ⟨a, rfl⟩
  · exact ⟨a.render, rfl, regular.deletionTimestamp a set⟩
  · exact ⟨a, rfl⟩
  · exact ⟨a, rfl⟩
  · exact ⟨a, regular.labels a set, rfl⟩
  · exact ⟨a, rfl⟩
  · exact ⟨a, rfl⟩
  · exact ⟨a, rfl⟩

end ObjectMeta

/-- The JSON of a text map with keys ascending is an object of ascending text fields, and each
such object is one. -/
theorem TextMap.sorted_toJson_iff {fs : Fields} :
    (∃ m : TextMap, m.Sorted ∧ Json.obj fs = m.toJson) ↔ fs.Sorted ∧ ∀ kv ∈ fs, ∃ t, kv.2 = .str t := by
  constructor
  -- A text map's JSON is its entries, each a text.
  · rintro ⟨m, sorted, same⟩
    simp only [TextMap.toJson, Json.obj.injEq] at same
    subst same
    refine ⟨List.pairwise_map.mpr sorted, fun kv mem => ?_⟩
    obtain ⟨⟨k, t⟩, -, rfl⟩ := List.mem_map.mp mem
    exact ⟨t, rfl⟩
  · rintro ⟨sorted, texts⟩
    -- Build the text map field by field; each key lies above those before it.
    induction fs with
    | nil => exact ⟨[], List.Pairwise.nil, rfl⟩
    | cons kv rest ih =>
      obtain ⟨k, v⟩ := kv
      obtain ⟨above, sortedRest⟩ := Fields.sorted_cons.mp sorted
      obtain ⟨t, rfl⟩ := texts (k, v) List.mem_cons_self
      obtain ⟨m, sortedM, same⟩ := ih sortedRest fun kv mem => texts kv (List.mem_cons_of_mem _ mem)
      simp only [TextMap.toJson, Json.obj.injEq] at same
      subst same
      refine ⟨(k, t) :: m, List.pairwise_cons.mpr ⟨fun a mem => ?_, sortedM⟩, rfl⟩
      exact above (a.1, .str a.2) (List.mem_map.mpr ⟨a, mem, rfl⟩)

/-- Merging a patch of texts and nulls into ascending text fields leaves text fields. -/
theorem texts_mergeFields {cf p : Fields} (sorted : cf.Sorted) (texts : ∀ kv ∈ cf, ∃ t, kv.2 = .str t)
    (unique : p.keys.Nodup) (patch : ∀ kv ∈ p, kv.2 = .null ∨ ∃ t, kv.2 = .str t) :
    ∀ kv ∈ Json.mergeFields cf p, ∃ t, kv.2 = .str t := by
  rintro ⟨k, v⟩ mem
  have found := (sorted.mergeFields p).get?_of_mem mem
  rw [Json.mergeFields_get? sorted unique] at found
  -- A key the patch leaves alone keeps its text; the patch writes a null or a text.
  cases entry : p.get? k with
  | none =>
    rw [entry, Json.mergeAt_none] at found
    exact texts _ (Fields.mem_of_get? found)
  | some e =>
    rw [entry] at found
    rcases patch _ (Fields.mem_of_get? entry) with isNull | ⟨t, isText⟩
    · subst isNull
      cases found
    · subst isText
      rw [mergeAt_some] at found
      simp only [Json.isNull, Bool.false_eq_true, if_false, Json.mergePatch, Option.some.injEq] at found
      exact ⟨t, found.symm⟩

/-- A patch framed by desired text fields holds texts and nulls. -/
theorem Framed.texts {o : Option Fields} {c w p : Fields} (framed : Framed o c w p)
    (texts : ∀ kv ∈ w, ∃ t, kv.2 = .str t) : ∀ kv ∈ p, kv.2 = .null ∨ ∃ t, kv.2 = .str t := by
  rintro ⟨k, v⟩ mem
  have sorted : p.Sorted := by cases framed with | intro sorted _ => exact sorted
  -- A sub-patch stands where both sides are objects, so not where texts are desired.
  cases framed.entry_of_get? (sorted.get?_of_mem mem) with
  | sub desired _ _ =>
    obtain ⟨t, isText⟩ := texts _ (Fields.mem_of_get? desired)
    cases isText
  | whole desired _ _ => exact .inr (texts _ (Fields.mem_of_get? desired))
  | dropped _ _ _ => exact .inl rfl

namespace ObjectMeta

/-- The writable metadata keys written as objects are the text maps. -/
theorem written_obj_iff {k : String} {fs : Fields} :
    Written k (.obj fs) ↔ (k = "annotations" ∨ k = "labels") ∧ fs.Sorted ∧ ∀ kv ∈ fs, ∃ t, kv.2 = .str t := by
  -- Only annotations and labels are written as objects.
  by_cases textMap : k = "annotations" ∨ k = "labels"
  · rcases textMap with rfl | rfl <;> simpa [Written] using TextMap.sorted_toJson_iff
  · simp only [textMap, false_and, iff_false]
    unfold Written
    split <;> simp_all [Json.int]

end ObjectMeta

namespace ObjectMeta

/-- Merging a framed patch keeps each writable field in the shape its reader reads back, when
the live and the desired fields have it: a text map merged with a patch of texts and nulls is
a text map, and anything else the patch writes is the desired value. -/
theorem written_mergeAt {o : Option Fields} {lf wf p : Fields} (framed : Framed o lf wf p) {k : String}
    (live : ∀ v, lf.get? k = some v → Written k v) (desired : ∀ v, wf.get? k = some v → Written k v) :
    ∀ v, Json.mergeAt (lf.get? k) (p.get? k) = some v → Written k v := by
  intro v merged
  -- A key the patch leaves alone keeps the live shape.
  cases entry : p.get? k with
  | none =>
    rw [entry, Json.mergeAt_none] at merged
    exact live v merged
  | some e =>
    rw [entry] at merged
    cases framed.entry_of_get? entry with
    | sub desiredObj liveObj nested =>
      -- Text maps on both sides, so the merge is a text map again.
      obtain ⟨which, -, wantedTexts⟩ := written_obj_iff.mp (desired _ desiredObj)
      obtain ⟨-, liveSorted, liveTexts⟩ := written_obj_iff.mp (live _ liveObj)
      rw [liveObj, mergeAt_some] at merged
      simp only [Json.isNull, Bool.false_eq_true, if_false, Option.getD_some, mergePatch_obj,
        Json.fields?, Option.some.injEq] at merged
      subst merged
      exact written_obj_iff.mpr ⟨which, liveSorted.mergeFields _,
        texts_mergeFields liveSorted liveTexts nested.keys_nodup (nested.texts wantedTexts)⟩
    | whole desiredValue notBoth _ =>
      have written := desired e desiredValue
      by_cases isNull : e = .null
      · subst isNull
        cases merged
      by_cases isObj : ∃ ef, e = .obj ef
      · -- A text map desired where no text map is live is written as it is.
        obtain ⟨ef, rfl⟩ := isObj
        obtain ⟨which, sorted, texts⟩ := written_obj_iff.mp written
        have noLive : lf.get? k = none := by
          cases found : lf.get? k with
          | none => rfl
          | some y =>
            rcases which with rfl | rfl <;> obtain ⟨m, -, rfl⟩ := live y found <;>
              exact absurd found (notBoth ef _ rfl)
        rw [noLive, mergeAt_some] at merged
        simp only [Json.isNull, Bool.false_eq_true, if_false, Option.getD_none, mergePatch_obj,
          Json.fields?, Option.getD_none, Option.some.injEq] at merged
        subst merged
        exact written_obj_iff.mpr ⟨which, Fields.sorted_nil.mergeFields _,
          texts_mergeFields Fields.sorted_nil (by simp) sorted.keys_nodup fun kv mem => .inr (texts kv mem)⟩
      · -- Any other value is written whole.
        have notObj : e.isObj = false := by
          cases e <;> simp_all [Json.isObj]
        have notNull : e.isNull = false := by
          cases e <;> simp_all [Json.isNull]
        rw [mergeAt_some, if_neg (by simp [notNull]), mergePatch_of_not_obj _ notObj] at merged
        cases merged
        exact written
    | dropped _ _ _ => cases merged

end ObjectMeta

namespace ObjectMeta

/-- The metadata fields a patch may write: the JSON of the metadata without the fields only the
server writes. -/
def writableFields (m : ObjectMeta) : Fields :=
  serverMetadataFields.foldl Fields.erase (optionalFields m.entries)

theorem sorted_writableFields (m : ObjectMeta) : m.writableFields.Sorted :=
  (sorted_optionalFields m).foldl_erase _

theorem not_server_of_writable {k : String} (writable : k ∈ writableKeys) : k ∉ serverMetadataFields := by
  simp only [writableKeys, List.mem_cons, List.not_mem_nil, or_false] at writable
  -- Each writable key differs from each of the server's.
  rcases writable with rfl | rfl | rfl | rfl | rfl | rfl | rfl | rfl | rfl <;> decide

/-- Metadata JSON holds only writable keys and keys only the server writes. -/
theorem toJson_get?_of_unknown (m : ObjectMeta) {k : String} (notWritable : k ∉ writableKeys)
    (notServer : k ∉ serverMetadataFields) : m.toJson.get? k = none := by
  simp only [writableKeys, serverMetadataFields, List.mem_cons, List.not_mem_nil, or_false,
    not_or] at notWritable notServer
  rw [get?_toJson]
  simp only [entries, List.lookup]
  -- Walk the entries: none of them is written under an unknown key.
  repeat' split
  all_goals simp_all

theorem writableFields_get? (m : ObjectMeta) (k : String) :
    m.writableFields.get? k = if k ∈ writableKeys then m.toJson.get? k else none := by
  rw [writableFields, (sorted_optionalFields m).get?_foldl_erase, ← Json.get?_obj, ← toJson_eq]
  -- A writable key is read through; any other is erased or was never written.
  by_cases writable : k ∈ writableKeys
  · simp [writable, not_server_of_writable writable]
  · by_cases server : k ∈ serverMetadataFields
    · simp [writable, server]
    · simp [writable, server, toJson_get?_of_unknown m writable server]

/-- Setting the generation, the uid and the resourceVersion, as the cluster does on a write,
leaves the writable fields alone. -/
theorem writableFields_withServer (m : ObjectMeta) (g : Option Int) (u r : Option String) :
    ({ m with generation := g, uid := u, resourceVersion := r } : ObjectMeta).writableFields =
      m.writableFields := by
  refine Fields.Sorted.ext (sorted_writableFields _) (sorted_writableFields m) fun k => ?_
  rw [writableFields_get?, writableFields_get?]
  -- The server's fields are not writable, so setting them changes no writable one.
  split
  · rename_i writable
    simp only [writableKeys, List.mem_cons, List.not_mem_nil, or_false] at writable
    rcases writable with rfl | rfl | rfl | rfl | rfl | rfl | rfl | rfl | rfl <;>
      simp [get?_toJson, entries, List.lookup]
  · rfl

/-- Setting the versions leaves the writable fields alone. -/
theorem writableFields_withVersions (m : ObjectMeta) (g : Option Int) (r : Option String) :
    ({ m with generation := g, resourceVersion := r } : ObjectMeta).writableFields = m.writableFields :=
  writableFields_withServer m g m.uid r

/-- Metadata read back from live metadata merged with a framed patch has as writable fields the
live writable fields merged with the patch, when live and desired metadata are regular. -/
theorem writableFields_decode_mergeFields {ml md mr : ObjectMeta} {o : Option Fields} {p : Fields}
    (live : ml.Regular) (desired : md.Regular) (framed : Framed o ml.writableFields md.writableFields p)
    (decoded : decode (Json.obj (Json.mergeFields (optionalFields ml.entries) p)).toYaml = .ok mr) :
    mr.writableFields = Json.mergeFields ml.writableFields p := by
  have sortedLive := sorted_optionalFields ml
  -- Both are sorted, so they agree when every lookup does.
  refine Fields.Sorted.ext (sorted_writableFields mr) (ml.sorted_writableFields.mergeFields p) fun k => ?_
  rw [writableFields_get?, Json.mergeFields_get? ml.sorted_writableFields framed.keys_nodup,
    writableFields_get?]
  by_cases writable : k ∈ writableKeys
  · rw [if_pos writable, if_pos writable]
    have merged : (Json.mergeFields (optionalFields ml.entries) p).get? k =
        Json.mergeAt (ml.toJson.get? k) (p.get? k) := by
      rw [Json.mergeFields_get? sortedLive framed.keys_nodup, toJson_eq, Json.get?_obj]
    -- The merged field has the shape its reader reads back, so it is written back as it is.
    have shaped : ∀ v, (Json.mergeFields (optionalFields ml.entries) p).get? k = some v → Written k v := by
      intro v found
      rw [merged] at found
      refine written_mergeAt framed (fun v found => ?_) (fun v found => ?_) v ?_
      · rw [writableFields_get?, if_pos writable] at found
        exact live.written writable found
      · rw [writableFields_get?, if_pos writable] at found
        exact desired.written writable found
      · rwa [writableFields_get?, if_pos writable]
    rw [toJson_get?_of_decode (sortedLive.mergeFields p).keys_nodup decoded writable shaped, merged]
  · rw [if_neg writable, if_neg writable]
    -- No patch writes a key that neither side holds.
    have absent : p.get? k = none := framed.get?_eq_none_of_absent
      (by rw [writableFields_get?, if_neg writable]) (by rw [writableFields_get?, if_neg writable])
    rw [absent, Json.mergeAt_none]

end ObjectMeta

/-- A patch framed by canonical desired fields is canonical: its entries are desired values,
nulls, and framed sub-patches. -/
theorem Framed.canonical {o : Option Fields} {c w p : Fields} (framed : Framed o c w p)
    (desired : Json.Canonical (.obj w)) : Json.Canonical (.obj p) := by
  -- Induction on the desired value: a sub-patch is framed by one of its fields.
  suffices all : ∀ d : Json, d.Canonical → ∀ o c w p, d = .obj w → Framed o c w p →
      Json.Canonical (.obj p) from all _ desired o c w p rfl framed
  intro d
  induction d with
  | obj fields ih =>
    intro canonical o c w p same framed
    injection same with same
    subst same
    obtain ⟨-, values⟩ := (Json.canonical_obj fields).mp canonical
    -- Each entry of the patch is a framed sub-patch, a desired value, or a null.
    cases framed with
    | intro sorted entry =>
      refine (Json.canonical_obj p).mpr ⟨sorted, fun kv mem => ?_⟩
      obtain ⟨k, v⟩ := kv
      cases entry k v (sorted.get?_of_mem mem) with
      | sub desiredField _ nested =>
        have inFields := Fields.mem_of_get? desiredField
        exact ih _ inFields (values _ inFields) _ _ _ _ rfl nested
      | whole desiredField _ _ => exact values _ (Fields.mem_of_get? desiredField)
      | dropped _ _ _ => trivial
  | _ =>
    intro _ _ _ _ _ same
    cases same

/-- Where the desired and the live fields both hold objects, merging the patch's entry into an
object merges a framed sub-patch, empty when the patch holds nothing there. -/
theorem Framed.mergeAt_of_objects {o : Option Fields} {c w p : Fields} (framed : Framed o c w p)
    {k : String} {wf cf : Fields} (desired : w.get? k = some (.obj wf)) (live : c.get? k = some (.obj cf)) :
    ∃ pf, Framed ((fieldAt? o k).bind Json.fields?) cf wf pf ∧
      ∀ x, Json.mergeAt (some (.obj x)) (p.get? k) = some (.obj (Json.mergeFields x pf)) := by
  -- The patch holds nothing at the key, or a framed sub-patch.
  rcases framed.get?_of_objects desired live with absent | ⟨pf, found, nested⟩
  · refine ⟨[], Framed.intro Fields.sorted_nil fun _ _ found => by simp at found, fun x => ?_⟩
    rw [absent, Json.mergeAt_none]
    rfl
  · refine ⟨pf, nested, fun x => ?_⟩
    rw [found, mergeAt_some]
    rfl

/-- An object as the cluster holds it: its JSON is canonical, its other fields hold no key
twice and none of apiVersion, kind and metadata, and its metadata is regular. -/
structure Object.Regular (o : Object) : Prop where
  canonical : o.toJson.Canonical
  unique : o.data.keys.Nodup
  reserved : ∀ k ∈ ["apiVersion", "kind", "metadata"], Fields.get? o.data k = none
  metadata : o.metadata.Regular

namespace Object

variable {o : Object}

theorem Regular.toJson_get?_metadata (regular : o.Regular) : o.toJson.get? "metadata" = some o.metadata.toJson :=
  Object.get?_toJson_metadata regular.unique (regular.reserved "metadata" (by simp))

/-- Stripping the JSON of an object leaves ascending fields. -/
theorem stripServerFields_toJson_sorted (o : Object) :
    ∃ l : Fields, stripServerFields o.toJson = .obj l ∧ l.Sorted := by
  obtain ⟨fs, json, sorted⟩ := o.sorted_toJson
  -- Erasing keeps the fields sorted, and so does inserting the metadata back.
  have erased := (sorted.erase "status" |>.erase "apiVersion").erase "kind"
  rw [json]
  unfold stripServerFields
  dsimp only
  -- The object held metadata, which is put back stripped, or none.
  split
  · exact ⟨_, rfl, erased.insert _ _⟩
  · exact ⟨_, rfl, erased⟩

/-- The stripped JSON of an object holds neither status, apiVersion nor kind. -/
theorem stripServerFields_toJson_types (o : Object) {k : String}
    (removed : k = "status" ∨ k = "apiVersion" ∨ k = "kind") : (stripServerFields o.toJson).get? k = none := by
  obtain ⟨fs, json, sorted⟩ := o.sorted_toJson
  rw [json]
  exact stripServerFields_get?_types sorted removed

/-- The stripped JSON of an object holds its writable metadata fields, when its other fields
hold no key twice and no metadata. -/
theorem stripServerFields_toJson_metadata (unique : o.data.keys.Nodup)
    (noMetadata : Fields.get? o.data "metadata" = none) :
    (stripServerFields o.toJson).get? "metadata" = some (.obj o.metadata.writableFields) := by
  obtain ⟨fs, json, sorted⟩ := o.sorted_toJson
  have found := Object.get?_toJson_metadata unique noMetadata
  rw [json, ObjectMeta.toJson_eq, Json.get?_obj] at found
  rw [json]
  exact stripServerFields_get?_metadata_eq sorted found

/-- The stripped JSON of a regular object holds its writable metadata fields. -/
theorem Regular.stripServerFields_metadata (regular : o.Regular) :
    (stripServerFields o.toJson).get? "metadata" = some (.obj o.metadata.writableFields) :=
  stripServerFields_toJson_metadata regular.unique (regular.reserved "metadata" (by simp))

/-- The stripped JSON of an object holds its other fields but status. -/
theorem stripServerFields_toJson_other (unique : o.data.keys.Nodup) {k : String} (notStatus : k ≠ "status")
    (notApiVersion : k ≠ "apiVersion") (notKind : k ≠ "kind") (notMetadata : k ≠ "metadata") :
    (stripServerFields o.toJson).get? k = Fields.get? o.data k := by
  obtain ⟨fs, json, sorted⟩ := o.sorted_toJson
  rw [← Object.get?_toJson_data unique notApiVersion notKind notMetadata, json]
  exact stripServerFields_get?_other sorted notStatus notApiVersion notKind notMetadata

/-- Setting what only the server writes leaves the stripped JSON of an object alone, when its
other fields hold no key twice and no metadata. -/
theorem stripServerFields_withServer (unique : o.data.keys.Nodup)
    (noMetadata : Fields.get? o.data "metadata" = none) (g : Option Int) (u r : Option String) :
    stripServerFields (o.withMeta fun m => { m with generation := g, uid := u, resourceVersion := r }).toJson =
      stripServerFields o.toJson := by
  set o' := o.withMeta fun m => { m with generation := g, uid := u, resourceVersion := r } with written
  -- Setting the server's fields changes no other field.
  have unique' : o'.data.keys.Nodup := unique
  have noMetadata' : Fields.get? o'.data "metadata" = none := noMetadata
  obtain ⟨l', stripped', sorted'⟩ := o'.stripServerFields_toJson_sorted
  obtain ⟨l, stripped, sorted⟩ := o.stripServerFields_toJson_sorted
  rw [stripped', stripped]
  congr 1
  -- Key by key: the types are gone on both sides, the writable metadata is the same, and the
  -- other fields are the object's own.
  refine Fields.Sorted.ext sorted' sorted fun k => ?_
  rw [← Json.get?_obj l' k, ← stripped', ← Json.get?_obj l k, ← stripped]
  by_cases removed : k = "status" ∨ k = "apiVersion" ∨ k = "kind"
  · rw [stripServerFields_toJson_types _ removed, stripServerFields_toJson_types _ removed]
  obtain ⟨notStatus, notApi, notKind⟩ : k ≠ "status" ∧ k ≠ "apiVersion" ∧ k ≠ "kind" := by
    simpa only [not_or] using removed
  by_cases isMeta : k = "metadata"
  · subst isMeta
    rw [stripServerFields_toJson_metadata unique' noMetadata', stripServerFields_toJson_metadata unique noMetadata,
      written]
    simp only [Object.withMeta, ObjectMeta.writableFields_withServer]
  · rw [stripServerFields_toJson_other unique' notStatus notApi notKind isMeta,
      stripServerFields_toJson_other unique notStatus notApi notKind isMeta]
    rfl

end Object

/-- Reading back a regular object merged with a canonical patch that leaves apiVersion and kind
alone and merges the sub-patch `pmd` into the metadata: the type stays, the metadata is read
from the live metadata merged with `pmd`, and every other field is merged as the patch says. -/
theorem Object.ofJson_mergePatch {live r : Object} (regular : live.Regular) {b pmd : Fields}
    (patch : Json.Canonical (.obj b)) (noApiVersion : b.get? "apiVersion" = none)
    (noKind : b.get? "kind" = none)
    (metadata : ∀ x, Json.mergeAt (some (.obj x)) (b.get? "metadata") = some (.obj (Json.mergeFields x pmd)))
    (read : Object.ofJson (live.toJson.mergePatch (.obj b)) = .ok r) :
    (∀ t, live.types = some t → r.types = some t) ∧
      ObjectMeta.decode (Json.obj (Json.mergeFields (optionalFields live.metadata.entries) pmd)).toYaml =
        .ok r.metadata ∧
      r.data.Sorted ∧ Fields.get? r.data "metadata" = none ∧
      ∀ k, k ≠ "apiVersion" → k ≠ "kind" → k ≠ "metadata" →
        Fields.get? r.data k = Json.mergeAt (Fields.get? live.data k) (b.get? k) := by
  obtain ⟨cs, json, sorted⟩ := live.sorted_toJson
  have bUnique := ((Json.canonical_obj b).mp patch).1.keys_nodup
  -- The merged value is canonical, and each of its fields is the patch's merge of the live one.
  have canonical : (Json.obj (Json.mergeFields cs b)).Canonical := by
    have merged := patch.mergePatch regular.canonical
    rwa [json, mergePatch_obj] at merged
  have mergedAt : ∀ k, (Json.mergeFields cs b).get? k = Json.mergeAt (Fields.get? cs k) (b.get? k) :=
    Json.mergeFields_get? sorted bUnique
  have liveAt : ∀ k, Fields.get? cs k = live.toJson.get? k := fun k => by rw [json, Json.get?_obj]
  rw [json, mergePatch_obj] at read
  obtain ⟨readMeta, dataSorted, noMetadata, kept, types⟩ := Object.ofJson_obj_ok canonical read
  refine ⟨fun t typed => ?_, ?_, dataSorted, noMetadata, fun k notApi notKind notMeta => ?_⟩
  · -- The patch leaves the type's fields as the live object has them.
    obtain ⟨api, kind⟩ := Object.get?_toJson_types typed regular.unique
      (regular.reserved "apiVersion" (by simp)) (regular.reserved "kind" (by simp))
    exact types _ _ (by rw [mergedAt, noApiVersion, Json.mergeAt_none, liveAt, api])
      (by rw [mergedAt, noKind, Json.mergeAt_none, liveAt, kind])
  · apply readMeta
    rw [mergedAt, liveAt, regular.toJson_get?_metadata, ObjectMeta.toJson_eq, metadata]
  · rw [kept k notApi notKind notMeta, mergedAt, liveAt,
      Object.get?_toJson_data regular.unique notApi notKind notMeta]

/-- Merging a framed patch into a regular live object and reading the result back: the type stays,
the writable metadata is merged, and whatever versions are set, it strips to the merged fields. -/
theorem stripServerFields_ofJson_mergePatch {live desired r : Object} (liveRegular : live.Regular)
    (desiredRegular : desired.Regular) {o : Option Fields} {l w b pmd : Fields}
    (stripLive : stripServerFields live.toJson = .obj l)
    (stripWanted : stripServerFields desired.toJson = .obj w) (framed : Framed o l w b)
    (sub : Framed ((fieldAt? o "metadata").bind Json.fields?) live.metadata.writableFields
      desired.metadata.writableFields pmd)
    (metadata : ∀ x, Json.mergeAt (some (.obj x)) (b.get? "metadata") = some (.obj (Json.mergeFields x pmd)))
    (read : Object.ofJson (live.toJson.mergePatch (.obj b)) = .ok r) :
    (∀ t, live.types = some t → r.types = some t) ∧
      r.metadata.writableFields = Json.mergeFields live.metadata.writableFields pmd ∧
      ∀ g v, stripServerFields (r.withMeta fun m => { m with generation := g, resourceVersion := v }).toJson =
        .obj (Json.mergeFields l b) := by
  have liveMeta := liveRegular.stripServerFields_metadata
  rw [stripLive, Json.get?_obj] at liveMeta
  have lSorted : l.Sorted := ((Json.canonical_obj l).mp (stripLive ▸ liveRegular.canonical.stripServerFields)).1
  have wCanonical : Json.Canonical (.obj w) := stripWanted ▸ desiredRegular.canonical.stripServerFields
  -- The patch holds no field that stripping drops.
  have typeFree : ∀ k, k = "status" ∨ k = "apiVersion" ∨ k = "kind" → b.get? k = none := fun k removed =>
    framed.get?_eq_none_of_absent
      (by rw [← Json.get?_obj, ← stripWanted, desired.stripServerFields_toJson_types removed])
      (by rw [← Json.get?_obj, ← stripLive, live.stripServerFields_toJson_types removed])
  obtain ⟨types, decoded, dataSorted, noMetadata, kept⟩ := Object.ofJson_mergePatch liveRegular
    (framed.canonical wCanonical) (typeFree _ (by simp)) (typeFree _ (by simp)) metadata read
  have writable : r.metadata.writableFields = Json.mergeFields live.metadata.writableFields pmd :=
    ObjectMeta.writableFields_decode_mergeFields liveRegular.metadata desiredRegular.metadata sub decoded
  refine ⟨types, writable, fun g v => ?_⟩
  -- The object read back keeps its other fields when the versions are set.
  have patchedUnique : (r.withMeta fun m => { m with generation := g, resourceVersion := v }).data.keys.Nodup :=
    dataSorted.keys_nodup
  have patchedNoMetadata :
      Fields.get? (r.withMeta fun m => { m with generation := g, resourceVersion := v }).data "metadata" = none :=
    noMetadata
  obtain ⟨l', stripped, sorted'⟩ :=
    (r.withMeta fun m => { m with generation := g, resourceVersion := v }).stripServerFields_toJson_sorted
  rw [stripped]
  congr 1
  -- Key by key: the types are gone on both sides, the metadata is the merged writable
  -- metadata, and every other field is merged as the patch says.
  refine Fields.Sorted.ext sorted' (lSorted.mergeFields b) fun k => ?_
  rw [← Json.get?_obj l' k, ← stripped, Json.mergeFields_get? lSorted framed.keys_nodup]
  by_cases removed : k = "status" ∨ k = "apiVersion" ∨ k = "kind"
  · rw [Object.stripServerFields_toJson_types _ removed, typeFree k removed, Json.mergeAt_none,
      ← Json.get?_obj l, ← stripLive, live.stripServerFields_toJson_types removed]
  obtain ⟨notStatus, notApi, notKind⟩ : k ≠ "status" ∧ k ≠ "apiVersion" ∧ k ≠ "kind" := by
    simpa only [not_or] using removed
  by_cases isMeta : k = "metadata"
  · subst isMeta
    rw [Object.stripServerFields_toJson_metadata patchedUnique patchedNoMetadata, liveMeta, metadata]
    simp only [Object.withMeta, ObjectMeta.writableFields_withVersions, writable]
  · rw [Object.stripServerFields_toJson_other patchedUnique notStatus notApi notKind isMeta,
      ← Json.get?_obj l, ← stripLive,
      Object.stripServerFields_toJson_other liveRegular.unique notStatus notApi notKind isMeta]
    exact kept k notApi notKind isMeta

end MeshControl
