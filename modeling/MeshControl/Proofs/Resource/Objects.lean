import MeshControl.Proofs.Resource.Records
import MeshControl.Proofs.Patch.Convergence

/-! Objects written to JSON and read back keep their fields and metadata, and metadata still
reads back once the cluster has given it a new resourceVersion. -/

namespace MeshControl

/-! Metadata with a new resourceVersion. -/

theorem Yaml.foldFieldsFrom_append {σ : Type} (step : σ → String → Yaml → Decoded σ) (i : Nat)
    (xs ys : List (Yaml × Yaml)) (acc : σ) :
    Yaml.foldFieldsFrom step i (xs ++ ys) acc =
      (Yaml.foldFieldsFrom step i xs acc).bind (Yaml.foldFieldsFrom step (i + xs.length) ys) := by
  -- The fold is over the first list; the second starts where its fields end.
  induction xs generalizing i acc with
  | nil => rfl
  | cons e rest ih =>
    obtain ⟨k, x⟩ := e
    simp only [List.cons_append, Yaml.foldFieldsFrom, bind, Except.bind]
    -- A key that is not a name stops both sides at the same entry.
    cases Decoded.inPart (2 * i) (Yaml.fieldName k) with
    | error e => rfl
    | ok name =>
      simp only
      -- So does a value the step rejects.
      cases Decoded.inPart (2 * i + 1) (step acc name x) with
      | error e => rfl
      | ok acc' =>
        simp only
        -- The next entry of the second list sits at the shifted position.
        rw [ih, List.length_cons, Nat.add_comm rest.length 1, ← Nat.add_assoc]
        rfl

/-- Reading a metadata field other than the resourceVersion does not look at the
resourceVersion and does not change it. -/
theorem ObjectMeta.field_resourceVersion {m : ObjectMeta} {k : String} {x : Yaml} (r : Option String)
    (other : k ≠ "resourceVersion") :
    ObjectMeta.field { m with resourceVersion := r } k x =
      (ObjectMeta.field m k x).map fun m' => { m' with resourceVersion := r } := by
  unfold ObjectMeta.field
  -- Every field but resourceVersion copies the rest of the record through.
  split <;> simp_all [bind, Except.bind, pure, Except.pure, Except.map] <;> split <;> rfl

/-- Reading fields that a change commutes with, from a changed start, changes the result the
same way. -/
theorem Yaml.foldFieldsFrom_commute {σ : Type} {step : σ → String → Yaml → Decoded σ} (change : σ → σ)
    {skip : String} (commutes : ∀ acc k x, k ≠ skip → step (change acc) k x = (step acc k x).map change) :
    ∀ {fs : Fields} (i : Nat) (acc : σ), skip ∉ fs.keys →
      Yaml.foldFieldsFrom step i (Json.fieldsToYaml fs) (change acc) =
        (Yaml.foldFieldsFrom step i (Json.fieldsToYaml fs) acc).map change
  | [], _, _, _ => rfl
  | (k, v) :: rest, i, acc, absent => by
    -- The skipped key is neither this entry's nor any later one's.
    have other : k ≠ skip := fun same => absent (List.mem_cons.mpr (Or.inl same.symm))
    have absentRest : skip ∉ Fields.keys rest := fun mem => absent (List.mem_cons_of_mem _ mem)
    simp only [Json.fieldsToYaml, Yaml.foldFieldsFrom, Yaml.fieldName, Decoded.inPart, Except.mapError,
      bind, Except.bind]
    -- The step commutes here, so the changed read runs one entry ahead in step.
    rw [commutes acc k v.toYaml other]
    cases step acc k v.toYaml with
    | error e => rfl
    | ok acc' => exact Yaml.foldFieldsFrom_commute change commutes (i + 1) acc' absentRest

theorem ObjectMeta.sorted_optionalFields (m : ObjectMeta) : Fields.Sorted (optionalFields m.entries) := by
  -- The fixed key order of the entries is sorted; dropping unset ones keeps it.
  have keysSorted : ((m.entries).map (·.1)).Pairwise (· < ·) := by
    simp only [ObjectMeta.entries, List.map]
    decide
  have sub := keys_optionalFields m.entries
  unfold Fields.Sorted
  exact List.pairwise_map.mp (keysSorted.sublist sub)

/-- The JSON of metadata: the fields that are set, in the order of their keys. -/
theorem ObjectMeta.toJson_eq (m : ObjectMeta) : m.toJson = .obj (optionalFields m.entries) := by
  rw [ObjectMeta.toJson, Json.mkObj, Fields.ofList_of_sorted m.sorted_optionalFields]

theorem Json.fieldsToYaml_append (a b : Fields) :
    Json.fieldsToYaml (a ++ b) = Json.fieldsToYaml a ++ Json.fieldsToYaml b := by
  simp [Json.fieldsToYaml_eq]

/-- Metadata is read from an object field by field, from the empty metadata. -/
theorem ObjectMeta.decode_obj (fs : Fields) :
    ObjectMeta.decode (Json.obj fs).toYaml = Yaml.foldFieldsFrom ObjectMeta.field 0 (Json.fieldsToYaml fs) {} := by
  simp only [ObjectMeta.decode, Json.toYaml, Yaml.readStructEntries, bind, Except.bind, Yaml.foldFields]

/-- The metadata entries around the resourceVersion: twelve before it, selfLink and uid after. -/
theorem ObjectMeta.entries_withResourceVersion (m : ObjectMeta) (r : Option String) :
    ({ m with resourceVersion := r } : ObjectMeta).entries =
      m.entries.take 12 ++ [("resourceVersion", r.map .str)] ++
        [("selfLink", m.selfLink.map .str), ("uid", m.uid.map .str)] := rfl

theorem ObjectMeta.read_resourceVersion (i : Nat) (acc : ObjectMeta) (s : String) :
    Yaml.foldFieldsFrom ObjectMeta.field i
        (Json.fieldsToYaml (optionalFields [("resourceVersion", some (.str s))])) acc =
      .ok { acc with resourceVersion := some s } := rfl

/-- Whatever resourceVersion entry was read, setting it afterwards gives the same metadata. -/
theorem ObjectMeta.read_resourceVersion_overwritten {i : Nat} {acc mid : ObjectMeta} {r : Option String}
    (read : Yaml.foldFieldsFrom ObjectMeta.field i
        (Json.fieldsToYaml (optionalFields [("resourceVersion", r.map .str)])) acc = .ok mid)
    (v : String) :
    ({ mid with resourceVersion := some v } : ObjectMeta) = { acc with resourceVersion := some v } := by
  -- An absent entry reads nothing; a present one sets exactly that field.
  cases r with
  | none =>
    cases read
    rfl
  | some s =>
    rw [Option.map_some, ObjectMeta.read_resourceVersion] at read
    cases read
    rfl

/-- Where a record's fields start only places its errors: a read that succeeds succeeds from any
position with the same result. -/
theorem Yaml.foldFieldsFrom_index {σ : Type} {step : σ → String → Yaml → Decoded σ}
    {xs : List (Yaml × Yaml)} {i : Nat} {acc r : σ} (read : Yaml.foldFieldsFrom step i xs acc = .ok r)
    (j : Nat) : Yaml.foldFieldsFrom step j xs acc = .ok r := by
  -- The index only enters error messages, so each step reads the same at any index.
  induction xs generalizing i j acc with
  | nil => exact read
  | cons e rest ih =>
    obtain ⟨k, x⟩ := e
    simp only [Yaml.foldFieldsFrom, bind, Except.bind] at read ⊢
    cases name : Yaml.fieldName k with
    -- A failing key or step contradicts the read that succeeded.
    | error e => simp [name, Decoded.inPart, Except.mapError] at read
    | ok n =>
      cases stepped : step acc n x with
      | error e => simp [name, stepped, Decoded.inPart, Except.mapError] at read
      | ok acc' =>
        simp only [name, stepped, Decoded.inPart, Except.mapError] at read ⊢
        exact ih read (j + 1)

/-- Metadata that reads back from its JSON still does with another resourceVersion. -/
theorem ObjectMeta.decode_withResourceVersion {m : ObjectMeta}
    (back : ObjectMeta.decode m.toJson.toYaml = .ok m) (v : String) :
    ObjectMeta.decode ({ m with resourceVersion := some v } : ObjectMeta).toJson.toYaml =
      .ok { m with resourceVersion := some v } := by
  let pre := optionalFields (m.entries.take 12)
  let post := optionalFields [("selfLink", m.selfLink.map Json.str), ("uid", m.uid.map Json.str)]
  -- Both objects are read in three parts: the fields before the resourceVersion, its entry, and
  -- selfLink and uid after it.
  have parts : ∀ r : Option String,
      ObjectMeta.decode ({ m with resourceVersion := r } : ObjectMeta).toJson.toYaml =
        ((Yaml.foldFieldsFrom ObjectMeta.field 0 (Json.fieldsToYaml pre) {}).bind
          (Yaml.foldFieldsFrom ObjectMeta.field pre.length
            (Json.fieldsToYaml (optionalFields [("resourceVersion", r.map .str)])))).bind
          (Yaml.foldFieldsFrom ObjectMeta.field
            (pre.length + (Json.fieldsToYaml (optionalFields [("resourceVersion", r.map .str)])).length)
            (Json.fieldsToYaml post)) := by
    intro r
    rw [ObjectMeta.toJson_eq, ObjectMeta.decode_obj, ObjectMeta.entries_withResourceVersion]
    simp only [optionalFields, List.filterMap_append, Json.fieldsToYaml_append, Yaml.foldFieldsFrom_append,
      Nat.zero_add]
    simp only [Json.fieldsToYaml_eq, List.length_map, List.length_append]
    rfl
  have postAbsent : "resourceVersion" ∉ Fields.keys post := fun mem => by
    have := (keys_optionalFields _).subset mem
    simp at this
  -- The stored metadata read back, split into the same three parts.
  have original := parts m.resourceVersion
  rw [show ({ m with resourceVersion := m.resourceVersion } : ObjectMeta) = m from rfl, back] at original
  rw [parts (some v)]
  -- The fields before the resourceVersion are read the same in both.
  cases readPre : Yaml.foldFieldsFrom ObjectMeta.field 0 (Json.fieldsToYaml pre) {} with
  | error e => simp [readPre, Except.bind] at original
  | ok accPre =>
    rw [readPre] at original
    cases readMid : Yaml.foldFieldsFrom ObjectMeta.field pre.length
        (Json.fieldsToYaml (optionalFields [("resourceVersion", m.resourceVersion.map .str)])) accPre with
    | error e => simp [readMid, Except.bind] at original
    | ok mid =>
      simp only [Except.bind, readMid] at original
      simp only [Except.bind, Option.map_some, ObjectMeta.read_resourceVersion]
      -- After the resourceVersion entry the two reads differ only in that field.
      have same := ObjectMeta.read_resourceVersion_overwritten readMid v
      rw [← same, Yaml.foldFieldsFrom_commute (fun acc => { acc with resourceVersion := some v })
        (fun acc k x other => ObjectMeta.field_resourceVersion (some v) other) _ mid postAbsent,
        Yaml.foldFieldsFrom_index original.symm]
      rfl

/-! Reading an object from JSON. -/

/-- Whether an entry is not apiVersion or kind. -/
def Object.untyped (e : String × Yaml) : Bool := !(e.1 == "apiVersion" || e.1 == "kind")

/-- Taking the type out of top-level entries keeps, after those already kept, a part of the
entries that holds every entry other than apiVersion and kind. -/
theorem Object.takeTypes_go_keeps (es : List (String × Yaml)) (av kd : Option String)
    (kept : List (String × Yaml)) :
    ∃ R, (Object.takeTypes.go es av kd kept).2 = kept.reverse ++ R ∧ R.Sublist es ∧
      (es.filter Object.untyped).Sublist R := by
  induction es generalizing av kd kept with
  | nil =>
    refine ⟨[], ?_, List.Sublist.slnil, List.Sublist.slnil⟩
    -- Nothing left: what was kept comes out reversed.
    cases av <;> cases kd <;> simp [Object.takeTypes.go]
  | cons e rest ih =>
    obtain ⟨name, v⟩ := e
    -- An apiVersion or kind entry is dropped, and sets the type when it is a string.
    by_cases typed : (name == "apiVersion" || name == "kind") = true
    · have skipped : Object.untyped (name, v) = false := by simp [Object.untyped, typed]
      cases v with
      | str s =>
        -- Which of the two type fields the string sets does not matter to the rest.
        by_cases api : name == "apiVersion"
        · obtain ⟨R, eq, sub, all⟩ := ih (some s) kd kept
          exact ⟨R, by simp [Object.takeTypes.go, api, eq], sub.cons _, by simpa [skipped] using all⟩
        · have isKind : name = "kind" := by
            simp only [Bool.or_eq_true, beq_iff_eq] at typed api
            tauto
          obtain ⟨R, eq, sub, all⟩ := ih av (some s) kept
          exact ⟨R, by simp [Object.takeTypes.go, isKind, eq], sub.cons _, by simpa [skipped] using all⟩
      -- A type entry that is not a string is kept with the rest unread.
      | _ =>
        refine ⟨rest, by simp [Object.takeTypes.go, typed], List.sublist_cons_self _ _, ?_⟩
        rw [List.filter_cons, if_neg (by simp [skipped])]
        exact List.filter_sublist
    -- Any other entry is kept in front of those already kept.
    · have kept' : Object.untyped (name, v) = true := by simpa [Object.untyped] using typed
      obtain ⟨R, eq, sub, all⟩ := ih av kd ((name, v) :: kept)
      refine ⟨(name, v) :: R, ?_, sub.cons_cons _, ?_⟩
      · simp only [Bool.not_eq_true] at typed
        simp [Object.takeTypes.go, typed, eq]
      · simpa [kept'] using all.cons_cons (name, v)

/-- The JSON entries of an object other than its metadata, as YAML. -/
def Json.entriesButMetadata (fs : Fields) : List (String × Yaml) :=
  (fs.filter (·.1 != "metadata")).map fun kv => (kv.1, kv.2.toYaml)

/-- Reading the top-level entries of an object with no key twice reads its metadata, when
there is any and it reads, and keeps every other entry in order. -/
theorem Object.readEntriesFrom_fields {fs : Fields} (unique : fs.keys.Nodup) (i : Nat)
    (meta0 : Option ObjectMeta) (acc : List (String × Yaml))
    (fresh : meta0 = none ∨ Fields.get? fs "metadata" = none)
    (readable : ∀ mj, Fields.get? fs "metadata" = some mj → ∃ m, ObjectMeta.decode mj.toYaml = .ok m) :
    ∃ meta', Object.readEntriesFrom i (Json.fieldsToYaml fs) meta0 acc = .ok (meta', acc ++ Json.entriesButMetadata fs) ∧
      Yaml.ReadsInto (fun x => some <$> ObjectMeta.decode x) meta0 ((Fields.get? fs "metadata").map Json.toYaml) meta' := by
  induction fs generalizing i meta0 acc with
  | nil => exact ⟨meta0, by simp [Object.readEntriesFrom, Json.fieldsToYaml, Json.entriesButMetadata], rfl⟩
  | cons kv rest ih =>
    obtain ⟨k, v⟩ := kv
    have uniqueRest : (Fields.keys rest).Nodup := (List.nodup_cons.mp unique).2
    by_cases isMetadata : k = "metadata"
    · subst isMetadata
      -- The one metadata entry is read; the rest of the object has none.
      have absent : Fields.get? rest "metadata" = none := Fields.get?_eq_none_iff.mpr fun w mem =>
        (List.nodup_cons.mp unique).1 (List.mem_map.mpr ⟨("metadata", w), mem, rfl⟩)
      have noneYet : meta0 = none := by simpa [Fields.get?_cons] using fresh
      obtain ⟨m, readOk⟩ := readable v (by simp [Fields.get?_cons])
      obtain ⟨meta', ran, reads⟩ := ih uniqueRest (i + 1) (some m) acc (Or.inr absent)
        (fun mj found => by simp [absent] at found)
      rw [absent] at reads
      subst noneYet
      refine ⟨meta', ?_, ?_⟩
      · simp [Object.readEntriesFrom, Json.fieldsToYaml, Yaml.fieldName, Decoded.inPart, Except.mapError,
          readOk, ran, Json.entriesButMetadata, bind, Except.bind]
      · have same : meta' = some m := reads
        simp [Yaml.ReadsInto, Fields.get?_cons, readOk, same, Functor.map, Except.map]
    -- Any other entry is kept as YAML and leaves the metadata to later entries.
    · have other : Fields.get? ((k, v) :: rest) "metadata" = Fields.get? rest "metadata" := by
        simp [Fields.get?_cons, isMetadata]
      rw [other] at fresh readable ⊢
      obtain ⟨meta', ran, reads⟩ := ih uniqueRest (i + 1) meta0 (acc ++ [(k, v.toYaml)]) fresh readable
      refine ⟨meta', ?_, reads⟩
      simp [Object.readEntriesFrom, Json.fieldsToYaml, Yaml.fieldName, Decoded.inPart, Except.mapError,
        isMetadata, ran, Json.entriesButMetadata, bind, Except.bind]

theorem List.mapM_ok_of_forall {ε α β : Type} {f : α → Except ε β} {g : α → β} :
    ∀ {l : List α}, (∀ a ∈ l, f a = .ok (g a)) → l.mapM f = .ok (l.map g)
  | [], _ => rfl
  | a :: rest, each => by
    have later := List.mapM_ok_of_forall fun b mem => each b (List.mem_cons_of_mem _ mem)
    -- The head maps to its image, the rest by induction.
    simp [List.mapM_cons, each a List.mem_cons_self, later, bind, Except.bind, pure, Except.pure]

/-- An object read from a canonical JSON object whose metadata reads: the metadata is what
its entry reads as, and every other field but apiVersion and kind is kept as it was. -/
theorem Object.ofJson_obj {fs : Fields} (canonical : (Json.obj fs).Canonical)
    (readable : ∀ mj, Fields.get? fs "metadata" = some mj → ∃ m, ObjectMeta.decode mj.toYaml = .ok m) :
    ∃ p, Object.ofJson (.obj fs) = .ok p ∧
      (∀ mj, Fields.get? fs "metadata" = some mj → ObjectMeta.decode mj.toYaml = .ok p.metadata) ∧
      p.data.Sorted ∧ Fields.get? p.data "metadata" = none ∧
      ∀ k, k ≠ "apiVersion" → k ≠ "kind" → k ≠ "metadata" → Fields.get? p.data k = Fields.get? fs k := by
  obtain ⟨sorted, values⟩ := (Json.canonical_obj fs).mp canonical
  have unique := sorted.keys_nodup
  -- The metadata entry is read once; every other entry is kept in order.
  obtain ⟨meta', read, metaReads⟩ := Object.readEntriesFrom_fields unique 0 none [] (Or.inl rfl) readable
  obtain ⟨R, taken, sub, untypedKept⟩ := Object.takeTypes_go_keeps (Json.entriesButMetadata fs) none none []
  -- What the type leaves are some of the other fields, still as YAML.
  obtain ⟨G, subG, rfl⟩ := List.sublist_map_iff.mp sub
  have inFields : G.Sublist fs := subG.trans List.filter_sublist
  have sortedG : Fields.Sorted G := sorted.sublist inFields
  cases typed : Object.takeTypes.go (Json.entriesButMetadata fs) none none [] with
  | mk types rest =>
  rw [typed] at taken
  simp only [List.reverse_nil, List.nil_append] at taken
  subst taken
  -- The object keeps the fields the type left, with the metadata read.
  refine ⟨{ types, metadata := meta'.getD {}, data := G }, ?_, ?_, sortedG, ?_, ?_⟩
  · unfold Object.ofJson Object.decode
    simp only [Json.toYaml, Yaml.readEntries, bind, Except.bind]
    rw [read]
    simp only [List.nil_append, Object.takeTypes, typed]
    -- Canonical values come back from YAML unchanged.
    rw [List.mapM_map, List.mapM_ok_of_forall (g := id)]
    · simp [Decoded.buffered, Except.mapError, Fields.ofList_of_sorted sortedG, pure, Except.pure]
    · intro kv mem
      simp [Json.toYaml_toJson (values kv (inFields.subset mem)), pure, Except.pure]
  -- The metadata entry read exactly once, to the object's metadata.
  · intro mj found
    obtain ⟨m, readOk⟩ := readable mj found
    rw [found] at metaReads
    have same : meta' = some m := by
      simpa [Yaml.ReadsInto, readOk, Functor.map, Except.map] using metaReads.symm
    simp [same, readOk]
  -- The metadata entry is not among the kept fields.
  · refine Fields.get?_eq_none_iff.mpr fun v mem => ?_
    simpa using (List.mem_filter.mp (subG.subset mem)).2
  · intro k notApi notKind notMeta
    cases found : Fields.get? fs k with
    | none =>
      -- A key the JSON lacks is not among the kept fields either.
      exact Fields.get?_eq_none_iff.mpr fun v mem =>
        Fields.get?_eq_none_iff.mp found v (inFields.subset mem)
    | some v =>
      -- The entry of the key is not the type, so it was kept.
      have kept : (k, v.toYaml) ∈ List.map (fun kv => (kv.1, kv.2.toYaml)) G := by
        refine untypedKept.subset (List.mem_filter.mpr ⟨?_, ?_⟩)
        · exact List.mem_map.mpr ⟨(k, v), List.mem_filter.mpr ⟨Fields.mem_of_get? found, by simpa using notMeta⟩, rfl⟩
        · simp [Object.untyped, notApi, notKind]
      obtain ⟨⟨k', w⟩, mem, same⟩ := List.mem_map.mp kept
      simp only [Prod.mk.injEq] at same
      obtain ⟨rfl, -⟩ := same
      have inG := sortedG.get?_of_mem mem
      have inFs := sorted.get?_of_mem (inFields.subset mem)
      rw [inG, ← inFs, found]

/-! The JSON of an object, and merging into it. -/

namespace Fields

theorem Sorted.foldl_insert {acc : Fields} (sorted : acc.Sorted) (pairs : List (String × Json)) :
    (pairs.foldl (fun acc kv => Fields.insert acc kv.1 kv.2) acc).Sorted := by
  induction pairs generalizing acc with
  | nil => exact sorted
  -- Each insertion keeps the keys sorted.
  | cons kv rest ih => exact ih (sorted.insert kv.1 kv.2)

theorem sorted_ofList (pairs : List (String × Json)) : (Fields.ofList pairs).Sorted :=
  sorted_nil.foldl_insert pairs

end Fields

/-- The JSON of an object finds its metadata under "metadata", when its other fields do not
hold that key. -/
theorem Object.get?_toJson_metadata {o : Object} (unique : o.data.keys.Nodup)
    (noMetadata : Fields.get? o.data "metadata" = none) :
    o.toJson.get? "metadata" = some o.metadata.toJson := by
  unfold Object.toJson
  -- The metadata entry is inserted after the fields, under a key they lack.
  rw [Json.mkObj, Json.get?, Fields.ofList, List.foldl_append, Fields.get?_foldl_insert unique,
    noMetadata, Option.none_or]
  cases o.types <;> rfl

/-- The JSON of an object finds each of its other fields under its key. -/
theorem Object.get?_toJson_data {o : Object} (unique : o.data.keys.Nodup) {k : String}
    (notApiVersion : k ≠ "apiVersion") (notKind : k ≠ "kind") (notMetadata : k ≠ "metadata") :
    o.toJson.get? k = Fields.get? o.data k := by
  unfold Object.toJson
  rw [Json.mkObj, Json.get?, Fields.ofList, List.foldl_append, Fields.get?_foldl_insert unique]
  -- The type and metadata fields are stored under other keys.
  cases o.types <;>
    simp [Fields.get?_insert, Ne.symm notApiVersion, Ne.symm notKind, Ne.symm notMetadata]

theorem Fields.mem_foldl_insert {pairs : List (String × Json)} :
    ∀ {acc : Fields} {kv : String × Json},
      kv ∈ pairs.foldl (fun acc kv => Fields.insert acc kv.1 kv.2) acc → kv ∈ acc ∨ kv ∈ pairs := by
  induction pairs with
  | nil => exact fun mem => .inl mem
  | cons p rest ih =>
    intro acc kv mem
    -- An entry of the result came from the start or from one of the pairs.
    rcases ih mem with earlier | later
    · rcases Fields.mem_insert earlier with new | old
      · exact .inr (new ▸ List.mem_cons_self)
      · exact .inl old
    · exact .inr (List.mem_cons_of_mem _ later)

/-- An object built from canonical values is canonical. -/
theorem Json.canonical_mkObj {pairs : List (String × Json)} (values : ∀ kv ∈ pairs, kv.2.Canonical) :
    (Json.mkObj pairs).Canonical := by
  refine (Json.canonical_obj _).mpr ⟨Fields.sorted_ofList pairs, fun kv mem => ?_⟩
  -- Every entry of the object is one of the canonical pairs.
  rcases Fields.mem_foldl_insert mem with none | given
  · cases none
  · exact values kv given

theorem Object.sorted_toJson (o : Object) : ∃ fs, o.toJson = .obj fs ∧ Fields.Sorted fs :=
  ⟨_, rfl, Fields.sorted_ofList _⟩

namespace Json

/-- Merging a patch whose values merge canonically into canonical fields keeps every value
canonical. -/
theorem canonical_mergeFields {entries : Fields}
    (each : ∀ kv ∈ entries, ∀ t : Json, t.Canonical → (t.mergePatch kv.2).Canonical) :
    ∀ {fs : Fields}, (∀ kv ∈ fs, kv.2.Canonical) → ∀ kv ∈ Json.mergeFields fs entries, kv.2.Canonical := by
  induction entries with
  | nil =>
    intro fs values
    simpa [mergeFields] using values
  | cons e rest ih =>
    obtain ⟨k, v⟩ := e
    intro fs values
    rw [mergeFields_cons]
    refine ih (fun kv mem => each kv (List.mem_cons_of_mem _ mem)) fun kv mem => ?_
    -- A null value deletes its key; any other merges into the old value there.
    unfold mergeEntry at mem
    split at mem
    · exact values kv ((Fields.erase_sublist fs k).subset mem)
    · rcases Fields.mem_insert mem with new | old
      · subst new
        exact each (k, v) List.mem_cons_self _
          (Json.Canonical.getD fun x found => values (k, x) (Fields.mem_of_get? found))
      · exact values kv old

/-- Merging a canonical patch into a canonical value gives a canonical value. -/
theorem Canonical.mergePatch {p : Json} (patch : p.Canonical) :
    ∀ {t : Json}, t.Canonical → (t.mergePatch p).Canonical := by
  induction p with
  -- An object merges field by field into the target's fields.
  | obj entries ih =>
    intro t target
    obtain ⟨sorted, values⟩ := (canonical_obj entries).mp patch
    obtain ⟨targetSorted, targetValues⟩ := (canonical_obj _).mp target.fieldsD
    rw [mergePatch_obj, canonical_obj]
    exact ⟨targetSorted.mergeFields entries, canonical_mergeFields
      (fun kv mem _ canonical => ih kv mem (values kv mem) canonical) targetValues⟩
  -- Any other patch replaces the target, and is canonical itself.
  | _ =>
    intro t _
    exact patch

end Json

end MeshControl
