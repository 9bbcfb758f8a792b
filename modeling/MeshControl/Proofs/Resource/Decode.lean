import Mathlib
import MeshControl.Resource.Object
import MeshControl.Proofs.Json.Yaml

/-! Reading a value that writing produced: records are read field by field, and metadata read from
JSON gives back the JSON of every writable field its own writer wrote. -/

namespace MeshControl

theorem Except.bind_eq_ok {ε α β : Type} {x : Except ε α} {f : α → Except ε β} {b : β} :
    (x >>= f) = .ok b ↔ ∃ a, x = .ok a ∧ f a = .ok b := by
  cases x <;> simp [bind, Except.bind]

theorem Except.map_eq_ok {ε α β : Type} {x : Except ε α} {f : α → β} {b : β} :
    x.map f = .ok b ↔ ∃ a, x = .ok a ∧ f a = b := by
  cases x <;> simp [Except.map]

@[simp] theorem Decoded.inPart_eq_ok {α : Type} {part : Nat} {x : Decoded α} {a : α} :
    Decoded.inPart part x = .ok a ↔ x = .ok a := by
  cases x <;> simp [Decoded.inPart, Except.mapError]

@[simp] theorem Decoded.buffered_eq_ok {α : Type} {x : Decoded α} {a : α} :
    Decoded.buffered x = .ok a ↔ x = .ok a := by
  cases x <;> simp [Decoded.buffered, Except.mapError]

namespace Yaml

/-- A record read from a JSON object with no key twice: a projection that every step leaves
alone except at its own key is, at the end, what the step at that key left, or untouched. -/
theorem foldFields_projection {σ β : Type} {step : σ → String → Yaml → Decoded σ} (π : σ → β)
    (key : String) (frame : ∀ acc k x acc', step acc k x = .ok acc' → k ≠ key → π acc' = π acc)
    {fs : Fields} (unique : fs.keys.Nodup) {acc acc' : σ}
    (folded : foldFields (Json.fieldsToYaml fs) acc step = .ok acc') :
    (Fields.get? fs key = none → π acc' = π acc) ∧
    ∀ v, Fields.get? fs key = some v → ∃ mid mid', step mid key v.toYaml = .ok mid' ∧ π acc' = π mid' := by
  unfold foldFields at folded
  -- The position only places errors, so the induction runs from any start.
  generalize 0 = i at folded
  induction fs generalizing acc i with
  | nil =>
    simp only [Json.fieldsToYaml, foldFieldsFrom, Except.ok.injEq] at folded
    subst folded
    simp
  | cons kv rest ih =>
    obtain ⟨k, v⟩ := kv
    have uniqueRest : (Fields.keys rest).Nodup := (List.nodup_cons.mp unique).2
    simp only [Json.fieldsToYaml, foldFieldsFrom, fieldName, Except.bind_eq_ok, Decoded.inPart_eq_ok,
      Except.ok.injEq] at folded
    -- The head's step succeeded, and so did the read of the rest.
    obtain ⟨_, rfl, mid, stepped, rest'⟩ := folded
    obtain ⟨absent, present⟩ := ih uniqueRest (i + 1) rest'
    rw [Fields.get?_cons]
    -- At another key the step leaves the projection, which the rest then sets.
    by_cases here : k = key
    · subst here
      -- The key is not in the rest, so the step at it is the last to touch the projection.
      have notLater : Fields.get? rest k = none := Fields.get?_eq_none_iff.mpr fun w mem =>
        (List.nodup_cons.mp unique).1 (List.mem_map.mpr ⟨(k, w), mem, rfl⟩)
      simp only [if_true, reduceCtorEq, false_implies, Option.some.injEq, true_and]
      rintro _ rfl
      exact ⟨acc, mid, stepped, absent notLater⟩
    · simp only [here, if_false]
      exact ⟨fun missing => (absent missing).trans (frame _ _ _ _ stepped here), present⟩

end Yaml

namespace Fields

/-- Storing pairs one by one finds each key where the pairs have it, and elsewhere where the
starting fields have it. -/
theorem get?_foldl_insert {pairs : Fields} (unique : pairs.keys.Nodup) (acc : Fields) (k : String) :
    (pairs.foldl (fun acc kv => Fields.insert acc kv.1 kv.2) acc).get? k =
      (Fields.get? pairs k).or (acc.get? k) := by
  induction pairs generalizing acc with
  | nil => simp
  | cons kv rest ih =>
    obtain ⟨k', v⟩ := kv
    have uniqueRest : (Fields.keys rest).Nodup := (List.nodup_cons.mp unique).2
    rw [List.foldl_cons, ih uniqueRest, get?_insert, get?_cons]
    -- The head's key is stored once and found from the pairs.
    by_cases here : k' = k
    · subst here
      have absent : Fields.get? rest k' = none := get?_eq_none_iff.mpr fun w mem =>
        (List.nodup_cons.mp unique).1 (List.mem_map.mpr ⟨(k', w), mem, rfl⟩)
      simp [absent]
    · simp [here]

/-- Fields built from pairs with no key twice find each key where the pairs have it. -/
theorem get?_ofList {pairs : Fields} (unique : pairs.keys.Nodup) (k : String) :
    (Fields.ofList pairs).get? k = Fields.get? pairs k := by
  simpa [Fields.ofList] using get?_foldl_insert unique [] k

end Fields

theorem keys_optionalFields (pairs : List (String × Option Json)) :
    (Fields.keys (optionalFields pairs)).Sublist (pairs.map (·.1)) := by
  induction pairs with
  | nil => exact List.Sublist.slnil
  | cons p rest ih =>
    obtain ⟨k, v⟩ := p
    -- An unset value is left out, a set one kept under its key.
    cases v with
    | none => simpa [optionalFields, Fields.keys] using ih.cons k
    | some v => simpa [optionalFields, Fields.keys] using ih.cons_cons k

/-- The fields of optional values find the value set under a key. -/
theorem get?_optionalFields {pairs : List (String × Option Json)} (unique : (pairs.map (·.1)).Nodup)
    (k : String) : Fields.get? (optionalFields pairs) k = (pairs.lookup k).join := by
  induction pairs with
  | nil => rfl
  | cons p rest ih =>
    obtain ⟨k', v⟩ := p
    have uniqueRest := (List.nodup_cons.mp unique).2
    by_cases here : k = k'
    · subst here
      -- The key is not further on, so an unset value leaves nothing under it.
      have absent : (rest.lookup k).join = none := by
        have notLater : k ∉ rest.map (·.1) := (List.nodup_cons.mp unique).1
        rw [← ih uniqueRest]
        exact Fields.get?_eq_none_iff.mpr fun w mem =>
          notLater (List.Sublist.subset (keys_optionalFields rest) (List.mem_map.mpr ⟨(k, w), mem, rfl⟩))
      cases v <;> simp_all [optionalFields, List.lookup, Fields.get?_cons]
    -- At another key the head is passed over on both sides.
    · have differ : (k == k') = false := by simpa using here
      have later := ih uniqueRest
      simp only [optionalFields] at later
      cases v <;> simp [optionalFields, List.lookup, Fields.get?_cons, differ, Ne.symm here, later]

namespace ObjectMeta

theorem keys_entries_nodup (m : ObjectMeta) : (m.entries.map (·.1)).Nodup := by
  simp only [entries, List.map]
  decide

/-- The JSON of metadata finds under each key the JSON of its field. -/
theorem get?_toJson (m : ObjectMeta) (k : String) : (m.toJson).get? k = (m.entries.lookup k).join := by
  have unique : (Fields.keys (optionalFields m.entries)).Nodup :=
    (keys_optionalFields m.entries).nodup m.keys_entries_nodup
  rw [toJson, Json.mkObj, Json.get?, Fields.get?_ofList unique, get?_optionalFields m.keys_entries_nodup]

/-- A field step changes only the field of its key. -/
theorem field_frame {m m' : ObjectMeta} {k : String} {x : Yaml} (read : field m k x = .ok m') :
    (k ≠ "annotations" → m'.annotations = m.annotations) ∧
    (k ≠ "deletionGracePeriodSeconds" → m'.deletionGracePeriodSeconds = m.deletionGracePeriodSeconds) ∧
    (k ≠ "deletionTimestamp" → m'.deletionTimestamp = m.deletionTimestamp) ∧
    (k ≠ "finalizers" → m'.finalizers = m.finalizers) ∧
    (k ≠ "generateName" → m'.generateName = m.generateName) ∧
    (k ≠ "labels" → m'.labels = m.labels) ∧
    (k ≠ "name" → m'.name = m.name) ∧
    (k ≠ "namespace" → m'.ns = m.ns) ∧
    (k ≠ "ownerReferences" → m'.ownerReferences = m.ownerReferences) := by
  unfold field at read
  -- Each branch of the step writes the field of its own key and copies the rest.
  split at read
  all_goals first
    | (simp only [pure, Except.pure, Except.ok.injEq] at read; subst read; simp)
    | (simp only [Except.bind_eq_ok, pure, Except.pure, Except.ok.injEq] at read
       obtain ⟨_, _, rfl⟩ := read
       simp)

end ObjectMeta

namespace Yaml

theorem readOption_toYaml_eq_ok {β : Type} {read : Yaml → Decoded β} {v : Json} {b : Option β}
    (notNull : v ≠ .null) (readOk : readOption read v.toYaml = .ok b) :
    ∃ a, read v.toYaml = .ok a ∧ b = some a := by
  have mapped : readOption read v.toYaml = (read v.toYaml).map some := by
    -- A value that is not null is read as set.
    cases v <;> simp_all [readOption, Json.toYaml]
  rw [mapped] at readOk
  obtain ⟨a, readA, rfl⟩ := Except.map_eq_ok.mp readOk
  exact ⟨a, readA, rfl⟩

theorem readItemsFrom_eq_ok {α : Type} {read : Yaml → Decoded α} {i : Nat} {xs : List Yaml}
    {as : List α} (readOk : readItemsFrom read i xs = .ok as) : List.Forall₂ (fun x a => read x = .ok a) xs as := by
  induction xs generalizing i as with
  | nil =>
    simp only [readItemsFrom, Except.ok.injEq] at readOk
    subst readOk
    exact .nil
  | cons x rest ih =>
    simp only [readItemsFrom, Except.bind_eq_ok, Decoded.inPart_eq_ok, pure, Except.pure,
      Except.ok.injEq] at readOk
    obtain ⟨a, first, rest', later, rfl⟩ := readOk
    exact .cons first (ih later)

/-- A pair above every pair present goes at the end. -/
theorem insertSorted_of_above {acc : List (String × String)} {k : String} (x : String)
    (above : ∀ a ∈ acc, a.1 < k) : readStringMap.insertSorted acc k x = acc ++ [(k, x)] := by
  induction acc with
  | nil => rfl
  | cons p rest ih =>
    obtain ⟨k', x'⟩ := p
    have below : k' < k := above _ List.mem_cons_self
    have notBelow : ¬k < k' := not_lt.mpr (le_of_lt below)
    have differ : (k == k') = false := by simpa using (ne_of_lt below).symm
    simp only [readStringMap.insertSorted, notBelow, if_false, differ, Bool.false_eq_true, List.cons_append]
    rw [ih fun a mem => above a (List.mem_cons_of_mem _ mem)]

end Yaml

/-- A text map with keys ascending. -/
def TextMap.Sorted (m : TextMap) : Prop := m.Pairwise (fun a b => a.1 < b.1)

namespace Yaml

/-- A sorted text map reads back from the YAML of its JSON. -/
theorem readStringMap_toYaml {m : TextMap} (sorted : m.Sorted) :
    readStringMap (TextMap.toJson m).toYaml = .ok m := by
  -- The pairs are read in order, and stored one by one each above those before it.
  have pairsOk : ∀ i, readStringPairsFrom i (Json.fieldsToYaml (m.map fun kv => (kv.1, Json.str kv.2))) = .ok m := by
    intro i
    induction m generalizing i with
    | nil => rfl
    | cons p rest ih =>
      -- Each pair is a key and a text, read in turn.
      simp [Json.fieldsToYaml, readStringPairsFrom, ih (List.pairwise_cons.mp sorted).2 (i + 1),
        Json.toYaml, readString, bind, Except.bind, pure, Except.pure, Decoded.inPart, Except.mapError]
  have stored : ∀ (acc rest : TextMap), (acc ++ rest).Pairwise (fun a b => a.1 < b.1) →
      rest.foldl (fun acc kv => readStringMap.insertSorted acc kv.1 kv.2) acc = acc ++ rest := by
    intro acc rest
    induction rest generalizing acc with
    | nil => simp
    | cons kv rest ih =>
      intro ascending
      have above : ∀ a ∈ acc, a.1 < kv.1 := fun a mem =>
        (List.pairwise_append.mp ascending).2.2 a mem kv List.mem_cons_self
      rw [List.foldl_cons, insertSorted_of_above kv.2 above, ih]
      · simp
      · simpa using ascending
  simp only [TextMap.toJson, Json.toYaml, readStringMap, pairsOk, bind, Except.bind, pure, Except.pure]
  simpa using stored [] m (by rw [List.nil_append]; exact sorted)

end Yaml

namespace OwnerReference

/-- The JSON of an owner reference, its keys in order. -/
theorem toJson_eq (r : OwnerReference) :
    r.toJson = .obj ([("apiVersion", .str r.apiVersion)] ++
      (r.blockOwnerDeletion.map fun b => ("blockOwnerDeletion", Json.bool b)).toList ++
      (r.controller.map fun b => ("controller", Json.bool b)).toList ++
      [("kind", .str r.kind), ("name", .str r.name), ("uid", .str r.uid)]) := by
  obtain ⟨apiVersion, blockOwnerDeletion, controller, kind, name, uid⟩ := r
  -- The optional flags are written or left out; the keys already ascend.
  cases blockOwnerDeletion <;> cases controller <;> rfl

/-- An owner reference reads back from the YAML of its JSON. -/
theorem decode_toJson (r : OwnerReference) : decode r.toJson.toYaml = .ok r := by
  rw [toJson_eq]
  obtain ⟨apiVersion, blockOwnerDeletion, controller, kind, name, uid⟩ := r
  -- Whichever flags are there, each field reads back.
  cases blockOwnerDeletion <;> cases controller <;>
    simp [decode, Json.toYaml, Json.fieldsToYaml, Yaml.readStructEntries, Yaml.foldFields,
      Yaml.foldFieldsFrom, Yaml.fieldName, field, Yaml.readOption, Yaml.readString, Yaml.readBool,
      bind, Except.bind, pure, Except.pure, Decoded.inPart, Except.mapError, Except.map]

end OwnerReference

/-- Text that an instant is read from and written back as, unchanged. -/
def Time.ReadsBack (text : String) : Prop := ∀ t, Time.parse text = .ok t → t.render = text

namespace ObjectMeta

/-- The metadata keys a patch may write: all but those only the server writes. -/
def writableKeys : List String :=
  ["annotations", "deletionGracePeriodSeconds", "deletionTimestamp", "finalizers", "generateName",
    "labels", "name", "namespace", "ownerReferences"]

/-- The JSON the writer gives each writable metadata key: text maps with keys ascending,
integers, instant text that reads back as itself, lists of text, text, and lists of owner
references. -/
def Written : String → Json → Prop
  | "annotations", v => ∃ m : TextMap, m.Sorted ∧ v = TextMap.toJson m
  | "deletionGracePeriodSeconds", v => ∃ i, v = Json.int i
  | "deletionTimestamp", v => ∃ text, v = .str text ∧ Time.ReadsBack text
  | "finalizers", v => ∃ fs : List String, v = .arr (fs.map .str)
  | "generateName", v => ∃ text, v = .str text
  | "labels", v => ∃ m : TextMap, m.Sorted ∧ v = TextMap.toJson m
  | "name", v => ∃ text, v = .str text
  | "namespace", v => ∃ text, v = .str text
  | "ownerReferences", v => ∃ rs : List OwnerReference, v = .arr (rs.map OwnerReference.toJson)
  | _, _ => False

/-- Metadata read from a JSON object writes back the JSON under a key whose field step stores
what its reader reads: the steps of other keys leave the field alone, and an absent key
leaves it unset. -/
theorem get?_toJson_of_decode {md : Fields} (unique : md.keys.Nodup) {m : ObjectMeta}
    (decoded : decode (Json.obj md).toYaml = .ok m) {β : Type} (key : String)
    (proj : ObjectMeta → Option β) (encode : β → Json) (read : Yaml → Decoded β)
    (frame : ∀ m k x m', field m k x = .ok m' → k ≠ key → proj m' = proj m)
    (update : ObjectMeta → Option β → ObjectMeta)
    (sets : ∀ m x, field m key x = (Yaml.readOption read x >>= fun b => pure (update m b)))
    (stored : ∀ m b, proj (update m b) = b)
    (written : ∀ m : ObjectMeta, (m.toJson).get? key = (proj m).map encode) (unset : proj {} = none)
    (shape : Json → Prop) (notNull : ∀ v, shape v → v ≠ .null)
    (readsBack : ∀ v a, shape v → read v.toYaml = .ok a → encode a = v)
    (shaped : ∀ v, Fields.get? md key = some v → shape v) :
    (m.toJson).get? key = Fields.get? md key := by
  have folded : Yaml.foldFields (Json.fieldsToYaml md) {} field = .ok m := by
    simpa [decode, Json.toYaml, Yaml.readStructEntries, bind, Except.bind] using decoded
  obtain ⟨absent, present⟩ := Yaml.foldFields_projection proj key frame unique folded
  rw [written m]
  -- An absent key leaves the field unset, which writes nothing.
  cases found : Fields.get? md key with
  | none => rw [absent found, unset]; rfl
  | some v =>
    obtain ⟨mid, mid', stepped, same⟩ := present v found
    rw [sets, Except.bind_eq_ok] at stepped
    obtain ⟨b, readB, updated⟩ := stepped
    cases updated
    -- A set value is read by the key's reader, which gives its JSON back.
    obtain ⟨a, readA, rfl⟩ := Yaml.readOption_toYaml_eq_ok (notNull v (shaped v found)) readB
    rw [same, stored, Option.map_some, readsBack v a (shaped v found) readA]

end ObjectMeta

namespace Yaml

theorem readString_toYaml {text a : String} (readOk : readString (Json.str text).toYaml = .ok a) : a = text := by
  simpa [readString, Json.toYaml] using readOk.symm

theorem readSeq_toYaml {α : Type} {read : Yaml → Decoded α} {xs : List Json} {as : List α}
    (readOk : readSeq read (Json.arr xs).toYaml = .ok as) :
    List.Forall₂ (fun x a => read x.toYaml = .ok a) xs as := by
  simp only [Json.toYaml, readSeq, Json.itemsToYaml_eq] at readOk
  exact List.forall₂_map_left_iff.mp (readItemsFrom_eq_ok readOk)

/-! Each reader of a writable metadata field reads back the JSON the writer gave it. -/

theorem readsBack_textMap (v : Json) (a : TextMap) (shape : ∃ m : TextMap, m.Sorted ∧ v = TextMap.toJson m)
    (readOk : readStringMap v.toYaml = .ok a) : TextMap.toJson a = v := by
  obtain ⟨m, sorted, rfl⟩ := shape
  rw [readStringMap_toYaml sorted, Except.ok.injEq] at readOk
  rw [readOk]

theorem readsBack_int (v : Json) (a : Int) (shape : ∃ i, v = Json.int i)
    (readOk : readI64 v.toYaml = .ok a) : Json.int a = v := by
  obtain ⟨i, rfl⟩ := shape
  simp only [Json.int, Json.toYaml, readI64] at readOk
  -- An integer out of range is refused, so a value read is the one written.
  split at readOk
  · cases readOk
    rfl
  · cases readOk

theorem readsBack_time (v : Json) (a : Time) (shape : ∃ text, v = .str text ∧ Time.ReadsBack text)
    (readOk : readTime v.toYaml = .ok a) : Json.str a.render = v := by
  obtain ⟨text, rfl, back⟩ := shape
  simp only [Json.toYaml, readTime] at readOk
  -- A text that parses gives back the instant it was written from.
  split at readOk
  · rename_i _ t parsed
    rw [Except.ok.injEq] at readOk
    subst readOk
    rw [back t parsed]
  · cases readOk

theorem readsBack_text (v : Json) (a : String) (shape : ∃ text, v = .str text)
    (readOk : readString v.toYaml = .ok a) : Json.str a = v := by
  obtain ⟨text, rfl⟩ := shape
  rw [readString_toYaml readOk]

theorem readsBack_texts (v : Json) (a : List String) (shape : ∃ fs : List String, v = .arr (fs.map .str))
    (readOk : readSeq readString v.toYaml = .ok a) : Json.arr (a.map .str) = v := by
  obtain ⟨fs, rfl⟩ := shape
  have items := List.forall₂_map_left_iff.mp (readSeq_toYaml readOk)
  -- Each item read is the text it was written from.
  have same : fs = a := List.forall₂_eq_eq_eq ▸ items.imp fun _ _ readItem => (readString_toYaml readItem).symm
  rw [same]

theorem readsBack_ownerReferences (v : Json) (a : List OwnerReference)
    (shape : ∃ rs : List OwnerReference, v = .arr (rs.map OwnerReference.toJson))
    (readOk : readSeq OwnerReference.decode v.toYaml = .ok a) :
    Json.arr (a.map OwnerReference.toJson) = v := by
  obtain ⟨rs, rfl⟩ := shape
  have items := List.forall₂_map_left_iff.mp (readSeq_toYaml readOk)
  -- Each owner reference reads back as itself.
  have same : rs = a := List.forall₂_eq_eq_eq ▸ items.imp fun r _ readItem => by
    rw [OwnerReference.decode_toJson, Except.ok.injEq] at readItem
    exact readItem
  rw [same]

end Yaml

namespace ObjectMeta

/-- Metadata read from a JSON object writes back, under every writable key, the JSON there,
where the writer of that key gave it. -/
theorem toJson_get?_of_decode {md : Fields} (unique : md.keys.Nodup) {m : ObjectMeta}
    (decoded : decode (Json.obj md).toYaml = .ok m) {k : String} (writable : k ∈ writableKeys)
    (shaped : ∀ v, Fields.get? md k = some v → Written k v) : (m.toJson).get? k = Fields.get? md k := by
  simp only [writableKeys, List.mem_cons, List.not_mem_nil, or_false] at writable
  -- One case per key: its projection, writer, reader and update, and the frame of its step.
  rcases writable with rfl | rfl | rfl | rfl | rfl | rfl | rfl | rfl | rfl
  -- Annotations and labels are sorted text maps.
  · exact get?_toJson_of_decode unique decoded _ (·.annotations) TextMap.toJson Yaml.readStringMap
      (fun _ _ _ _ read other => (field_frame read).1 other) (fun m b => { m with annotations := b })
      (fun _ _ => rfl) (fun _ _ => rfl) (fun m => by simp [get?_toJson, entries]) rfl
      (Written "annotations") (fun v shape => by obtain ⟨_, _, rfl⟩ := shape; intro h; cases h)
      Yaml.readsBack_textMap shaped
  -- The grace period is a 64-bit integer.
  · exact get?_toJson_of_decode unique decoded _ (·.deletionGracePeriodSeconds) Json.int Yaml.readI64
      (fun _ _ _ _ read other => (field_frame read).2.1 other)
      (fun m b => { m with deletionGracePeriodSeconds := b }) (fun _ _ => rfl) (fun _ _ => rfl)
      (fun m => by simp [get?_toJson, entries, List.lookup]) rfl (Written "deletionGracePeriodSeconds")
      (fun v shape => by obtain ⟨_, rfl⟩ := shape; intro h; cases h) Yaml.readsBack_int shaped
  -- The deletion time is text that reads back as itself.
  · exact get?_toJson_of_decode unique decoded _ (·.deletionTimestamp) (fun t => .str t.render)
      Yaml.readTime (fun _ _ _ _ read other => (field_frame read).2.2.1 other)
      (fun m b => { m with deletionTimestamp := b }) (fun _ _ => rfl) (fun _ _ => rfl)
      (fun m => by simp [get?_toJson, entries, List.lookup]) rfl (Written "deletionTimestamp")
      (fun v shape => by obtain ⟨_, rfl, _⟩ := shape; intro h; cases h) Yaml.readsBack_time shaped
  -- The remaining keys are text, lists of text, or owner references.
  · exact get?_toJson_of_decode unique decoded _ (·.finalizers) (fun fs => .arr (fs.map .str))
      (Yaml.readSeq Yaml.readString) (fun _ _ _ _ read other => (field_frame read).2.2.2.1 other)
      (fun m b => { m with finalizers := b }) (fun _ _ => rfl) (fun _ _ => rfl)
      (fun m => by simp [get?_toJson, entries, List.lookup]) rfl (Written "finalizers")
      (fun v shape => by obtain ⟨_, rfl⟩ := shape; intro h; cases h) Yaml.readsBack_texts shaped
  · exact get?_toJson_of_decode unique decoded _ (·.generateName) Json.str Yaml.readString
      (fun _ _ _ _ read other => (field_frame read).2.2.2.2.1 other)
      (fun m b => { m with generateName := b }) (fun _ _ => rfl) (fun _ _ => rfl)
      (fun m => by simp [get?_toJson, entries, List.lookup]) rfl (Written "generateName")
      (fun v shape => by obtain ⟨_, rfl⟩ := shape; intro h; cases h) Yaml.readsBack_text shaped
  · exact get?_toJson_of_decode unique decoded _ (·.labels) TextMap.toJson Yaml.readStringMap
      (fun _ _ _ _ read other => (field_frame read).2.2.2.2.2.1 other)
      (fun m b => { m with labels := b }) (fun _ _ => rfl) (fun _ _ => rfl)
      (fun m => by simp [get?_toJson, entries, List.lookup]) rfl (Written "labels")
      (fun v shape => by obtain ⟨_, _, rfl⟩ := shape; intro h; cases h) Yaml.readsBack_textMap shaped
  · exact get?_toJson_of_decode unique decoded _ (·.name) Json.str Yaml.readString
      (fun _ _ _ _ read other => (field_frame read).2.2.2.2.2.2.1 other)
      (fun m b => { m with name := b }) (fun _ _ => rfl) (fun _ _ => rfl)
      (fun m => by simp [get?_toJson, entries, List.lookup]) rfl (Written "name")
      (fun v shape => by obtain ⟨_, rfl⟩ := shape; intro h; cases h) Yaml.readsBack_text shaped
  · exact get?_toJson_of_decode unique decoded _ (·.ns) Json.str Yaml.readString
      (fun _ _ _ _ read other => (field_frame read).2.2.2.2.2.2.2.1 other)
      (fun m b => { m with ns := b }) (fun _ _ => rfl) (fun _ _ => rfl)
      (fun m => by simp [get?_toJson, entries, List.lookup]) rfl (Written "namespace")
      (fun v shape => by obtain ⟨_, rfl⟩ := shape; intro h; cases h) Yaml.readsBack_text shaped
  · exact get?_toJson_of_decode unique decoded _ (·.ownerReferences)
      (fun rs => .arr (rs.map OwnerReference.toJson)) (Yaml.readSeq OwnerReference.decode)
      (fun _ _ _ _ read other => (field_frame read).2.2.2.2.2.2.2.2 other)
      (fun m b => { m with ownerReferences := b }) (fun _ _ => rfl) (fun _ _ => rfl)
      (fun m => by simp [get?_toJson, entries, List.lookup]) rfl (Written "ownerReferences")
      (fun v shape => by obtain ⟨_, rfl⟩ := shape; intro h; cases h) Yaml.readsBack_ownerReferences shaped

end ObjectMeta

end MeshControl
