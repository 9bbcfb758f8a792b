import MeshControl.Proofs.Patch.Convergence

/-! What a three-way merge patch may touch: desired keys and dropped live ones only, so a field
neither desired nor last applied is kept, and the patch holds no status, types or server
metadata. -/

namespace MeshControl

mutual
/-- How a merge patch `p` stands to the desired fields `w`, the live fields `c` and the fields
`o` last applied, at one level: its keys ascend and each of its entries is framed. -/
inductive Framed : Option Fields → Fields → Fields → Fields → Prop where
  | intro {o : Option Fields} {c w p : Fields} (sorted : p.Sorted)
      (entry : ∀ k v, p.get? k = some v → FramedEntry o c w k v) : Framed o c w p

/-- The entry `v` of a merge patch under key `k`: a framed sub-patch where the desired and the
live fields both hold objects, the desired value itself elsewhere (a null only over a live
value that is not null), or a null for a field last applied, no longer desired and still
live. -/
inductive FramedEntry : Option Fields → Fields → Fields → String → Json → Prop where
  | sub {o : Option Fields} {c w : Fields} {k : String} {wf cf pf : Fields}
      (desired : w.get? k = some (.obj wf)) (live : c.get? k = some (.obj cf))
      (nested : Framed ((fieldAt? o k).bind Json.fields?) cf wf pf) :
      FramedEntry o c w k (.obj pf)
  | whole {o : Option Fields} {c w : Fields} {k : String} {v : Json}
      (desired : w.get? k = some v) (notBoth : ∀ wf cf, v = .obj wf → c.get? k ≠ some (.obj cf))
      (overValue : v = .null → ∃ x, c.get? k = some x ∧ x ≠ .null) :
      FramedEntry o c w k v
  | dropped {o : Option Fields} {c w : Fields} {k : String}
      (lastApplied : (fieldAt? o k).isSome) (undesired : w.get? k = none)
      (live : (c.get? k).isSome) :
      FramedEntry o c w k .null
end

namespace Framed

variable {o : Option Fields} {c w p : Fields}

/-- Each entry of a framed patch is framed. -/
theorem entry_of_get? (framed : Framed o c w p) {k : String} {v : Json} (found : p.get? k = some v) :
    FramedEntry o c w k v := by
  cases framed with
  | intro _ entry => exact entry k v found

/-- An entry under a key that is not desired is a null for a field last applied and live. -/
theorem entry_of_undesired (framed : Framed o c w p) {k : String} {v : Json}
    (undesired : w.get? k = none) (found : p.get? k = some v) :
    v = .null ∧ (fieldAt? o k).isSome ∧ (c.get? k).isSome := by
  cases framed with
  | intro _ entry =>
    -- A sub-patch or a whole value is under a desired key; only a dropped field is not.
    cases entry k v found with
    | sub desired _ _ => simp [desired] at undesired
    | whole desired _ _ => simp [desired] at undesired
    | dropped lastApplied _ live => exact ⟨rfl, lastApplied, live⟩

/-- A key that neither the desired nor the live fields hold is not in the patch. -/
theorem get?_eq_none_of_absent (framed : Framed o c w p) {k : String}
    (undesired : w.get? k = none) (dead : c.get? k = none) : p.get? k = none := by
  cases found : p.get? k with
  | none => rfl
  -- An entry there would be a dropped field, which is live.
  | some v => simpa [dead] using (framed.entry_of_undesired undesired found).2.2

/-- A key that neither the desired fields nor the fields last applied name is not in the
patch. -/
theorem get?_eq_none_of_unnamed (framed : Framed o c w p) {k : String}
    (undesired : w.get? k = none) (unapplied : fieldAt? o k = none) : p.get? k = none := by
  cases found : p.get? k with
  | none => rfl
  -- An entry there would be a dropped field, which was last applied.
  | some v => simpa [unapplied] using (framed.entry_of_undesired undesired found).2.1

/-- Where the desired and the live fields both hold objects, the patch holds nothing or a
framed sub-patch. -/
theorem get?_of_objects (framed : Framed o c w p) {k : String} {wf cf : Fields}
    (desired : w.get? k = some (.obj wf)) (live : c.get? k = some (.obj cf)) :
    p.get? k = none ∨
      ∃ pf, p.get? k = some (.obj pf) ∧ Framed ((fieldAt? o k).bind Json.fields?) cf wf pf := by
  cases framed with
  | intro _ entry =>
    cases found : p.get? k with
    | none => exact .inl rfl
    | some v =>
      -- Two objects cannot be written whole, nor dropped while desired.
      cases entry k v found with
      | sub desired' live' nested =>
        rw [desired, Option.some.injEq, Json.obj.injEq] at desired'
        rw [live, Option.some.injEq, Json.obj.injEq] at live'
        subst desired' live'
        exact .inr ⟨_, rfl, nested⟩
      | whole desired' notBoth _ =>
        rw [desired] at desired'
        exact absurd live (notBoth wf cf (Option.some.inj desired').symm)
      | dropped _ undesired _ => simp [desired] at undesired

end Framed

/-- The patch entry of two objects is the diff of their fields, when that is not empty. -/
theorem valuePatch_obj_obj (a : Option Json) (l w : Fields) :
    valuePatch a (some (.obj l)) (.obj w) =
      if (diffObject (a.bind Json.fields?) (some l) w).isEmpty then none
      else some (.obj (diffObject (a.bind Json.fields?) (some l) w)) := by
  rfl

/-- The diff of live fields against canonical desired fields is framed by them. -/
theorem diffObject_framed (o : Option Fields) (c : Fields) {w : Fields}
    (desired : Json.Canonical (.obj w)) : Framed o c w (diffObject o (some c) w) := by
  -- Induction on the desired value: a sub-patch is the diff under one of its fields.
  suffices all : ∀ d : Json, d.Canonical → ∀ o c w, d = .obj w →
      Framed o c w (diffObject o (some c) w) from all _ desired o c w rfl
  intro d
  induction d with
  | obj fields ih =>
    intro canonical o c w same
    injection same with same
    subst same
    obtain ⟨sorted, values⟩ := (Json.canonical_obj fields).mp canonical
    refine .intro (Sorted.diffObject o (some c) fields) fun k v found => ?_
    rw [diffObject_get? o (some c) sorted.keys_nodup] at found
    -- A null for a dropped field, or the patch of a desired value.
    split at found
    · -- A field last applied, no longer desired and still live gets a null.
      rename_i dropped
      cases found
      simp only [Bool.and_eq_true, Bool.not_eq_true', fieldAt?, Option.bind_some] at dropped
      obtain ⟨⟨lastApplied, undesired⟩, live⟩ := dropped
      exact .dropped lastApplied (by simpa [Fields.contains] using undesired) live
    · obtain ⟨wanted, desiredField, patched⟩ := Option.bind_eq_some_iff.mp found
      simp only [fieldAt?, Option.bind_some] at patched
      by_cases nested : ∃ wf cf, wanted = .obj wf ∧ c.get? k = some (.obj cf)
      · -- Objects on both sides get the diff of their fields.
        obtain ⟨wf, cf, rfl, liveField⟩ := nested
        rw [liveField, valuePatch_obj_obj] at patched
        split at patched
        · cases patched
        · cases patched
          have mem := Fields.mem_of_get? desiredField
          exact .sub desiredField liveField (ih _ mem (values _ mem) _ _ wf rfl)
      · -- Anything else is written whole, and a null only over a value.
        have whole : v = wanted := valuePatch_whole
          (fun l wf isLive isWanted => nested ⟨wf, l, isWanted, isLive⟩) patched
        subst whole
        refine .whole desiredField (fun wf cf isObj live => nested ⟨wf, cf, isObj, live⟩) ?_
        intro isNull
        subst isNull
        rw [valuePatch_null] at patched
        -- A null patches only a live value that is not null.
        cases liveField : c.get? k with
        | none => simp [liveField] at patched
        | some x =>
          refine ⟨x, rfl, fun isNull => ?_⟩
          simp [liveField, isNull, Json.isNull] at patched
  -- Only an object has fields to diff.
  | _ =>
    intro _ _ _ _ same
    cases same

/-! ### Paths through objects -/

namespace Json

/-- The value at a path of keys, going through objects. -/
def atPath (j : Json) : List String → Option Json
  | [] => some j
  | k :: ks => (j.get? k).bind fun x => x.atPath ks

/-- Whether two values are objects at the top and at every step of a path. -/
def ObjectsAlong : Json → Json → List String → Prop
  | .obj _, .obj _, [] => True
  | .obj a, .obj b, k :: ks =>
    ∃ x y, Fields.get? a k = some x ∧ Fields.get? b k = some y ∧ ObjectsAlong x y ks
  | _, _, _ => False

@[simp] theorem atPath_nil (j : Json) : j.atPath [] = some j := rfl

@[simp] theorem atPath_cons (j : Json) (k : String) (ks : List String) :
    j.atPath (k :: ks) = (j.get? k).bind fun x => x.atPath ks := rfl

@[simp] theorem get?_obj (fs : Fields) (k : String) : (Json.obj fs).get? k = fs.get? k := rfl

@[simp] theorem null_get? (k : String) : Json.null.get? k = none := rfl

/-- The fields of a canonical value, none when it is no object, ascend. -/
theorem Canonical.fieldsD_sorted {t : Json} (canonical : t.Canonical) : (t.fields?.getD []).Sorted :=
  ((canonical_obj _).mp canonical.fieldsD).1

/-- A field of a value is a field of its fields, none when it is no object. -/
theorem get?_eq_fieldsD (j : Json) (k : String) : j.get? k = (j.fields?.getD []).get? k := by
  cases j <;> rfl

/-- Values that are objects along a path are objects where it starts. -/
theorem ObjectsAlong.objects {a b : Json} {ks : List String} (along : ObjectsAlong a b ks) :
    ∃ af bf, a = .obj af ∧ b = .obj bf := by
  -- Anything but two objects is not along any path.
  cases a <;> cases b <;> cases ks <;> simp_all [ObjectsAlong]

/-- Looking a key up at the end of a path only sees objects: a value that is no object there
answers as nothing does. -/
theorem atPath_get?_of_fields (x : Json) (ks : List String) (k : String) :
    (x.atPath ks).bind (·.get? k) = ((x.fields?.map Json.obj).bind (·.atPath ks)).bind (·.get? k) := by
  -- A value that is no object has nothing under any key.
  cases x <;> cases ks <;> simp [fields?, get?]

end Json

/-- The fields last applied under a key, read as an object. -/
theorem fieldAt?_eq_bind (o : Option Fields) (k : String) :
    fieldAt? o k = (o.map Json.obj).bind (·.get? k) := by
  cases o <;> rfl

/-- One step down a path of the configuration last applied: the key's value, as the fields of
the level below. -/
theorem lastApplied_atPath_cons (o : Option Fields) (k₁ : String) (ks : List String) (k : String) :
    ((o.map Json.obj).bind (·.atPath (k₁ :: ks))).bind (·.get? k) =
      ((((fieldAt? o k₁).bind Json.fields?).map Json.obj).bind (·.atPath ks)).bind (·.get? k) := by
  -- Without a configuration last applied both sides are none.
  cases o with
  | none => rfl
  | some of =>
    cases found : of.get? k₁ with
    | none => simp [fieldAt?, found]
    | some x => simpa [fieldAt?, found, Option.map_bind] using Json.atPath_get?_of_fields x ks k

namespace Framed

variable {o : Option Fields} {c w p : Fields}

/-- A framed patch has no key twice. -/
theorem keys_nodup (framed : Framed o c w p) : p.keys.Nodup := by
  cases framed with
  | intro sorted _ => exact sorted.keys_nodup

/-- Merging a framed patch into any canonical value leaves alone the value under a key that,
at the end of a path along which the desired and the live fields both hold objects, neither
the desired fields nor the fields last applied name. -/
theorem mergePatch_atPath (framed : Framed o c w p) {t : Json} (target : t.Canonical)
    {ks : List String} {k : String} (chain : Json.ObjectsAlong (.obj w) (.obj c) ks)
    (undesired : ((Json.obj w).atPath ks).bind (·.get? k) = none)
    (unapplied : ((o.map Json.obj).bind (·.atPath ks)).bind (·.get? k) = none) :
    (t.mergePatch (.obj p)).atPath (ks ++ [k]) = t.atPath (ks ++ [k]) := by
  rw [mergePatch_obj]
  -- Induction on the path: each step goes into a shared object, where the patch holds
  -- nothing or a framed sub-patch.
  induction ks generalizing o c w p t with
  | nil =>
    -- At the end of the path the key is neither desired nor last applied, so unpatched.
    have absent : p.get? k = none := framed.get?_eq_none_of_unnamed
      (by simpa using undesired) (by simpa [fieldAt?_eq_bind] using unapplied)
    rw [List.nil_append, Json.atPath_cons, Json.atPath_cons, Json.get?_obj,
      Json.mergeFields_get? target.fieldsD_sorted framed.keys_nodup, absent, Json.mergeAt_none,
      ← Json.get?_eq_fieldsD]
  | cons k₁ ks ih =>
    -- One step down: both sides hold objects under the first key.
    obtain ⟨x, y, desiredField, liveField, along⟩ := chain
    obtain ⟨wf, cf, rfl, rfl⟩ := along.objects
    rw [List.cons_append, Json.atPath_cons, Json.atPath_cons, Json.get?_obj,
      Json.mergeFields_get? target.fieldsD_sorted framed.keys_nodup, Json.get?_eq_fieldsD t]
    -- No entry leaves the field; a sub-patch merges into it.
    rcases framed.get?_of_objects desiredField liveField with absent | ⟨pf, sub, nested⟩
    · rw [absent, Json.mergeAt_none]
    · -- The sub-patch merges into the target's field, or into nothing when it has none.
      have below : ∀ t' : Json, t'.Canonical →
          (Json.obj (Json.mergeFields (t'.fields?.getD []) pf)).atPath (ks ++ [k]) =
            t'.atPath (ks ++ [k]) := fun t' canonical =>
        ih nested canonical along (by simpa [desiredField] using undesired)
          (by rwa [lastApplied_atPath_cons] at unapplied)
      rw [sub, mergeAt_some]
      simp only [Json.isNull, Bool.false_eq_true, if_false, Option.bind_some, mergePatch_obj]
      cases targetField : (t.fields?.getD []).get? k₁ with
      | none =>
        -- Merged into nothing, the sub-patch holds nothing where the path ends either.
        have empty := below .null trivial
        cases ks <;> simpa [Json.fields?] using empty
      | some y =>
        have canonical : y.Canonical :=
          ((Json.canonical_obj _).mp target.fieldsD).2 _ (Fields.mem_of_get? targetField)
        simpa using below y canonical

end Framed

/-! ### The fields the server keeps -/

namespace Fields

/-- Dropping several keys from ascending fields leaves them absent and the others as they
were. -/
theorem Sorted.get?_foldl_erase {fs : Fields} (sorted : fs.Sorted) (keys : List String) (k : String) :
    (keys.foldl Fields.erase fs).get? k = if k ∈ keys then none else fs.get? k := by
  induction keys generalizing fs with
  | nil => simp
  | cons key rest ih =>
    rw [List.foldl_cons, ih (sorted.erase key), sorted.get?_erase]
    -- The key dropped first, one dropped later, or one kept throughout.
    by_cases here : key = k
    · subst here
      simp
    · by_cases later : k ∈ rest
      · simp [later]
      · simp [later, here, Ne.symm here]

theorem Sorted.foldl_erase {fs : Fields} (sorted : fs.Sorted) (keys : List String) :
    (keys.foldl Fields.erase fs).Sorted := by
  induction keys generalizing fs with
  | nil => exact sorted
  | cons key rest ih => exact ih (sorted.erase key)

theorem foldl_erase_sublist (fs : Fields) (keys : List String) : (keys.foldl Fields.erase fs).Sublist fs := by
  induction keys generalizing fs with
  | nil => exact List.Sublist.refl fs
  | cons key rest ih => exact (ih (Fields.erase fs key)).trans (erase_sublist fs key)

end Fields

/-- The top-level fields left when status, apiVersion and kind are dropped. -/
theorem Fields.Sorted.get?_erase_types {fs : Fields} (sorted : fs.Sorted) (k : String) :
    (Fields.erase (Fields.erase (Fields.erase fs "status") "apiVersion") "kind").get? k =
      if k = "status" ∨ k = "apiVersion" ∨ k = "kind" then none else fs.get? k := by
  rw [(sorted.erase _ |>.erase _).get?_erase, (sorted.erase _).get?_erase, sorted.get?_erase]
  -- Each of the three keys is dropped; any other is kept.
  by_cases status : k = "status" <;> by_cases api : k = "apiVersion" <;> by_cases kind : k = "kind" <;>
    simp_all [eq_comm]

/-- Stripping never leaves status, apiVersion or kind in ascending fields. -/
theorem stripServerFields_get?_types {fs : Fields} (sorted : fs.Sorted) {k : String}
    (removed : k = "status" ∨ k = "apiVersion" ∨ k = "kind") :
    (stripServerFields (.obj fs)).get? k = none := by
  have notMetadata : "metadata" ≠ k := by rcases removed with rfl | rfl | rfl <;> decide
  unfold stripServerFields
  dsimp only
  -- The metadata, stripped or not, is kept under its own key.
  split <;> simp [notMetadata, sorted.get?_erase_types, removed]

/-- Stripping leaves no field the server keeps in the metadata of ascending fields whose
metadata ascends. -/
theorem stripServerFields_get?_metadata {fs : Fields} (sorted : fs.Sorted)
    (metadataSorted : ∀ md, fs.get? "metadata" = some (.obj md) → Fields.Sorted md) {md : Fields}
    (stripped : (stripServerFields (.obj fs)).get? "metadata" = some (.obj md)) :
    ∀ f ∈ serverMetadataFields, md.get? f = none := by
  intro f server
  unfold stripServerFields at stripped
  dsimp only at stripped
  -- The metadata is found under the same key once the top-level types are dropped.
  have kept := sorted.get?_erase_types "metadata"
  simp only [show ¬("metadata" = "status" ∨ "metadata" = "apiVersion" ∨ "metadata" = "kind") by decide,
    if_false] at kept
  -- A metadata object has its server fields dropped; anything else is not an object.
  split at stripped
  · rename_i original found
    simp only [Json.get?_obj, Fields.get?_insert, if_true, Option.some.injEq, Json.obj.injEq] at stripped
    subst stripped
    rw [(metadataSorted original (kept ▸ found)).get?_foldl_erase, if_pos server]
  · rename_i notObject
    simp only [Json.get?_obj] at stripped
    exact absurd stripped (notObject md)

/-- Stripping keeps a canonical value canonical. -/
theorem Json.Canonical.stripServerFields {t : Json} (canonical : t.Canonical) :
    (MeshControl.stripServerFields t).Canonical := by
  cases t with
  | obj fs =>
    obtain ⟨sorted, values⟩ := (Json.canonical_obj fs).mp canonical
    have erased : (Fields.erase (Fields.erase (Fields.erase fs "status") "apiVersion") "kind").Sublist fs :=
      (Fields.erase_sublist _ "kind").trans ((Fields.erase_sublist _ "apiVersion").trans
        (Fields.erase_sublist fs "status"))
    have erasedSorted := (sorted.erase "status" |>.erase "apiVersion").erase "kind"
    unfold MeshControl.stripServerFields
    dsimp only
    -- The stripped metadata is canonical as a sublist of canonical fields.
    split
    · rename_i md found
      obtain ⟨mdSorted, mdValues⟩ := (Json.canonical_obj md).mp
        (values _ (erased.subset (Fields.mem_of_get? found)))
      refine (Json.canonical_obj _).mpr ⟨erasedSorted.insert _ _, fun kv mem => ?_⟩
      rcases Fields.mem_insert mem with same | old
      · subst same
        exact (Json.canonical_obj _).mpr ⟨mdSorted.foldl_erase _,
          fun kv mem => mdValues kv ((Fields.foldl_erase_sublist md _).subset mem)⟩
      · exact values kv (erased.subset old)
    · exact (Json.canonical_obj _).mpr ⟨erasedSorted, fun kv mem => values kv (erased.subset mem)⟩
  | _ => exact canonical

/-! ### The patch of an object -/

/-- Looking a key up at the end of a path of an optional value only sees objects. -/
theorem Option.atPath_get?_of_fields (x : Option Json) (ks : List String) (k : String) :
    (x.bind (·.atPath ks)).bind (·.get? k) =
      (((x.bind Json.fields?).map Json.obj).bind (·.atPath ks)).bind (·.get? k) := by
  cases x with
  | none => rfl
  | some x => simpa using Json.atPath_get?_of_fields x ks k

/-- A patch that `createPatch` makes: both objects have keys, which agree in group, kind,
namespace and name; the configuration last applied reads; and the patch, for the desired key,
is the diff of the stripped live fields against the stripped desired fields, below the stripped
configuration last applied. -/
theorem createPatch_eq_some {current desired : Object} {patch : ObjectPatch}
    (made : createPatch current desired = .ok (some patch)) :
    ∃ ck dk original l w, current.key = .ok ck ∧ desired.key = .ok dk ∧
      (ck.group = dk.group ∧ ck.kind = dk.kind ∧ ck.ns = dk.ns ∧ ck.name = dk.name) ∧
      current.lastApplied = .ok original ∧
      stripServerFields current.toJson = .obj l ∧ stripServerFields desired.toJson = .obj w ∧
      patch = ⟨dk, .obj (diffObject ((original.map stripServerFields).bind Json.fields?) (some l) w)⟩ := by
  -- Both objects strip to objects, so the patch is refused only by the keys or the annotation.
  obtain ⟨l, live⟩ : ∃ l, stripServerFields current.toJson = .obj l := ⟨_, rfl⟩
  obtain ⟨w, wanted⟩ : ∃ w, stripServerFields desired.toJson = .obj w := ⟨_, rfl⟩
  unfold createPatch at made
  -- Both keys must read and agree, and the annotation must read.
  cases hc : current.key with
  | error e => simp [hc, bind, Except.bind] at made
  | ok ck =>
    cases hd : desired.key with
    | error e => simp [hc, hd, bind, Except.bind] at made
    | ok dk =>
      simp only [hc, hd, bind, Except.bind] at made
      split at made
      · simp [throw, throwThe, MonadExceptOf.throw] at made
      · rename_i agree
        simp only [Bool.or_eq_true, bne_iff_ne, ne_eq, not_or, Decidable.not_not] at agree
        cases ha : current.lastApplied with
        | error e => simp [ha] at made
        | ok original =>
          simp only [ha, live, wanted] at made
          refine ⟨ck, dk, original, l, w, rfl, rfl, ⟨agree.1.1.1, agree.1.1.2, agree.1.2, agree.2⟩, rfl,
            live, wanted, ?_⟩
          -- An empty diff is no patch.
          split at made
          · cases made
          · cases made
            rfl

/-- A patch that `createPatch` makes is the diff of the stripped live fields against the
stripped desired fields, below the stripped configuration last applied. -/
theorem createPatch_body {current desired : Object} {patch : ObjectPatch}
    (made : createPatch current desired = .ok (some patch)) :
    ∃ original l w, current.lastApplied = .ok original ∧
      stripServerFields current.toJson = .obj l ∧ stripServerFields desired.toJson = .obj w ∧
      patch.body = .obj (diffObject ((original.map stripServerFields).bind Json.fields?) (some l) w) := by
  obtain ⟨-, -, original, l, w, -, -, -, read, live, wanted, rfl⟩ := createPatch_eq_some made
  exact ⟨original, l, w, read, live, wanted, rfl⟩

/-- **What a three-way patch touches.** The patch of canonical objects holds no status, types or
server-only metadata, is framed, and keeps each field under shared objects that neither the
desired object nor the configuration last applied names. -/
theorem createPatch_frame {current desired : Object} {patch : ObjectPatch}
    (live : current.toJson.Canonical) (wanted : desired.toJson.Canonical)
    (made : createPatch current desired = .ok (some patch)) :
    ∃ original, ∃ body : Fields, current.lastApplied = .ok original ∧ patch.body = .obj body ∧
      (∀ k, k = "status" ∨ k = "apiVersion" ∨ k = "kind" → body.get? k = none) ∧
      (∀ md : Fields, body.get? "metadata" = some (.obj md) →
        ∀ f ∈ serverMetadataFields, md.get? f = none) ∧
      (∃ l w, stripServerFields current.toJson = .obj l ∧ stripServerFields desired.toJson = .obj w ∧
        Framed ((original.map stripServerFields).bind Json.fields?) l w body) ∧
      ∀ ks k, Json.ObjectsAlong (stripServerFields desired.toJson) (stripServerFields current.toJson) ks →
        ((stripServerFields desired.toJson).atPath ks).bind (·.get? k) = none →
        ((original.map stripServerFields).bind (·.atPath ks)).bind (·.get? k) = none →
        (current.toJson.mergePatch patch.body).atPath (ks ++ [k]) =
          current.toJson.atPath (ks ++ [k]) := by
  obtain ⟨original, l, w, read, stripLive, stripWanted, body⟩ := createPatch_body made
  obtain ⟨cs, liveFields⟩ : ∃ cs, current.toJson = .obj cs := ⟨_, rfl⟩
  obtain ⟨ds, wantedFields⟩ : ∃ ds, desired.toJson = .obj ds := ⟨_, rfl⟩
  rw [liveFields] at live stripLive
  rw [wantedFields] at wanted stripWanted
  -- Both objects are canonical, so both strip to canonical fields.
  obtain ⟨liveSorted, liveValues⟩ := (Json.canonical_obj cs).mp live
  obtain ⟨wantedSorted, wantedValues⟩ := (Json.canonical_obj ds).mp wanted
  have desiredCanonical : Json.Canonical (.obj w) := stripWanted ▸ wanted.stripServerFields
  have framed := diffObject_framed ((original.map stripServerFields).bind Json.fields?) l desiredCanonical
  -- The metadata of a canonical object ascends, so stripping empties its server fields.
  have serverFree : ∀ fs : Fields, Json.Canonical (.obj fs) → ∀ md : Fields,
      (stripServerFields (.obj fs)).get? "metadata" = some (.obj md) →
        ∀ f ∈ serverMetadataFields, md.get? f = none := fun fs canonical md stripped => by
    obtain ⟨sorted, values⟩ := (Json.canonical_obj fs).mp canonical
    refine stripServerFields_get?_metadata sorted (fun md found => ?_) stripped
    exact ((Json.canonical_obj md).mp (values _ (Fields.mem_of_get? found))).1
  refine ⟨original, _, read, body, fun k removed => ?_, fun md found f server => ?_,
    ⟨l, w, liveFields ▸ stripLive, wantedFields ▸ stripWanted, framed⟩,
    fun ks k chain undesired unapplied => ?_⟩
  · -- The types are stripped from both sides, so the patch cannot hold them.
    refine framed.get?_eq_none_of_absent ?_ ?_
    · simpa [stripWanted] using stripServerFields_get?_types wantedSorted removed
    · simpa [stripLive] using stripServerFields_get?_types liveSorted removed
  · -- The metadata entry is a sub-patch of two stripped objects or the stripped desired one.
    cases framed.entry_of_get? found with
    | sub desiredMeta liveMeta nested =>
      refine nested.get?_eq_none_of_absent ?_ ?_
      · exact serverFree ds wanted _ (by simpa [stripWanted] using desiredMeta) f server
      · exact serverFree cs live _ (by simpa [stripLive] using liveMeta) f server
    | whole desiredMeta _ _ =>
      exact serverFree ds wanted _ (by simpa [stripWanted] using desiredMeta) f server
  · rw [body]
    refine framed.mergePatch_atPath (liveFields ▸ live) ?_ ?_ ?_
    · rwa [wantedFields, stripWanted, liveFields, stripLive] at chain
    · rwa [wantedFields, stripWanted] at undesired
    · rwa [Option.atPath_get?_of_fields] at unapplied

/-- A live ConfigMap `cm` as the server holds it: a uid, a resourceVersion and a status beside
its data. -/
def liveConfigMap : Object where
  types := some ⟨"v1", "ConfigMap"⟩
  metadata := { name := some "cm", ns := some "istio-system", uid := some "uid-cm", resourceVersion := some "7" }
  data := [("data", .obj [("a", .str "b"), ("keep", .str "x")]), ("status", .obj [("phase", .str "old")])]

/-- The ConfigMap `cm` as desired: a new value under `data.a`, and `data.keep` not named. -/
def desiredConfigMap : Object where
  types := some ⟨"v1", "ConfigMap"⟩
  metadata := { name := some "cm", ns := some "istio-system" }
  data := [("data", .obj [("a", .str "c")])]

/-- The patch of `cm` writes `data.a` alone and is framed as the general statement says. -/
theorem createPatch_frame_configMap :
    liveConfigMap.toJson.Canonical ∧ desiredConfigMap.toJson.Canonical ∧
      createPatch liveConfigMap desiredConfigMap =
        .ok (some ⟨⟨"", "v1", "ConfigMap", "istio-system", "cm"⟩, .obj [("data", .obj [("a", .str "c")])]⟩) ∧
      ∃ original, ∃ body : Fields, liveConfigMap.lastApplied = .ok original ∧
        Json.obj [("data", .obj [("a", .str "c")])] = .obj body ∧
        (∀ k, k = "status" ∨ k = "apiVersion" ∨ k = "kind" → body.get? k = none) ∧
        (∀ md : Fields, body.get? "metadata" = some (.obj md) →
          ∀ f ∈ serverMetadataFields, md.get? f = none) ∧
        (∃ l w, stripServerFields liveConfigMap.toJson = .obj l ∧
          stripServerFields desiredConfigMap.toJson = .obj w ∧
          Framed ((original.map stripServerFields).bind Json.fields?) l w body) ∧
        ∀ ks k, Json.ObjectsAlong (stripServerFields desiredConfigMap.toJson)
            (stripServerFields liveConfigMap.toJson) ks →
          ((stripServerFields desiredConfigMap.toJson).atPath ks).bind (·.get? k) = none →
          ((original.map stripServerFields).bind (·.atPath ks)).bind (·.get? k) = none →
          (liveConfigMap.toJson.mergePatch (.obj [("data", .obj [("a", .str "c")])])).atPath (ks ++ [k]) =
            liveConfigMap.toJson.atPath (ks ++ [k]) := by
  -- The live and desired JSON are canonical, key by key.
  have live : liveConfigMap.toJson.Canonical := by
    rw [show liveConfigMap.toJson = .obj [("apiVersion", .str "v1"),
      ("data", .obj [("a", .str "b"), ("keep", .str "x")]), ("kind", .str "ConfigMap"),
      ("metadata", .obj [("name", .str "cm"), ("namespace", .str "istio-system"),
        ("resourceVersion", .str "7"), ("uid", .str "uid-cm")]),
      ("status", .obj [("phase", .str "old")])] from rfl]
    simp only [Json.canonical_obj, Json.canonical_str, List.mem_cons, List.mem_nil_iff, or_false,
      forall_eq_or_imp, forall_eq, true_and, and_true]
    exact ⟨by decide, by decide, by decide⟩
  have wanted : desiredConfigMap.toJson.Canonical := by
    rw [show desiredConfigMap.toJson = .obj [("apiVersion", .str "v1"), ("data", .obj [("a", .str "c")]),
      ("kind", .str "ConfigMap"), ("metadata", .obj [("name", .str "cm"),
        ("namespace", .str "istio-system")])] from rfl]
    simp only [Json.canonical_obj, Json.canonical_str, List.mem_cons, List.mem_nil_iff, or_false,
      forall_eq_or_imp, forall_eq, true_and, and_true]
    exact ⟨by decide, by decide, by decide⟩
  have made : createPatch liveConfigMap desiredConfigMap =
      .ok (some ⟨⟨"", "v1", "ConfigMap", "istio-system", "cm"⟩, .obj [("data", .obj [("a", .str "c")])]⟩) :=
    rfl
  exact ⟨live, wanted, made, createPatch_frame live wanted made⟩

end MeshControl
