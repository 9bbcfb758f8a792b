import MeshControl.Proofs.Patch.Drift

/-! Two readings of drift agree: for a desired object as the cluster holds it, the patch between
fields is empty exactly when the live object covers the desired one. -/

namespace MeshControl

/-- A live field covers a desired value, against the value last applied there: absent only
where the desired value is null, and where present, null beside a null desired value or
covering it. -/
def FieldCovers (a : Option Json) (live : Option Json) (w : Json) : Prop :=
  (live = none → w.isNull = true) ∧
    ∀ x, live = some x → (w.isNull = true ∧ x.isNull = true) ∨ covers a x w = true

@[simp] theorem fieldCovers_none {a : Option Json} {w : Json} :
    FieldCovers a none w ↔ w.isNull = true := by
  simp [FieldCovers]

@[simp] theorem fieldCovers_some {a : Option Json} {x w : Json} :
    FieldCovers a (some x) w ↔ (w.isNull = true ∧ x.isNull = true) ∨ covers a x w = true := by
  simp [FieldCovers]

/-- An object covers a desired one field by field, and a field last applied that is still live
must still be desired. -/
theorem covers_obj_iff_fieldCovers (a : Option Json) (l d : Fields) :
    covers a (.obj l) (.obj d) = true ↔
      (∀ kv ∈ d, FieldCovers (fieldAt? (a.bind Json.fields?) kv.1) (l.get? kv.1) kv.2) ∧
      ∀ k, (fieldAt? (a.bind Json.fields?) k).isSome → (l.get? k).isSome → d.contains k = true := by
  rw [covers_obj, coversFields_iff]
  -- The removal check reads "desired or not live"; the patch reads "live, so desired".
  refine and_congr (forall₂_congr fun kv _ => by simp [FieldCovers]) ?_
  refine forall_congr' fun k => imp_congr_right fun _ => ?_
  simp only [Fields.contains]
  -- Both read the same once it is known whether the key is desired and live.
  cases (d.get? k).isSome <;> cases (l.get? k).isSome <;> decide

/-! ### Equal values cover -/

/-- Fields equal entry by entry hold the same keys. -/
theorem beqFields_get?_isSome {d l : Fields} (same : Json.beqFields d l = true) (k : String) :
    (l.get? k).isSome = (d.get? k).isSome := by
  -- Walk both lists in step: equal fields have equal keys.
  induction d generalizing l with
  | nil => cases l <;> simp_all [Json.beqFields]
  | cons kx rest ih =>
    obtain ⟨k', x⟩ := kx
    cases l with
    | nil => simp [Json.beqFields] at same
    | cons ly ls =>
      obtain ⟨k'', y⟩ := ly
      simp only [Json.beqFields, Bool.and_eq_true, beq_iff_eq] at same
      obtain ⟨⟨rfl, -⟩, later⟩ := same
      by_cases here : k' = k <;> simp [Fields.get?_cons, here, ih later]

/-- A value equal to a desired one with unique keys covers it, against any value last applied:
it holds every desired field, and it drops none, since its keys are the desired keys. -/
theorem covers_of_beq {a : Option Json} {d x : Json} (canonical : d.Canonical)
    (same : d.beq x = true) : covers a x d = true := by
  -- By the desired value: equal fields and items cover their partners.
  induction d generalizing a x with
  | obj d ih =>
    cases x with
    | obj l =>
      obtain ⟨sorted, values⟩ := (Json.canonical_obj d).mp canonical
      simp only [Json.beq] at same
      refine (covers_obj_iff_fieldCovers a l d).mpr ⟨fun kv mem => ?_, fun k _ live => ?_⟩
      · obtain ⟨lv, found, equal⟩ := beqFields_get? sorted.keys_nodup same kv mem
        rw [found, fieldCovers_some]
        exact .inr (ih kv mem (values kv mem) equal)
      -- A live field is a desired one, since the keys are the same.
      · rwa [beqFields_get?_isSome same] at live
    | _ => simp [Json.beq] at same
  | arr ds ih =>
    cases x with
    | arr ls =>
      rw [Json.canonical_arr] at canonical
      simp only [Json.beq] at same
      obtain ⟨length, items⟩ := beqItems_getElem? same
      refine (covers_arr a ls ds).mpr ⟨length, (coversItems_iff _ 0 ls ds).mpr ?_⟩
      intro n lv dv live desired
      have mem := List.mem_of_getElem? desired
      exact ih dv mem (canonical dv mem) (items n dv lv desired live)
    | _ => simp [Json.beq] at same
  | null | bool | num | str => simpa [covers] using same

/-- A value as the cluster holds it covers itself, whatever was last applied: every field is
its own, and no field is live that it does not hold. -/
theorem covers_refl {a : Option Json} {x : Json} (canonical : x.Canonical) : covers a x x = true :=
  covers_of_beq canonical canonical.beq_self

/-! ### The patch and coverage, key by key -/

/-- Where each desired field needs no entry exactly when the live field covers it, the patch
between objects is empty exactly when the live object covers the desired one. -/
theorem diffObject_eq_nil_iff_covers_of (a : Option Json) (l d : Fields)
    (each : ∀ kv ∈ d, valuePatch (fieldAt? (a.bind Json.fields?) kv.1) (l.get? kv.1) kv.2 = none ↔
      FieldCovers (fieldAt? (a.bind Json.fields?) kv.1) (l.get? kv.1) kv.2) :
    diffObject (a.bind Json.fields?) (some l) d = [] ↔ covers a (.obj l) (.obj d) = true := by
  rw [diffObject_eq_nil_iff, covers_obj_iff_fieldCovers]
  -- The live fields are read by plain lookup on both sides.
  have live (k : String) : fieldAt? (some l) k = l.get? k := rfl
  simp only [live]
  exact and_congr (forall₂_congr each) Iff.rfl

/-- A desired value as the cluster holds it needs no patch entry exactly when the live field
covers it. -/
theorem valuePatch_eq_none_iff {a live : Option Json} {w : Json} (canonical : w.Canonical) :
    valuePatch a live w = none ↔ FieldCovers a live w := by
  -- By the desired value, following each branch of valuePatch.
  induction w generalizing a live with
  | obj w ih =>
    cases live with
    | none => simp [valuePatch, Json.isNull]
    | some x =>
      cases x with
      | obj l =>
        -- Two objects: the sub-patch is empty exactly when each desired field is covered.
        rw [fieldCovers_some, valuePatch_eq_none_obj_obj]
        simp only [Json.isNull, Bool.false_eq_true, false_and, false_or]
        have values := ((Json.canonical_obj w).mp canonical).2
        exact diffObject_eq_nil_iff_covers_of a l w fun kv mem => ih kv mem (values kv mem)
      | _ => simp [valuePatch, Json.beq, covers, Json.isNull]
  | arr w =>
    cases live with
    | none => simp [valuePatch, Json.isNull]
    | some x =>
      simp only [fieldCovers_some, Json.isNull, Bool.false_eq_true, false_and, false_or, valuePatch]
      -- An array equal to the wanted one covers it, so the test for equality adds nothing.
      by_cases covered : covers a x (.arr w) = true
      · have isArr : x.isArr = true := by
          cases x <;> simp_all [covers, Json.isArr]
        simp [isArr, covered]
      · have unequal : (Json.arr w).beq x = false := by
          cases same : (Json.arr w).beq x with
          | false => rfl
          | true => exact absurd (covers_of_beq canonical same) covered
        simp [covered, unequal]
  -- A desired null is met by an absent field or a null, on both sides.
  | null =>
    cases live with
    | none => simp [valuePatch, Json.isNull]
    | some x => cases x <;> simp [valuePatch, covers, Json.isNull, Json.beq]
  -- A desired scalar is met only by an equal value, on both sides.
  | bool | num | str => cases live <;> simp [valuePatch, covers, Json.isNull]

/-- The patch from live fields to a desired object as the cluster holds it is empty exactly
when the live object covers the desired one, against the same last-applied fields. -/
theorem diffObject_eq_nil_iff_covers_obj {o : Option Fields} {c d : Fields}
    (canonical : Json.Canonical (.obj d)) :
    diffObject o (some c) d = [] ↔ covers (o.map .obj) (.obj c) (.obj d) = true := by
  -- Reading the applied fields back as an object gives them as they were.
  have applied : (o.map Json.obj).bind Json.fields? = o := by
    cases o <;> rfl
  have values := ((Json.canonical_obj d).mp canonical).2
  have agree := diffObject_eq_nil_iff_covers_of (o.map .obj) c d fun kv mem =>
    valuePatch_eq_none_iff (values kv mem)
  rwa [applied] at agree

/-- **The diff and coverage agree.** The patch is empty exactly when the live object covers the
desired one; coverage is reflexive, and holds against the desired value as last applied. -/
theorem diffObject_agrees_with_covers :
    (∀ (o : Option Fields) (c d : Fields), Json.Canonical (.obj d) →
      (diffObject o (some c) d = [] ↔ covers (o.map .obj) (.obj c) (.obj d) = true)) ∧
    (∀ (o : Option Json) (x : Json), x.Canonical → covers o x x = true) ∧
    (∀ (o : Option Json) (l d : Json), d.Canonical → covers o l d = true →
      covers (some d) l d = true) :=
  ⟨fun _ _ _ canonical => diffObject_eq_nil_iff_covers_obj canonical,
    fun _ _ canonical => covers_refl canonical,
    fun _ _ _ canonical covered => covers_mono covered (dropsNothing_self canonical)⟩

/-- Fields last applied to a service: a port list and a field since dropped. -/
def servicePortsApplied : Fields :=
  [("dropped", .str "x"), ("spec", .obj [("ports", .arr [.obj [("port", Json.int 80)]])])]

/-- The live service: the dropped field is gone, the server added a protocol to the port and a
field of its own. -/
def servicePortsLive : Fields :=
  [("extra", .bool true),
   ("spec", .obj [("ports", .arr [.obj [("port", Json.int 80), ("protocol", .str "TCP")]])])]

/-- The desired service: the same port, and a field that must stay absent. -/
def servicePortsDesired : Fields :=
  [("gone", .null), ("spec", .obj [("ports", .arr [.obj [("port", Json.int 80)]])])]

/-- The live service, with a default the server filled in inside a list item, covers the
desired one and needs no patch; it covers itself, and the desired service as its own
last-applied value. -/
theorem diffObject_agrees_with_covers_servicePorts :
    Json.Canonical (.obj servicePortsDesired) ∧ Json.Canonical (.obj servicePortsLive) ∧
      covers (some (.obj servicePortsApplied)) (.obj servicePortsLive) (.obj servicePortsDesired) = true ∧
      (diffObject (some servicePortsApplied) (some servicePortsLive) servicePortsDesired = [] ↔
        covers (some (.obj servicePortsApplied)) (.obj servicePortsLive) (.obj servicePortsDesired) = true) ∧
      covers none (.obj servicePortsLive) (.obj servicePortsLive) = true ∧
      covers (some (.obj servicePortsDesired)) (.obj servicePortsLive) (.obj servicePortsDesired) = true := by
  -- The services are small closed values, so each fact is decided.
  have desired : Json.Canonical (.obj servicePortsDesired) := by decide
  have live : Json.Canonical (.obj servicePortsLive) := by decide
  have covered : covers (some (.obj servicePortsApplied)) (.obj servicePortsLive)
      (.obj servicePortsDesired) = true := by decide
  exact ⟨desired, live, covered, diffObject_agrees_with_covers.1 _ _ _ desired,
    diffObject_agrees_with_covers.2.1 _ _ live, diffObject_agrees_with_covers.2.2 _ _ _ desired covered⟩

end MeshControl
