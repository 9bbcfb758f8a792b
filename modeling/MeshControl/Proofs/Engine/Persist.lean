import MeshControl.Proofs.Resource.Objects
import MeshControl.Proofs.Status.Codec
import MeshControl.Proofs.Engine.Agreement
import MeshControl.Proofs.Engine.Tracking
import MeshControl.Proofs.Cluster.Keyed

/-! Storing the status of a control plane, and the pass after: the stored object reads back with
exactly that status, and the next pass is skipped exactly when the one that stored it was clean. -/

namespace MeshControl

/-! Reading the stored status back. -/

/-- A status with conditions, merged into any canonical value, reads back as itself: each key it
writes replaces the value there, and the reader looks at no other key. -/
theorem ControlPlaneStatus.decode_mergePatch {old : Json} (canonical : old.Canonical)
    {s : ControlPlaneStatus} (fits : s.Fits) (conditions : s.status.conditions ≠ []) :
    ControlPlaneStatus.decode (old.mergePatch s.toJson).toYaml = .ok s := by
  have written : s.toJson = .obj [("componentStatus", .arr (s.componentStatus.map ComponentStatus.toJson)),
      ("conditions", .arr (s.status.conditions.map Condition.toJson)),
      ("observedGeneration", Json.int s.status.observedGeneration)] := by
    rw [ControlPlaneStatus.toJson_eq, if_neg (by simpa using conditions)]
    rfl
  -- The old value's fields ascend, and the status writes three distinct keys.
  have sorted : Fields.Sorted (old.fields?.getD []) := ((Json.canonical_obj _).mp canonical.fieldsD).1
  have unique : Fields.keys [("componentStatus", Json.arr (s.componentStatus.map ComponentStatus.toJson)),
      ("conditions", Json.arr (s.status.conditions.map Condition.toJson)),
      ("observedGeneration", Json.int s.status.observedGeneration)] |>.Nodup := by
    simp only [Fields.keys, List.map]
    decide
  rw [written, mergePatch_obj]
  -- Each key the reader looks at holds what the status wrote there.
  refine ControlPlaneStatus.decode_obj_eq_ok (sorted.mergeFields _).keys_nodup ?_ ?_ ?_ <;>
    rw [Json.mergeFields_get? sorted unique] <;> simp [Fields.get?_cons, Json.mergeAt, Json.mergePatch, Json.int, Yaml.ReadsInto]
  · exact Yaml.readSeq_map fun c mem => ComponentStatus.decode_toJson c (fits.2 c mem)
  · exact StatusType.readI64_generation fits.1
  · exact StatusType.conditions_readBack s.status

/-- Patching the status of a stored object, when no failure is injected into status patches of
its name and the patched value reads as an object: the object read is stored and returned with a
new resourceVersion. -/
theorem patchObjectStatus_returns {key : ResourceKey} {s : Store} {current p : Object} {patch st : Json}
    (free : ∀ failure, ¬ s.Injects .patchStatus key.name failure)
    (held : s.lookup key = some current) (status : patch.get? "status" = some st)
    (read : Object.ofJson (current.toJson.set "status"
      (((current.toJson.get? "status").getD .null).mergePatch st)) = .ok p) :
    Returns (patchObjectStatus key patch) s fun o s' =>
      ∃ v, o = p.withMeta (fun m => { m with resourceVersion := some v }) ∧ s'.lookup key = some o := by
  unfold patchObjectStatus
  -- Recording the patch keeps the stored object, which is then read.
  have found : (stored key).run (s.log ⟨.patchStatus, key, none⟩) =
      .ok current (s.log ⟨.patchStatus, key, none⟩) := by
    rw [stored_run, Store.lookup_log, held]
    rfl
  -- No failure is injected, so every step returns in turn.
  refine Returns.bind (Returns.of_run (record_run_free free none) ?_)
  refine Returns.bind (Returns.of_run found ?_)
  simp only [status, read, Except.mapError, StoreM.ofExcept]
  refine Returns.bind (Returns.of_run rfl ?_)
  refine Returns.bind (Returns.of_run rfl ?_)
  refine Returns.bind (Returns.of_run rfl ?_)
  exact Returns.pure ⟨_, rfl, Store.lookup_put_self _ _ _⟩

/-- A control plane reads from an object with no key twice exactly when its metadata and spec
are under their keys and read, and what is under "status", if anything, reads. -/
theorem ControlPlane.decode_obj_iff {fs : Fields} (unique : fs.keys.Nodup) {cp : ControlPlane} :
    ControlPlane.decode (Json.obj fs).toYaml = .ok cp ↔
      Yaml.ReadsInto (fun x => some <$> ObjectMeta.decode x) none ((fs.get? "metadata").map Json.toYaml)
          (some cp.metadata) ∧
        Yaml.ReadsInto (fun x => some <$> ControlPlaneSpec.decode x) none ((fs.get? "spec").map Json.toYaml)
          (some cp.spec) ∧
        Yaml.ReadsInto (Yaml.readOption ControlPlaneStatus.decode) none ((fs.get? "status").map Json.toYaml)
          cp.status := by
  rw [ControlPlane.decode_obj_eq_ok unique, ControlPlane.ReadSoFar, Json.entryAt_namedFields,
    Json.entryAt_namedFields, Json.entryAt_namedFields]

theorem Except.mapError_eq_ok {ε ε' α : Type} {x : Except ε α} {f : ε → ε'} {a : α} :
    x.mapError f = .ok a ↔ x = .ok a := by
  cases x <;> simp [Except.mapError]

/-- A field slot read as some value came from an entry that reads as that value. -/
theorem Yaml.ReadsInto.some_entry {β : Type} {read : Yaml → Decoded β} {x : Option Json} {b : β}
    (reads : Yaml.ReadsInto (fun y => some <$> read y) none (x.map Json.toYaml) (some b)) :
    ∃ j, x = some j ∧ read j.toYaml = .ok b := by
  -- An absent slot reads as none, never as a value.
  cases x with
  | none => simp [Yaml.ReadsInto] at reads
  | some j => exact ⟨j, rfl, Decoded.some_map_eq_ok.mp reads⟩

/-- Merging a status into the object of a control plane, and reading the object back with any
new resourceVersion, gives the control plane with that status and that resourceVersion. -/
theorem ControlPlane.ofObject_statusPatched {o : Object} {cp : ControlPlane}
    (canonical : o.toJson.Canonical) (read : ControlPlane.ofObject o = .ok cp)
    (metaBack : ObjectMeta.decode cp.metadata.toJson.toYaml = .ok cp.metadata)
    {s : ControlPlaneStatus} (fits : s.Fits) (conditions : s.status.conditions ≠ []) :
    ∃ p, Object.ofJson (o.toJson.set "status" (((o.toJson.get? "status").getD .null).mergePatch s.toJson)) =
        .ok p ∧
      ∀ v, ControlPlane.ofObject (p.withMeta fun m => { m with resourceVersion := some v }) =
        .ok { cp with status := some s, metadata := { cp.metadata with resourceVersion := some v } } := by
  obtain ⟨F, written, -⟩ := o.sorted_toJson
  rw [written] at canonical ⊢
  obtain ⟨sorted, values⟩ := (Json.canonical_obj F).mp canonical
  -- The control plane's metadata and spec were read from their entries.
  have decoded : ControlPlane.decode (Json.obj F).toYaml = .ok cp := by
    have r := read
    rw [ControlPlane.ofObject, written, Except.mapError_eq_ok] at r
    exact r
  obtain ⟨metaRead, specRead, -⟩ := (ControlPlane.decode_obj_iff sorted.keys_nodup).mp decoded
  obtain ⟨mj, metaEntry, metaOk⟩ := metaRead.some_entry
  obtain ⟨sj, specEntry, specOk⟩ := specRead.some_entry
  -- The patched value: the old fields with the merged status stored under "status".
  let merged := ((Fields.get? F "status").getD .null).mergePatch s.toJson
  have oldCanonical : ((Fields.get? F "status").getD .null).Canonical :=
    Json.Canonical.getD fun x found => values ("status", x) (Fields.mem_of_get? found)
  have mergedCanonical : merged.Canonical := s.canonical_toJson.mergePatch oldCanonical
  have valueCanonical : (Json.obj (Fields.insert F "status" merged)).Canonical := by
    refine (Json.canonical_obj _).mpr ⟨sorted.insert _ _, fun kv mem => ?_⟩
    rcases Fields.mem_insert mem with new | old
    · rw [new]
      exact mergedCanonical
    · exact values kv old
  have valueAt : ∀ k, k ≠ "status" → (Fields.insert F "status" merged).get? k = Fields.get? F k := by
    intro k other
    rw [Fields.get?_insert, if_neg (Ne.symm other)]
  obtain ⟨p, ofJsonOk, pMeta, pSorted, pNoMeta, pData⟩ :=
    Object.ofJson_obj valueCanonical fun mj' found => ⟨cp.metadata, by
      rw [valueAt _ (by decide), metaEntry] at found
      cases found
      exact metaOk⟩
  -- The metadata of the object read is the control plane's.
  have pMetadata : p.metadata = cp.metadata := by
    have again := pMeta mj (by rw [valueAt _ (by decide), metaEntry])
    rw [metaOk] at again
    exact (Except.ok.inj again).symm
  refine ⟨p, ofJsonOk, fun v => ?_⟩
  -- The object read back: its metadata with the new version, the old spec and the merged status.
  let p' := p.withMeta fun m => { m with resourceVersion := some v }
  obtain ⟨F', written', sorted'⟩ := p'.sorted_toJson
  have unique' : p'.data.keys.Nodup := pSorted.keys_nodup
  -- Every field but the types and the metadata is found in the object's data.
  have entry : ∀ k, k ≠ "apiVersion" → k ≠ "kind" → k ≠ "metadata" → Fields.get? F' k = Fields.get? p.data k := by
    intro k notApiVersion notKind notMetadata
    have at' := Object.get?_toJson_data unique' notApiVersion notKind notMetadata
    rwa [written'] at at'
  have metaEntry' : Fields.get? F' "metadata" = some p'.metadata.toJson := by
    have at' := Object.get?_toJson_metadata unique' pNoMeta
    rwa [written'] at at'
  have specEntry' : Fields.get? F' "spec" = some sj := by
    rw [entry _ (by decide) (by decide) (by decide), pData _ (by decide) (by decide) (by decide),
      valueAt _ (by decide), specEntry]
  have statusEntry' : Fields.get? F' "status" = some merged := by
    rw [entry _ (by decide) (by decide) (by decide), pData _ (by decide) (by decide) (by decide),
      Fields.get?_insert, if_pos rfl]
  have readBack : ControlPlane.decode (Json.obj F').toYaml =
      .ok { cp with status := some s, metadata := { cp.metadata with resourceVersion := some v } } := by
    refine (ControlPlane.decode_obj_iff sorted'.keys_nodup).mpr ⟨?_, ?_, ?_⟩
    -- The new resourceVersion does not change how the metadata reads.
    · rw [metaEntry']
      show (some <$> ObjectMeta.decode ({ p.metadata with resourceVersion := some v } : ObjectMeta).toJson.toYaml) = _
      rw [pMetadata, ObjectMeta.decode_withResourceVersion metaBack v]
      rfl
    -- The spec is as it was.
    · rw [specEntry']
      show (some <$> ControlPlaneSpec.decode sj.toYaml) = _
      rw [specOk]
      rfl
    · rw [statusEntry']
      show Yaml.readOption ControlPlaneStatus.decode (((Fields.get? F "status").getD .null).mergePatch s.toJson).toYaml = _
      -- The merged status is an object, so it is read rather than taken as absent.
      obtain ⟨mf, mergedObj⟩ : ∃ mf, ((Fields.get? F "status").getD .null).mergePatch s.toJson = .obj mf :=
        ⟨_, by rw [ControlPlaneStatus.toJson_eq, mergePatch_obj]⟩
      have statusOk := ControlPlaneStatus.decode_mergePatch oldCanonical fits conditions
      rw [mergedObj] at statusOk ⊢
      show (ControlPlaneStatus.decode (Json.obj mf).toYaml).map some = _
      rw [statusOk]
      rfl
  rw [ControlPlane.ofObject, written', readBack]
  rfl

/-- Storing a status with conditions whose generations fit returns, on a world that is not
stopped and whose status patches of the control plane's name are not told to fail. The object
of the control plane then reads back as the control plane it held, with that status and a new
resourceVersion. -/
theorem persistStatus_returns {cp cp₀ : ControlPlane} {status : ControlPlaneStatus} {w : World} {o : Object}
    (running : w.stopped = false) (free : ∀ failure, ¬ w.store.Injects .patchStatus cp.clusterKey.name failure)
    (held : w.store.lookup cp.clusterKey = some o) (canonical : o.toJson.Canonical)
    (read : ControlPlane.ofObject o = .ok cp₀)
    (metaBack : ObjectMeta.decode cp₀.metadata.toJson.toYaml = .ok cp₀.metadata)
    (fits : status.Fits) (conditions : status.status.conditions ≠ []) :
    Returns (persistStatus cp status) w fun _ w' => ∃ o' v, w'.store.lookup cp.clusterKey = some o' ∧
      ControlPlane.ofObject o' = .ok
        { cp₀ with status := some status, metadata := { cp₀.metadata with resourceVersion := some v } } := by
  -- The patched object reads back with the status and any new version.
  obtain ⟨p, ofJsonOk, readBack⟩ := ControlPlane.ofObject_statusPatched canonical read metaBack fits conditions
  unfold persistStatus
  rw [discard_eq_map]
  refine Returns.map (Engine.cluster_returns running
    (Returns.mono (patchObjectStatus_returns free held rfl ofJsonOk) ?_))
  rintro o' s ⟨v, rfl, stored⟩
  exact ⟨_, v, stored, readBack v⟩

/-! What a pass adds to the log. -/

namespace World

/-- What every step of a pass keeps: calls are only added to the log, and a stopped world stays
stopped. -/
structure Logs (w w' : World) : Prop where
  log : ∃ calls, w'.store.ops = w.store.ops ++ calls
  stopped : w.stopped = true → w'.stopped = true

theorem Logs.refl (w : World) : Logs w w := ⟨⟨[], by simp⟩, id⟩

theorem Logs.trans {w₁ w₂ w₃ : World} (first : Logs w₁ w₂) (second : Logs w₂ w₃) : Logs w₁ w₃ := by
  obtain ⟨calls₁, logged₁⟩ := first.log
  obtain ⟨calls₂, logged₂⟩ := second.log
  exact ⟨⟨calls₁ ++ calls₂, by rw [logged₂, logged₁, List.append_assoc]⟩,
    fun stopped => second.stopped (first.stopped stopped)⟩

instance : IsPreorder World Logs where
  refl := Logs.refl
  trans _ _ _ := Logs.trans

/-- A step that changes only the cluster, and there only adds to the log, keeps `Logs`. -/
theorem Logs.of_store {w : World} {s : Store} (logged : ∃ calls, s.ops = w.store.ops ++ calls) :
    Logs w { w with store := s } :=
  ⟨logged, id⟩

theorem logs_stepsKeep : StepsKeep Logs := by
  refine ⟨fun {α x} grows w => ?_, fun ms => ?_, fun f => Keeps.modify fun w => ⟨⟨[], by simp⟩, id⟩⟩
  -- A cluster call adds its calls to the log, if the world runs.
  · rw [Engine.endState_cluster]
    split
    · exact Logs.refl w
    · obtain ⟨calls, logged, -⟩ := (grows w.store).log
      exact Logs.of_store ⟨calls, logged⟩
  · refine Keeps.modify fun w => ?_
    -- A sleep only moves the clock, or stops a world that runs into its deadline.
    split
    · exact Logs.refl w
    · split
      · split
        · exact ⟨⟨[], by simp⟩, fun _ => rfl⟩
        · exact ⟨⟨[], by simp⟩, fun stopped => stopped⟩
      · exact ⟨⟨[], by simp⟩, fun stopped => stopped⟩

end World

/-- A deletion only adds to the log, whatever the cluster answers. -/
theorem Engine.deleteObject_logs (key : ResourceKey) (p : Option Propagation) :
    Keeps World.Logs (Engine.cluster (deleteObject key p)) := by
  intro w
  rw [Engine.endState_cluster]
  split
  · exact World.Logs.refl w
  · exact World.Logs.of_store ⟨_, (deleteObject_logged key p w.store).1⟩

theorem deleteResource_logs (ctx : Context) (key : ResourceKey) : Keeps World.Logs (deleteResource ctx key) := by
  unfold deleteResource
  refine Keeps.bind (Engine.attempt_keeps (Engine.deleteObject_logs _ _)) fun r => ?_
  have hooks := Hooks.afterDelete_keeps World.logs_stepsKeep ctx.hooks key
  dsimp only
  cases r with
  | ok u =>
    cases u
    exact Keeps.bind (World.logs_stepsKeep.record _) fun _ => hooks
  | error e => exact Keeps.ite (Keeps.throw_bind _ _) hooks

theorem deleteStale_logs (ctx : Context) (processed : List ResourceKey) :
    ∀ (rs : List ResourceStatus) (errors : Aggregate), Keeps World.Logs (deleteStale ctx processed rs errors)
  | [], _ => Keeps.pure _
  | r :: older, errors => by
    unfold deleteStale
    -- An entry that is not stale is passed over.
    split
    · exact deleteStale_logs ctx processed older errors
    · refine Keeps.bind Engine.now_keeps fun now => ?_
      refine Keeps.bind (Engine.attempt_keeps (deleteResource_logs ctx r.resource)) fun res => ?_
      dsimp only
      -- Either way the deletion only logged, and the older entries follow.
      cases res with
      | ok u =>
        cases u
        exact Keeps.bind (Keeps.pure _) fun _ =>
          Keeps.bind (deleteStale_logs ctx processed older _) fun _ => Keeps.pure _
      | error e =>
        exact Keeps.bind (Keeps.pure _) fun _ =>
          Keeps.bind (deleteStale_logs ctx processed older _) fun _ => Keeps.pure _

theorem reconcileComponent_logs (ctx : Context) (name : String) (ms : List Manifest)
    (previous : Option ComponentStatus) : Keeps World.Logs (reconcileComponent ctx name ms previous) := by
  unfold reconcileComponent
  -- Applying, deleting and reading the clock all only add to the log.
  refine Keeps.bind (applyManifests_keeps World.logs_stepsKeep ctx _ ms _) fun t => ?_
  refine Keeps.bind (deleteStale_logs ctx _ _ _) fun removed => ?_
  refine Keeps.bind Engine.now_keeps fun now => ?_
  exact Keeps.ite (Keeps.pure _) (Keeps.pure _)

theorem reconcileComponents_logs (cfg : EngineConfig) (ctx : Context) (previous : ControlPlaneStatus)
    (rendered : Rendered) :
    ∀ (names : List String) (acc : List ComponentStatus × Aggregate),
      Keeps World.Logs (reconcileComponents cfg ctx previous rendered names acc)
  | [], _ => Keeps.pure _
  | name :: rest, acc => by
    unfold reconcileComponents
    refine Keeps.bind (reconcileComponent_logs ctx name _ _) fun r => ?_
    refine Keeps.bind (World.logs_stepsKeep.record _) fun _ => ?_
    have later : ∀ acc', Keeps World.Logs (reconcileComponents cfg ctx previous rendered rest acc') :=
      reconcileComponents_logs cfg ctx previous rendered rest
    dsimp only
    -- A component that succeeded may be waited for; either way the rest of the sequence follows.
    split
    · split
      · exact Keeps.bind (waitForComponent_keeps World.logs_stepsKeep cfg _) fun _ =>
          Keeps.bind (Keeps.pure _) fun _ => later _
      · exact Keeps.bind (Keeps.pure _) fun _ => later _
    · exact Keeps.bind (Keeps.pure _) fun _ => later _

/-- A status patch is logged before anything else, so the log grows by at least one call. -/
theorem patchObjectStatus_logged (key : ResourceKey) (patch : Json) :
    Keeps (fun s s' => s.ops.length < s'.ops.length) (patchObjectStatus key patch) := by
  unfold patchObjectStatus
  refine Keeps.seq (record_logged .patchStatus key none) (fun _ => (?_ : Keeps Store.Grows _))
    (fun s s' logged => by simp [logged])
    (fun s₁ s₂ s₃ logged grew => ?_)
  -- After the record, the patch only grows the cluster.
  · exact Keeps.bind (stored_keeps key) fun current =>
      Keeps.bind (StoreM.ofExcept_keeps _) fun _ => putVersioned_grows key _
  -- The record adds one call, and growing adds more.
  · obtain ⟨calls, grown, -⟩ := grew.log
    simp [grown, logged]

/-- Storing a status on a world that is not stopped makes a call. -/
theorem persistStatus_logged (cp : ControlPlane) (status : ControlPlaneStatus) :
    Keeps (fun w w' => w.stopped = false → w.store.ops.length < w'.store.ops.length)
      (persistStatus cp status) := by
  unfold persistStatus
  rw [discard_eq_map]
  refine Keeps.map _ fun w running => ?_
  -- On a running world the patch is made on the cluster.
  rw [Engine.endState_cluster, if_neg (by simp [running])]
  exact patchObjectStatus_logged _ _ w.store

/-- A pass whose control plane is already installed and reconciled at its generation does nothing. -/
theorem reconcileControlPlane_skipped (cfg : EngineConfig) {cp : ControlPlane} (rendered : Except Error Rendered)
    (w : World) (active : cp.isBeingDeleted = false) (finalized : cp.hasFinalizer = true)
    (steady : (cp.metadata.generation.getD 0 == cp.statusOrDefault.status.observedGeneration &&
      cp.statusOrDefault.status.isInstalled && cp.statusOrDefault.status.isReconciled) = true) :
    (reconcileControlPlane cfg cp rendered).run w = .ok .complete w := by
  unfold reconcileControlPlane
  -- The first three checks pass, so the steady status short-cuts the pass.
  simp only [active, finalized, steady, Bool.false_eq_true, Bool.not_true, if_false, if_true]
  rfl

/-- A full pass that returns has made at least one call: it stored the status, which a stopped
world cannot. -/
theorem reconcileControlPlane_calls (cfg : EngineConfig) {cp : ControlPlane} (rendered : Except Error Rendered)
    {w w' : World} {o : Outcome} (active : cp.isBeingDeleted = false) (finalized : cp.hasFinalizer = true)
    (due : (cp.metadata.generation.getD 0 == cp.statusOrDefault.status.observedGeneration &&
      cp.statusOrDefault.status.isInstalled && cp.statusOrDefault.status.isReconciled) = false)
    (ran : (reconcileControlPlane cfg cp rendered).run w = .ok o w') :
    w.store.ops.length < w'.store.ops.length := by
  unfold reconcileControlPlane at ran
  simp only [active, finalized, due, Bool.false_eq_true, Bool.not_true, if_false] at ran
  -- Whether or not the rendering failed, the components run first and only add to the log.
  cases rendered <;>
  · obtain ⟨⟨components, errors⟩, w₁, passed, rest⟩ := run_bind_ok ran
    have logs : World.Logs w w₁ := Keeps.of_ok passed
      (by first | exact reconcileComponents_logs _ _ _ _ _ _ | exact Keeps.pure _)
    obtain ⟨now, w₂, readNow, rest⟩ := run_bind_ok rest
    obtain ⟨-, same⟩ := (Engine.now_returns w₁).holds readNow
    subst w₂
    obtain ⟨persisted, w₃, attempted, rest⟩ := run_bind_ok rest
    rw [Engine.attempt_run] at attempted
    -- Only a stored status lets the pass return.
    cases stored : (persistStatus cp _).run w₁ with
    | error e w₄ =>
      rw [stored] at attempted
      cases attempted
      cases result : errors.toResult <;> simp [result] at rest <;> cases rest
    | ok u w₄ =>
      rw [stored] at attempted
      cases attempted
      have finished : w' = w₃ := by
        cases result : errors.toResult <;> simp [result] at rest
        · cases rest
        · obtain ⟨-, rfl⟩ := rest
          rfl
      subst finished
      -- A stopped world fails every call, so the world was running when the status was stored.
      have running : w₁.stopped = false := by
        cases stopped : w₁.stopped
        · rfl
        · simp [persistStatus, discard_eq_map, Engine.cluster_run, stopped] at stored
      have grew := Keeps.of_ok stored (persistStatus_logged cp _) running
      obtain ⟨calls, logged⟩ := logs.log
      rw [logged, List.length_append] at grew
      omega

/-- The next pass over a control plane whose stored status a pass built at its generation does
nothing exactly when that pass met no failure. -/
theorem reconcileControlPlane_settled_iff (cfg : EngineConfig) {cp : ControlPlane}
    (rendered : Except Error Rendered) (w : World) (active : cp.isBeingDeleted = false)
    (finalized : cp.hasFinalizer = true) (st : StatusType)
    (observed : st.observedGeneration = cp.metadata.generation.getD 0) (now : String) (err : Option Error)
    (components : List ComponentStatus) (stored : cp.status = some ⟨st.afterReconcile now err, components⟩) :
    (reconcileControlPlane cfg cp rendered).run w = .ok .complete w ↔ err = none := by
  -- The stored status is the one the earlier pass built.
  have current : cp.statusOrDefault.status = st.afterReconcile now err := by
    simp [ControlPlane.statusOrDefault, stored]
  -- A clean pass left Installed and Reconciled True at the generation.
  cases err with
  | none =>
    obtain ⟨installed, reconciled⟩ := StatusType.afterReconcile_none_settled st now
    simp only [iff_true]
    refine reconcileControlPlane_skipped cfg rendered w active finalized ?_
    simp [current, installed, reconciled, StatusType.afterReconcile_observedGeneration, observed]
  | some e =>
    simp only [reduceCtorEq, iff_false]
    intro ran
    -- The stored status says Reconciled is False, so the pass runs and makes a call.
    have due : (cp.metadata.generation.getD 0 == cp.statusOrDefault.status.observedGeneration &&
        cp.statusOrDefault.status.isInstalled && cp.statusOrDefault.status.isReconciled) = false := by
      simp [current, StatusType.afterReconcile_some_unreconciled]
    exact lt_irrefl _ (reconcileControlPlane_calls cfg rendered active finalized due ran)

/-- The status a full pass over `cp` stores: the previous conditions updated for the pass's
outcome, at the generation of `cp`, and the statuses of the components. -/
def ControlPlane.passStatus (cp : ControlPlane) (now : String) (result : Except Error Unit)
    (components : List ComponentStatus) : ControlPlaneStatus :=
  ⟨({ cp.statusOrDefault.status with observedGeneration := cp.metadata.generation.getD 0 }).afterReconcile
    now (failureOf result), components⟩

/-- **Stored statuses read back, and the next pass is skipped exactly after a clean one.** The
object reads back as cp with that status and a new resourceVersion, on a running world that
injects no failure into its status patch. -/
theorem persistStatus_reads_back (cfg : EngineConfig) {cp : ControlPlane} {o : Object} {w : World}
    (now : String) (result : Except Error Unit) (components : List ComponentStatus)
    (fits : (cp.passStatus now result components).Fits) (running : w.stopped = false)
    (free : ∀ failure, ¬ w.store.Injects .patchStatus cp.clusterKey.name failure)
    (held : w.store.lookup cp.clusterKey = some o) (canonical : o.toJson.Canonical)
    (read : ControlPlane.ofObject o = .ok cp)
    (metaBack : ObjectMeta.decode cp.metadata.toJson.toYaml = .ok cp.metadata)
    (active : cp.isBeingDeleted = false) (finalized : cp.hasFinalizer = true) :
    (∀ s : ControlPlaneStatus, s.Fits → ControlPlaneStatus.decode s.toJson.toYaml = .ok s) ∧
    Returns (persistStatus cp (cp.passStatus now result components)) w fun _ w' =>
      ∃ o' v, w'.store.lookup cp.clusterKey = some o' ∧
        ControlPlane.ofObject o' = .ok
          { cp with status := some (cp.passStatus now result components),
                    metadata := { cp.metadata with resourceVersion := some v } } ∧
        ∀ rendered w₂, (reconcileControlPlane cfg
          { cp with status := some (cp.passStatus now result components),
                    metadata := { cp.metadata with resourceVersion := some v } } rendered).run w₂ =
            .ok .complete w₂ ↔ result = .ok () := by
  refine ⟨fun s fit => s.decode_toJson fit, ?_⟩
  -- A pass's status always has conditions.
  have conditions := StatusType.afterReconcile_conditions_ne_nil
    { cp.statusOrDefault.status with observedGeneration := cp.metadata.generation.getD 0 } now (failureOf result)
  refine Returns.mono (persistStatus_returns running free held canonical read metaBack fits conditions) ?_
  rintro _ w' ⟨o', v, stored, readBack⟩
  refine ⟨o', v, stored, readBack, fun rendered w₂ => ?_⟩
  -- The control plane read back keeps its generation, deletion and finalizers.
  refine (reconcileControlPlane_settled_iff cfg rendered w₂ ?_ ?_
    { cp.statusOrDefault.status with observedGeneration := cp.metadata.generation.getD 0 } ?_ now
    (failureOf result) components ?_).trans ?_
  · exact active
  · exact finalized
  · rfl
  · rfl
  · cases result <;> simp [failureOf]

/-- The control plane `basic` of `istio-system` at generation 1, holding the finalizer and never
reconciled. -/
def basicPlane : ControlPlane where
  metadata :=
    { name := some "basic", ns := some "istio-system", generation := some 1,
      finalizers := some [controlPlaneFinalizer] }
  spec := {}

/-- The object the cluster holds for `basic`. -/
def basicObject : Object where
  types := some ⟨controlPlaneGroup ++ "/" ++ controlPlaneVersion, controlPlaneKind⟩
  metadata := basicPlane.metadata
  data := [("spec", basicPlane.spec.toJson)]

/-- A cluster holding only `basic`. -/
def clusterWithBasic : World := { store := ({} : Store).put basicPlane.clusterKey basicObject }

/-- Storing the status of a clean first pass over `basic` reads back, and the next pass is
skipped. -/
theorem persistStatus_reads_back_basic :
    Returns (persistStatus basicPlane (basicPlane.passStatus "" (.ok ()) [])) clusterWithBasic fun _ w' =>
      ∃ o' v, w'.store.lookup basicPlane.clusterKey = some o' ∧
        ControlPlane.ofObject o' = .ok
          { basicPlane with status := some (basicPlane.passStatus "" (.ok ()) []),
                            metadata := { basicPlane.metadata with resourceVersion := some v } } ∧
        ∀ rendered w₂, (reconcileControlPlane {}
          { basicPlane with status := some (basicPlane.passStatus "" (.ok ()) []),
                            metadata := { basicPlane.metadata with resourceVersion := some v } } rendered).run w₂ =
            .ok .complete w₂ ↔ (Except.ok () : Except Error Unit) = .ok () :=
  (persistStatus_reads_back {} "" (.ok ()) []
    ⟨by simp [ControlPlane.passStatus, StatusType.Fits, StatusType.afterReconcile_observedGeneration, basicPlane],
      by simp [ControlPlane.passStatus]⟩
    rfl
    (fun _ injected => by
      obtain ⟨f, mem, -⟩ := injected
      exact absurd mem List.not_mem_nil)
    (Store.lookup_put_self _ _ _)
    (Json.canonical_mkObj (by
      simp only [basicObject, basicPlane, ObjectMeta.toJson, ObjectMeta.entries, optionalFields,
        ControlPlaneSpec.toJson]
      simp [Json.int]
      exact ⟨Json.canonical_mkObj (by simp [Number.Finite]), Json.canonical_mkObj (by simp)⟩))
    rfl rfl rfl rfl).2

end MeshControl
