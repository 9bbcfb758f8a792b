import MeshControl.Proofs.Engine.Installed
import MeshControl.Proofs.Engine.Persist
import MeshControl.Proofs.Engine.Rerun
import MeshControl.Proofs.Status.Times

/-! When a pass moves transition times: only as the transition rules allow, and Reconciled's also
where the pass sent a patch of its key. -/

namespace MeshControl

namespace World

/-- A patch of `key` was sent between the worlds `w` and `w'`: its call is among those the log
gained. -/
def Patched (w w' : World) (key : ResourceKey) : Prop :=
  ∃ calls, w'.store.ops = w.store.ops ++ calls ∧ (⟨.patch, key, none⟩ : Op) ∈ calls

/-- A patch sent within a part of a run was sent within any part around it. -/
theorem Patched.widen {w₀ w w' w₁ : World} {key : ResourceKey} (patched : Patched w w' key)
    (before : Logs w₀ w) (after : Logs w' w₁) : Patched w₀ w₁ key := by
  -- The log grew before, during and after the part.
  obtain ⟨calls₀, logged₀⟩ := before.log
  obtain ⟨calls, logged, sent⟩ := patched
  obtain ⟨calls₁, logged₁⟩ := after.log
  exact ⟨calls₀ ++ calls ++ calls₁, by rw [logged₁, logged, logged₀]; simp, by simp [sent]⟩

end World

/-- A patch is logged first, and the calls after it only add to the log. -/
theorem patchObject_logged (key : ResourceKey) (patch : Json) :
    Keeps (fun s s' => ∃ calls, s'.ops = s.ops ++ calls ∧ (⟨.patch, key, none⟩ : Op) ∈ calls)
      (patchObject key patch) := by
  unfold patchObject
  -- The patch's record is the first call; the calls after it only grow the log.
  refine Keeps.seq (record_logged .patch key none) (fun _ => (?_ : Keeps Store.Grows _))
    (fun s s' logged => ⟨_, logged, List.mem_singleton_self _⟩) (fun s₁ s₂ s₃ logged grew => ?_)
  · exact Keeps.bind (stored_keeps key) fun current =>
      Keeps.bind (StoreM.ofExcept_keeps _) fun _ => putVersioned_grows key _
  · obtain ⟨calls, grown, -⟩ := grew.log
    exact ⟨_ :: calls, by simp [grown, logged], List.mem_cons_self⟩

namespace Engine

/-- A cluster call that returned ran on a world that had not stopped, and the call does not stop
it. -/
theorem running_of_cluster_ok {α : Type} {x : StoreM α} {w w' : World} {a : α}
    (ran : (Engine.cluster x).run w = .ok a w') : w'.stopped = false := by
  rw [Engine.cluster_run] at ran
  -- A stopped world fails the call; a running one stays running when the call returns.
  split at ran
  · cases ran
  · rename_i running
    cases result : x.run w.store with
    | ok b s =>
      rw [result] at ran
      cases ran
      simpa using running
    | error e s =>
      rw [result] at ran
      cases ran

/-- A patch sent on a world that has not stopped is in the log, whatever the cluster answers. -/
theorem patchObject_patched (key : ResourceKey) (patch : Json) :
    Keeps (fun w w' => w.stopped = false → w.Patched w' key) (Engine.cluster (patchObject key patch)) := by
  intro w running
  -- On a running world the patch reaches the cluster, which logs it.
  rw [Engine.endState_cluster, if_neg (by simp [running])]
  exact patchObject_logged key patch w.store

end Engine

/-- Applying an object keeps the conditions of its entry, except where it computes a patch: then
Reconciled is removed, and the patch of the object's key is in the log, whatever the cluster
answers. -/
theorem applyObject_stamps (ctx : Context) {key : ResourceKey} {desired : Object}
    (keyed : desired.key = .ok key) (status : ResourceStatus) (w : World) :
    Returns (applyObject ctx key desired status) w fun r w' =>
      r.2.status.conditions = status.status.conditions ∨
        r.2.status.conditions = (status.status.remove .reconciled).conditions ∧ w.Patched w' key := by
  -- A patch call made after the hooks and the read is in the log, whatever the cluster answers.
  have sent : ∀ {D X : Object} {p : ObjectPatch} {w₁ w₂ w₃ : World},
      (ctx.hooks.beforeApply ctx.ns key desired).run w = .ok D w₁ →
      (Engine.cluster (getObject key)).run w₁ = .ok X w₂ →
      createPatch X D.stampLastApplied = .ok (some p) →
      (w₂.stopped = false → w₂.Patched w₃ p.key) → w.Patched w₃ key := by
    intro D X p w₁ w₂ w₃ hooked read made logged
    -- The hooks and the read only add to the log.
    have hookLogs : World.Logs w w₁ := Keeps.of_ok hooked (Hooks.beforeApply_keeps World.logs_stepsKeep _ _ key desired)
    have readLogs : World.Logs w₁ w₂ := Keeps.of_ok read (World.logs_stepsKeep.cluster (getObject_grows key))
    -- The read went through, so the world had not stopped and the patch call was made.
    have running : w₂.stopped = false := Engine.running_of_cluster_ok read
    rw [← createPatch_key_eq (Hooks.beforeApply_stamped_key keyed hooked) made]
    exact (logged running).widen (hookLogs.trans readLogs) (World.Logs.refl w₃)
  refine (applyObject_runs ctx key desired status w).mono fun r w' run => ?_
  -- Only a computed patch touches the conditions.
  cases run with
  | hookFailed => exact .inl rfl
  | readFailed => exact .inl rfl
  | createFailed => exact .inl rfl
  | created => exact .inl (by simp)
  | unpatchable => exact .inl rfl
  | converged => exact .inl (by simp)
  | patchFailed hooked read made patch =>
    exact .inr ⟨rfl, sent hooked read made (Keeps.of_error patch (Engine.patchObject_patched _ _))⟩
  | patched hooked read made patch =>
    exact .inr ⟨by simp, (sent hooked read made (Keeps.of_ok patch (Engine.patchObject_patched _ _))).widen
      (World.Logs.refl w) (Keeps.of_ok (Engine.record_run (·.countOperation key.kind "patch") _)
        (World.logs_stepsKeep.record _))⟩

/-! The objects of a component. -/

/-- What part of a component pass, from the tally `t` in the world `w` to `t'` in `w'`, does to
transition times: the clock reading stays, calls are only added to the log, and each entry it
appends moves the times of the entry carried in for its key only as the transition rules allow,
and Reconciled's also where a patch of its key was sent in between. -/
structure Tally.Stamps (old : ComponentStatus) (t : Tally) (w : World) (t' : Tally) (w' : World) : Prop where
  now : w'.now = w.now
  logs : World.Logs w w'
  added : ∃ added, t'.status.resources = t.status.resources ++ added ∧
    ∀ a ∈ added, ((old.find? a.resource).getD (.ofKey a.resource)).status.TimesFollow w.now
      (fun ty => ty = .reconciled ∧ w.Patched w' a.resource) a.status

namespace Tally.Stamps

variable {old : ComponentStatus}

theorem refl (t : Tally) (w : World) : Tally.Stamps old t w t w :=
  ⟨rfl, World.Logs.refl w, [], by simp, by simp⟩

theorem trans {t₁ t₂ t₃ : Tally} {w₁ w₂ w₃ : World} (first : Tally.Stamps old t₁ w₁ t₂ w₂)
    (second : Tally.Stamps old t₂ w₂ t₃ w₃) : Tally.Stamps old t₁ w₁ t₃ w₃ := by
  obtain ⟨added₁, grew₁, stamped₁⟩ := first.added
  obtain ⟨added₂, grew₂, stamped₂⟩ := second.added
  -- A patch sent in either part was sent in the whole.
  refine ⟨second.now.trans first.now, first.logs.trans second.logs, added₁ ++ added₂,
    by rw [grew₂, grew₁, List.append_assoc], fun a member => ?_⟩
  -- An entry from the first part, or from the second, whose clock is the first's too.
  rcases List.mem_append.mp member with early | late
  · exact (stamped₁ a early).mono fun _ ⟨reconciled, patched⟩ =>
      ⟨reconciled, patched.widen (World.Logs.refl w₁) second.logs⟩
  · rw [← first.now]
    exact (stamped₂ a late).mono fun _ ⟨reconciled, patched⟩ =>
      ⟨reconciled, patched.widen first.logs (World.Logs.refl w₃)⟩

/-- Only the entries count: what else the tallies hold may differ. -/
theorem of_resources {t₁ t₂ t₁' t₂' : Tally} {w₁ w₂ : World} (stamps : Tally.Stamps old t₁ w₁ t₂ w₂)
    (before : t₁'.status.resources = t₁.status.resources) (after : t₂'.status.resources = t₂.status.resources) :
    Tally.Stamps old t₁' w₁ t₂' w₂ := by
  obtain ⟨added, grew, stamped⟩ := stamps.added
  exact ⟨stamps.now, stamps.logs, added, by rw [before, after, grew], stamped⟩

end Tally.Stamps

/-- The entry a pass writes for an object moves the times of the entry carried in for its key
only as the reconcile rules allow, and Reconciled's also where the object was patched. -/
theorem reconcileSingle_stamps (ctx : Context) (old : ComponentStatus) (desired : Object)
    (t : Tally) (w : World) :
    Returns (reconcileSingle ctx old desired t) w fun r w' => Tally.Stamps old t w r.2 w' := by
  unfold reconcileSingle
  dsimp only
  -- An object without a key is passed over; one with a key is applied and recorded.
  split
  · exact Returns.pure (Tally.Stamps.refl t w)
  · rename_i key found
    refine Returns.bind (Returns.mono ((Returns.with_keeps (applyObject_keeps World.logs_stepsKeep ctx key _ _)
      (Returns.with_keeps (applyObject_keeps World.sameNow_stepsKeep ctx key _ _)
        (applyObject_stamps ctx found ((old.find? key).getD (.ofKey key)) w))).and
      (applyObject_returns ctx key _ _ w)) fun applied w₁ facts => ?_)
    obtain ⟨result, status⟩ := applied
    obtain ⟨⟨logs, same, stamped⟩, named⟩ := facts
    refine Returns.bind (Returns.mono (Engine.now_returns w₁) fun now w₂ ⟨read, still⟩ => ?_)
    subst read
    subst w₂
    -- The entry applied names the object's key.
    have keyed : status.resource = key := by simpa using named
    refine Returns.pure ⟨same, logs, [_], by rw [Tally.addResource_resources, Tally.process_status],
      fun a member => ?_⟩
    rw [List.mem_singleton] at member
    subst member
    dsimp only
    rw [keyed, ← same]
    -- The conditions the rules start from are the carried ones, or those less Reconciled.
    rcases stamped with kept | ⟨removed, patched⟩
    · exact ((StatusType.afterReconcile_timesFollow _ w₁.now _).congr rfl
        (StatusType.afterReconcile_conditions_congr kept.symm w₁.now _)).mono fun _ => False.elim
    · exact ((StatusType.remove_afterReconcile_timesFollow _ w₁.now _).congr rfl
        (StatusType.afterReconcile_conditions_congr removed.symm w₁.now _)).mono fun _ reconciled =>
          ⟨reconciled, patched⟩

/-- One leaf of a pass, applied or noted as unreadable. -/
theorem leafStep_stamps (ctx : Context) (old : ComponentStatus) (t : Tally) (r : Except Error Object)
    (w : World) : Returns (leafStep ctx old t r) w fun t' w' => Tally.Stamps old t w t' w' := by
  -- An object is applied; a failure is only noted.
  cases r with
  | ok leaf =>
    exact Returns.bind (Returns.mono (reconcileSingle_stamps ctx old leaf t w) fun r _ stamps =>
      Returns.pure (stamps.of_resources rfl rfl))
  | error e => exact Returns.pure ((Tally.Stamps.refl t w).of_resources rfl rfl)

/-- Applying the manifests of a component moves times as each leaf does. -/
theorem applyManifests_stamps (ctx : Context) (old : ComponentStatus) (ms : List Manifest) (t : Tally)
    (w : World) : Returns (applyManifests ctx old ms t) w fun t' w' => Tally.Stamps old t w t' w' :=
  @applyManifests_fold ctx old (fun _ t w t' w' => Tally.Stamps old t w t' w') Tally.Stamps.refl
    (fun _ _ _ _ _ _ _ _ first second => first.trans second)
    (fun r _ t w => leafStep_stamps ctx old t r w)
    (fun _ _ _ _ _ part => part.of_resources rfl rfl) ms t w

/-! Components. -/

/-- The entry the deletion pass leaves for a stale one moves its times as the delete rules
allow. -/
theorem ResourceStatus.afterDeletion_timesFollow (now : String) (e : ResourceStatus) (outcome : Option Error) :
    e.status.TimesFollow now (fun _ => False) (e.afterDeletion now outcome).status := by
  cases outcome with
  | none =>
    -- A confirmed deletion first resets the observed generation, which no condition reads.
    exact (StatusType.afterDelete_timesFollow { e.status with observedGeneration := 0 } now none).congr rfl rfl
  | some failure => exact StatusType.afterDelete_timesFollow e.status now (some failure)

/-- How a component pass moves transition times from `old` to `new` at the clock reading `now`,
`patched` holding of the keys it sent a patch for: its own conditions, the entries it applied and
those it marked deleted each move only as the rules allow. -/
def ComponentStatus.TimesFollow (now : String) (patched : ResourceKey → Prop) (old new : ComponentStatus) :
    Prop :=
  old.status.TimesFollow now (fun _ => False) new.status ∧
    ∃ applied removed, new.resources = applied ++ removed ∧
      (∀ a ∈ applied, ((old.find? a.resource).getD (.ofKey a.resource)).status.TimesFollow now
        (fun t => t = .reconciled ∧ patched a.resource) a.status) ∧
      ∀ d ∈ removed, ∃ e ∈ old.resources, e.resource = d.resource ∧
        e.status.TimesFollow now (fun _ => False) d.status

/-- Allowing more keys to count as patched keeps how times follow. -/
theorem ComponentStatus.TimesFollow.mono {now : String} {patched patched' : ResourceKey → Prop}
    {old new : ComponentStatus} (follows : ComponentStatus.TimesFollow now patched old new)
    (allowed : ∀ k, patched k → patched' k) : ComponentStatus.TimesFollow now patched' old new := by
  obtain ⟨own, applied, removed, split, stamped, deleted⟩ := follows
  exact ⟨own, applied, removed, split,
    fun a member => (stamped a member).mono fun _ ⟨reconciled, sent⟩ => ⟨reconciled, allowed _ sent⟩,
    deleted⟩

/-- The entries the deletion pass returns are the stale ones of the carried entries, each marked
with the outcome of its deletion. -/
theorem Removal.mem_timesFollow {now : String} {processed : List ResourceKey} {rs : List ResourceStatus}
    {errors : Aggregate} {r : List ResourceStatus × Aggregate}
    (removal : Removal now (staleEntries processed rs) errors r) :
    ∀ d ∈ r.1, ∃ e ∈ rs, e.resource = d.resource ∧ e.status.TimesFollow now (fun _ => False) d.status := by
  obtain ⟨deleted, walked, returned, -⟩ := removal
  intro d member
  rw [returned, List.mem_reverse, List.mem_map] at member
  obtain ⟨⟨e, outcome⟩, marked, rfl⟩ := member
  -- The entry marked was walked as a stale entry.
  have stale : e ∈ staleEntries processed rs := by
    rw [← walked]
    exact List.mem_map_of_mem marked
  exact ⟨e, (List.mem_filter.mp stale).1, by simp, ResourceStatus.afterDeletion_timesFollow now e outcome⟩

/-- A component pass moves times as the rules allow, within its own window of the log: its own
conditions by the reconcile or delete rules, its objects' entries as each leaf and each deletion
does. -/
theorem reconcileComponent_timesFollow (ctx : Context) (name : String) (ms : List Manifest)
    (previous : Option ComponentStatus) (w : World) :
    Returns (reconcileComponent ctx name ms previous) w fun r w' =>
      w'.now = w.now ∧ r.1.resource = name ∧
        ComponentStatus.TimesFollow w.now (w.Patched w') (previous.getD (.named name)) r.1 := by
  unfold reconcileComponent
  -- Applying the manifests moves times leaf by leaf and keeps the component's own status.
  refine Returns.bind (Returns.mono ((applyManifests_stamps ctx _ ms _ w).and (applyManifests_returns ctx _ ms _ w))
    fun t w₁ facts => ?_)
  obtain ⟨stamps, added⟩ := facts
  -- The deletions only add to the log and mark stale entries.
  refine Returns.bind (Returns.mono (Returns.with_keeps (deleteStale_logs ctx _ _ _)
    (deleteStale_removes ctx t.processed _ t.errors w₁)) fun removal w₂ facts => ?_)
  obtain ⟨logs₂, removed, same₂, -⟩ := facts
  refine Returns.bind (Returns.mono (Engine.now_returns w₂) fun now w₃ ⟨read, still⟩ => ?_)
  subst read
  subst w₃
  -- The clock has not moved since the pass began.
  have clock : w₂.now = w.now := same₂.trans stamps.now
  have own : t.status.status = (previous.getD (.named name)).status := added.status
  have named : t.status.resource = name := added.name
  -- The entries: those applied, as the leaves left them, then those marked deleted.
  obtain ⟨applied, grew, stamped⟩ := stamps.added
  have entries : ∃ applied removed, t.status.resources ++ removal.1 = applied ++ removed ∧
      (∀ a ∈ applied, (((previous.getD (.named name)).find? a.resource).getD (.ofKey a.resource)).status.TimesFollow
        w.now (fun t => t = .reconciled ∧ w.Patched w₂ a.resource) a.status) ∧
      ∀ d ∈ removed, ∃ e ∈ (previous.getD (.named name)).resources, e.resource = d.resource ∧
        e.status.TimesFollow w.now (fun _ => False) d.status := by
    refine ⟨applied, removal.1, by rw [grew]; rfl, fun a member => ?_, fun d member => ?_⟩
    · exact (stamped a member).mono fun _ ⟨reconciled, patched⟩ =>
        ⟨reconciled, patched.widen (World.Logs.refl w) logs₂⟩
    · obtain ⟨e, carried, keyed, follows⟩ := removed.mem_timesFollow d member
      exact ⟨e, List.mem_reverse.mp carried, keyed, stamps.now ▸ follows⟩
  rw [clock]
  split
  · -- A pass over no YAML file records a deletion.
    refine Returns.pure ⟨clock, named, ?_, entries⟩
    rw [← own]
    exact StatusType.afterDelete_timesFollow _ w.now _
  · -- Any other pass records a reconcile, whatever generation it notes.
    refine Returns.pure ⟨clock, named, ?_, entries⟩
    rw [← own]
    dsimp only
    split
    · rename_i g _
      exact (StatusType.afterReconcile_timesFollow { t.status.status with observedGeneration := g } w.now _).congr
        rfl rfl
    · exact StatusType.afterReconcile_timesFollow _ w.now _

/-! The control plane. -/

/-- **When transition times move.** In the status a due pass stores, each condition keeps its carried
time, or takes the pass's clock reading where its status changed, it had none, or it is Reconciled
of an object the pass patched. -/
theorem reconcileControlPlane_transition_times (cfg : EngineConfig) (cp : ControlPlane)
    (rendered : Except Error Rendered) (w : World) (active : cp.isBeingDeleted = false)
    (finalized : cp.hasFinalizer = true)
    (due : (cp.metadata.generation.getD 0 == cp.statusOrDefault.status.observedGeneration &&
      cp.statusOrDefault.status.isInstalled && cp.statusOrDefault.status.isReconciled) = false) :
    ∃ (status : ControlPlaneStatus) (w₁ : World),
      endState ((reconcileControlPlane cfg cp rendered).run w) = endState ((persistStatus cp status).run w₁) ∧
      cp.statusOrDefault.status.TimesFollow w.now (fun _ => False) status.status ∧
      (∀ rs, rendered = .ok rs → ∀ c ∈ status.componentStatus,
        ComponentStatus.TimesFollow w.now (w.Patched w₁)
          ((cp.statusOrDefault.find? c.resource).getD (.named c.resource)) c) ∧
      (∀ e, rendered = .error e → status.componentStatus = cp.statusOrDefault.componentStatus) := by
  obtain ⟨components, errors, w₁, ranOk, ranError, stored⟩ :=
    reconcileControlPlane_stores cfg cp rendered w active finalized due
  -- Each component kept is the status a pass over it left, under its own name, in its window.
  have visits : ∀ rs, rendered = .ok rs → w₁.now = w.now ∧ ∀ c ∈ components,
      ComponentStatus.TimesFollow w.now (w.Patched w₁)
        ((cp.statusOrDefault.find? c.resource).getD (.named c.resource)) c := by
    intro rs same
    have visited := (reconcileComponents_runs cfg (Context.make cp cfg.operatorVersion cfg.hooks)
      cp.statusOrDefault rs (P := fun name wa r wb => r.1.resource = name ∧
        ComponentStatus.TimesFollow wa.now (wa.Patched wb) ((cp.statusOrDefault.find? name).getD (.named name)) r.1)
      (fun name w => reconcileComponent_timesFollow _ name _ _ w) _ [] {} w).holds (ranOk rs same)
    obtain ⟨clock, -, visits, -, passes, -, within⟩ := visited
    refine ⟨clock, fun c member => ?_⟩
    -- Every component kept was visited, since the run starts from no component.
    rcases within c member with none | ⟨v, held, rfl⟩
    · exact absurd none List.not_mem_nil
    -- Its pass kept its name and ran within the run's window of the log.
    · obtain ⟨⟨named, follows⟩, started, startLogs, endLogs⟩ := passes v held
      rw [named, ← started]
      exact follows.mono fun _ patched => patched.widen startLogs endLogs
  have clock : w₁.now = w.now := by
    -- The clock stays whether the components ran or rendering failed.
    cases rendered with
    | ok rs => exact (visits rs rfl).1
    | error e => rw [(ranError e rfl).1]
  refine ⟨_, w₁, stored, ?_, fun rs same => (visits rs same).2, fun e failed => (ranError e failed).2⟩
  -- The control plane's own conditions are written by the reconcile rules alone.
  rw [clock]
  exact (StatusType.afterReconcile_timesFollow
    { cp.statusOrDefault.status with observedGeneration := cp.metadata.generation.getD 0 } w.now _).congr rfl rfl

/-- A control plane whose previous pass installed `x` under component `A`, at a newer
generation: the pass stores a status whose times move only as the rules allow. -/
theorem reconcileControlPlane_transition_times_x :
    planeWithX.isBeingDeleted = false ∧ planeWithX.hasFinalizer = true ∧
      (planeWithX.metadata.generation.getD 0 == planeWithX.statusOrDefault.status.observedGeneration &&
        planeWithX.statusOrDefault.status.isInstalled && planeWithX.statusOrDefault.status.isReconciled) = false ∧
      ∃ (status : ControlPlaneStatus) (w₁ : World),
        endState ((reconcileControlPlane {} planeWithX (.ok [("A", [configMapXManifest])])).run clusterWithPlane) =
          endState ((persistStatus planeWithX status).run w₁) ∧
        planeWithX.statusOrDefault.status.TimesFollow clusterWithPlane.now (fun _ => False) status.status ∧
        (∀ rs, (.ok [("A", [configMapXManifest])] : Except Error Rendered) = .ok rs →
          ∀ c ∈ status.componentStatus, ComponentStatus.TimesFollow clusterWithPlane.now
            (clusterWithPlane.Patched w₁) ((planeWithX.statusOrDefault.find? c.resource).getD (.named c.resource)) c) ∧
        (∀ e, (.ok [("A", [configMapXManifest])] : Except Error Rendered) = .error e →
          status.componentStatus = planeWithX.statusOrDefault.componentStatus) := by
  -- The plane is live, finalized, and behind its generation, so it is due.
  have active : planeWithX.isBeingDeleted = false := by decide +kernel
  have finalized : planeWithX.hasFinalizer = true := by decide +kernel
  have due : (planeWithX.metadata.generation.getD 0 == planeWithX.statusOrDefault.status.observedGeneration &&
      planeWithX.statusOrDefault.status.isInstalled && planeWithX.statusOrDefault.status.isReconciled) = false := by
    decide +kernel
  exact ⟨active, finalized, due, reconcileControlPlane_transition_times {} planeWithX
    (.ok [("A", [configMapXManifest])]) clusterWithPlane active finalized due⟩

end MeshControl
