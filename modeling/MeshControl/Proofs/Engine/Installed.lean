import MeshControl.Proofs.Engine.Isolation

/-! Installed is monotone at every level of the status tree: a later pass leaves it as it was,
save for a confirmed deletion. -/

namespace MeshControl

theorem failureOf_eq_none {r : Except Error Unit} : failureOf r = none ↔ r = .ok () := by
  -- Only an Ok result maps to no failure.
  cases r with
  | ok u =>
    cases u
    simp [failureOf]
  | error e => simp [failureOf]

/-! Entries. -/

/-- The deletion pass clears an entry's Installed only when the deletion went through. -/
theorem ResourceStatus.afterDeletion_follows (now : String) (e : ResourceStatus)
    (outcome : Option Error) : e.status.Follows (outcome = none) (e.afterDeletion now outcome).status := by
  -- A confirmed deletion may clear Installed; a failed one only marks the outcome.
  cases outcome with
  | none => exact (StatusType.afterDelete_follows _ now none).of_installed (by rfl)
  | some failure => exact StatusType.afterDelete_follows e.status now (some failure)

/-- The entry written for a leaf follows the previous entry of its key, never cleared: the
write keeps its Installed condition, and the pass marks only the outcome. -/
theorem LeafResult.Of.entry_follows {ctx : Context} {old : ComponentStatus} {now : String} {w w' : World}
    {read : Except Error Object} {res : LeafResult} {a : ResourceStatus}
    (of : LeafResult.Of ctx old now w read res w') (entry : res.entry? = some a) :
    ((old.find? a.resource).getD (.ofKey a.resource)).status.Follows False a.status := by
  -- Only a leaf that was written reports an entry.
  cases of with
  | unreadable e => simp [LeafResult.entry?] at entry
  | keyless _ failed => simp [LeafResult.entry?] at entry
  | @written o key r result _ _ keyed applied =>
    simp only [LeafResult.entry?, Option.some.injEq] at entry
    subst entry
    -- The write refreshes the entry it found for its key and keeps its Installed.
    have refreshed := applyObject_refreshed ctx key (ctx.bookkeeping o) _ w _ w' applied
    have named : r.resource = key := refreshed.resource.trans (old.find?_getD_resource key)
    simp only [named]
    exact (StatusType.afterReconcile_follows r.status now _).of_installed refreshed.installed.symm

/-- Each entry written for the leaves of a pass follows the previous entry of its key. -/
theorem LeafResult.entries_follow {ctx : Context} {old : ComponentStatus} {now : String} {w w' : World}
    {reads : List (Except Error Object)} {results : List LeafResult}
    (run : LeafResult.Run ctx old now w reads results w') :
    ∀ a ∈ results.filterMap LeafResult.entry?,
      ((old.find? a.resource).getD (.ofKey a.resource)).status.Follows False a.status := by
  -- One leaf at a time: each result is that of its own leaf.
  induction run with
  | nil => simp
  | cons first _ later =>
    intro a member
    obtain ⟨res, held, entry⟩ := List.mem_filterMap.mp member
    -- The entry is the first leaf's, or one of the later leaves'.
    rcases List.mem_cons.mp held with here | there
    · subst here
      exact first.entry_follows entry
    · exact later a (List.mem_filterMap.mpr ⟨res, there, entry⟩)

/-- How a pass may leave the status of a component whose previous status is `old`, at the clock
reading `now`: its own conditions follow the previous ones, cleared only where `clears` allows;
each entry written for a rendered key follows the previous entry of that key, never cleared; and
each previous entry kept follows itself, cleared only by its deletion going through. -/
def ComponentStatus.Follows (now : String) (clears : Prop) (old new : ComponentStatus) : Prop :=
  old.status.Follows clears new.status ∧
    ∃ applied removed : List ResourceStatus, new.resources = applied ++ removed ∧
      (∀ a ∈ applied, ((old.find? a.resource).getD (.ofKey a.resource)).status.Follows False a.status) ∧
      ∀ d ∈ removed, ∃ e ∈ old.resources, ∃ outcome, d = e.afterDeletion now outcome ∧
        e.status.Follows (outcome = none) d.status

/-- The entries a component pass reports follow the previous ones. -/
theorem PassReport.entries_follow {ctx : Context} {old : ComponentStatus} {ms : List Manifest}
    {w : World} {r : ComponentStatus × Except Error Unit} (report : PassReport ctx old ms w r) :
    ∃ applied removed : List ResourceStatus, r.1.resources = applied ++ removed ∧
      (∀ a ∈ applied, ((old.find? a.resource).getD (.ofKey a.resource)).status.Follows False a.status) ∧
      ∀ d ∈ removed, ∃ e ∈ old.resources, ∃ outcome, d = e.afterDeletion w.now outcome ∧
        e.status.Follows (outcome = none) d.status := by
  -- The report splits the entries into the leaves' writes and the deletions' marks.
  obtain ⟨results, deleted, _, run, walked, resources, _⟩ := report
  refine ⟨_, _, resources, LeafResult.entries_follow run, fun d member => ?_⟩
  obtain ⟨⟨e, outcome⟩, held, rfl⟩ := List.mem_map.mp (List.mem_reverse.mp member)
  -- The entries deleted are stale ones, so previous ones.
  have stale : e ∈ staleEntries (renderedKeys ms) old.resources := by
    have walkedOver : e ∈ deleted.map Prod.fst := List.mem_map_of_mem held
    rwa [walked, List.mem_reverse] at walkedOver
  exact ⟨e, List.mem_of_mem_filter stale, outcome, rfl, e.afterDeletion_follows w.now outcome⟩

/-- A component pass keeps the component's name, and its own conditions follow the previous ones:
cleared only by a pass over no YAML file that met no failure. -/
theorem reconcileComponent_own_status (ctx : Context) (name : String) (ms : List Manifest)
    (previous : Option ComponentStatus) (w : World) :
    Returns (reconcileComponent ctx name ms previous) w fun r _ =>
      r.1.resource = name ∧
        (previous.getD (.named name)).status.Follows (ms.any Manifest.isYaml = false ∧ r.2 = .ok ())
          r.1.status := by
  unfold reconcileComponent
  -- Applying the manifests keeps the component's own conditions, and so does deleting.
  refine Returns.bind (Returns.mono (applyManifests_returns ctx _ ms _ w) fun t w₁ added => ?_)
  refine Returns.bind (Returns.mono (deleteStale_removes ctx t.processed _ t.errors w₁)
    fun removal w₂ _ => ?_)
  refine Returns.bind (Returns.mono (Engine.now_returns w₂) fun now w₃ _ => ?_)
  -- What the pass marks is the status it started from.
  have own : t.status.status = (previous.getD (.named name)).status := added.status
  have named : t.status.resource = name := added.name
  split
  · -- A pass over no YAML file records a deletion, confirmed when nothing failed.
    rename_i deleteOnly
    refine Returns.pure ⟨named, ?_⟩
    rw [← own]
    refine (StatusType.afterDelete_follows _ now _).mono fun cleared => ⟨?_, ?_⟩
    · simpa using deleteOnly
    · exact failureOf_eq_none.mp cleared
  · -- Any other pass records a reconcile, whatever generation it notes.
    refine Returns.pure ⟨named, ?_⟩
    rw [← own]
    dsimp only
    split
    · exact ((StatusType.afterReconcile_follows _ now _).of_installed (by rfl)).mono False.elim
    · exact (StatusType.afterReconcile_follows _ now _).mono False.elim

/-- A component pass leaves a status that follows the previous one, at the same clock reading. -/
theorem reconcileComponent_follows (ctx : Context) (name : String) (ms : List Manifest)
    (previous : Option ComponentStatus) (w : World) :
    Returns (reconcileComponent ctx name ms previous) w fun r w' =>
      w'.now = w.now ∧ r.1.resource = name ∧
        ComponentStatus.Follows w.now (ms.any Manifest.isYaml = false ∧ r.2 = .ok ())
          (previous.getD (.named name)) r.1 := by
  refine Returns.mono ((reconcileComponent_reports ctx name ms previous w).and
    (reconcileComponent_own_status ctx name ms previous w)) fun r w' facts => ?_
  obtain ⟨⟨same, report⟩, named, own⟩ := facts
  exact ⟨same, named, own, report.entries_follow⟩

/-- Allowing more to clear Installed keeps what a component status follows. -/
theorem ComponentStatus.Follows.mono {now : String} {clears clears' : Prop} {old new : ComponentStatus}
    (follows : ComponentStatus.Follows now clears old new) (allowed : clears → clears') :
    ComponentStatus.Follows now clears' old new :=
  ⟨follows.1.mono allowed, follows.2⟩

/-! The control plane. -/

/-- A pass over a control plane that is due ends where storing a status leaves it: the previous
conditions marked with the pass's outcome at the generation it reconciles, with the component
statuses its components returned, or the previous ones when rendering failed. -/
theorem reconcileControlPlane_stores (cfg : EngineConfig) (cp : ControlPlane)
    (rendered : Except Error Rendered) (w : World) (active : cp.isBeingDeleted = false)
    (finalized : cp.hasFinalizer = true)
    (due : (cp.metadata.generation.getD 0 == cp.statusOrDefault.status.observedGeneration &&
      cp.statusOrDefault.status.isInstalled && cp.statusOrDefault.status.isReconciled) = false) :
    ∃ (components : List ComponentStatus) (errors : Aggregate) (w₁ : World),
      (∀ rs, rendered = .ok rs →
        (reconcileComponents cfg (Context.make cp cfg.operatorVersion cfg.hooks) cp.statusOrDefault rs
          (componentSequence cfg.order (rs.map (·.1)) (cp.statusOrDefault.componentStatus.map (·.resource)))
          ([], {})).run w = .ok (components, errors) w₁) ∧
      (∀ e, rendered = .error e → w₁ = w ∧ components = cp.statusOrDefault.componentStatus) ∧
      endState ((reconcileControlPlane cfg cp rendered).run w) =
        endState ((persistStatus cp ⟨({ cp.statusOrDefault.status with
          observedGeneration := cp.metadata.generation.getD 0 }).afterReconcile w₁.now
            (failureOf errors.toResult), components⟩).run w₁) := by
  unfold reconcileControlPlane
  simp only [active, finalized, due, Bool.false_eq_true, Bool.not_true, if_false]
  -- Rendering gave the components, run one after another, or failed and left them as they were.
  cases rendered with
  | ok rs =>
    obtain ⟨⟨components, errors⟩, w₁, ran, _⟩ := reconcileComponents_visits cfg
      (Context.make cp cfg.operatorVersion cfg.hooks) cp.statusOrDefault rs (P := fun _ _ _ => True)
      (fun name w => (reconcileComponent_reports _ name _ _ w).mono fun _ _ reported => ⟨reported.1, trivial⟩)
      _ [] {} w
    refine ⟨components, errors, w₁, ?_, ?_, ?_⟩
    -- The components' run is the one just taken.
    · intro rs' same
      cases same
      exact ran
    · intro e failed
      cases failed
    -- Storing is the last write; what follows it only reports.
    · dsimp only
      rw [endState_bind_ok ran, endState_bind_ok (show Engine.now.run w₁ = .ok w₁.now w₁ from rfl)]
      -- After storing the status the pass only returns or fails, which changes nothing.
      rw [endState_bind_still (fun persisted w' => by split <;> rfl), Engine.endState_attempt]
  | error e =>
    refine ⟨cp.statusOrDefault.componentStatus, Aggregate.push {} e, w, ?_, fun _ _ => ⟨rfl, rfl⟩, ?_⟩
    · intro rs failed
      cases failed
    dsimp only
    rw [endState_bind_ok (show (pure (cp.statusOrDefault.componentStatus, Aggregate.push {} e) :
        Engine _).run w = .ok _ w from rfl), endState_bind_ok (show Engine.now.run w = .ok w.now w from rfl)]
    rw [endState_bind_still (fun persisted w' => by split <;> rfl), Engine.endState_attempt]

/-- Installed is monotone: whatever fails, a due pass stores its own conditions uncleared, and
each component status follows its previous one, cleared only by a deletion that went through. -/
theorem reconcileControlPlane_keeps_installed (cfg : EngineConfig) (cp : ControlPlane)
    (rendered : Except Error Rendered) (w : World) (active : cp.isBeingDeleted = false)
    (finalized : cp.hasFinalizer = true)
    (due : (cp.metadata.generation.getD 0 == cp.statusOrDefault.status.observedGeneration &&
      cp.statusOrDefault.status.isInstalled && cp.statusOrDefault.status.isReconciled) = false) :
    ∃ (status : ControlPlaneStatus) (w₁ : World),
      endState ((reconcileControlPlane cfg cp rendered).run w) = endState ((persistStatus cp status).run w₁) ∧
      cp.statusOrDefault.status.Follows False status.status ∧
      (∀ rs, rendered = .ok rs →
        (∃ errors, (reconcileComponents cfg (Context.make cp cfg.operatorVersion cfg.hooks)
          cp.statusOrDefault rs (componentSequence cfg.order (rs.map (·.1))
            (cp.statusOrDefault.componentStatus.map (·.resource))) ([], {})).run w =
              .ok (status.componentStatus, errors) w₁) ∧
        ∀ c ∈ status.componentStatus, ComponentStatus.Follows w.now
          ((manifestsOf rs c.resource).any Manifest.isYaml = false)
          ((cp.statusOrDefault.find? c.resource).getD (.named c.resource)) c) ∧
      (∀ e, rendered = .error e → w₁ = w ∧ status.componentStatus = cp.statusOrDefault.componentStatus) := by
  obtain ⟨components, errors, w₁, ranOk, ranError, stored⟩ :=
    reconcileControlPlane_stores cfg cp rendered w active finalized due
  refine ⟨_, w₁, stored, ((StatusType.afterReconcile_follows _ _ _).of_installed (by rfl)),
    fun rs same => ⟨⟨errors, ranOk rs same⟩, ?_⟩, ranError⟩
  -- Each component kept is the status a pass over it left, under its own name.
  have visited := (reconcileComponents_visits cfg (Context.make cp cfg.operatorVersion cfg.hooks)
    cp.statusOrDefault rs (P := fun name now r => r.1.resource = name ∧ ComponentStatus.Follows now
      ((manifestsOf rs name).any Manifest.isYaml = false ∧ r.2 = .ok ())
      ((cp.statusOrDefault.find? name).getD (.named name)) r.1)
    (fun name w => reconcileComponent_follows _ name _ _ w) _ [] {} w).holds (ranOk rs same)
  obtain ⟨_, visits, _, follows, _, within⟩ := visited
  intro c member
  -- Every component kept was visited, since the run starts from no component.
  rcases within c member with none | ⟨v, held, rfl⟩
  · exact absurd none List.not_mem_nil
  -- Its pass kept its name, so its previous status is found under it.
  · obtain ⟨named, pass⟩ := follows v held
    rw [named]
    exact pass.mono fun cleared => cleared.1

/-- A control plane whose previous pass installed `x` under component `A`, at a newer
generation: the pass stores a status whose own Installed condition is kept. -/
theorem reconcileControlPlane_keeps_installed_x :
    planeWithX.isBeingDeleted = false ∧ planeWithX.hasFinalizer = true ∧
      (planeWithX.metadata.generation.getD 0 == planeWithX.statusOrDefault.status.observedGeneration &&
        planeWithX.statusOrDefault.status.isInstalled && planeWithX.statusOrDefault.status.isReconciled) = false ∧
      ∃ (status : ControlPlaneStatus) (w₁ : World),
        endState ((reconcileControlPlane {} planeWithX (.ok [("A", [configMapXManifest])])).run clusterWithPlane) =
          endState ((persistStatus planeWithX status).run w₁) ∧
        planeWithX.statusOrDefault.status.Follows False status.status := by
  -- The plane is live, finalized, and behind its generation, so it is due.
  have active : planeWithX.isBeingDeleted = false := by decide +kernel
  have finalized : planeWithX.hasFinalizer = true := by decide +kernel
  have due : (planeWithX.metadata.generation.getD 0 == planeWithX.statusOrDefault.status.observedGeneration &&
      planeWithX.statusOrDefault.status.isInstalled && planeWithX.statusOrDefault.status.isReconciled) = false := by
    decide +kernel
  obtain ⟨status, w₁, stored, follows, _⟩ := reconcileControlPlane_keeps_installed {} planeWithX
    (.ok [("A", [configMapXManifest])]) clusterWithPlane active finalized due
  exact ⟨active, finalized, due, status, w₁, stored, follows⟩

end MeshControl
