import MeshControl.Proofs.Engine.Apply
import MeshControl.Proofs.Status.Conditions

/-! The deletion pass of a component: on a calm cluster it deletes exactly the stale entries, newest
first and in the foreground, keeps each once marked deleted, and the next pass deletes nothing. -/

namespace MeshControl

/-- The entries of a previous pass that a pass applying `processed` deletes: not applied
again, and not known to be deleted. -/
def staleEntries (processed : List ResourceKey) (rs : List ResourceStatus) : List ResourceStatus :=
  rs.filter fun r => !(processed.contains r.resource || r.status.isDeleted)

/-- The call that deletes an object in the foreground. -/
def deletionOf (key : ResourceKey) : Op := ⟨.delete, key, some .foreground⟩

/-- The deletions among calls, in order. -/
def deletions (calls : List Op) : List Op := calls.filter (·.verb == .delete)

/-- The status of an entry deleted at the clock reading `now`. -/
def ResourceStatus.deletedAt (now : String) (r : ResourceStatus) : ResourceStatus :=
  { r with status := ({ r.status with observedGeneration := 0 }).afterDelete now none }

theorem staleEntries_reverse (processed : List ResourceKey) (rs : List ResourceStatus) :
    staleEntries processed rs.reverse = (staleEntries processed rs).reverse :=
  List.filter_reverse

/-- An entry is stale unless it was applied again or is known to be deleted. -/
theorem staleEntries_cons (processed : List ResourceKey) (r : ResourceStatus)
    (older : List ResourceStatus) :
    staleEntries processed (r :: older) =
      if (processed.contains r.resource || r.status.isDeleted) = true then staleEntries processed older
      else r :: staleEntries processed older := by
  unfold staleEntries
  -- An entry applied again or known deleted is skipped; any other is stale.
  split
  · rename_i skipped
    exact List.filter_cons_of_neg (by simp only [skipped, Bool.not_true]; decide)
  · rename_i stale
    exact List.filter_cons_of_pos (by simpa using stale)

/-- Only what is applied counts, not how often or in which order. -/
theorem staleEntries_congr {P Q : List ResourceKey} (same : ∀ k, k ∈ P ↔ k ∈ Q)
    (rs : List ResourceStatus) : staleEntries P rs = staleEntries Q rs := by
  unfold staleEntries
  congr 1
  funext r
  -- The two lists hold the same keys, so the test agrees on each entry.
  have contains : P.contains r.resource = Q.contains r.resource := by
    rw [Bool.eq_iff_iff]
    simpa using same r.resource
  rw [contains]

/-- After the manifests are applied from a tally that had applied nothing, the deletion pass,
walking the previous entries newest first, finds the stale entries of what they render newest
first. -/
theorem Tally.Adds.staleEntries_processed_reverse {keys : List ResourceKey} {t t' : Tally}
    (added : Tally.Adds keys t t') (fresh : t.processed = []) (rs : List ResourceStatus) :
    staleEntries t'.processed rs.reverse = (staleEntries keys rs).reverse := by
  rw [MeshControl.staleEntries_reverse, staleEntries_congr (Q := keys) (by simpa [fresh] using added.processed)]

/-- A deleted entry reads as deleted: observed at generation 0, with Installed False and
Reconciled True, both for a successful deletion. -/
theorem ResourceStatus.deletedAt_status (now : String) (r : ResourceStatus) :
    (r.deletedAt now).resource = r.resource ∧
      (r.deletedAt now).status.observedGeneration = 0 ∧
      ((r.deletedAt now).status.get .installed).status = .no ∧
      ((r.deletedAt now).status.get .installed).reason = some .deletionSuccessful ∧
      ((r.deletedAt now).status.get .reconciled).status = .yes ∧
      ((r.deletedAt now).status.get .reconciled).reason = some .deletionSuccessful := by
  -- The generation is reset before the two conditions are written, which keep it.
  have generation : (({ r.status with observedGeneration := 0 } : StatusType).afterDelete now none).observedGeneration = 0 := by
    simp [StatusType.afterDelete, StatusType.set_observedGeneration]
  exact ⟨rfl, generation, StatusType.afterDelete_none _ now⟩

theorem ResourceStatus.deletedAt_isDeleted (now : String) (r : ResourceStatus) :
    (r.deletedAt now).status.isDeleted = true :=
  StatusType.afterDelete_isDeleted _ now

@[simp] theorem deletions_append (a b : List Op) : deletions (a ++ b) = deletions a ++ deletions b :=
  List.filter_append a b

namespace World

/-- What a step that deletes the objects of `keys`, in order, keeps: its calls are logged after
those before it, its deletions are those of `keys` in the foreground, the clock reading for
transition times stays, and a calm world stays calm. -/
structure Deletes (keys : List ResourceKey) (w w' : World) : Prop where
  log : ∃ calls, w'.store.ops = w.store.ops ++ calls ∧ deletions calls = keys.map deletionOf
  now : w'.now = w.now
  calm : w.Calm → w'.Calm

theorem Deletes.trans {k₁ k₂ : List ResourceKey} {w₁ w₂ w₃ : World} (first : Deletes k₁ w₁ w₂)
    (second : Deletes k₂ w₂ w₃) : Deletes (k₁ ++ k₂) w₁ w₃ := by
  -- The two logs concatenate, and so do their deletions.
  obtain ⟨calls₁, logged₁, deleted₁⟩ := first.log
  obtain ⟨calls₂, logged₂, deleted₂⟩ := second.log
  exact ⟨⟨calls₁ ++ calls₂, by simp [logged₁, logged₂], by simp [deleted₁, deleted₂]⟩,
    second.now.trans first.now, fun calm => second.calm (first.calm calm)⟩

/-- A steady step deletes nothing. -/
theorem Steady.deletes {w w' : World} (steady : Steady w w') : Deletes [] w w' := by
  -- A steady step logs no deletion.
  obtain ⟨calls, logged, other⟩ := steady.store.log
  refine ⟨⟨calls, logged, ?_⟩, steady.now, steady.calm⟩
  simpa [deletions, List.filter_eq_nil_iff] using other

theorem Deletes.refl (w : World) : Deletes [] w w := (Steady.refl w).deletes

/-- Deletions made while the world runs, one part after the next, add up while it runs. -/
theorem Deletes.trans_running {k₁ k₂ : List ResourceKey} {w₁ w₂ w₃ : World}
    (first : w₁.Running → Deletes k₁ w₁ w₂ ∧ w₂.Running)
    (second : w₂.Running → Deletes k₂ w₂ w₃ ∧ w₃.Running) :
    w₁.Running → Deletes (k₁ ++ k₂) w₁ w₃ ∧ w₃.Running := by
  intro running
  obtain ⟨deleted₁, running₁⟩ := first running
  obtain ⟨deleted₂, running₂⟩ := second running₁
  exact ⟨deleted₁.trans deleted₂, running₂⟩

end World

/-- On a calm world a deletion in the foreground is recorded and either drops the object or
finds none; either way it is not a failure that matters. -/
theorem deleteObject_calm (key : ResourceKey) {w : World} (calm : w.Calm) :
    Returns (Engine.attempt (Engine.cluster (deleteObject key (some .foreground)))) w fun r w' =>
      (∀ e, r = .error e → e.isAbsent) ∧ World.Deletes [key] w w' := by
  -- A quiet cluster makes the call; it either drops the object or finds it gone.
  obtain ⟨quiet, running, open_⟩ := calm
  have deleted : World.Deletes [key] w
      { w with store := (w.store.log (deletionOf key)).remove key } ∧
      World.Deletes [key] w { w with store := w.store.log (deletionOf key) } :=
    ⟨⟨⟨[deletionOf key], by simp, rfl⟩, rfl, fun _ => ⟨quiet, running, open_⟩⟩,
      ⟨⟨[deletionOf key], by simp, rfl⟩, rfl, fun _ => ⟨quiet, running, open_⟩⟩⟩
  rw [Returns, Engine.attempt_run, Engine.cluster_run, if_neg (by simp [running]),
    deleteObject_quiet quiet]
  -- A stored object is dropped; a missing one is reported gone, which is absent.
  by_cases held : w.store.contains key = true
  · rw [if_pos held]
    exact ⟨_, _, rfl, by simp, deleted.1⟩
  · rw [if_neg held]
    exact ⟨_, _, rfl, by simp [Error.isAbsent, Error.isNotFound], deleted.2⟩

/-- On a calm world deleting a resource returns: it deletes the object in the foreground, then
runs the delete hooks, which delete nothing. -/
theorem deleteResource_calm (ctx : Context) (key : ResourceKey) {w : World} (calm : w.Calm) :
    Returns (deleteResource ctx key) w fun _ w' => World.Deletes [key] w w' := by
  -- Steady steps after the deletion keep what it did.
  have after : ∀ {x : Engine Unit} {w₁ : World}, Keeps World.Steady x →
      Returns x w₁ (fun _ _ => True) → World.Deletes [key] w w₁ →
      Returns x w₁ fun _ w' => World.Deletes [key] w w' :=
    fun steady total before => Returns.mono (Returns.with_keeps steady total)
      fun _ _ ⟨moved, _⟩ => by simpa using before.trans moved.deletes
  unfold deleteResource
  refine Returns.bind (Returns.mono (deleteObject_calm key calm) fun r w₁ ⟨absent, deleted⟩ => ?_)
  dsimp only
  -- A deletion that went through is counted before the hooks.
  cases r with
  | ok u =>
    refine Returns.bind (Returns.mono (Returns.with_keeps (Engine.record_steady _) (Engine.record_total _ w₁))
      fun _ w₂ ⟨counted, _⟩ => ?_)
    exact after (Hooks.afterDelete_steady _ _) (Hooks.afterDelete_total _ _ w₂)
      (by simpa using deleted.trans counted.deletes)
  | error e =>
    -- The object was already gone, which counts as deleted.
    dsimp only
    rw [if_neg (by simp [absent e rfl])]
    exact after (Hooks.afterDelete_steady _ _) (Hooks.afterDelete_total _ _ w₁) deleted

/-- On a calm world the deletion pass deletes the stale entries in the order it walks them, and
returns them marked deleted in the reverse order, with the failures gathered so far. -/
theorem deleteStale_calm (ctx : Context) (processed : List ResourceKey) :
    ∀ (rs : List ResourceStatus) (errors : Aggregate) (w : World), w.Calm →
      Returns (deleteStale ctx processed rs errors) w fun r w' =>
        r = ((staleEntries processed rs).reverse.map (·.deletedAt w.now), errors) ∧
        World.Deletes ((staleEntries processed rs).map (·.resource)) w w'
  | [], errors, w, _ => Returns.pure ⟨rfl, World.Deletes.refl w⟩
  | r :: older, errors, w, calm => by
    unfold deleteStale
    -- An entry skipped is neither deleted nor returned.
    split
    · rename_i kept
      rw [staleEntries_cons, if_pos kept]
      exact deleteStale_calm ctx processed older errors w calm
    · rename_i stale
      rw [staleEntries_cons, if_neg stale]
      -- A stale entry is deleted at the pass's clock reading.
      refine Returns.bind (Returns.mono (Engine.now_returns w) fun now w₀ ⟨read, same⟩ => ?_)
      subst read same
      refine Returns.bind (Returns.mono (Engine.attempt_ok (deleteResource_calm ctx r.resource calm))
        fun res w₁ ⟨u, ok, deleted⟩ => ?_)
      subst ok
      cases u
      dsimp only
      refine Returns.bind (Returns.pure ?_)
      refine Returns.bind (Returns.mono (deleteStale_calm ctx processed older errors w₁ (deleted.calm calm))
        fun ⟨rest, errors'⟩ w₂ ⟨result, later⟩ => ?_)
      -- The entry deleted here goes after the older ones, deleted after it.
      obtain ⟨rfl, rfl⟩ := Prod.mk.inj result
      refine Returns.pure ⟨?_, by simpa using deleted.trans later⟩
      simp [deleted.now, ResourceStatus.deletedAt]

/-- With nothing stale, the deletion pass does nothing. -/
theorem deleteStale_settled (ctx : Context) (processed : List ResourceKey) :
    ∀ (rs : List ResourceStatus) (errors : Aggregate), staleEntries processed rs = [] →
      deleteStale ctx processed rs errors = pure ([], errors)
  | [], _, _ => rfl
  | r :: older, errors, settled => by
    unfold deleteStale
    -- Every entry is skipped, since none is stale.
    by_cases skipped : (processed.contains r.resource || r.status.isDeleted) = true
    · rw [if_pos skipped]
      exact deleteStale_settled ctx processed older errors
        (by rwa [staleEntries_cons, if_pos skipped] at settled)
    · -- An entry that is not skipped is stale, and there is none.
      rw [staleEntries_cons, if_neg skipped] at settled
      cases settled

/-- Manifests with no YAML file apply nothing. -/
theorem applyManifests_no_yaml (ctx : Context) (old : ComponentStatus) :
    ∀ (ms : List Manifest) (t : Tally), ms.any Manifest.isYaml = false →
      applyManifests ctx old ms t = pure t
  | [], _, _ => rfl
  | m :: rest, t, noYaml => by
    have ⟨first, others⟩ : m.isYaml = false ∧ rest.any Manifest.isYaml = false := by
      simpa using noYaml
    unfold applyManifests
    -- A file that is not YAML is passed over.
    simp only [first, Bool.not_false, if_true]
    exact applyManifests_no_yaml ctx old rest t others

theorem renderedKeys_no_yaml {ms : List Manifest} (noYaml : ms.any Manifest.isYaml = false) :
    renderedKeys ms = [] := by
  simp_all [renderedKeys, Manifest.keys]

/-- An entry marked as deleted: observed at generation 0, with Installed False and Reconciled
True, both for a successful deletion. -/
def ResourceStatus.MarkedDeleted (r : ResourceStatus) : Prop :=
  r.status.observedGeneration = 0 ∧
    (r.status.get .installed).status = .no ∧
    (r.status.get .installed).reason = some .deletionSuccessful ∧
    (r.status.get .reconciled).status = .yes ∧
    (r.status.get .reconciled).reason = some .deletionSuccessful

theorem ResourceStatus.deletedAt_marked (now : String) (r : ResourceStatus) :
    (r.deletedAt now).MarkedDeleted :=
  (deletedAt_status now r).2

/-- After a pass, nothing of its entries is stale for the same manifests: each entry was either
applied or marked deleted. -/
theorem staleEntries_settled {K : List ResourceKey} {applied removed : List ResourceStatus}
    (named : applied.map (·.resource) = K) (marked : ∀ d ∈ removed, d.status.isDeleted = true) :
    staleEntries K (applied ++ removed) = [] := by
  unfold staleEntries
  rw [List.filter_eq_nil_iff]
  intro r member
  have skipped : (K.contains r.resource || r.status.isDeleted) = true := by
    -- An entry applied is rendered; one removed is marked deleted.
    rcases List.mem_append.mp member with rendered | deleted
    · have : r.resource ∈ K := named ▸ List.mem_map_of_mem rendered
      simp [this]
    · simp [marked r deleted]
  simp only [skipped, Bool.not_true]
  decide

/-- Applying manifests steadily adds the statuses of the keys they render; with no YAML file
among them nothing is applied at all and no failure is noted. -/
theorem applyManifests_adds (ctx : Context) (old : ComponentStatus) (ms : List Manifest)
    (t : Tally) (w : World) :
    Returns (applyManifests ctx old ms t) w fun t' w' =>
      World.Steady w w' ∧ Tally.Adds (renderedKeys ms) t t' ∧
        (ms.any Manifest.isYaml = false → t'.errors = t.errors) := by
  -- Without YAML nothing runs; otherwise the manifests are applied steadily.
  cases yaml : ms.any Manifest.isYaml
  · rw [applyManifests_no_yaml ctx old ms t yaml, renderedKeys_no_yaml yaml]
    exact Returns.pure ⟨World.Steady.refl w, Tally.Adds.refl t, fun _ => rfl⟩
  · exact Returns.mono (Returns.with_keeps (applyManifests_steady ctx old ms t)
      (applyManifests_returns ctx old ms t w)) fun _ _ ⟨steady, added⟩ =>
        ⟨steady, added, fun noYaml => by cases noYaml⟩

/-- A pass whose previous entries were all rendered again or are known to be deleted deletes
nothing, and keeps only the entries of what it renders. -/
theorem reconcileComponent_settled (ctx : Context) (name : String) (ms : List Manifest)
    (prev : ComponentStatus) (settled : staleEntries (renderedKeys ms) prev.resources = [])
    (w : World) :
    Returns (reconcileComponent ctx name ms (some prev)) w fun r w' =>
      (∃ calls, w'.store.ops = w.store.ops ++ calls ∧ deletions calls = []) ∧
        r.1.resources.map (·.resource) = renderedKeys ms := by
  unfold reconcileComponent
  simp only [Option.getD_some]
  refine Returns.bind (Returns.mono (applyManifests_adds ctx prev ms _ w) fun t w₁ ⟨steady, added, _⟩ => ?_)
  -- Nothing is stale for what was applied, so the deletion pass does nothing.
  have nothing : staleEntries t.processed prev.resources.reverse = [] := by
    rw [added.staleEntries_processed_reverse rfl, settled, List.reverse_nil]
  rw [deleteStale_settled ctx _ _ _ nothing]
  refine Returns.bind (Returns.pure ?_)
  refine Returns.bind (Returns.mono (Engine.now_returns w₁) fun now w₂ ⟨_, same⟩ => ?_)
  subst same
  obtain ⟨applied, named, grew⟩ := added.applied
  have log := steady.deletes.log
  -- Either way the component keeps the statuses of what it rendered.
  split <;> exact Returns.pure ⟨log, by simpa [grew] using named⟩

/-- A pass with no previous status is the pass over the component's empty status. -/
theorem reconcileComponent_getD (ctx : Context) (name : String) (ms : List Manifest)
    (previous : Option ComponentStatus) :
    reconcileComponent ctx name ms previous =
      reconcileComponent ctx name ms (some (previous.getD (.named name))) := by
  cases previous <;> rfl

/-- On a calm cluster a component pass deletes exactly its stale entries, newest first, and
returns the statuses of what it renders followed by the stale entries marked deleted; a
component with no YAML file comes out deleted, and the cluster stays calm. -/
theorem reconcileComponent_calm (ctx : Context) (name : String) (ms : List Manifest)
    (old : ComponentStatus) {w : World} (calm : w.Calm) :
    Returns (reconcileComponent ctx name ms (some old)) w fun r w' =>
      (∃ calls, w'.store.ops = w.store.ops ++ calls ∧
        deletions calls = (staleEntries (renderedKeys ms) old.resources).reverse.map
          fun e => deletionOf e.resource) ∧
      (∃ applied : List ResourceStatus, applied.map (·.resource) = renderedKeys ms ∧
        r.1.resources = applied ++ (staleEntries (renderedKeys ms) old.resources).map (·.deletedAt w.now)) ∧
      (ms.any Manifest.isYaml = false → r.1.status.isDeleted = true) ∧ w'.Calm := by
  unfold reconcileComponent
  simp only [Option.getD_some]
  refine Returns.bind (Returns.mono (applyManifests_adds ctx old ms _ w)
    fun t w₁ ⟨steady, added, nothingApplied⟩ => ?_)
  -- The deletion pass walks the previous entries newest first.
  have walked : staleEntries t.processed old.resources.reverse =
      (staleEntries (renderedKeys ms) old.resources).reverse :=
    added.staleEntries_processed_reverse rfl _
  refine Returns.bind (Returns.mono (deleteStale_calm ctx t.processed old.resources.reverse t.errors w₁
    (steady.calm calm)) fun ⟨removed, errors⟩ w₂ ⟨result, deleted⟩ => ?_)
  obtain ⟨rfl, rfl⟩ := Prod.mk.inj result
  refine Returns.bind (Returns.mono (Engine.now_returns w₂) fun now w₃ ⟨_, same⟩ => ?_)
  subst w₃
  -- The applied statuses come first, then the stale entries deleted.
  obtain ⟨applied, named, grew⟩ := added.applied
  have log : ∃ calls, w₂.store.ops = w.store.ops ++ calls ∧
      deletions calls = (staleEntries (renderedKeys ms) old.resources).reverse.map
        fun e => deletionOf e.resource := by
    simpa [walked, Function.comp_def] using (steady.deletes.trans deleted).log
  have resources : t.status.resources ++
      ((staleEntries t.processed old.resources.reverse).reverse.map (·.deletedAt w₁.now)) =
      applied ++ (staleEntries (renderedKeys ms) old.resources).map (·.deletedAt w.now) := by
    simp [grew, walked, steady.now]
  have stillCalm : w₂.Calm := (steady.deletes.trans deleted).calm calm
  split
  · -- A component with no YAML file noted no failure, so its deletion succeeded.
    rename_i deleteOnly
    have noYaml : ms.any Manifest.isYaml = false := by simpa using deleteOnly
    have clean : t.errors = {} := nothingApplied noYaml
    refine Returns.pure ⟨log, ⟨applied, named, resources⟩, fun _ => ?_, stillCalm⟩
    simp only [clean]
    exact StatusType.afterDelete_isDeleted _ _
  · rename_i applies
    exact Returns.pure ⟨log, ⟨applied, named, resources⟩, fun noYaml => by simp [noYaml] at applies, stillCalm⟩

end MeshControl
