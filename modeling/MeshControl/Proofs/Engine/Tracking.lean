import MeshControl.Proofs.Engine.Presence

/-! Which entries a component pass keeps, whatever the cluster answers: an entry leaves the status
only when it is rendered again or its Installed is False, as after a failed install. -/

namespace MeshControl

/-! Deletions, whatever the cluster answers. -/

/-- A deletion is logged before anything else happens, whatever the cluster answers, and leaves
a quiet cluster quiet. -/
theorem deleteObject_logged (key : ResourceKey) (p : Option Propagation) :
    Keeps (fun s s' => s'.ops = s.ops ++ [⟨.delete, key, p⟩] ∧ (s.Quiet → s'.Quiet))
      (deleteObject key p) := by
  intro s
  show (endState (deleteObject key p s)).ops = _ ∧ (s.Quiet → (endState (deleteObject key p s)).Quiet)
  unfold deleteObject
  simp only [bind, EStateM.bind]
  rw [show record .delete key p s = _ from record_run .delete key p s]
  -- The call is logged first; only an injected failure could stop it after.
  cases hit : findFailure s.failures .delete key.name with
  | none =>
    simp only [get, getThe, MonadStateOf.get, EStateM.get]
    -- A stored object is dropped or a missing one reported; the log is the same.
    split
    · exact ⟨rfl, id⟩
    · exact ⟨rfl, id⟩
  | some hit =>
    -- A failure injected into this call is one a quiet cluster has none of.
    refine ⟨rfl, fun quiet => ?_⟩
    rw [findFailure_quiet quiet] at hit
    cases hit

/-- On a running world a deletion in the foreground is logged, whatever the cluster answers. -/
theorem Engine.deleteObject_deletes (key : ResourceKey) :
    Keeps (fun w w' => w.Running → World.Deletes [key] w w')
      (Engine.cluster (deleteObject key (some .foreground))) := by
  intro w running
  -- The running world passes the call to its cluster, whose log grows by it.
  obtain ⟨logged, quiet⟩ := deleteObject_logged key (some .foreground) w.store
  rw [Engine.endState_cluster, if_neg (by simp [running.1])]
  exact ⟨⟨[deletionOf key], logged, rfl⟩, rfl, fun calm => ⟨quiet calm.1, calm.2⟩⟩

/-- Deleting a resource on a running world logs its foreground deletion and no other, whatever
the cluster answers. -/
theorem deleteResource_deletes (ctx : Context) (key : ResourceKey) :
    Keeps (fun w w' => w.Running → World.Deletes [key] w w') (deleteResource ctx key) := by
  unfold deleteResource
  -- The deletion comes first; counting and the hooks after it are steady.
  refine Keeps.seq (fun w => by rw [Engine.endState_attempt]; exact Engine.deleteObject_deletes key w)
    (fun r => ?_) (fun _ _ deleted => deleted)
    (fun _ _ _ deleted (steady : World.Steady _ _) running => by
      simpa using (deleted running).trans steady.deletes)
  dsimp only
  -- A deletion that went through is counted; a gone object continues; other failures stop.
  cases r with
  | ok u =>
    cases u
    exact Keeps.bind (Engine.record_steady _) fun _ => Hooks.afterDelete_steady _ _
  | error e => exact Keeps.ite (Keeps.throw_bind _ _) (Hooks.afterDelete_steady _ _)

/-- Deleting a resource keeps what every cluster call and the primitive steps keep. -/
theorem deleteResource_keeps {R : World → World → Prop} [IsPreorder World R]
    (steps : World.StepsKeep R) (cluster : ∀ {α : Type} (x : StoreM α), Keeps R (Engine.cluster x))
    (ctx : Context) (key : ResourceKey) : Keeps R (deleteResource ctx key) := by
  unfold deleteResource
  -- The deletion is a cluster call, which keeps the relation by assumption.
  refine Keeps.bind (Engine.attempt_keeps (cluster _)) fun r => ?_
  have hooks := Hooks.afterDelete_keeps steps ctx.hooks key
  dsimp only
  cases r with
  | ok u =>
    cases u
    exact Keeps.bind (steps.record _) fun _ => hooks
  | error e => exact Keeps.ite (Keeps.throw_bind _ _) hooks

/-- A deletion fails only with a failure other than the object being gone, which counts as
deleted. -/
theorem deleteResource_fails_present (ctx : Context) (key : ResourceKey) :
    Fails (fun e => e.isAbsent = false) (deleteResource ctx key) := by
  have hooks : Fails (fun e => e.isAbsent = false) (ctx.hooks.afterDelete key) :=
    Fails.of_returns (Hooks.afterDelete_total ctx.hooks key)
  unfold deleteResource
  -- The attempt never fails, so only the rethrow can.
  refine Fails.bind (Fails.of_returns (Engine.attempt_total _)) fun r => ?_
  dsimp only
  cases r with
  | ok u =>
    cases u
    exact Fails.bind (Fails.modify _) fun _ => hooks
  | error e =>
    dsimp only
    -- Only a failure other than a gone object is rethrown.
    split
    · rename_i present
      exact Fails.throw_bind (by simpa using present) _
    · exact hooks

/-- An attempt to delete a resource returns at the same clock reading, with a plain failure
other than the object being gone if it failed; on a running world it logs the foreground
deletion of its key and no other, and the world keeps running. -/
theorem deleteResource_attempt (ctx : Context) (key : ResourceKey) (w : World) :
    Returns (Engine.attempt (deleteResource ctx key)) w fun r w' =>
      (∀ e, r = .error e → e.Plain ∧ e.isAbsent = false) ∧ w'.now = w.now ∧
        (w.Running → World.Deletes [key] w w' ∧ w'.Running) := by
  have stays := deleteResource_keeps World.staysRunning_stepsKeep Engine.cluster_staysRunning ctx key
  have same := deleteResource_keeps World.sameNow_stepsKeep Engine.cluster_sameNow ctx key
  -- The three relations are each kept by the pass, so by the attempt.
  refine Returns.mono (((Engine.attempt_returns (deleteResource_deletes ctx key) w).and
    (Engine.attempt_returns stays w)).and (Engine.attempt_returns same w)) fun r w' facts => ?_
  obtain ⟨⟨⟨deleted, _, failed⟩, running, _⟩, clock, _⟩ := facts
  exact ⟨fun e outcome => ⟨deleteResource_plain ctx key w e w' (failed e outcome),
    deleteResource_fails_present ctx key w e w' (failed e outcome)⟩, clock,
    fun live => ⟨deleted live, running live⟩⟩

/-! The deletion pass, whatever the cluster answers. -/

/-- The entry the deletion pass leaves for a stale one at the clock reading `now`: marked deleted
when its deletion went through or found nothing, marked with the failure otherwise. -/
def ResourceStatus.afterDeletion (now : String) (r : ResourceStatus) (outcome : Option Error) :
    ResourceStatus :=
  outcome.elim (r.deletedAt now) fun e => { r with status := r.status.afterDelete now (some e) }

@[simp] theorem ResourceStatus.afterDeletion_resource (now : String) (r : ResourceStatus)
    (outcome : Option Error) : (r.afterDeletion now outcome).resource = r.resource := by
  -- Either mark keeps the entry's key.
  cases outcome
  · rfl
  · rfl

/-- What the deletion pass returns for the stale entries `stale`, in the order it walks them,
starting from the failures `errors`, at the clock reading `now`: each entry marked with the
outcome of its deletion, in the reverse order, and the failures among those outcomes added in
the order of the walk, each plain and other than the object being gone. -/
def Removal (now : String) (stale : List ResourceStatus) (errors : Aggregate)
    (r : List ResourceStatus × Aggregate) : Prop :=
  ∃ deleted : List (ResourceStatus × Option Error), deleted.map Prod.fst = stale ∧
    r.1 = (deleted.map fun d => d.1.afterDeletion now d.2).reverse ∧
    r.2.errors = errors.errors ++ deleted.filterMap Prod.snd ∧
    ∀ e ∈ deleted.filterMap Prod.snd, e.Plain ∧ e.isAbsent = false

theorem Removal.nil (now : String) (errors : Aggregate) : Removal now [] errors ([], errors) :=
  ⟨[], rfl, rfl, by simp, by simp⟩

/-- One more entry walked first: it comes back after the others, and its failure before
theirs. -/
theorem Removal.cons {now : String} {entry : ResourceStatus} {stale : List ResourceStatus}
    {errors errors' : Aggregate} {r : List ResourceStatus × Aggregate} (outcome : Option Error)
    (noted : errors'.errors = errors.errors ++ outcome.toList)
    (plain : ∀ e ∈ outcome, e.Plain ∧ e.isAbsent = false)
    (rest : Removal now stale errors' r) :
    Removal now (entry :: stale) errors (r.1 ++ [entry.afterDeletion now outcome], r.2) := by
  obtain ⟨deleted, walked, returned, grew, plains⟩ := rest
  refine ⟨(entry, outcome) :: deleted, by simp [walked], by simp [returned], ?_, ?_⟩
  -- A failure is noted once, after those before it.
  · cases outcome <;> simp [grew, noted]
  · intro e member
    -- The new failure is plain, and so are those of the rest.
    cases outcome with
    | none => exact plains e (by simpa using member)
    | some failure =>
      rw [List.filterMap_cons_some (f := Prod.snd) rfl, List.mem_cons] at member
      rcases member with own | later
      · exact plain e (by simp [own])
      · exact plains e later

/-- The entries the deletion pass returns are the stale ones in their original order, each
marked with an outcome of its own. -/
theorem Removal.forall₂ {now : String} {stale : List ResourceStatus} {errors : Aggregate}
    {r : List ResourceStatus × Aggregate} (removal : Removal now stale errors r) :
    List.Forall₂ (fun e e' => ∃ outcome, e' = e.afterDeletion now outcome) stale.reverse r.1 := by
  obtain ⟨deleted, walked, returned, _⟩ := removal
  -- Reversed twice, the entries pair up with the stale ones in order.
  rw [returned, ← walked, List.forall₂_reverse_iff, List.forall₂_map_left_iff,
    List.forall₂_map_right_iff, List.forall₂_same]
  exact fun d _ => ⟨d.2, rfl⟩

/-- The deletion pass always returns at the same clock reading, marks each stale entry with its
deletion's outcome, and on a running world logs exactly their foreground deletions, in order. -/
theorem deleteStale_removes (ctx : Context) (processed : List ResourceKey) :
    ∀ (rs : List ResourceStatus) (errors : Aggregate) (w : World),
      Returns (deleteStale ctx processed rs errors) w fun r w' =>
        Removal w.now (staleEntries processed rs) errors r ∧ w'.now = w.now ∧
          (w.Running → World.Deletes ((staleEntries processed rs).map (·.resource)) w w' ∧ w'.Running)
  | [], errors, w => Returns.pure ⟨Removal.nil w.now errors, rfl, fun running =>
      ⟨World.Deletes.refl w, running⟩⟩
  | r :: older, errors, w => by
    unfold deleteStale
    rw [staleEntries_cons]
    -- An entry that is not stale is passed over.
    split
    · exact deleteStale_removes ctx processed older errors w
    · refine Returns.bind (Returns.mono (Engine.now_returns w) fun now w₀ read => ?_)
      obtain ⟨rfl, unchanged⟩ := read
      subst w₀
      refine Returns.bind (Returns.mono (deleteResource_attempt ctx r.resource w) fun res w₁ deleted => ?_)
      obtain ⟨plain, same, logged⟩ := deleted
      -- The older entries are walked after this one: their deletions and failures come after
      -- its own, their entries before it.
      have later : ∀ (outcome : Option Error) (errors' : Aggregate),
          errors'.errors = errors.errors ++ outcome.toList →
          (∀ e ∈ outcome, e.Plain ∧ e.isAbsent = false) →
          Returns (deleteStale ctx processed older errors' >>= fun rest =>
            pure (rest.1 ++ [r.afterDeletion w.now outcome], rest.2)) w₁ fun r' w' =>
            Removal w.now (r :: staleEntries processed older) errors r' ∧ w'.now = w.now ∧
              (w.Running → World.Deletes ((r :: staleEntries processed older).map (·.resource)) w w' ∧
                w'.Running) := by
        intro outcome errors' noted plainOutcome
        refine Returns.bind (Returns.mono (deleteStale_removes ctx processed older errors' w₁)
          fun rest w₂ facts => ?_)
        obtain ⟨removal, same₂, logged₂⟩ := facts
        rw [same] at removal
        refine Returns.pure ⟨Removal.cons outcome noted plainOutcome removal, same₂.trans same, ?_⟩
        simpa using World.Deletes.trans_running logged logged₂
      dsimp only
      -- A deletion that went through adds no failure; one that failed adds its own.
      cases res with
      | ok u =>
        cases u
        exact Returns.bind (Returns.pure (later none errors (by simp) (by simp)))
      | error e =>
        have failed := plain e rfl
        exact Returns.bind (Returns.pure (later (some e) _ (Aggregate.push_plain errors failed.1)
          (by simpa using failed)))

/-! Which previous entries a component pass keeps. -/

/-- **Entries are kept.** Whatever the cluster answers, a pass deletes, newest first, exactly the
previous entries not rendered again nor uninstalled, and keeps them, each marked with its outcome. -/
theorem reconcileComponent_keeps_entries (ctx : Context) (name : String) (ms : List Manifest)
    (old : ComponentStatus) {w : World} (running : w.Running) :
    Returns (reconcileComponent ctx name ms (some old)) w fun r w' =>
      (∃ calls, w'.store.ops = w.store.ops ++ calls ∧
        deletions calls = (staleEntries (renderedKeys ms) old.resources).reverse.map
          fun e => deletionOf e.resource) ∧
      ∃ applied removed : List ResourceStatus, applied.map (·.resource) = renderedKeys ms ∧
        List.Forall₂ (fun e e' => ∃ outcome, e' = e.afterDeletion w.now outcome)
          (staleEntries (renderedKeys ms) old.resources) removed ∧
        r.1.resources = applied ++ removed := by
  unfold reconcileComponent
  simp only [Option.getD_some]
  refine Returns.bind (Returns.mono (Returns.with_keeps
    (applyManifests_keeps World.staysRunning_stepsKeep ctx old ms _) (applyManifests_adds ctx old ms _ w))
    fun t w₁ applying => ?_)
  obtain ⟨stays, steady, added, _⟩ := applying
  -- The deletion pass walks the previous entries newest first.
  have walked : staleEntries t.processed old.resources.reverse =
      (staleEntries (renderedKeys ms) old.resources).reverse :=
    added.staleEntries_processed_reverse rfl _
  refine Returns.bind (Returns.mono (deleteStale_removes ctx t.processed old.resources.reverse t.errors w₁)
    fun removal w₂ deleting => ?_)
  obtain ⟨removed, _, logged⟩ := deleting
  -- The world still runs after applying, so the deletions are logged.
  obtain ⟨deleted, _⟩ := logged (stays running)
  refine Returns.bind (Returns.mono (Engine.now_returns w₂) fun now w₃ read => ?_)
  obtain ⟨rfl, unchanged⟩ := read
  subst w₃
  obtain ⟨applied, named, grew⟩ := added.applied
  have log : ∃ calls, w₂.store.ops = w.store.ops ++ calls ∧
      deletions calls = (staleEntries (renderedKeys ms) old.resources).reverse.map
        fun e => deletionOf e.resource := by
    simpa [walked, Function.comp_def] using (steady.deletes.trans deleted).log
  have kept : List.Forall₂ (fun e e' => ∃ outcome, e' = e.afterDeletion w.now outcome)
      (staleEntries (renderedKeys ms) old.resources) removal.1 := by
    simpa [walked, steady.now] using removed.forall₂
  -- Both kinds of pass report the applied entries followed by the removed ones.
  split
  · exact Returns.pure ⟨log, applied, removal.1, named, kept, by simp [grew]⟩
  · exact Returns.pure ⟨log, applied, removal.1, named, kept, by simp [grew]⟩

/-- A component that renders nothing any more keeps its installed entry, marked with the outcome
of its deletion, and deletes the object in the foreground. -/
theorem reconcileComponent_keeps_installed_entry :
    World.Running {} ∧
      Returns (reconcileComponent default "c" []
          (some ⟨"c", {}, [⟨⟨"", "v1", "ConfigMap", "ns", "x"⟩, ({} : StatusType).afterReconcile "t" none⟩]⟩))
        {} fun r w' =>
        (∃ calls, w'.store.ops = calls ∧ deletions calls = [deletionOf ⟨"", "v1", "ConfigMap", "ns", "x"⟩]) ∧
          r.1.resources.map (·.resource) = [⟨"", "v1", "ConfigMap", "ns", "x"⟩] := by
  refine ⟨⟨rfl, rfl⟩, Returns.mono (reconcileComponent_keeps_entries default "c" [] _ ⟨rfl, rfl⟩)
    fun r w' facts => ?_⟩
  obtain ⟨⟨calls, logged, deleted⟩, applied, removed, named, kept, resources⟩ := facts
  -- The entry is installed, so it is the one stale entry; nothing is rendered.
  obtain ⟨e', rest, ⟨outcome, rfl⟩, none, rfl⟩ := List.forall₂_cons_left_iff.mp kept
  have fresh : applied = [] := List.map_eq_nil_iff.mp named
  refine ⟨⟨calls, by simpa using logged, by rw [deleted]; rfl⟩, ?_⟩
  rw [resources, fresh, List.forall₂_nil_left_iff.mp none]
  simp

/-- The ConfigMap `pilot` of `istio-system`. -/
def pilotKey : ResourceKey := ⟨"", "v1", "ConfigMap", "istio-system", "pilot"⟩

/-- A manifest rendering the ConfigMap `pilot` with a given value. -/
def pilotManifest (value : String) : Manifest :=
  ⟨"pilot.yaml", "apiVersion: v1\nkind: ConfigMap\nmetadata:\n  name: pilot\n  namespace: istio-system\ndata:\n  value: " ++ value ++ "\n"⟩

/-- A cluster already holding `pilot` with an older value, written by someone else, whose next
patch of `pilot` fails. -/
def clusterWithStalePilot : World :=
  { store := (({} : Store).put pilotKey
      (((pilotManifest "stale").objects.head?.bind Except.toOption).getD {})).addFailure .patch "pilot" .server (some 1) }

/-- A failed install is forgotten. The first pass finds `pilot` in the cluster and fails to
patch it, which marks its entry uninstalled; the next pass no longer renders it and drops the
entry without deleting the object, which stays in the cluster, no longer tracked. -/
theorem reconcileComponent_forgets_failed_install :
    Returns (reconcileComponent default "istio/charts/pilot" [pilotManifest "b"] none >>= fun first =>
        reconcileComponent default "istio/charts/pilot" [⟨"pilot.yaml", ""⟩] (some first.1) >>= fun second =>
          pure (first, second)) clusterWithStalePilot fun r w' =>
      r.1.1.resources.map (fun e => ((e.status.get .installed).status, (e.status.get .installed).reason)) =
        [(.no, some .installError)] ∧
      r.2.1.resources = [] ∧ deletions w'.store.ops = [] ∧ w'.store.contains pilotKey = true :=
  Returns.of_check (by decide +kernel)

end MeshControl
