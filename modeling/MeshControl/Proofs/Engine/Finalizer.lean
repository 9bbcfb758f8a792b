import MeshControl.Proofs.Engine.Teardown

/-! The operator's finalizer: a pass on a control plane being deleted tears down what it tracks and
then removes the finalizer, retrying on conflicts; a pass on one without it only adds it. -/

namespace MeshControl

/-! One attempt at removing the finalizer. -/

/-- Reads the object under a key, or nothing when it is not found. -/
def readOrNone (key : ResourceKey) : Engine (Option Object) :=
  tryCatch (some <$> Engine.cluster (getObject key)) fun e =>
    if e.isNotFound then pure none else throw e

/-- One attempt at removing the operator's finalizer from the object under `key`: read it and,
when it holds the finalizer, update it without, keeping the others in order; an object that is
not found is taken as gone. -/
def releaseAttempt (key : ResourceKey) : Engine Unit := do
  let some current ← readOrNone key | return
  let before := current.finalizerList
  let after := before.filter (· != controlPlaneFinalizer)
  if after.length == before.length then return
  discard <| Engine.cluster (updateObject (current.withMeta fun m => { m with finalizers := some after }))

/-- The object under `key` lost the operator's finalizer and kept its others in order; one that
was not there is still not there. -/
def Store.Released (key : ResourceKey) (s s' : Store) : Prop :=
  (s'.lookup key).map Object.finalizerList =
    (s.lookup key).map fun o => o.finalizerList.filter (· != controlPlaneFinalizer)

/-- A read changes no object, whatever the cluster answers. -/
theorem readOrNone_objects (key : ResourceKey) (w : World) :
    (endState ((readOrNone key).run w)).store.objects = w.store.objects := by
  unfold readOrNone
  rw [run_tryCatch, run_map, Engine.cluster_run]
  -- A stopped world makes no call; otherwise the read changes no object.
  by_cases stopped : w.stopped = true
  · rw [if_pos stopped]
    dsimp only
    split <;> rfl
  · rw [if_neg stopped]
    have unchanged := getObject_objects key w.store
    cases read : (getObject key).run w.store with
    | ok o s =>
      rw [read] at unchanged
      exact unchanged
    -- A failed read is caught, as none or thrown again; either way nothing changed.
    | error e s =>
      rw [read] at unchanged
      dsimp only
      split
      · exact unchanged
      · exact unchanged

theorem readOrNone_within (key : ResourceKey) :
    Keeps (World.Within (Op.ReadsOrUpdates (· = key)) (fun _ => False) (fun _ => False))
      (readOrNone key) := by
  unfold readOrNone
  -- The read is a get of the key; the handler makes no call.
  refine Keeps.tryCatch (Keeps.map _ (Engine.cluster_within ((getObject_within key).weaken
    fun _ _ within => within.mono (fun op same => by subst same; exact ⟨.inl rfl, rfl⟩)
      (fun _ no => no) (fun _ no => no)))) fun e => ?_
  exact Keeps.ite (Keeps.pure _) (Keeps.throw _)

/-- A read that returns gives the stored object; nothing means nothing is stored under the key,
or the cluster was told to answer NotFound. -/
theorem readOrNone_ok {key : ResourceKey} {w w' : World} {r : Option Object}
    (ran : (readOrNone key).run w = .ok r w') :
    (∀ k, w'.store.lookup k = w.store.lookup k) ∧ (∀ o, r = some o → w.store.lookup key = some o) ∧
      (r = none → w.store.lookup key = none ∨ w.store.Injects .get key.name .notFound) := by
  -- The objects are those before the read.
  have unchanged := readOrNone_objects key w
  rw [ran, endState_ok] at unchanged
  refine ⟨fun k => by simp only [Store.lookup, unchanged], ?_⟩
  unfold readOrNone at ran
  rw [run_tryCatch, run_map] at ran
  -- The read gave the object, or failed and was taken as none only for a NotFound.
  cases read : (Engine.cluster (getObject key)).run w with
  | ok o w₁ =>
    rw [read] at ran
    cases ran
    have found := (getObject_ok (Engine.cluster_ok read)).1
    refine ⟨fun o' same => ?_, fun gone => ?_⟩
    · cases same
      exact found
    · cases gone
  | error e w₁ =>
    rw [read] at ran
    dsimp only at ran
    split at ran
    · rename_i notFound
      cases ran
      refine ⟨fun o' gone => ?_, fun _ => ?_⟩
      · cases gone
      -- A stopped world fails the call with a configuration error, which is not a NotFound.
      rw [Engine.cluster_run] at read
      split at read
      · cases read
        simp [Error.isNotFound, Error.apiCode?] at notFound
      · cases got : (getObject key).run w.store with
        | ok o s => rw [got] at read; cases read
        | error e' s =>
          rw [got] at read
          cases read
          exact getObject_notFound got notFound
    · cases ran

/-- Without a failure injected into reads of its name, a read on a running world gives what is
stored, and only logs itself. -/
theorem readOrNone_returns {key : ResourceKey} {w : World} (running : w.stopped = false)
    (free : ∀ failure, ¬ w.store.Injects .get key.name failure) :
    Returns (readOrNone key) w fun r w₁ =>
      r = w.store.lookup key ∧ w₁ = { w with store := w.store.log ⟨.get, key, none⟩ } := by
  -- With no failure injected the read records itself and answers from the store.
  have read : (getObject key).run w.store = (w.store.lookup key).elim
      (.error (.notFound key.render) (w.store.log ⟨.get, key, none⟩))
      fun o => .ok o (w.store.log ⟨.get, key, none⟩) := by
    unfold getObject
    rw [EStateM.run_bind, record_run_free free]
    exact stored_run key _
  unfold readOrNone
  -- A missing object fails with NotFound, caught as none; a stored one is returned.
  cases held : w.store.lookup key with
  | none =>
    have fails : (some <$> Engine.cluster (getObject key)).run w =
        .error (.notFound key.render) { w with store := w.store.log ⟨.get, key, none⟩ } := by
      rw [run_map, Engine.cluster_run, if_neg (by simp [running]), read, held]
      rfl
    exact Returns.tryCatch_error fails (Returns.pure ⟨rfl, rfl⟩)
  | some o =>
    rw [held] at read
    exact Returns.tryCatch (Returns.map (Engine.cluster_returns running (Returns.of_run read ⟨rfl, rfl⟩)))

/-- An attempt reads and updates the object under its key only, whatever the cluster answers: the
object it reads is stored under that key, so its update is of the same object. -/
theorem releaseAttempt_within (key : ResourceKey) :
    Keeps (World.Within (Op.ReadsOrUpdates (· = key)) (fun _ => False) (· = key)) (releaseAttempt key) := by
  unfold releaseAttempt
  refine Keeps.bind_of ((readOrNone_within key).weaken fun _ _ within =>
    within.mono (fun _ call => call) (fun _ no => no) (fun _ no => no.elim)) fun w r w₁ ran keyed => ?_
  -- No object read means no call after; one read is updated under its own key.
  cases r with
  | none => exact Store.Within.refl _ keyed
  | some current =>
    obtain ⟨same, found, -⟩ := readOrNone_ok ran
    -- The object read is stored under the key, so it names that key.
    have named : current.key = .ok key := keyed _ _ ((same key).trans (found current rfl))
    have update : ∀ after : List String, Keeps (World.Within (Op.ReadsOrUpdates (· = key)) (fun _ => False)
        (· = key)) (Engine.cluster (updateObject (current.withMeta fun m => { m with finalizers := some after }))) :=
      fun after => Engine.cluster_within ((updateObject_within
        ((Object.key_withMeta current rfl rfl).trans named)).weaken fun _ _ within => within.mono
          (fun op same => by subst same; exact ⟨.inr rfl, rfl⟩) (fun _ no => no) (fun _ same => same))
    exact (Keeps.ite (Keeps.pure _) (Keeps.discard (update _))) w₁ keyed

/-- An attempt that fails changes no object: the read changes none, and an update stores only
once every check passed. -/
theorem releaseAttempt_objects_of_error {key : ResourceKey} {w w' : World} {e : Error}
    (failed : (releaseAttempt key).run w = .error e w') : w'.store.objects = w.store.objects := by
  unfold releaseAttempt at failed
  rw [EStateM.run_bind] at failed
  have read := readOrNone_objects key w
  -- The read failed, changing nothing, or returned; only the update can then fail.
  cases got : (readOrNone key).run w with
  | error e₁ w₁ =>
    rw [got] at failed read
    cases failed
    exact read
  | ok r w₁ =>
    rw [got] at failed read
    dsimp only at failed
    cases r with
    | none => cases failed
    | some current =>
      dsimp only at failed
      split at failed
      · cases failed
      · rw [discard_eq_map, run_map, Engine.cluster_run] at failed
        -- A stopped world fails the update before the cluster sees it.
        by_cases stopped : w₁.stopped = true
        · rw [if_pos stopped] at failed
          cases failed
          exact read
        · rw [if_neg stopped] at failed
          cases updated : (updateObject (current.withMeta fun m => { m with
              finalizers := some (current.finalizerList.filter (· != controlPlaneFinalizer)) })).run w₁.store with
          | ok u s =>
            rw [updated] at failed
            cases failed
          -- A refused update changes no object.
          | error e₂ s =>
            rw [updated] at failed
            cases failed
            exact (updateObject_objects_of_error updated).trans read

/-- An attempt that returns leaves the object under its key without the finalizer and with its
other finalizers, or absent as it was, unless the cluster was told to answer its read with
NotFound. -/
theorem releaseAttempt_ok {key : ResourceKey} {w w' : World} (ran : (releaseAttempt key).run w = .ok () w')
    (keyed : w.store.WellKeyed) (readable : ¬ w.store.Injects .get key.name .notFound) :
    Store.Released key w.store w'.store := by
  unfold releaseAttempt at ran
  obtain ⟨r, w₁, read, rest⟩ := run_bind_ok ran
  obtain ⟨same, found, missing⟩ := readOrNone_ok read
  -- An object read as none is gone, since the read was not told to answer NotFound.
  cases r with
  | none =>
    cases rest
    have gone : w.store.lookup key = none := (missing rfl).resolve_right readable
    simp [Store.Released, same, gone]
  | some current =>
    have held := found current rfl
    dsimp only at rest
    split at rest
    · -- Nothing was filtered out, so the finalizers it holds are already without it.
      rename_i unchanged
      cases rest
      have kept : current.finalizerList.filter (· != controlPlaneFinalizer) = current.finalizerList :=
        List.filter_eq_self.mpr (List.length_filter_eq_length_iff.mp (beq_iff_eq.mp unchanged))
      simp [Store.Released, same, held, kept]
    -- The update went through, storing the object without the finalizer.
    · rw [discard_eq_map, run_map] at rest
      cases updated : (Engine.cluster (updateObject _)).run w₁ with
      | error e w₂ => rw [updated] at rest; cases rest
      | ok u w₂ =>
        rw [updated] at rest
        cases rest
        have named := (Object.key_withMeta current (f := fun m => { m with
          finalizers := some (current.finalizerList.filter (· != controlPlaneFinalizer)) }) rfl rfl).trans
          (keyed _ _ held)
        obtain ⟨stored, finalizers⟩ := updateObject_ok named (Engine.cluster_ok updated)
        simp only [Store.Released, stored, held, Option.map_some, finalizers]
        rfl

/-- An attempt on a running, well-keyed cluster returns when no failure is injected into reads
and updates of its name. -/
theorem releaseAttempt_returns {key : ResourceKey} {w : World} (running : w.stopped = false)
    (keyed : w.store.WellKeyed)
    (free : ∀ failure, ¬ w.store.Injects .get key.name failure ∧ ¬ w.store.Injects .update key.name failure) :
    Returns (releaseAttempt key) w fun _ _ => True := by
  unfold releaseAttempt
  refine Returns.bind (Returns.mono (readOrNone_returns running fun failure => (free failure).1)
    fun r w₁ read => ?_)
  -- The read answers from the store and only logs itself.
  obtain ⟨rfl, rfl⟩ := read
  -- Nothing stored ends the attempt; a stored object is updated unless nothing was filtered.
  cases held : w.store.lookup key with
  | none => exact Returns.pure trivial
  | some current =>
    dsimp only
    split
    · exact Returns.pure trivial
    -- The object read is the stored one, so its update is at the stored version.
    have stored : (w.store.log ⟨.get, key, none⟩).lookup key = some current := by simpa using held
    refine Returns.map (Engine.cluster_returns running (updateObject_returns
      ((Object.key_withMeta current rfl rfl).trans (keyed _ _ held)) stored rfl ?_))
    exact fun failure => (free failure).2

/-! Removing the finalizer. -/

/-- Removing the finalizer reads and updates the control plane only, whatever the cluster
answers. -/
theorem removeFinalizer_within (cp : ControlPlane) (retry : RetryConfig) :
    Keeps (World.Within (Op.ReadsOrUpdates (· = cp.clusterKey)) (fun _ => False) (· = cp.clusterKey))
      (removeFinalizer cp retry) := by
  unfold removeFinalizer
  -- The removal is the retry loop on conflicts, with a handler that only throws.
  show Keeps _ (tryCatch (retryOnConflict retry Engine.sleep (releaseAttempt cp.clusterKey)) _)
  exact Keeps.tryCatch (retryWhile_keeps Engine.sleep_within (releaseAttempt_within _)) fun _ =>
    Keeps.ite (Keeps.throw _) (Keeps.throw _)

/-- A removal that returns leaves the stored control plane without the finalizer and with its
other finalizers in order, unless the cluster was told to answer its read with NotFound. The
attempts that failed before the last changed no object, and used up only injected failures. -/
theorem removeFinalizer_releases {cp : ControlPlane} {retry : RetryConfig} {w w' : World}
    (ran : (removeFinalizer cp retry).run w = .ok () w') (keyed : w.store.WellKeyed)
    (readable : ¬ w.store.Injects .get cp.clusterKey.name .notFound) :
    Store.Released cp.clusterKey w.store w'.store := by
  unfold removeFinalizer at ran
  change (tryCatch (retryOnConflict retry Engine.sleep (releaseAttempt cp.clusterKey)) _ : Engine Unit).run w =
    _ at ran
  rw [run_tryCatch] at ran
  -- The handler only fails, so the retry loop itself returned.
  cases loop : (retryOnConflict retry Engine.sleep (releaseAttempt cp.clusterKey)).run w with
  | error e w₁ =>
    rw [loop] at ran
    dsimp only at ran
    split at ran <;> cases ran
  | ok u w₁ =>
    rw [loop] at ran
    cases ran
    -- Each attempt stays within the control plane, and one that returns releases it.
    refine retryWhile_ok
      (R := World.Within (Op.ReadsOrUpdates (· = cp.clusterKey)) (fun _ => False) (fun _ => False))
      (Q := fun w _ w' => w.store.WellKeyed → ¬ w.store.Injects .get cp.clusterKey.name .notFound →
        Store.Released cp.clusterKey w.store w'.store)
      Engine.sleep_within ?_ (fun w _ w' ran keyed readable => releaseAttempt_ok ran keyed readable) ?_
      loop keyed readable
    -- A failed attempt changes no object, so it writes nothing within its bounds.
    · intro w e w' failed
      have within := releaseAttempt_within cp.clusterKey w
      rw [failed] at within
      exact Store.Within.unwritten within (releaseAttempt_objects_of_error failed)
    · -- A failed attempt kept the control plane as it was, and the cluster well keyed.
      intro w₀ w _ w' kept later keyed₀ readable₀
      have confined := kept keyed₀
      have released := later confined.keyed fun injected => readable₀ (confined.spends _ _ _ injected)
      rcases confined.frame cp.clusterKey id with same | ⟨no, _⟩
      · simpa only [Store.Released, same] using released
      · exact no.elim

/-- Removing the finalizer returns on a running, well-keyed cluster when no failure is injected
into reads and updates of the control plane's name. -/
theorem removeFinalizer_returns (cp : ControlPlane) (retry : RetryConfig) {w : World}
    (running : w.stopped = false) (keyed : w.store.WellKeyed)
    (free : ∀ failure, ¬ w.store.Injects .get cp.clusterKey.name failure ∧
      ¬ w.store.Injects .update cp.clusterKey.name failure) :
    Returns (removeFinalizer cp retry) w fun _ _ => True := by
  unfold removeFinalizer
  show Returns (tryCatch (retryOnConflict retry Engine.sleep (releaseAttempt cp.clusterKey)) _) w _
  exact Returns.tryCatch (retryWhile_returns (releaseAttempt_returns running keyed free))

/-! Adding the finalizer. -/

/-- Changing only the finalizers keeps the key. -/
theorem Object.key_withFinalizers (o : Object) (fs : ObjectMeta → Option (List String)) :
    (o.withMeta fun m => { m with finalizers := fs m }).key = o.key :=
  Object.key_withMeta o rfl rfl

/-- Adding the finalizer to a control plane without it makes at most one call, an update of the
object the control plane encodes to. -/
theorem addFinalizer_log {cp : ControlPlane} (missing : cp.hasFinalizer = false) (w : World) :
    ∃ calls, (endState ((addFinalizer cp).run w)).store.ops = w.store.ops ++ calls ∧
      (calls = [] ∨ ∃ obj k, cp.toObject = .ok obj ∧ obj.key = .ok k ∧ calls = [⟨.update, k, none⟩]) := by
  unfold addFinalizer
  -- A control plane without the finalizer is updated with it added, once it encodes.
  simp only [missing, Bool.false_eq_true, if_false]
  -- A control plane that does not encode makes no call.
  cases made : cp.toObject with
  | error e => exact ⟨[], (List.append_nil _).symm, .inl rfl⟩
  | ok obj =>
    simp only [Engine.ofExcept, pure_bind, discard_eq_map, endState_map, Engine.endState_cluster]
    -- A stopped world makes no call.
    by_cases stopped : w.stopped = true
    · rw [if_pos stopped]
      exact ⟨[], (List.append_nil _).symm, .inl rfl⟩
    rw [if_neg stopped]
    have sent := Object.key_withFinalizers obj fun m => some (m.finalizers.getD [] ++ [controlPlaneFinalizer])
    -- An object without a key is refused before it is logged.
    cases named : obj.key with
    | error e =>
      rw [updateObject_unnamed (sent.trans named)]
      exact ⟨[], (List.append_nil _).symm, .inl rfl⟩
    | ok k => exact ⟨_, updateObject_ops (sent.trans named) _, .inr ⟨obj, k, rfl, named, rfl⟩⟩

/-- An addition that returns stored the object the control plane encodes to, with the finalizer
after its others. -/
theorem addFinalizer_ok {cp : ControlPlane} {w w' : World} (missing : cp.hasFinalizer = false)
    (ran : (addFinalizer cp).run w = .ok () w') :
    ∃ obj k u, cp.toObject = .ok obj ∧ obj.key = .ok k ∧ w'.store.lookup k = some u ∧
      u.finalizerList = obj.finalizerList ++ [controlPlaneFinalizer] := by
  unfold addFinalizer at ran
  simp only [missing, Bool.false_eq_true, if_false] at ran
  -- An addition that returns encoded the control plane and updated it.
  cases made : cp.toObject with
  | error e =>
    rw [made] at ran
    cases ran
  | ok obj =>
    rw [made] at ran
    simp only [Engine.ofExcept, pure_bind, discard_eq_map, run_map] at ran
    have sent := Object.key_withFinalizers obj fun m => some (m.finalizers.getD [] ++ [controlPlaneFinalizer])
    cases updated : (Engine.cluster (updateObject _)).run w with
    | error e w₂ => rw [updated] at ran; cases ran
    | ok u w₂ =>
      rw [updated] at ran
      cases ran
      have stored := Engine.cluster_ok updated
      -- The object names its key, since the update returned.
      cases named : obj.key with
      | error e =>
        rw [updateObject_unnamed (sent.trans named)] at stored
        cases stored
      | ok k =>
        obtain ⟨held, finalizers⟩ := updateObject_ok (sent.trans named) stored
        exact ⟨obj, k, u, rfl, named, held, finalizers⟩

/-! A pass on a control plane, as far as the finalizer goes. -/

/-- The control plane's own key is not that of a security context constraint. -/
theorem ControlPlane.clusterKey_not_constraint (cp : ControlPlane) : ¬ cp.clusterKey.IsConstraint := by
  rintro ⟨name, same⟩
  -- The control plane's group differs from the constraints'.
  have groups := congrArg ResourceKey.group same
  simp [ControlPlane.clusterKey, constraintKey, controlPlaneGroup] at groups

/-- What a pass on a control plane being deleted that holds the finalizer does from `w`, with `w₁`
where its deletions end: deletions in teardown order, then a removal of the finalizer that keeps
the others and returns unless made to fail. -/
structure TearsDown (cfg : EngineConfig) (cp : ControlPlane) (w w₁ : World)
    (r : EStateM.Result Error World Outcome) : Prop where
  deleting : ∃ calls, w₁.store.ops = w.store.ops ++ calls ∧
    deletions calls = cp.statusOrDefault.teardownKeys.map deletionOf ∧
    ∀ op ∈ calls, op.OfTeardown cp.statusOrDefault.teardownKeys
  releasing : ∃ calls, (endState r).store.ops = w₁.store.ops ++ calls ∧
    ∀ op ∈ calls, op.ReadsOrUpdates (· = cp.clusterKey)
  outcome : r = (removeFinalizer cp cfg.finalizerRetry >>= fun _ => pure Outcome.complete).run w₁
  released : ¬ w.store.Injects .get cp.clusterKey.name .notFound → ∀ o w', r = .ok o w' →
    o = .complete ∧ (Store.Released cp.clusterKey w.store w'.store ∨
      cp.clusterKey ∈ cp.statusOrDefault.teardownKeys ∧ w'.store.lookup cp.clusterKey = none)
  returns : (∀ failure, ¬ w.store.Injects .get cp.clusterKey.name failure ∧
    ¬ w.store.Injects .update cp.clusterKey.name failure) → ∃ w', r = .ok .complete w'

/-- What a pass on a control plane without the finalizer, not being deleted, does: at most one
call, an update of the object the control plane encodes to; when it returns, it asks to be run
again, and that object is stored with the finalizer after its others. -/
structure AddsFinalizer (cp : ControlPlane) (w : World) (r : EStateM.Result Error World Outcome) : Prop where
  log : ∃ calls, (endState r).store.ops = w.store.ops ++ calls ∧
    (calls = [] ∨ ∃ obj k, cp.toObject = .ok obj ∧ obj.key = .ok k ∧ calls = [⟨.update, k, none⟩])
  requeued : ∀ o w', r = .ok o w' → o = .requeue ∧ ∃ obj k u, cp.toObject = .ok obj ∧
    obj.key = .ok k ∧ w'.store.lookup k = some u ∧ u.finalizerList = obj.finalizerList ++ [controlPlaneFinalizer]

/-- A pass on a control plane being deleted that holds the finalizer tears it down. -/
theorem reconcileControlPlane_tearsDown (cfg : EngineConfig) {cp : ControlPlane} (rendered : Except Error Rendered)
    {w : World} (running : w.Running) (keyed : w.store.WellKeyed) (deleting : cp.isBeingDeleted = true)
    (held : cp.hasFinalizer = true) :
    ∃ w₁, TearsDown cfg cp w w₁ ((reconcileControlPlane cfg cp rendered).run w) := by
  -- The deletions run first, from w to w₁, and keep the world running.
  obtain ⟨w₁, ran, within, deletes⟩ := deleteControlPlane_run cfg held w
  have run : (reconcileControlPlane cfg cp rendered).run w =
      (removeFinalizer cp cfg.finalizerRetry >>= fun _ => pure Outcome.complete).run w₁ := by
    unfold reconcileControlPlane
    simp only [deleting, held, if_true]
    rw [EStateM.run_bind, EStateM.run_bind, ran]
  have confined := within keyed
  obtain ⟨deleted, running₁⟩ := deletes running
  -- What the removal is told to fail with was already there to be told before the deletions.
  have spent : ∀ verb failure, w₁.store.Injects verb cp.clusterKey.name failure →
      w.store.Injects verb cp.clusterKey.name failure := fun verb failure => confined.spends verb _ failure
  refine ⟨w₁, ⟨?_, ?_, run, ?_, ?_⟩⟩
  -- The deletions' calls are the ones the teardown made.
  · obtain ⟨calls, logged, issued⟩ := deleted.log
    obtain ⟨calls', logged', teardown⟩ := confined.log
    have same : calls = calls' := List.append_cancel_left (logged.symm.trans logged')
    exact ⟨calls, logged, issued, same ▸ teardown⟩
  -- After the deletions only the removal calls the cluster.
  · rw [run, endState_bind_still fun _ _ => rfl]
    exact ((removeFinalizer_within cp cfg.finalizerRetry w₁) confined.keyed).log
  · intro readable o w' ran'
    rw [run] at ran'
    obtain ⟨_, w₂, removed, finished⟩ := run_bind_ok ran'
    cases finished
    have released := removeFinalizer_releases removed confined.keyed fun injected => readable (spent _ _ injected)
    refine ⟨rfl, ?_⟩
    -- The deletions kept the control plane, or deleted it as one of the objects it tracks.
    rcases confined.frame cp.clusterKey cp.clusterKey_not_constraint with same | ⟨member, gone⟩
    · rw [Store.Released, same] at released
      exact .inl released
    · refine .inr ⟨member, ?_⟩
      simpa [Store.Released, gone] using released
  -- With no failure told for the control plane, the removal returns.
  · intro free
    obtain ⟨_, w', removed, -⟩ := removeFinalizer_returns cp cfg.finalizerRetry running₁.1 confined.keyed
      fun failure => ⟨fun injected => (free failure).1 (spent _ _ injected),
        fun injected => (free failure).2 (spent _ _ injected)⟩
    exact ⟨w', by rw [run, EStateM.run_bind, removed]; rfl⟩

/-- A pass on a control plane without the finalizer that is not being deleted adds the
finalizer. -/
theorem reconcileControlPlane_addsFinalizer (cfg : EngineConfig) {cp : ControlPlane}
    (rendered : Except Error Rendered) (w : World) (deleting : cp.isBeingDeleted = false)
    (missing : cp.hasFinalizer = false) :
    AddsFinalizer cp w ((reconcileControlPlane cfg cp rendered).run w) := by
  have run : (reconcileControlPlane cfg cp rendered).run w =
      (addFinalizer cp >>= fun _ => pure Outcome.requeue).run w := by
    unfold reconcileControlPlane
    simp only [deleting, missing, Bool.false_eq_true, if_false, Bool.not_false, if_true]
  rw [run]
  -- The log holds at most the update; a pass that returns asks to be run again.
  refine ⟨?_, fun o w' ran => ?_⟩
  · rw [endState_bind_still fun _ _ => rfl]
    exact addFinalizer_log missing w
  · obtain ⟨_, w₂, added, finished⟩ := run_bind_ok ran
    cases finished
    exact ⟨rfl, addFinalizer_ok missing added⟩

/-- A pass on a control plane being deleted that no longer holds the finalizer does nothing. -/
theorem reconcileControlPlane_released (cfg : EngineConfig) {cp : ControlPlane}
    (rendered : Except Error Rendered) (w : World) (deleting : cp.isBeingDeleted = true)
    (missing : cp.hasFinalizer = false) :
    (reconcileControlPlane cfg cp rendered).run w = .ok .complete w := by
  unfold reconcileControlPlane
  simp only [deleting, missing, Bool.false_eq_true, if_false, if_true]
  rfl

/-- A pass guards the finalizer: with it, a control plane being deleted is torn down before it is
released; without it, the pass only adds it, or does nothing once deletion began. -/
theorem reconcileControlPlane_guards_finalizer (cfg : EngineConfig) (cp : ControlPlane)
    (rendered : Except Error Rendered) {w : World} (running : w.Running) (keyed : w.store.WellKeyed) :
    (cp.isBeingDeleted = true → cp.hasFinalizer = true →
      ∃ w₁, TearsDown cfg cp w w₁ ((reconcileControlPlane cfg cp rendered).run w)) ∧
    (cp.isBeingDeleted = true → cp.hasFinalizer = false →
      (reconcileControlPlane cfg cp rendered).run w = .ok .complete w) ∧
    (cp.isBeingDeleted = false → cp.hasFinalizer = false →
      AddsFinalizer cp w ((reconcileControlPlane cfg cp rendered).run w)) :=
  ⟨reconcileControlPlane_tearsDown cfg rendered running keyed,
    reconcileControlPlane_released cfg rendered w,
    reconcileControlPlane_addsFinalizer cfg rendered w⟩

/-- The control plane `basic` of `istio-system`, being deleted, holding the finalizer and
tracking `pilot` as installed. -/
def deletedPlane : ControlPlane where
  metadata :=
    { name := some "basic", ns := some "istio-system", generation := some 1,
      finalizers := some [controlPlaneFinalizer], deletionTimestamp := some ⟨1577836800, 0⟩ }
  spec := {}
  status := some { componentStatus :=
    [{ resource := "istio/charts/pilot", resources := [⟨pilotKey, ({} : StatusType).afterReconcile "" none⟩] }] }

/-- The ConfigMap `pilot` as the cluster holds it. -/
def pilotObject : Object :=
  { types := some ⟨"v1", "ConfigMap"⟩, metadata := { name := some "pilot", ns := some "istio-system" },
    data := [("data", .obj [("value", .str "x")])] }

/-- A cluster holding that control plane and `pilot`. -/
def clusterWithDeletedPlane : World :=
  { store := (({} : Store).put deletedPlane.clusterKey (deletedPlane.toObject.toOption.getD {})).put pilotKey
      pilotObject }

/-- That cluster is well keyed: each object is stored under its own key. -/
theorem clusterWithDeletedPlane_keyed : clusterWithDeletedPlane.store.WellKeyed :=
  ((Store.WellKeyed.of_objects fun _ none => absurd none List.not_mem_nil).put (by rfl)).put (by rfl)

/-- Deleting `basic` tears it down: its pass deletes `pilot` and removes the finalizer. -/
theorem reconcileControlPlane_tears_down_basic :
    clusterWithDeletedPlane.Running ∧ clusterWithDeletedPlane.store.WellKeyed ∧
      ∃ w₁, TearsDown {} deletedPlane clusterWithDeletedPlane w₁
        ((reconcileControlPlane {} deletedPlane (.ok [])).run clusterWithDeletedPlane) :=
  ⟨⟨rfl, rfl⟩, clusterWithDeletedPlane_keyed,
    (reconcileControlPlane_guards_finalizer {} deletedPlane (.ok []) ⟨rfl, rfl⟩ clusterWithDeletedPlane_keyed).1
      (by decide +kernel) (by decide +kernel)⟩

/-- A read of `basic` told to answer NotFound leaves the finalizer in place: the removal takes
the control plane as gone and the pass completes. -/
theorem reconcileControlPlane_keeps_finalizer_of_notFound :
    Returns (reconcileControlPlane {} deletedPlane (.ok []))
      { clusterWithDeletedPlane with
        store := clusterWithDeletedPlane.store.addFailure .get "basic" .notFound none } fun o w' =>
      o = .complete ∧ (w'.store.lookup deletedPlane.clusterKey).map Object.finalizerList = some [controlPlaneFinalizer] :=
  Returns.of_check (by decide +kernel)

end MeshControl
