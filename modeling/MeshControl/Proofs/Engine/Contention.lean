import MeshControl.Proofs.Engine.Shared
import MeshControl.Proofs.Engine.Finalizer

/-! Removing the operator's finalizer while other clients update the control plane: a run is a
sequence of read-then-update rounds, and an update the cluster takes lands on what its round read. -/

namespace MeshControl

/-- One round of the finalizer's removal through a client: read the control plane, nothing when
not found, and, when it holds the finalizer, update it without. -/
def releaseThrough {M : Type → Type} [Monad M] [MonadExceptOf Error M]
    (call : {α : Type} → StoreM α → M α) (key : ResourceKey) : M Unit := do
  let current ← tryCatch (some <$> call (getObject key)) fun e =>
    if e.isNotFound then pure none else throw e
  let some current := current | return
  let before := current.metadata.finalizers.getD []
  let after := before.filter (· != controlPlaneFinalizer)
  if after.length == before.length then return
  discard <| call (updateObject (current.withMeta fun m => { m with finalizers := some after }))

/-- The removal retries its round on conflicts and turns conflicts to the end into a finalizer
failure. -/
theorem removeFinalizerThrough_eq {M : Type → Type} [Monad M] [MonadExceptOf Error M]
    (call : {α : Type} → StoreM α → M α) (sleep : Nat → M Unit) (cp : ControlPlane) (retry : RetryConfig) :
    removeFinalizerThrough call sleep cp retry =
      tryCatch (retryOnConflict retry sleep (releaseThrough call cp.clusterKey)) fun e =>
        if e.isConflict then
          throw (.finalizer ("could not remove finalizer from " ++ cp.clusterKey.render ++ ": " ++ e.message))
        else throw e := rfl

/-- A read of `key` on the cluster `s` finds nothing to remove: the cluster answers NotFound, or
with an object that does not hold the operator's finalizer. -/
def Store.NothingToRelease (key : ResourceKey) (s : Store) : Prop :=
  match (getObject key).run s with
  | .ok cur _ => controlPlaneFinalizer ∉ cur.finalizerList
  | .error e _ => e.isNotFound = true

/-- Filtering an entry out keeps the length exactly when the entry is not there. -/
theorem length_filter_ne_beq {l : List String} {a : String} :
    ((l.filter (· != a)).length == l.length) = true ↔ a ∉ l := by
  simp only [beq_iff_eq, List.length_filter_eq_length_iff, bne_iff_ne, ne_eq]
  exact List.forall_mem_ne'

/-- A read makes no call on a stopped world, and otherwise takes NotFound for nothing. -/
theorem readOrNone_run (key : ResourceKey) (w : World) :
    (readOrNone key).run w =
      if w.stopped then .error (.config "stopped") w
      else match (getObject key).run w.store with
        | .ok cur s => .ok (some cur) { w with store := s }
        | .error e s => if e.isNotFound then .ok none { w with store := s } else .error e { w with store := s } := by
  unfold readOrNone
  rw [run_tryCatch, run_map, Engine.cluster_run]
  -- A stopped world answers before the cluster is asked; the handler sees that failure too.
  by_cases stopped : w.stopped = true
  · rw [if_pos stopped, if_pos stopped]
    rfl
  · rw [if_neg stopped, if_neg stopped]
    cases (getObject key).run w.store with
    | ok cur s => rfl
    | error e s =>
      -- The handler keeps the cluster the failed read left, whichever way it decides.
      dsimp only
      split <;> rfl

/-- A read that returned ran on a world that had not stopped, and gives the object the cluster
answered with, or nothing for a NotFound. -/
theorem readOrNone_returned {key : ResourceKey} {w w₁ : World} {c : Option Object}
    (ran : (readOrNone key).run w = .ok c w₁) :
    w.stopped = false ∧ ∃ s₁, w₁ = { w with store := s₁ } ∧
      ((∃ cur, (getObject key).run w.store = .ok cur s₁ ∧ c = some cur) ∨
        ∃ e, (getObject key).run w.store = .error e s₁ ∧ e.isNotFound = true ∧ c = none) := by
  rw [readOrNone_run] at ran
  -- A stopped world fails every read, so this one was running.
  by_cases stopped : w.stopped = true
  · rw [if_pos stopped] at ran
    cases ran
  rw [if_neg stopped] at ran
  refine ⟨Bool.eq_false_iff.mpr stopped, ?_⟩
  cases answer : (getObject key).run w.store with
  | ok cur s₁ =>
    rw [answer] at ran
    cases ran
    exact ⟨s₁, rfl, .inl ⟨cur, rfl, rfl⟩⟩
  | error e s₁ =>
    -- Of the cluster's failures only NotFound comes back as a value.
    rw [answer] at ran
    dsimp only at ran
    split at ran
    · rename_i notFound
      cases ran
      exact ⟨s₁, rfl, .inr ⟨e, rfl, notFound, rfl⟩⟩
    · cases ran

/-- A read that failed ran on a stopped world, or failed with the cluster's answer, which was no
NotFound. -/
theorem readOrNone_failed {key : ResourceKey} {w w₁ : World} {e : Error}
    (ran : (readOrNone key).run w = .error e w₁) :
    (w.stopped = true ∧ e = .config "stopped" ∧ w₁ = w) ∨
      (w.stopped = false ∧ ∃ s₁, (getObject key).run w.store = .error e s₁ ∧ e.isNotFound = false ∧
        w₁ = { w with store := s₁ }) := by
  rw [readOrNone_run] at ran
  by_cases stopped : w.stopped = true
  · rw [if_pos stopped] at ran
    cases ran
    exact .inl ⟨stopped, rfl, rfl⟩
  rw [if_neg stopped] at ran
  refine .inr ⟨Bool.eq_false_iff.mpr stopped, ?_⟩
  -- On a running world the read fails only where the cluster did, with something other than
  -- NotFound.
  cases answer : (getObject key).run w.store with
  | ok cur s₁ =>
    rw [answer] at ran
    cases ran
  | error e' s₁ =>
    rw [answer] at ran
    dsimp only at ran
    split at ran
    · cases ran
    · rename_i found
      cases ran
      exact ⟨s₁, rfl, Bool.eq_false_iff.mpr found, rfl⟩

/-- An update on a world that has not stopped is the cluster's answer. -/
theorem update_run {w : World} {o : Object} {S : Store} (running : w.stopped = false) :
    (discard (Engine.cluster (updateObject o))).run { w with store := S } =
      match (updateObject o).run S with
      | .ok _ S' => .ok () { w with store := S' }
      | .error e S' => .error e { w with store := S' } := by
  rw [discard_eq_map, run_map, Engine.cluster_run]
  dsimp only
  rw [if_neg (by simp [running])]
  cases (updateObject o).run S <;> rfl

namespace Shared

variable {w : World} {found : List Store} {key : ResourceKey} {r : EStateM.Result Error World Unit}

/-- On the shared cluster the round's read is other clients' updates, then the operator's own
read. -/
theorem read_eq (key : ResourceKey) :
    (tryCatch (some <$> call (getObject key)) fun e => if e.isNotFound then pure none else throw e :
      Shared (Option Object)) = after (readOrNone key) := by
  -- The handler makes no call of its own, so it is a plain program lifted into the shared monad.
  have handler : (fun e => if e.isNotFound then pure none else throw e : Error → Shared (Option Object)) =
      fun e => lift (if e.isNotFound then pure none else throw e) := by
    funext e
    split <;> rfl
  rw [handler, call, map_after, tryCatch_after]
  rfl

/-- What a round can do amid other clients' updates. They update the cluster to `s`, where the
round reads the control plane: a stopped world makes no call; a read that fails other than with
NotFound fails the round; a read that finds nothing to remove ends it; a read of the control
plane holding the finalizer is followed, after more updates of others up to `S`, by the round's
own update of what it read. -/
theorem releaseThrough_cases (ran : releaseThrough call key w found r) :
    ∃ s, Relation.ReflTransGen Store.OtherUpdate w.store s ∧
      ((w.stopped = true ∧ found = [s] ∧ r = .error (.config "stopped") { w with store := s }) ∨
       (w.stopped = false ∧ found = [s] ∧ ∃ e s₁, (getObject key).run s = .error e s₁ ∧
          e.isNotFound = false ∧ r = .error e { w with store := s₁ }) ∨
       (w.stopped = false ∧ found = [s] ∧ ∃ e s₁, (getObject key).run s = .error e s₁ ∧
          e.isNotFound = true ∧ r = .ok () { w with store := s₁ }) ∨
       (w.stopped = false ∧ found = [s] ∧ ∃ cur s₁, (getObject key).run s = .ok cur s₁ ∧
          controlPlaneFinalizer ∉ cur.finalizerList ∧ r = .ok () { w with store := s₁ }) ∨
       (w.stopped = false ∧ ∃ cur s₁ S, (getObject key).run s = .ok cur s₁ ∧
          controlPlaneFinalizer ∈ cur.finalizerList ∧ Relation.ReflTransGen Store.OtherUpdate s₁ S ∧
          found = [s, S] ∧ r = (discard (Engine.cluster (updateObject (cur.withMeta fun m => { m with
            finalizers := some (cur.finalizerList.filter (· != controlPlaneFinalizer)) })))).run
              { w with store := S })) := by
  unfold releaseThrough at ran
  rw [read_eq, bind_iff] at ran
  -- Either the read returned, with or without an object, and the round went on, or it failed.
  rcases ran with ⟨c, w₁, found₁, found₂, ⟨s, others, rfl, read⟩, rest, rfl⟩ |
    ⟨e, w₁, ⟨s, others, rfl, read⟩, rfl⟩
  · obtain ⟨running, s₁, rfl, answered⟩ := readOrNone_returned read.symm
    refine ⟨s, others, ?_⟩
    rcases answered with ⟨cur, answer, rfl⟩ | ⟨e, answer, notFound, rfl⟩
    · -- The control plane was read: the round ends unless it holds the finalizer.
      dsimp only at rest
      split at rest
      · rename_i unchanged
        obtain ⟨rfl, rfl⟩ := rest
        exact .inr (.inr (.inr (.inl ⟨running, rfl, cur, s₁, answer,
          length_filter_ne_beq.mp unchanged, rfl⟩)))
      · rename_i changed
        rw [discard_eq, call, map_after] at rest
        obtain ⟨S, others₂, rfl, wrote⟩ := rest
        refine .inr (.inr (.inr (.inr ⟨running, cur, s₁, S, answer, ?_, others₂, rfl, wrote⟩)))
        exact Classical.not_not.mp fun absent => changed (length_filter_ne_beq.mpr absent)
    · -- NotFound: nothing to remove, and the round returns at once.
      obtain ⟨rfl, rfl⟩ := rest
      exact .inr (.inr (.inl ⟨running, rfl, e, s₁, answer, notFound, rfl⟩))
  · -- A failed read ends the round: the world had stopped, or the cluster failed otherwise.
    refine ⟨s, others, ?_⟩
    rcases readOrNone_failed read.symm with ⟨stopped, rfl, rfl⟩ | ⟨running, s₁, answer, notFound, rfl⟩
    · exact .inl ⟨stopped, rfl, rfl⟩
    · exact .inr (.inl ⟨running, rfl, e, s₁, answer, notFound, rfl⟩)

/-- What one round of the removal did. Its calls logged one read of the control plane and at
most one update of it. Its read found the cluster as other clients left it. On a world that has
not stopped, its read found nothing to remove exactly when it returned Ok having made no other
call. An update it made that the cluster took found the control plane exactly as the read
returned it, holding the finalizer, and stored it without, its other finalizers in order and
every other field as read, under the next version and the generation the cluster gives; every
other object is as the update found it. -/
structure Round.Releases (key : ResourceKey) (x : Round) : Prop where
  logged : ∃ calls, calls <+: [⟨.get, key, none⟩, ⟨.update, key, none⟩] ∧
    (endState x.result).store.ops = x.start.store.ops ++ calls
  read : ∃ s rest, x.found = s :: rest ∧ Relation.ReflTransGen Store.OtherUpdate x.start.store s ∧
    rest.length ≤ 1
  settled : ∀ s, x.start.stopped = false → x.found.head? = some s →
    (s.NothingToRelease key ↔ x.found = [s] ∧ ∃ w', x.result = .ok () w')
  released : ∀ s S w', x.found = [s, S] → x.result = .ok () w' → ∃ cur g,
    s.lookup key = some cur ∧ controlPlaneFinalizer ∈ cur.finalizerList ∧ S.lookup key = some cur ∧
    w'.store.lookup key = some (cur.withMeta fun m => { m with
      finalizers := some (cur.finalizerList.filter (· != controlPlaneFinalizer)), generation := g,
      resourceVersion := some (toString w'.store.version) }) ∧
    w'.store.version = S.version + 1 ∧ ∀ k, k ≠ key → w'.store.lookup k = S.lookup k

/-- A round advances the cluster: others' updates, its read and its update all do. -/
theorem releaseThrough_advances (ran : releaseThrough call key w found r) :
    w.store.Advances (endState r).store := by
  obtain ⟨s, others, cases⟩ := releaseThrough_cases ran
  -- Other clients' updates before the read already advance the cluster.
  have before := (Store.advances_of_others others).1
  rcases cases with ⟨-, -, rfl⟩ | ⟨-, -, e, s₁, answer, -, rfl⟩ | ⟨-, -, e, s₁, answer, -, rfl⟩ |
    ⟨-, -, cur, s₁, answer, -, rfl⟩ | ⟨running, cur, s₁, S, answer, -, others₂, -, rfl⟩
  · exact before
  -- Every other case made the read, which advances the cluster whatever it answered.
  all_goals have read := getObject_advances key s
  all_goals rw [answer] at read
  · exact before.trans read
  · exact before.trans read
  · exact before.trans read
  · -- The update comes after more of the others' updates, and advances the cluster as well.
    have wrote := updateObject_advances_any (cur.withMeta fun m => { m with
      finalizers := some (cur.finalizerList.filter (· != controlPlaneFinalizer)) }) S
    rw [update_run running]
    refine before.trans (read.trans ((Store.advances_of_others others₂).1.trans ?_))
    cases updated : (updateObject _).run S <;> rw [updated] at wrote <;> exact wrote

theorem releaseThrough_logged (keyed : w.store.WellKeyed) (ran : releaseThrough call key w found r) :
    ∃ calls, calls <+: [⟨.get, key, none⟩, ⟨.update, key, none⟩] ∧
      (endState r).store.ops = w.store.ops ++ calls := by
  obtain ⟨s, others, cases⟩ := releaseThrough_cases ran
  -- Other clients' updates are not the operator's calls: they leave the log as it was.
  obtain ⟨before, unlogged⟩ := Store.advances_of_others others
  have reads : ([⟨.get, key, none⟩] : List Op) <+: [⟨.get, key, none⟩, ⟨.update, key, none⟩] := ⟨[_], rfl⟩
  rcases cases with ⟨-, -, rfl⟩ | ⟨-, -, e, s₁, answer, -, rfl⟩ | ⟨-, -, e, s₁, answer, -, rfl⟩ |
    ⟨-, -, cur, s₁, answer, -, rfl⟩ | ⟨running, cur, s₁, S, answer, -, others₂, -, rfl⟩
  · exact ⟨[], List.nil_prefix, by simpa using unlogged⟩
  all_goals have read := getObject_ops key s
  all_goals simp only [answer, endState_ok, endState_error] at read
  · exact ⟨_, reads, by simp [read, unlogged]⟩
  · exact ⟨_, reads, by simp [read, unlogged]⟩
  · exact ⟨_, reads, by simp [read, unlogged]⟩
  · -- The control plane read names its key, so the update is logged under it.
    have held := (getObject_ok answer).1
    have named : (cur.withMeta fun m => { m with
        finalizers := some (cur.finalizerList.filter (· != controlPlaneFinalizer)) }).key = .ok key :=
      (Object.key_withFinalizers cur _).trans (before.keyed keyed key cur held)
    have wrote := updateObject_ops named S
    refine ⟨_, List.prefix_refl _, ?_⟩
    rw [update_run running]
    cases updated : (updateObject _).run S <;> rw [updated] at wrote <;>
      simp only [endState_ok, endState_error] at wrote <;>
      simp [wrote, (Store.advances_of_others others₂).2, read, unlogged]

theorem releaseThrough_settled (ran : releaseThrough call key w found r) (running : w.stopped = false)
    {s : Store} (first : found.head? = some s) :
    s.NothingToRelease key ↔ found = [s] ∧ ∃ w', r = .ok () w' := by
  obtain ⟨s', -, cases⟩ := releaseThrough_cases ran
  rcases cases with ⟨stopped, -, -⟩ | ⟨-, rfl, e, s₁, answer, notFound, rfl⟩ |
    ⟨-, rfl, e, s₁, answer, notFound, rfl⟩ | ⟨-, rfl, cur, s₁, answer, absent, rfl⟩ |
    ⟨-, cur, s₁, S, answer, present, -, rfl, -⟩
  · simp [stopped] at running
  -- In each case the cluster the read found is the first one, and its answer decides both sides.
  all_goals cases first
  · simp [Store.NothingToRelease, answer, notFound]
  · simp [Store.NothingToRelease, answer, notFound]
  · simp [Store.NothingToRelease, answer, absent]
  · simp [Store.NothingToRelease, answer, present]

theorem releaseThrough_released (keyed : w.store.WellKeyed) (versioned : w.store.Versioned)
    (ran : releaseThrough call key w found r) {s S : Store} {w' : World} (calls : found = [s, S])
    (returned : r = .ok () w') :
    ∃ cur g, s.lookup key = some cur ∧ controlPlaneFinalizer ∈ cur.finalizerList ∧ S.lookup key = some cur ∧
      w'.store.lookup key = some (cur.withMeta fun m => { m with
        finalizers := some (cur.finalizerList.filter (· != controlPlaneFinalizer)), generation := g,
        resourceVersion := some (toString w'.store.version) }) ∧
      w'.store.version = S.version + 1 ∧ ∀ k, k ≠ key → w'.store.lookup k = S.lookup k := by
  obtain ⟨s', others, cases⟩ := releaseThrough_cases ran
  -- Only a round that found the finalizer makes a second call.
  rcases cases with ⟨-, rfl, -⟩ | ⟨-, rfl, -⟩ | ⟨-, rfl, -⟩ | ⟨-, rfl, -⟩ |
    ⟨running, cur, s₁, S', answer, present, others₂, rfl, rfl⟩
  · simp at calls
  · simp at calls
  · simp at calls
  · simp at calls
  obtain ⟨rfl, rfl⟩ : s = s' ∧ S = S' := by simpa using calls.symm
  obtain ⟨held, rfl⟩ := getObject_ok answer
  -- The cluster advanced from the start to the read, and from the read to the update.
  have atRead := (Store.advances_of_others others).1
  have atUpdate := (Store.advances_of_others others₂).1
  have logged : s.Advances (s.log ⟨.get, key, none⟩) := Store.Advances.of_data rfl rfl
  set update := cur.withMeta fun m => { m with
    finalizers := some (cur.finalizerList.filter (· != controlPlaneFinalizer)) } with built
  have named : update.key = .ok key := (Object.key_withFinalizers cur _).trans (atRead.keyed keyed key cur held)
  rw [update_run running] at returned
  -- The round returned Ok, so the cluster took the update.
  cases wrote : (updateObject update).run S with
  | error e S'' => rw [wrote] at returned; cases returned
  | ok u S'' =>
    rw [wrote] at returned
    cases returned
    obtain ⟨current, stored, fresh, -, -, -, placed, counter, others⟩ := updateObject_run_ok named wrote
    -- The update carries the version the read returned, and the cluster took it: the control
    -- plane stored at the update is the one read, whatever other clients wrote meanwhile.
    obtain ⟨n, -, carried⟩ := atRead.versioned versioned key cur held
    have unchanged : current = cur := by
      refine (logged.trans atUpdate).since.eq_of_version (atRead.versioned versioned) held stored ?_
      rcases fresh with unversioned | same
      · simp [update, Object.withMeta, carried] at unversioned
      · exact same.symm
    subst unchanged
    obtain ⟨g, rfl⟩ := updateObject_stored named wrote stored
    refine ⟨current, g, held, present, stored, ?_, counter, others⟩
    rw [placed, counter]
    rfl

/-- Every round of the removal from a versioned, well-keyed cluster does what a round does. -/
theorem releaseThrough_releases (keyed : w.store.WellKeyed) (versioned : w.store.Versioned)
    (ran : releaseThrough call key w found r) : Round.Releases key ⟨w, found, r⟩ := by
  refine ⟨releaseThrough_logged keyed ran, ?_, fun s running first => releaseThrough_settled ran running first,
    fun s S w' calls returned => releaseThrough_released keyed versioned ran calls returned⟩
  -- The read found the cluster as others left it, and at most the update followed.
  obtain ⟨s, others, cases⟩ := releaseThrough_cases ran
  rcases cases with ⟨-, rfl, -⟩ | ⟨-, rfl, -⟩ | ⟨-, rfl, -⟩ | ⟨-, rfl, -⟩ | ⟨-, -, -, S, -, -, -, rfl, -⟩
  · exact ⟨s, [], rfl, others, by simp⟩
  · exact ⟨s, [], rfl, others, by simp⟩
  · exact ⟨s, [], rfl, others, by simp⟩
  · exact ⟨s, [], rfl, others, by simp⟩
  · exact ⟨s, [S], rfl, others, by simp⟩

/-- The operator's own round is one of the round's shared runs. -/
theorem covers_releaseThrough (key : ResourceKey) :
    Covers (releaseThrough Engine.cluster key) (releaseThrough call key) := by
  unfold releaseThrough
  -- Step by step: each call is a shared call after no update of others, the rest is pure.
  refine Covers.bind (Covers.tryCatch (Covers.map _ (Covers.after _))
    fun e => Covers.ite (Covers.pure _) (Covers.throw _)) fun c => ?_
  cases c with
  | none => exact Covers.pure _
  | some cur => exact Covers.ite (Covers.pure _) (Covers.map _ (Covers.after _))

end Shared

open Shared in
/-- A run of the finalizer's removal of `cp` from `w`, whose calls found the clusters `found`
and which ended in `r`, split into its rounds. -/
structure FinalizerRemoval (cp : ControlPlane) (retry : RetryConfig) (w : World) (found : List Store)
    (r : EStateM.Result Error World Unit) (rounds : List Round) : Prop where
  /-- The first round starts from `w`. -/
  first : rounds.head?.map Round.start = some w
  /-- At most the attempts the configuration allows, and at least one. -/
  bounded : rounds.length ≤ max 1 retry.maxAttempts
  /-- Each round is a round of the removal, and does what such a round does. -/
  each : ∀ x ∈ rounds,
    releaseThrough call cp.clusterKey x.start x.found x.result ∧ x.Releases cp.clusterKey
  /-- Each round but the last conflicted, and the next started on the cluster it left. -/
  conflicted : rounds.IsChain fun x y =>
    ∃ e w₁, x.result = .error e w₁ ∧ e.isConflict = true ∧ y.start.store = w₁.store
  /-- The calls of the rounds are the run's, in order. -/
  calls : found = (rounds.map Round.found).flatten
  /-- The run ends as its last round did: Ok as it is; a conflict, only once every attempt was
  made, as a finalizer failure naming the control plane; any other error unchanged. -/
  ended : ∀ x ∈ rounds.getLast?,
    (∀ w', x.result = .ok () w' → r = .ok () w') ∧
    (∀ e w', x.result = .error e w' → e.isConflict = true → rounds.length = max 1 retry.maxAttempts ∧
      r = .error (.finalizer ("could not remove finalizer from " ++ cp.clusterKey.render ++ ": " ++ e.message)) w') ∧
    (∀ e w', x.result = .error e w' → e.isConflict = false → r = .error e w')

/-- Removing the finalizer amid other clients' updates, on a cluster whose objects are versioned
and well keyed, runs as `FinalizerRemoval` describes, whatever the other clients write. -/
theorem removeFinalizer_amid_updates (cp : ControlPlane) (retry : RetryConfig) {w : World}
    {found : List Store} {r : EStateM.Result Error World Unit} (keyed : w.store.WellKeyed)
    (versioned : w.store.Versioned) (ran : removeFinalizerThrough Shared.call Shared.sleep cp retry w found r) :
    ∃ rounds, FinalizerRemoval cp retry w found r rounds := by
  rw [removeFinalizerThrough_eq, Shared.tryCatch_iff] at ran
  -- Every round keeps the stored objects versioned and under their keys, so each starts so.
  have keeps : ∀ w found r, (w.store.Versioned ∧ w.store.WellKeyed) →
      releaseThrough Shared.call cp.clusterKey w found r →
        ((endState r).store.Versioned ∧ (endState r).store.WellKeyed) :=
    fun w found r holds ran => ⟨(Shared.releaseThrough_advances ran).versioned holds.1,
      (Shared.releaseThrough_advances ran).keyed holds.2⟩
  -- The loop makes its first attempt and then up to `maxAttempts - 1` more.
  have attempts : retry.maxAttempts - 1 + 1 = max 1 retry.maxAttempts := by omega
  have loopRounds : ∀ {found r}, retryOnConflict retry Shared.sleep (releaseThrough Shared.call cp.clusterKey) w found r →
      ∃ rounds, Shared.Retried Error.isConflict (releaseThrough Shared.call cp.clusterKey) (retry.maxAttempts - 1)
        w found r rounds ∧ ∀ x ∈ rounds, x.start.store.Versioned ∧ x.start.store.WellKeyed :=
    fun loop => Shared.retryWhile_go_retried (P := fun s => s.Versioned ∧ s.WellKeyed) keeps _ ⟨versioned, keyed⟩ loop
  -- The loop returned, and so did the removal; or it failed and the handler decided.
  rcases ran with ⟨a, w₁, loop, rfl⟩ | ⟨e, w₁, found₁, found₂, loop, handled, rfl⟩
  · obtain ⟨rounds, retried, invariant⟩ := loopRounds loop
    refine ⟨rounds, retried.first, attempts ▸ retried.bounded, fun x mem => ⟨retried.runs x mem,
      Shared.releaseThrough_releases (invariant x mem).2 (invariant x mem).1 (retried.runs x mem)⟩,
      retried.retried, retried.calls, fun x last => ?_⟩
    rw [Option.mem_def] at last
    -- The last round returned what the loop returned; it cannot have failed.
    have result : x.result = .ok a w₁ := by simpa [last] using retried.last
    refine ⟨fun w' returned => ?_, fun e w' failed => ?_, fun e w' failed => ?_⟩
    · rw [result] at returned
      cases returned
      rfl
    · rw [result] at failed
      cases failed
    · rw [result] at failed
      cases failed
  · -- The handler turns a conflict into a finalizer failure and passes any other error on.
    have outcome : found₂ = [] ∧ r = .error (if e.isConflict then
        .finalizer ("could not remove finalizer from " ++ cp.clusterKey.render ++ ": " ++ e.message) else e) w₁ := by
      split at handled <;> rename_i conflict <;> obtain ⟨rfl, rfl⟩ := handled <;> simp [conflict]
    obtain ⟨rfl, rfl⟩ := outcome
    obtain ⟨rounds, retried, invariant⟩ := loopRounds loop
    refine ⟨rounds, retried.first, attempts ▸ retried.bounded, fun x mem => ⟨retried.runs x mem,
      Shared.releaseThrough_releases (invariant x mem).2 (invariant x mem).1 (retried.runs x mem)⟩,
      retried.retried, by simpa using retried.calls, fun x last => ?_⟩
    rw [Option.mem_def] at last
    -- The last round failed as the loop did: a conflict there means every attempt was made.
    have result : x.result = .error e w₁ := by simpa [last] using retried.last
    refine ⟨fun w' returned => ?_, fun e' w' failed conflict => ?_, fun e' w' failed conflict => ?_⟩
    · rw [result] at returned
      cases returned
    · rw [result] at failed
      cases failed
      exact ⟨attempts ▸ retried.exhausted e w₁ rfl conflict, by simp [conflict]⟩
    · rw [result] at failed
      cases failed
      simp [conflict]

/-- With no other client writing, the operator's own removal is one of its shared runs, so it
runs as `FinalizerRemoval` describes too. -/
theorem removeFinalizer_shared (cp : ControlPlane) (retry : RetryConfig) (w : World) :
    ∃ found, removeFinalizerThrough Shared.call Shared.sleep cp retry w found ((removeFinalizer cp retry).run w) := by
  rw [removeFinalizer, removeFinalizerThrough_eq, removeFinalizerThrough_eq]
  -- The operator's calls are shared calls after no update of others, in every round.
  exact Shared.Covers.tryCatch (Shared.covers_retryWhile (Shared.covers_releaseThrough _) _ _)
    (fun e => Shared.Covers.ite (Shared.Covers.throw _) (Shared.Covers.throw _)) w

/-- The control plane `basic` as the cluster holds it at the first version, with another
controller's finalizer before the operator's. -/
def sharedPlaneObject : Object :=
  (deletedPlane.toObject.toOption.getD {}).withMeta fun m => { m with
    finalizers := some ["example.com/cleanup", controlPlaneFinalizer], resourceVersion := some "1" }

/-- A cluster holding only that control plane. -/
def sharedPlaneCluster : World :=
  { store := { objects := [(deletedPlane.clusterKey, sharedPlaneObject)], version := 1 } }

theorem sharedPlaneCluster_keyed : sharedPlaneCluster.store.WellKeyed := by
  refine Store.WellKeyed.of_objects fun p mem => ?_
  simp only [sharedPlaneCluster, List.mem_singleton] at mem
  subst mem
  rfl

theorem sharedPlaneCluster_versioned : sharedPlaneCluster.store.Versioned := by
  intro k o held
  simp only [sharedPlaneCluster, Store.lookup, List.find?] at held
  -- The only object is the control plane, stored at the cluster's one version.
  split at held
  · cases held
    exact ⟨1, le_refl _, rfl⟩
  · cases held

/-- Removing the finalizer from `basic` on that cluster runs as `FinalizerRemoval` describes. -/
theorem removeFinalizer_amid_updates_basic :
    ∃ found r, sharedPlaneCluster.store.WellKeyed ∧ sharedPlaneCluster.store.Versioned ∧
      removeFinalizerThrough Shared.call Shared.sleep deletedPlane .standard sharedPlaneCluster found r ∧
      ∃ rounds, FinalizerRemoval deletedPlane .standard sharedPlaneCluster found r rounds := by
  obtain ⟨found, ran⟩ := removeFinalizer_shared deletedPlane .standard sharedPlaneCluster
  exact ⟨found, _, sharedPlaneCluster_keyed, sharedPlaneCluster_versioned, ran,
    removeFinalizer_amid_updates deletedPlane .standard sharedPlaneCluster_keyed sharedPlaneCluster_versioned ran⟩

end MeshControl
