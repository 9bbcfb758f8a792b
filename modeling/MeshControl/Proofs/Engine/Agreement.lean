import MeshControl.Engine.ControlPlane
import MeshControl.Proofs.Engine.Presence

/-! Whether the status of a control plane agrees with its cluster after a pass: it does when no
component deletes a key an earlier one rendered, and may not when one does. -/

namespace MeshControl

namespace Store

/-- What a call that deletes only keys of `K` keeps: every other key held stays held. -/
def Spares (K : List ResourceKey) (s s' : Store) : Prop :=
  ∀ k, k ∉ K → s.contains k → s'.contains k

variable {K : List ResourceKey}

theorem Spares.refl (s : Store) : Spares K s s := fun _ _ held => held

theorem Spares.trans {s₁ s₂ s₃ : Store} (first : Spares K s₁ s₂) (second : Spares K s₂ s₃) :
    Spares K s₁ s₃ :=
  fun k other held => second k other (first k other held)

instance : IsPreorder Store (Spares K) where
  refl := Spares.refl
  trans _ _ _ := Spares.trans

/-- Sparing all but fewer keys spares all but more. -/
theorem Spares.weaken {K' : List ResourceKey} {s s' : Store} (spares : Spares K s s')
    (fewer : ∀ k ∈ K, k ∈ K') : Spares K' s s' :=
  fun k other held => spares k (fun member => other (fewer k member)) held

/-- A call that deletes nothing spares every key. -/
theorem Grows.spares {s s' : Store} (grew : Grows s s') : Spares K s s' :=
  fun k _ held => grew.present k held

end Store

/-- Recording a call, failed or not, keeps every object. -/
theorem record_spares (K : List ResourceKey) (verb : Verb) (key : ResourceKey)
    (p : Option Propagation) : Keeps (Store.Spares K) (record verb key p) := by
  intro s
  rw [record_run]
  -- Recording only logs, whether or not a failure is injected.
  cases findFailure s.failures verb key.name with
  | none => exact fun k _ held => by simpa using held
  | some hit => exact fun k _ held => by simpa [Store.contains, Store.lookup] using held

/-- A deletion takes away its own key and no other. -/
theorem deleteObject_spares (key : ResourceKey) (p : Option Propagation) :
    Keeps (Store.Spares [key]) (deleteObject key p) := by
  unfold deleteObject
  refine Keeps.bind (record_spares _ _ _ _) fun _ => Keeps.bind Keeps.get fun s => ?_
  refine Keeps.ite (Keeps.modify fun s k other held => ?_) (Keeps.throw _)
  -- Only the deleted key is removed from the cluster.
  have differ : k ≠ key := by simpa using other
  simp [differ, held]

namespace World

/-- What a step that deletes only keys of `K` keeps of the cluster: every other key held stays
held. -/
def Spares (K : List ResourceKey) (w w' : World) : Prop := Store.Spares K w.store w'.store

instance {K : List ResourceKey} : IsPreorder World (Spares K) where
  refl w := Store.Spares.refl w.store
  trans _ _ _ first second := Store.Spares.trans first second

theorem Steady.spares {K : List ResourceKey} {w w' : World} (steady : Steady w w') : Spares K w w' :=
  steady.store.spares

end World

/-- A cluster call that spares keys is a world step that spares them. -/
theorem Engine.cluster_spares {α : Type} {K : List ResourceKey} {x : StoreM α}
    (spares : Keeps (Store.Spares K) x) : Keeps (World.Spares K) (Engine.cluster x) := by
  intro w
  show Store.Spares K w.store (endState ((Engine.cluster x).run w)).store
  rw [Engine.endState_cluster]
  -- A stopped world keeps every object; a running one spares what the call spares.
  split
  · exact Store.Spares.refl w.store
  · exact spares w.store

/-- Steps that delete nothing spare every key. -/
theorem Keeps.spares_of_steady {α : Type} {K : List ResourceKey} {x : Engine α}
    (steady : Keeps World.Steady x) : Keeps (World.Spares K) x :=
  steady.weaken fun _ _ moved => moved.spares

/-- Deleting a resource takes away its own key and no other, whatever the cluster answers. -/
theorem deleteResource_spares (ctx : Context) (key : ResourceKey) :
    Keeps (World.Spares [key]) (deleteResource ctx key) := by
  unfold deleteResource
  refine Keeps.bind (Engine.attempt_keeps (Engine.cluster_spares (deleteObject_spares _ _))) fun r => ?_
  have hooks : Keeps (World.Spares [key]) (ctx.hooks.afterDelete key) :=
    Keeps.spares_of_steady (Hooks.afterDelete_steady _ _)
  dsimp only
  -- Counting and the hooks after the deletion delete nothing.
  cases r with
  | ok u =>
    cases u
    exact Keeps.bind (Keeps.spares_of_steady (Engine.record_steady _)) fun _ => hooks
  | error e => exact Keeps.ite (Keeps.throw_bind _ _) hooks

/-- The keys of stale entries are keys not applied again. -/
theorem not_mem_of_stale {processed : List ResourceKey} {rs : List ResourceStatus} {k : ResourceKey}
    (stale : k ∈ (staleEntries processed rs).map (·.resource)) : k ∉ processed := by
  simp only [staleEntries, List.mem_map, List.mem_filter] at stale
  -- A stale entry's key was not applied again.
  obtain ⟨r, ⟨_, kept⟩, rfl⟩ := stale
  simp_all

/-- The deletion pass takes away only the keys of its stale entries. -/
theorem deleteStale_spares (ctx : Context) (processed : List ResourceKey) :
    ∀ (rs : List ResourceStatus) (errors : Aggregate),
      Keeps (World.Spares ((staleEntries processed rs).map (·.resource))) (deleteStale ctx processed rs errors)
  | [], _ => Keeps.pure _
  | r :: older, errors => by
    unfold deleteStale
    rw [staleEntries_cons]
    -- An entry that is not stale is passed over.
    split
    · exact deleteStale_spares ctx processed older errors
    · -- This entry's key, then the older entries' keys.
      refine Keeps.bind Engine.now_keeps fun now => ?_
      refine Keeps.bind (Engine.attempt_keeps (Keeps.weaken (deleteResource_spares ctx r.resource)
        fun _ _ spares => spares.weaken (by simp))) fun res => ?_
      have later : ∀ errors', Keeps (World.Spares ((r :: staleEntries processed older).map (·.resource)))
          (deleteStale ctx processed older errors') := fun errors' =>
        (deleteStale_spares ctx processed older errors').weaken fun _ _ spares => spares.weaken (by simp_all)
      dsimp only
      cases res with
      | ok u =>
        cases u
        exact Keeps.bind (Keeps.pure _) fun _ => Keeps.bind (later _) fun _ => Keeps.pure _
      | error e => exact Keeps.bind (Keeps.pure _) fun _ => Keeps.bind (later _) fun _ => Keeps.pure _

/-- The deletion pass always returns. The failures so far stay, followed by plain failures of
its own; when it met none, no entry it returns is installed. -/
theorem deleteStale_outcome (ctx : Context) (processed : List ResourceKey) :
    ∀ (rs : List ResourceStatus) (errors : Aggregate) (w : World),
      Returns (deleteStale ctx processed rs errors) w fun r _ =>
        ∃ failed, r.2.errors = errors.errors ++ failed ∧ (∀ e ∈ failed, e.Plain) ∧
          (failed = [] → ∀ d ∈ r.1, d.status.isInstalled = false)
  | [], errors, _ => Returns.pure ⟨[], by simp, by simp, by simp⟩
  | r :: older, errors, w => by
    unfold deleteStale
    -- An entry that is not stale adds nothing.
    split
    · exact deleteStale_outcome ctx processed older errors w
    · refine Returns.bind (Returns.mono (Engine.now_returns w) fun now w₀ _ => ?_)
      refine Returns.bind (Returns.mono (Engine.attempt_returns (R := fun _ _ => True)
        (fun _ => trivial) w₀) fun res w₁ outcome => ?_)
      have failedRun := outcome.2.2
      -- The older entries come after this one, and their failures after its own.
      have later : ∀ (entry : ResourceStatus) (own : List Error) (errors' : Aggregate),
          errors'.errors = errors.errors ++ own → (∀ e ∈ own, e.Plain) →
          (own = [] → entry.status.isInstalled = false) →
          Returns (deleteStale ctx processed older errors' >>= fun rest =>
            pure (rest.1 ++ [entry], rest.2)) w₁ fun r _ =>
            ∃ failed, r.2.errors = errors.errors ++ failed ∧ (∀ e ∈ failed, e.Plain) ∧
              (failed = [] → ∀ d ∈ r.1, d.status.isInstalled = false) := by
        intro entry own errors' grew plain deleted
        refine Returns.bind (Returns.mono (deleteStale_outcome ctx processed older errors' w₁)
          fun rest _ outcome => ?_)
        obtain ⟨failed, grew', plain', gone⟩ := outcome
        refine Returns.pure ⟨own ++ failed, ?_, ?_, ?_⟩
        · simp [grew', grew]
        · intro e member
          -- This entry's failures come first, then the older entries'.
          rcases List.mem_append.mp member with mine | theirs
          · exact plain e mine
          · exact plain' e theirs
        · intro none d member
          obtain ⟨noneOwn, noneLater⟩ := List.append_eq_nil_iff.mp none
          rcases List.mem_append.mp member with older | here
          · exact gone noneLater d older
          · rw [List.mem_singleton.mp here]
            exact deleted noneOwn
      dsimp only
      cases res with
      | ok u =>
        cases u
        -- A successful deletion leaves Installed False.
        refine Returns.bind (Returns.pure (later _ [] errors (by simp) (by simp) fun _ => ?_))
        simp [StatusType.isInstalled, Condition.isTrue, (StatusType.afterDelete_none _ now).1]
      | error e =>
        have isPlain : e.Plain := deleteResource_plain ctx r.resource w₀ e w₁ (failedRun e rfl)
        exact Returns.bind (Returns.pure (later _ [e] _ (Aggregate.push_plain errors isPlain)
          (by simpa using isPlain) fun none => absurd none (List.cons_ne_nil e [])))

/-- A component pass always returns. It takes away only the keys of its stale entries; its
outcome gathers plain failures; and when it succeeds, every entry it reports installed has a
key it renders and names an object the cluster holds. -/
theorem reconcileComponent_installs (ctx : Context) (name : String) (ms : List Manifest)
    (previous : Option ComponentStatus) (w : World) :
    Returns (reconcileComponent ctx name ms previous) w fun r w' =>
      World.Spares ((staleEntries (renderedKeys ms) (previous.getD (.named name)).resources).map
        (·.resource)) w w' ∧
      (∃ errors : Aggregate, r.2 = errors.toResult ∧ ∀ e ∈ errors.errors, e.Plain) ∧
      (r.2 = .ok () → ∀ e ∈ r.1.resources, e.status.isInstalled = true →
        e.resource ∈ renderedKeys ms ∧ w'.store.contains e.resource) := by
  unfold reconcileComponent
  -- Applying deletes nothing and leaves what it installed without failure.
  refine Returns.bind (Returns.mono ((applyManifests_installs ctx _ ms _ w).and
    (applyManifests_returns ctx _ ms _ w)) fun t w₁ ⟨⟨steady, installs⟩, added⟩ => ?_)
  have walked : staleEntries t.processed (previous.getD (.named name)).resources.reverse =
      (staleEntries (renderedKeys ms) (previous.getD (.named name)).resources).reverse :=
    added.staleEntries_processed_reverse rfl _
  refine Returns.bind (Returns.mono ((Returns.with_keeps (deleteStale_spares ctx t.processed _ _)
    (deleteStale_outcome ctx t.processed _ t.errors w₁))) fun ⟨removed, errors⟩ w₂ ⟨spares, outcome⟩ => ?_)
  -- The deletion pass adds its own plain failures after those of applying.
  obtain ⟨failed, grew, plain, gone⟩ := outcome
  obtain ⟨own, ownGrew, ownPlain⟩ := installs.failed
  dsimp only at grew gone ownGrew
  rw [List.nil_append] at ownGrew
  refine Returns.bind (Returns.mono (Engine.now_returns w₂) fun now w₃ ⟨_, same⟩ => ?_)
  subst same
  -- Both kinds of pass report the applied statuses followed by the removed ones.
  have outcome : World.Spares ((staleEntries (renderedKeys ms) (previous.getD (.named name)).resources).map
        (·.resource)) w w₃ ∧
      (∃ errors' : Aggregate, errors.toResult = errors'.toResult ∧ ∀ e ∈ errors'.errors, e.Plain) ∧
      (errors.toResult = .ok () → ∀ e ∈ t.status.resources ++ removed, e.status.isInstalled = true →
        e.resource ∈ renderedKeys ms ∧ w₃.store.contains e.resource) := by
    refine ⟨(steady.spares).trans (spares.weaken (by simp [walked])), ⟨errors, rfl, ?_⟩, ?_⟩
    -- The failures of applying and of deleting are all plain.
    · intro e member
      simp only [grew, ownGrew, List.mem_append] at member
      rcases member with mine | theirs
      · exact ownPlain e mine
      · exact plain e theirs
    · intro ok e member installed
      have none : own = [] ∧ failed = [] := by
        simpa [grew, ownGrew] using (Aggregate.toResult_ok_iff errors).mp ok
      obtain ⟨applied, appended, present⟩ := installs.present (by simp [ownGrew, none.1])
      -- An entry reported installed was applied, or removed by the deletion pass.
      rcases List.mem_append.mp member with fresh | deleted
      · -- An applied entry has a rendered key, which no stale entry has.
        have rendered : e.resource ∈ renderedKeys ms := by
          obtain ⟨applied', named, appended'⟩ := added.applied
          rw [← named]
          simp only [List.nil_append] at appended'
          exact List.mem_map_of_mem (appended' ▸ fresh)
        have kept : e.resource ∉ (staleEntries t.processed (previous.getD (.named name)).resources.reverse).map
            (·.resource) := fun stale =>
          not_mem_of_stale stale ((added.processed e.resource).mpr (Or.inr rendered))
        have held : w₁.store.contains e.resource := present e (by simpa [appended] using fresh)
        exact ⟨rendered, spares e.resource kept held⟩
      -- A removed entry without failure is not installed.
      · exact absurd installed (by simp [gone none.2 e deleted])
  split
  · exact Returns.pure outcome
  · exact Returns.pure outcome

/-! Components in sequence. -/

/-- Checking Deployments keeps what every step of the engine keeps. -/
theorem deploymentsReady_keeps {R : World → World → Prop} [IsPreorder World R] (steps : World.StepsKeep R) :
    ∀ keys : List ResourceKey, Keeps R (deploymentsReady keys)
  | [] => Keeps.pure _
  | k :: rest => by
    unfold deploymentsReady
    -- Each Deployment is read, and the check stops at the first not ready.
    exact Keeps.bind (steps.cluster (getObject_grows k)) fun _ =>
      Keeps.ite (deploymentsReady_keeps steps rest) (Keeps.pure _)

/-- Waiting for a component keeps what every step of the engine keeps. -/
theorem waitForComponent_keeps {R : World → World → Prop} [IsPreorder World R] (steps : World.StepsKeep R)
    (cfg : EngineConfig) (c : ComponentStatus) : Keeps R (waitForComponent cfg c) := by
  unfold waitForComponent
  dsimp only
  exact Keeps.ite (Keeps.pure _) (Keeps.discard (pollUntil_keeps steps.sleep (deploymentsReady_keeps steps _)))

/-- Waiting for a component reads Deployments and lets time pass, and always returns. -/
theorem waitForComponent_steady (cfg : EngineConfig) (c : ComponentStatus) (w : World) :
    Returns (waitForComponent cfg c) w fun _ w' => World.Steady w w' := by
  have kept := waitForComponent_keeps World.steady_stepsKeep cfg c
  -- The wait is skipped or polls, which always returns.
  have total : Returns (waitForComponent cfg c) w fun _ _ => True := by
    unfold waitForComponent
    dsimp only
    split
    · exact Returns.pure trivial
    · exact Returns.map (pollUntil_returns (fun _ _ => ⟨(), _, rfl, trivial⟩) w)
  exact Returns.mono (Returns.with_keeps kept total) fun _ _ ⟨steady, _⟩ => steady

/-- The manifests a component renders; none when it did not render. -/
def manifestsOf (rendered : Rendered) (name : String) : List Manifest :=
  ((rendered.find? (·.1 == name)).map (·.2)).getD []

/-- The keys a pass over the component `name` deletes: those of its previous entries that it no
longer renders and that are not known to be deleted. -/
def staleKeys (previous : ControlPlaneStatus) (rendered : Rendered) (name : String) :
    List ResourceKey :=
  (staleEntries (renderedKeys (manifestsOf rendered name))
    ((previous.find? name).getD (.named name)).resources).map (·.resource)

/-- Components in sequence are separated when none deletes a key that one before it renders. -/
def Separated (previous : ControlPlaneStatus) (rendered : Rendered) (names : List String) : Prop :=
  names.Pairwise fun i j => ∀ k ∈ renderedKeys (manifestsOf rendered i), k ∉ staleKeys previous rendered j

instance (previous : ControlPlaneStatus) (rendered : Rendered) (names : List String) :
    Decidable (Separated previous rendered names) :=
  inferInstanceAs (Decidable (names.Pairwise _))

/-- Component statuses agree with a cluster: every entry marked installed has a key among `seen`
and names an object the cluster holds. -/
def Agrees (seen : List ResourceKey) (done : List ComponentStatus) (s : Store) : Prop :=
  ∀ c ∈ done, ∀ r ∈ c.resources, r.status.isInstalled = true → r.resource ∈ seen ∧ s.contains r.resource

/-- One step of a run over components: the pass over the first, then the rest with it noted,
from a world that counting it and waiting for it left related by whatever the engine's steps keep. -/
theorem reconcileComponents_cons_returns {cfg : EngineConfig} {ctx : Context}
    {previous : ControlPlaneStatus} {rendered : Rendered} {name : String} {rest : List String}
    {done : List ComponentStatus} {errors : Aggregate} {w : World}
    {post : ComponentStatus × Except Error Unit → World → Prop}
    {Q : List ComponentStatus × Aggregate → World → Prop}
    (pass : Returns (reconcileComponent ctx name (manifestsOf rendered name) (previous.find? name)) w post)
    (next : ∀ component result w₁ w₂ (done' : List ComponentStatus), post (component, result) w₁ →
      (∀ (R : World → World → Prop) [IsPreorder World R], World.StepsKeep R → R w₁ w₂) →
      done' = (if (!(manifestsOf rendered name).any Manifest.isYaml && component.resources.isEmpty &&
        component.status.isDeleted) = true then done else done ++ [component]) →
      Returns (reconcileComponents cfg ctx previous rendered rest (done', errors.collect result)) w₂ Q) :
    Returns (reconcileComponents cfg ctx previous rendered (name :: rest) (done, errors)) w Q := by
  unfold reconcileComponents
  dsimp only
  refine Returns.bind (Returns.mono pass fun r w₁ holds => ?_)
  obtain ⟨component, result⟩ := r
  -- Counting the pass is a step of the engine, and returns.
  refine Returns.bind (Returns.mono (Returns.with_run (Engine.record_total _ w₁)) fun _ w₂ counted => ?_)
  have between : ∀ (R : World → World → Prop) [IsPreorder World R], World.StepsKeep R → R w₁ w₂ := by
    intro R _ steps
    exact Keeps.of_ok counted.1 (steps.record _)
  -- Only a component that succeeded may be waited for; either way the rest follows.
  cases result with
  | ok u =>
    cases u
    dsimp only
    split
    · refine Returns.bind (Returns.mono (Returns.with_run (waitForComponent_steady cfg component w₂))
        fun _ w₃ waited => Returns.bind (Returns.pure (next component (.ok ()) w₁ w₃ _ holds ?_ rfl)))
      -- The wait is made of the engine's steps too.
      intro R _ steps
      exact IsTrans.trans _ _ _ (between R steps) (Keeps.of_ok waited.1 (waitForComponent_keeps steps cfg component))
    · exact Returns.bind (Returns.pure (next component (.ok ()) w₁ w₂ _ holds between rfl))
  | error e =>
    dsimp only
    exact Returns.bind (Returns.pure (next component (.error e) w₁ w₂ _ holds between rfl))

/-- Running components in sequence always returns, and only adds failures. When none of them
deletes a key seen before it, and the pass ends without failures, the component statuses agree
with the cluster. -/
theorem reconcileComponents_agrees (cfg : EngineConfig) (ctx : Context)
    (previous : ControlPlaneStatus) (rendered : Rendered) :
    ∀ (names : List String) (done : List ComponentStatus) (errors : Aggregate)
      (seen : List ResourceKey) (w : World),
      Separated previous rendered names →
      (∀ j ∈ names, ∀ k ∈ seen, k ∉ staleKeys previous rendered j) →
      (errors.errors = [] → Agrees seen done w.store) →
      Returns (reconcileComponents cfg ctx previous rendered names (done, errors)) w fun r w' =>
        (∃ more, r.2.errors = errors.errors ++ more) ∧
        (r.2.errors = [] →
          Agrees (seen ++ names.flatMap fun n => renderedKeys (manifestsOf rendered n)) r.1 w'.store)
  | [], done, errors, seen, w, _, _, agrees =>
    Returns.pure ⟨⟨[], by simp⟩, fun none => by simpa using agrees none⟩
  | name :: rest, done, errors, seen, w, separated, fresh, agrees => by
    -- This component deletes no key seen before it, nor do those after it.
    obtain ⟨ahead, separatedRest⟩ := List.pairwise_cons.mp separated
    refine reconcileComponents_cons_returns (reconcileComponent_installs ctx name (manifestsOf rendered name)
      (previous.find? name) w) fun component result w₁ w₂ done' facts between noted => ?_
    obtain ⟨spares, ⟨own, isResult, plain⟩, installed⟩ := facts
    dsimp only at isResult installed
    have steady : World.Steady w₁ w₂ := between World.Steady World.steady_stepsKeep
    -- The component's failures are gathered after those so far.
    have gathered : (errors.collect result).errors = errors.errors ++ own.errors := by
      rw [isResult, Aggregate.collect_toResult errors own plain]
    have kept : ∀ c ∈ done', c ∈ done ++ [component] := by
      -- A dropped component keeps what was done; a kept one adds itself.
      rw [noted]
      split
      · exact fun c member => List.mem_append_left _ member
      · exact fun c member => member
    -- What was installed before, and what this component installed, is still there.
    have agrees' : (errors.collect result).errors = [] →
        Agrees (seen ++ renderedKeys (manifestsOf rendered name)) done' w₂.store := by
      intro none c member r held isInstalled
      have clean : errors.errors = [] ∧ own.errors = [] := by simpa [gathered] using none
      -- A status kept before stays agreed; this component's entries were installed present.
      rcases List.mem_append.mp (kept c member) with old | new
      · obtain ⟨seenBefore, present⟩ := agrees clean.1 c old r held isInstalled
        have spared := spares r.resource (fresh name (by simp) _ seenBefore) present
        exact ⟨List.mem_append_left _ seenBefore, steady.store.present _ spared⟩
      · rw [List.mem_singleton.mp new] at held
        have ok : result = .ok () := by rw [isResult, (Aggregate.toResult_ok_iff own).mpr clean.2]
        obtain ⟨rendered', present⟩ := installed ok r held isInstalled
        exact ⟨List.mem_append_right _ rendered', steady.store.present _ present⟩
    refine Returns.mono (reconcileComponents_agrees cfg ctx previous rendered rest done' (errors.collect result)
      (seen ++ renderedKeys (manifestsOf rendered name)) w₂ separatedRest (fun j member k seen' => ?_)
      agrees') fun r w' later => ?_
    -- The keys seen now are those seen before and this component's.
    · rcases List.mem_append.mp seen' with before | here
      · exact fresh j (List.mem_cons_of_mem _ member) k before
      · exact ahead j member k here
    · obtain ⟨⟨more, grew⟩, agreed⟩ := later
      exact ⟨⟨own.errors ++ more, by simp [grew, gathered]⟩, by simpa [List.flatMap_cons] using agreed⟩

/-! A whole pass over a control plane. -/

/-- A full pass that completes ran its components without failures and then stored a status
built from them. -/
theorem reconcileControlPlane_complete (cfg : EngineConfig) (cp : ControlPlane) (rendered : Rendered)
    {w w' : World} (active : cp.isBeingDeleted = false) (finalized : cp.hasFinalizer = true)
    (due : (cp.metadata.generation.getD 0 == cp.statusOrDefault.status.observedGeneration &&
      cp.statusOrDefault.status.isInstalled && cp.statusOrDefault.status.isReconciled) = false)
    (ran : (reconcileControlPlane cfg cp (.ok rendered)).run w = .ok .complete w') :
    ∃ (components : List ComponentStatus) (w₁ : World),
      (reconcileComponents cfg (Context.make cp cfg.operatorVersion cfg.hooks) cp.statusOrDefault rendered
        (componentSequence cfg.order (rendered.map (·.1)) (cp.statusOrDefault.componentStatus.map (·.resource)))
        ([], {})).run w = .ok (components, {}) w₁ ∧
      (persistStatus cp ⟨({ cp.statusOrDefault.status with
          observedGeneration := cp.metadata.generation.getD 0 }).afterReconcile w₁.now none,
        components⟩).run w₁ = .ok () w' := by
  unfold reconcileControlPlane at ran
  simp only [active, finalized, due, Bool.false_eq_true, Bool.not_true, if_false] at ran
  -- The components ran, the clock was read, and the status was stored.
  obtain ⟨⟨components, errors⟩, w₁, passed, rest⟩ := run_bind_ok ran
  obtain ⟨now, w₂, readNow, rest⟩ := run_bind_ok rest
  obtain ⟨read, same⟩ := (Engine.now_returns w₁).holds readNow
  subst read
  subst w₂
  obtain ⟨persisted, w₃, attempted, rest⟩ := run_bind_ok rest
  obtain ⟨_, persistedOk, _⟩ := (Engine.attempt_returns (R := fun _ _ => True) (fun _ => trivial) w₁).holds attempted
  -- Only a stored status and no failure complete the pass.
  cases persisted with
  | error e => cases result : errors.toResult <;> simp [result] at rest <;> cases rest
  | ok u =>
    cases result : errors.toResult with
    | error e => simp [result] at rest; cases rest
    | ok v =>
      have clean : errors = {} := by
        cases errors
        simpa using (Aggregate.toResult_ok_iff _).mp result
      subst clean
      simp only [result] at rest
      cases rest
      exact ⟨components, w₁, passed, by simpa [failureOf, result] using persistedOk () rfl⟩

/-- Storing a status keeps every object. -/
theorem persistStatus_steady (cp : ControlPlane) (status : ControlPlaneStatus) :
    Keeps World.Steady (persistStatus cp status) :=
  Keeps.discard (Engine.cluster_steady (patchObjectStatus_grows _ _))

/-- A completed pass stored a status that agrees with the cluster: its components ran without
failures, the stored status is built from their statuses, and every entry marked installed
names an object the cluster holds as the pass ends. -/
def StoredStatusAgrees (cfg : EngineConfig) (cp : ControlPlane) (rendered : Rendered) (w w' : World) :
    Prop :=
  ∃ (components : List ComponentStatus) (w₁ : World),
    (reconcileComponents cfg (Context.make cp cfg.operatorVersion cfg.hooks) cp.statusOrDefault rendered
      (componentSequence cfg.order (rendered.map (·.1)) (cp.statusOrDefault.componentStatus.map (·.resource)))
      ([], {})).run w = .ok (components, {}) w₁ ∧
    (persistStatus cp ⟨({ cp.statusOrDefault.status with
        observedGeneration := cp.metadata.generation.getD 0 }).afterReconcile w₁.now none,
      components⟩).run w₁ = .ok () w' ∧
    ∀ c ∈ components, ∀ r ∈ c.resources, r.status.isInstalled = true → w'.store.contains r.resource = true

/-- The status of a completed pass agrees with the cluster when its components are separated:
no component deletes, as a stale entry, a key that a component before it renders. -/
theorem reconcileControlPlane_installed_present (cfg : EngineConfig) (cp : ControlPlane)
    (rendered : Rendered) (w w' : World) (active : cp.isBeingDeleted = false)
    (finalized : cp.hasFinalizer = true)
    (due : (cp.metadata.generation.getD 0 == cp.statusOrDefault.status.observedGeneration &&
      cp.statusOrDefault.status.isInstalled && cp.statusOrDefault.status.isReconciled) = false)
    (separated : Separated cp.statusOrDefault rendered
      (componentSequence cfg.order (rendered.map (·.1)) (cp.statusOrDefault.componentStatus.map (·.resource))))
    (ran : (reconcileControlPlane cfg cp (.ok rendered)).run w = .ok .complete w') :
    StoredStatusAgrees cfg cp rendered w w' := by
  obtain ⟨components, w₁, passed, persisted⟩ :=
    reconcileControlPlane_complete cfg cp rendered active finalized due ran
  -- The components agree with the cluster they leave, and storing the status keeps every object.
  obtain ⟨_, agreed⟩ := (reconcileComponents_agrees cfg _ _ rendered _ [] {} [] w separated
    (fun _ _ _ seen => absurd seen List.not_mem_nil) (fun _ c member => absurd member List.not_mem_nil)).holds passed
  have stored : World.Steady w₁ w' := by
    have kept := persistStatus_steady cp ⟨({ cp.statusOrDefault.status with
      observedGeneration := cp.metadata.generation.getD 0 }).afterReconcile w₁.now none, components⟩ w₁
    rwa [persisted] at kept
  exact ⟨components, w₁, passed, persisted, fun c member r held installed =>
    stored.store.present _ (agreed rfl c member r held installed).2⟩

/-- The ConfigMap `x` of `istio-system`. -/
def configMapX : ResourceKey := ⟨"", "v1", "ConfigMap", "istio-system", "x"⟩

/-- A manifest rendering the ConfigMap `x`. -/
def configMapXManifest : Manifest :=
  ⟨"x.yaml", "apiVersion: v1\nkind: ConfigMap\nmetadata:\n  name: x\n  namespace: istio-system\ndata:\n  k: v\n"⟩

/-- A control plane at generation 2 whose previous pass installed `x` as part of component `A`. -/
def planeWithX : ControlPlane where
  metadata :=
    { name := some "basic", ns := some "istio-system", generation := some 2,
      finalizers := some [controlPlaneFinalizer] }
  spec := {}
  status := some { componentStatus :=
    [{ resource := "A", resources := [⟨configMapX, ({} : StatusType).afterReconcile "" none⟩] }] }

/-- A cluster holding only that control plane. -/
def clusterWithPlane : World :=
  { store := ({} : Store).put planeWithX.clusterKey (planeWithX.toObject.toOption.getD {}) }

/-- When `A` keeps rendering `x`, the pass completes and its status agrees with the cluster. -/
theorem reconcileControlPlane_installed_present_kept :
    ∃ w', (reconcileControlPlane {} planeWithX (.ok [("A", [configMapXManifest])])).run clusterWithPlane =
        .ok .complete w' ∧
      StoredStatusAgrees {} planeWithX [("A", [configMapXManifest])] clusterWithPlane w' := by
  have check : Returns (reconcileControlPlane {} planeWithX (.ok [("A", [configMapXManifest])]))
      clusterWithPlane fun o _ => o = .complete := Returns.of_check (by decide +kernel)
  obtain ⟨o, w', ran, complete⟩ := check
  subst complete
  exact ⟨w', ran, reconcileControlPlane_installed_present {} planeWithX _ clusterWithPlane w'
    (by decide +kernel) (by decide +kernel) (by decide +kernel) (by decide +kernel) ran⟩

/-- When `x` moves from `A` to `B`, the components are not separated: `B` comes first and
applies `x`, then `A` deletes it as stale. The pass completes with a status that reports `x`
installed while the cluster no longer holds it. -/
theorem reconcileControlPlane_moved_key_disagrees :
    ¬ Separated planeWithX.statusOrDefault [("B", [configMapXManifest])]
        (componentSequence defaultComponentOrder ["B"] ["A"]) ∧
    ∃ w', (reconcileControlPlane {} planeWithX (.ok [("B", [configMapXManifest])])).run clusterWithPlane =
        .ok .complete w' ∧
      ¬ StoredStatusAgrees {} planeWithX [("B", [configMapXManifest])] clusterWithPlane w' := by
  refine ⟨by decide +kernel, ?_⟩
  have check : Returns (reconcileControlPlane {} planeWithX (.ok [("B", [configMapXManifest])]))
      clusterWithPlane fun o w' => o = .complete ∧ w'.store.contains configMapX = false :=
    Returns.of_check (by decide +kernel)
  obtain ⟨o, w', ran, complete, gone⟩ := check
  subst complete
  refine ⟨w', ran, fun ⟨components, w₁, passed, _, agrees⟩ => ?_⟩
  -- The components' statuses report `x` installed under `B`.
  have reported : Returns (reconcileComponents {} (Context.make planeWithX ({} : EngineConfig).operatorVersion
      ({} : EngineConfig).hooks) planeWithX.statusOrDefault [("B", [configMapXManifest])]
      (componentSequence ({} : EngineConfig).order (["B"]) (planeWithX.statusOrDefault.componentStatus.map
        (·.resource))) ([], {})) clusterWithPlane fun r _ =>
      ∃ c ∈ r.1, ∃ e ∈ c.resources, e.resource = configMapX ∧ e.status.isInstalled = true :=
    Returns.of_check (by decide +kernel)
  obtain ⟨c, member, e, held, named, installed⟩ := reported.holds passed
  have present := agrees c member e held installed
  rw [named, gone] at present
  exact Bool.false_ne_true present

end MeshControl
