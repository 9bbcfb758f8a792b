import MeshControl.Engine.Component
import MeshControl.Proofs.Engine.Hooks

/-! The failures a pass meets are plain: cluster calls, hooks and the reading of objects fail
with one cause, never with an aggregate. Gathered into the failures of a pass, a plain failure
is added as it is, so a pass that met one cannot end without failures. -/

namespace MeshControl

/-- A failure that is not an aggregate. -/
def Error.Plain (e : Error) : Prop := ∀ es, e ≠ .aggregate es

/-- The failures of a computation that may fail are plain. -/
def FailsPlainly {α : Type} (x : Except Error α) : Prop := ∀ e, x = .error e → e.Plain

namespace Error

theorem plain_notFound (s : String) : (Error.notFound s).Plain := fun _ => nofun
theorem plain_conflict (s : String) : (Error.conflict s).Plain := fun _ => nofun
theorem plain_manifest (s : String) : (Error.manifest s).Plain := fun _ => nofun
theorem plain_patch (s : String) : (Error.patch s).Plain := fun _ => nofun
theorem plain_hook (s : String) : (Error.hook s).Plain := fun _ => nofun
theorem plain_config (s : String) : (Error.config s).Plain := fun _ => nofun
theorem plain_json (f : JsonFailure) : (Error.json f).Plain := fun _ => nofun
theorem plain_yaml (f : YamlError) : (Error.yaml f).Plain := fun _ => nofun

theorem plain_toError (f : Failure) (name : String) : (f.toError name).Plain := by
  -- Each kind of cluster failure maps to a single cause.
  cases f
  · exact plain_conflict _
  · exact plain_notFound _
  · exact fun _ => nofun
  · exact plain_config _

end Error

namespace Aggregate

@[simp] theorem collect_ok (agg : Aggregate) : agg.collect (.ok ()) = agg := rfl

@[simp] theorem collect_error (agg : Aggregate) (e : Error) : agg.collect (.error e) = agg.push e := rfl

/-- A plain failure is added as it is. -/
theorem push_plain (agg : Aggregate) {e : Error} (plain : e.Plain) :
    (agg.push e).errors = agg.errors ++ [e] := by
  unfold push
  -- Only an aggregate would be spread into its parts.
  split
  · rename_i inner
    exact absurd rfl (plain inner)
  · rfl

/-- The outcome of a part of a pass, gathered into the failures so far, adds the failures of
that part, when they are plain. -/
theorem collect_toResult (agg part : Aggregate) (plain : ∀ e ∈ part.errors, e.Plain) :
    (agg.collect part.toResult).errors = agg.errors ++ part.errors := by
  unfold toResult
  -- A part with no failures adds none, one failure adds itself, several add an aggregate.
  split
  · rename_i none
    simp [collect, none]
  · rename_i e single
    rw [single] at plain
    simp [collect, push_plain agg (plain e (by simp)), single]
  -- An aggregate is spread back into the failures it holds.
  · rename_i errors many _
    simp [collect, push]

theorem toResult_ok_iff (agg : Aggregate) : agg.toResult = .ok () ↔ agg.errors = [] := by
  unfold toResult
  split <;> simp_all

end Aggregate

theorem Object.key_plain (o : Object) : FailsPlainly o.key := by
  intro e failed
  unfold Object.key at failed
  -- Every check of the key throws a manifest failure.
  repeat' split at failed
  all_goals first
    | (cases failed; exact Error.plain_manifest _)
    | cases failed

namespace FailsPlainly

variable {α β : Type}

theorem pure (a : α) : FailsPlainly (Pure.pure a : Except Error α) := nofun

theorem throw {e : Error} (plain : e.Plain) : FailsPlainly (MonadExcept.throw e : Except Error α) := by
  rintro e' ⟨⟩
  exact plain

theorem bind {x : Except Error α} {f : α → Except Error β} (first : FailsPlainly x)
    (rest : ∀ a, FailsPlainly (f a)) : FailsPlainly (x >>= f) := by
  intro e failed
  -- A failure of the first step is its own; otherwise the rest decides.
  cases x with
  | error e' =>
    cases failed
    exact first e rfl
  | ok a => exact rest a e failed

theorem throw_bind {e : Error} (plain : e.Plain) (f : α → Except Error β) :
    FailsPlainly (MonadExcept.throw e >>= f) := by
  rintro e' ⟨⟩
  exact plain

theorem mapM (xs : List α) {f : α → Except Error β} (each : ∀ a, FailsPlainly (f a)) :
    FailsPlainly (xs.mapM f) := by
  induction xs with
  | nil => exact pure _
  | cons a rest ih =>
    rw [List.mapM_cons]
    exact bind (each a) fun _ => bind ih fun _ => pure _

theorem ite {c : Prop} [Decidable c] {x y : Except Error α} (yes : FailsPlainly x) (no : FailsPlainly y) :
    FailsPlainly (if c then x else y) := by
  split
  · exact yes
  · exact no

theorem forIn {γ : Type} (xs : List γ) {f : γ → β → Except Error (ForInStep β)}
    (each : ∀ c ∈ xs, ∀ b, FailsPlainly (f c b)) : ∀ b, FailsPlainly (ForIn.forIn xs b f) := by
  induction xs with
  | nil => exact fun b => pure b
  | cons c rest ih =>
    intro b
    rw [List.forIn_cons]
    refine bind (each c (by simp) b) fun step => ?_
    -- A loop that stops returns; one that goes on fails as the rest of it does.
    cases step with
    | done b' => exact pure b'
    | yield b' => exact ih (fun d member => each d (by simp [member])) b'

end FailsPlainly

theorem Object.lastApplied_plain (o : Object) : FailsPlainly o.lastApplied := by
  intro e failed
  unfold Object.lastApplied at failed
  -- A missing annotation is no failure; one that does not read is a patch failure.
  split at failed
  · cases failed
  · split at failed
    · cases failed
    · cases failed
      exact Error.plain_patch _

/-- A patch fails when a key is missing or the keys disagree, or when the last-applied
annotation cannot be read. -/
theorem createPatch_plain (current desired : Object) : FailsPlainly (createPatch current desired) := by
  unfold createPatch
  refine FailsPlainly.bind current.key_plain fun currentKey => ?_
  refine FailsPlainly.bind desired.key_plain fun desiredKey => ?_
  dsimp only
  -- Keys that differ are a patch failure, as is an annotation that does not read.
  split
  · exact FailsPlainly.throw_bind (Error.plain_patch _) _
  refine FailsPlainly.bind current.lastApplied_plain fun _ => ?_
  split
  · exact FailsPlainly.pure _
  · exact FailsPlainly.throw (Error.plain_patch _)

theorem Object.listItems_plain (o : Object) : FailsPlainly o.listItems := by
  unfold Object.listItems
  split
  -- Each item that does not read is one manifest failure.
  · refine FailsPlainly.mapM _ fun item e failed => ?_
    cases read : Object.ofJson item with
    | ok _ => simp [read, Except.mapError] at failed
    | error _ =>
      simp only [read, Except.mapError, Except.error.injEq] at failed
      subst failed
      exact Error.plain_manifest _
  · exact FailsPlainly.pure _

theorem setYamlPath_plain : ∀ (path : List String) (done : List String) (node : Yaml) (value : String),
    FailsPlainly (setYamlPath done node path value)
  | [], _, _, _ => FailsPlainly.pure _
  | segment :: rest, done, node, value => by
    unfold setYamlPath
    dsimp only
    -- Each place on the path must hold a mapping, or the hook fails there.
    split
    · split
      · exact FailsPlainly.pure _
      · exact FailsPlainly.bind (setYamlPath_plain rest _ _ value) fun _ => FailsPlainly.pure _
    · exact FailsPlainly.throw (Error.plain_hook _)

/-- Editing Kiali's configuration fails only where its text does not parse or a place on a path
holds no mapping. -/
theorem kialiConfigured_plain (obj : Object) (grafana tracing : Option String) :
    FailsPlainly (kialiConfigured obj grafana tracing) := by
  unfold kialiConfigured
  dsimp only
  refine FailsPlainly.ite (FailsPlainly.pure _) ?_
  refine FailsPlainly.ite ?_ (FailsPlainly.bind (FailsPlainly.forIn _ (fun _ _ _ => ?_) _) fun _ =>
    FailsPlainly.pure _)
  -- Text that does not parse fails once, as a YAML failure.
  · split
    · refine FailsPlainly.bind (FailsPlainly.forIn _ (fun _ _ _ => ?_) _) fun _ => FailsPlainly.pure _
      split
      · exact FailsPlainly.bind (setYamlPath_plain _ _ _ _) fun _ => FailsPlainly.pure _
      · exact FailsPlainly.pure _
    · exact FailsPlainly.throw_bind (Error.plain_yaml _) _
  · split
    · exact FailsPlainly.bind (setYamlPath_plain _ _ _ _) fun _ => FailsPlainly.pure _
    · exact FailsPlainly.pure _

/-! Cluster calls fail plainly. -/

theorem StoreM.ofExcept_plain {α : Type} {x : Except Error α} (plain : FailsPlainly x) :
    Fails Error.Plain (StoreM.ofExcept x) := by
  cases x with
  | error e => exact Fails.throw (plain e rfl)
  | ok a => exact Fails.pure a

theorem record_plain (verb : Verb) (key : ResourceKey) (p : Option Propagation) :
    Fails Error.Plain (record verb key p) := by
  intro s e s' ran
  rw [record_run] at ran
  -- An injected failure of the call is a plain cluster failure.
  split at ran
  · cases ran
  · cases ran
    exact Error.plain_toError _ _

theorem stored_plain (key : ResourceKey) : Fails Error.Plain (stored key) := by
  unfold stored
  refine Fails.bind Fails.get fun s => ?_
  split
  · exact Fails.pure _
  · exact Fails.throw (Error.plain_notFound _)

theorem nextVersion_plain : Fails Error.Plain nextVersion := by
  intro s e s' ran
  cases ran

theorem getObject_plain (key : ResourceKey) : Fails Error.Plain (getObject key) :=
  Fails.bind (record_plain _ _ _) fun _ => stored_plain key

theorem createObject_plain (o : Object) : Fails Error.Plain (createObject o) := by
  unfold createObject
  refine Fails.bind (StoreM.ofExcept_plain o.key_plain) fun key => ?_
  refine Fails.bind (record_plain _ _ _) fun _ => ?_
  refine Fails.bind Fails.get fun s => ?_
  dsimp only
  -- A creation fails on a key that does not read or an object already there.
  refine Fails.ite (Fails.throw_bind (Error.plain_conflict _) _) ?_
  exact Fails.bind nextVersion_plain fun _ => Fails.bind (Fails.modify _) fun _ => Fails.pure _

theorem patchObject_plain (key : ResourceKey) (patch : Json) :
    Fails Error.Plain (patchObject key patch) := by
  unfold patchObject
  refine Fails.bind (record_plain _ _ _) fun _ => ?_
  refine Fails.bind (stored_plain key) fun current => ?_
  refine Fails.bind (StoreM.ofExcept_plain fun e failed => ?_) fun _ => ?_
  -- A merged object that does not read fails as JSON.
  · cases read : Object.ofJson (current.toJson.mergePatch patch) with
    | ok _ => simp [read, Except.mapError] at failed
    | error _ =>
      simp only [read, Except.mapError, Except.error.injEq] at failed
      subst failed
      exact Error.plain_json _
  · exact Fails.bind nextVersion_plain fun _ => Fails.bind (Fails.modify _) fun _ => Fails.pure _

theorem deleteObject_plain (key : ResourceKey) (p : Option Propagation) :
    Fails Error.Plain (deleteObject key p) := by
  unfold deleteObject
  refine Fails.bind (record_plain _ _ _) fun _ => ?_
  refine Fails.bind Fails.get fun s => ?_
  exact Fails.ite (Fails.modify _) (Fails.throw (Error.plain_notFound _))

/-- A stopped world fails a cluster call with a plain failure. -/
theorem Engine.cluster_plain {α : Type} {x : StoreM α} (plain : Fails Error.Plain x) :
    Fails Error.Plain (Engine.cluster x) := by
  intro w e w' ran
  rw [Engine.cluster_run] at ran
  -- A stopped world refuses the call; a running one fails as the call does.
  split at ran
  · cases ran
    exact Error.plain_config _
  · cases result : x.run w.store with
    | ok a s =>
      rw [result] at ran
      cases ran
    | error e' s =>
      rw [result] at ran
      cases ran
      exact plain _ _ _ result

theorem Engine.ofExcept_plain {α : Type} {x : Except Error α} (plain : FailsPlainly x) :
    Fails Error.Plain (Engine.ofExcept x) := by
  cases x with
  | error e => exact Fails.throw (plain e rfl)
  | ok a => exact Fails.pure a

/-- What follows an attempt sees the attempted step's outcome, whose failure is one the step
can fail with. -/
theorem Fails.bind_attempt {α β : Type} {P : Error → Prop} {x : Engine α}
    {f : Except Error α → Engine β} (first : Fails P x)
    (rest : ∀ r : Except Error α, (∀ e, r = .error e → P e) → Fails P (f r)) :
    Fails P (Engine.attempt x >>= f) := by
  intro w e w' ran
  rw [EStateM.run_bind, Engine.attempt_run] at ran
  -- The attempt hands the rest the outcome of the step, failure included.
  cases result : x.run w with
  | ok a w₁ =>
    rw [result] at ran
    exact rest (.ok a) (fun _ => nofun) w₁ e w' ran
  | error e₁ w₁ =>
    rw [result] at ran
    exact rest (.error e₁) (fun _ same => by cases same; exact first w e₁ w₁ result) w₁ e w' ran

/-! The hooks that run before a write, and deletions, fail plainly. -/

theorem routeUrl_plain (ns name : String) : Fails Error.Plain (routeUrl ns name) := by
  unfold routeUrl
  exact Fails.bind (Fails.tryCatch (Fails.map _ (Engine.cluster_plain (getObject_plain _)))
    fun e plain => Fails.ite (Fails.pure _) (Fails.throw plain)) fun _ => Fails.pure _

theorem configureKiali_plain (ns : String) (obj : Object) : Fails Error.Plain (configureKiali ns obj) := by
  unfold configureKiali
  exact Fails.ite (Fails.pure _) (Fails.bind (routeUrl_plain _ _) fun _ =>
    Fails.bind (routeUrl_plain _ _) fun _ => Engine.ofExcept_plain (kialiConfigured_plain obj _ _))

theorem Hooks.beforeApply_plain (h : Hooks) (ns : String) (key : ResourceKey) (obj : Object) :
    Fails Error.Plain (h.beforeApply ns key obj) :=
  Fails.ite (configureKiali_plain ns obj) (Fails.pure _)

theorem Hooks.afterDelete_plain (h : Hooks) (key : ResourceKey) : Fails Error.Plain (h.afterDelete key) := by
  intro w e w' ran
  -- The delete hooks always return.
  obtain ⟨_, _, returned, _⟩ := Hooks.afterDelete_total h key w
  rw [returned] at ran
  cases ran

/-- A deletion fails only with a failure of the cluster other than the object being gone. -/
theorem deleteResource_plain (ctx : Context) (key : ResourceKey) :
    Fails Error.Plain (deleteResource ctx key) := by
  unfold deleteResource
  refine Fails.bind_attempt (Engine.cluster_plain (deleteObject_plain _ _)) fun r plain => ?_
  dsimp only
  -- A deletion of an object already gone is not a failure; any other failure is rethrown.
  cases r with
  | ok u => exact Fails.bind (Fails.modify _) fun _ => Hooks.afterDelete_plain _ _
  | error e =>
    exact Fails.ite (Fails.throw_bind (plain e rfl) _) (Hooks.afterDelete_plain _ _)

end MeshControl
