import MeshControl.Proofs.Engine.Isolation

/-! Deletion happens once: for the entries of a component, and for a component of the control
plane that renders no YAML file. -/

namespace MeshControl

/-- On a calm cluster, running components visits each in turn, each pass starting calm, and keeps
exactly those whose pass rendered a YAML file or kept an entry. -/
theorem reconcileComponents_calm (cfg : EngineConfig) (ctx : Context) (previous : ControlPlaneStatus)
    (rendered : Rendered) :
    ∀ (names : List String) (done : List ComponentStatus) (errors : Aggregate) (w : World), w.Calm →
      Returns (reconcileComponents cfg ctx previous rendered names (done, errors)) w fun r w' =>
        w'.Calm ∧ ∃ visits : List ComponentVisit, visits.map (·.name) = names ∧
          (∀ v ∈ visits, v.start.Calm ∧ (reconcileComponent ctx v.name (manifestsOf rendered v.name)
            (previous.find? v.name)).run v.start = .ok v.pass v.finish) ∧
          r.1 = done ++ (visits.filter fun v =>
            (manifestsOf rendered v.name).any Manifest.isYaml || !v.pass.1.resources.isEmpty).map (·.pass.1)
  | [], done, errors, w, calm => Returns.pure ⟨calm, [], rfl, by simp, by simp⟩
  | name :: rest, done, errors, w, calm => by
    -- The pass over this component starts calm and leaves it calm.
    have passed := (reconcileComponent_calm ctx name (manifestsOf rendered name)
      ((previous.find? name).getD (.named name)) calm).with_run
    rw [← reconcileComponent_getD] at passed
    refine reconcileComponents_cons_returns passed fun component result w₁ w₂ done' facts between noted => ?_
    obtain ⟨ran, -, -, deleted, calm₁⟩ := facts
    -- Counting the pass, and waiting for it, keep the world calm.
    have calm₂ : w₂.Calm := (between World.Steady World.steady_stepsKeep).calm calm₁
    -- On a calm cluster a component with no YAML file comes out deleted, so it is dropped
    -- exactly when its entries came out empty.
    have gone : (!(manifestsOf rendered name).any Manifest.isYaml && component.resources.isEmpty &&
        component.status.isDeleted) =
        !((manifestsOf rendered name).any Manifest.isYaml || !component.resources.isEmpty) := by
      cases yaml : (manifestsOf rendered name).any Manifest.isYaml
      · simp [deleted yaml]
      · simp
    refine Returns.mono (reconcileComponents_calm cfg ctx previous rendered rest done' _ w₂ calm₂)
      fun r w' later => ?_
    obtain ⟨calm', visits, named, runs, kept⟩ := later
    -- This visit goes in front of those of the rest.
    refine ⟨calm', ⟨name, w, (component, result), w₁⟩ :: visits, by simp [named], ?_, ?_⟩
    · intro v member
      rcases List.mem_cons.mp member with here | there
      · subst here
        exact ⟨calm, ran⟩
      · exact runs v there
    · rw [kept, noted, gone]
      cases keep : (manifestsOf rendered name).any Manifest.isYaml || !component.resources.isEmpty <;>
        simp [keep]

/-- **Deletion happens once.** On a calm cluster a pass deletes each stale entry, newest first, and
marks it deleted; the next pass deletes nothing; components without files or entries are dropped. -/
theorem reconcileComponent_deletes_stale_once (ctx : Context) (name : String)
    (ms : List Manifest) (old : ComponentStatus) (w : World) (calm : w.Calm) :
    Returns (reconcileComponent ctx name ms (some old)) w (fun r w' =>
      (∃ calls, w'.store.ops = w.store.ops ++ calls ∧
        deletions calls = (staleEntries (renderedKeys ms) old.resources).reverse.map
          fun e => deletionOf e.resource) ∧
      (∃ applied removed : List ResourceStatus, applied.map (·.resource) = renderedKeys ms ∧
        removed = (staleEntries (renderedKeys ms) old.resources).map (·.deletedAt w.now) ∧
        (∀ d ∈ removed, d.MarkedDeleted) ∧ r.1.resources = applied ++ removed) ∧
      (∀ w₂, Returns (reconcileComponent ctx name ms (some r.1)) w₂ fun r₂ w₂' =>
        (∃ calls, w₂'.store.ops = w₂.store.ops ++ calls ∧ deletions calls = []) ∧
          r₂.1.resources.map (·.resource) = renderedKeys ms) ∧
      (!ms.any Manifest.isYaml && r.1.resources.isEmpty && r.1.status.isDeleted) =
        (!ms.any Manifest.isYaml && r.1.resources.isEmpty)) ∧
    ∀ (cfg : EngineConfig) (previous : ControlPlaneStatus) (rendered : Rendered) (names : List String),
      Returns (reconcileComponents cfg ctx previous rendered names ([], {})) w fun r _ =>
        ∃ visits : List ComponentVisit, visits.map (·.name) = names ∧
          (∀ v ∈ visits, v.start.Calm ∧ (reconcileComponent ctx v.name (manifestsOf rendered v.name)
            (previous.find? v.name)).run v.start = .ok v.pass v.finish) ∧
          r.1 = (visits.filter fun v =>
            (manifestsOf rendered v.name).any Manifest.isYaml || !v.pass.1.resources.isEmpty).map (·.pass.1) := by
  refine ⟨?_, fun cfg previous rendered names => ?_⟩
  -- The first pass deletes the stale entries and marks them deleted.
  · refine Returns.mono (reconcileComponent_calm ctx name ms old calm) fun r w' facts => ?_
    obtain ⟨log, ⟨applied, named, resources⟩, noYamlDeleted, -⟩ := facts
    refine ⟨log, ⟨applied, _, named, rfl, by simpa using fun e _ => ResourceStatus.deletedAt_marked w.now e,
      resources⟩, ?_, ?_⟩
    · -- Every entry left is rendered again or marked deleted, so nothing is stale any more.
      intro w₂
      refine reconcileComponent_settled ctx name ms r.1 ?_ w₂
      rw [resources]
      exact staleEntries_settled named (by simp [ResourceStatus.deletedAt_isDeleted])
    · cases yaml : ms.any Manifest.isYaml
      · simp [noYamlDeleted yaml]
      · rfl
  · -- The control plane's part is the run over its components, from nothing kept.
    refine Returns.mono (reconcileComponents_calm cfg ctx previous rendered names [] {} w calm)
      fun r _ ran => ?_
    obtain ⟨-, visits, named, runs, kept⟩ := ran
    exact ⟨visits, named, runs, by simpa using kept⟩

/-- A component that renders nothing any more deletes its one entry left from before, on a fresh
cluster, and one with no entry left leaves the control plane. -/
theorem reconcileComponent_deletes_left_entry :
    World.Calm {} ∧
      Returns (reconcileComponent default "c" []
          (some ⟨"c", {}, [⟨⟨"", "v1", "ConfigMap", "ns", "x"⟩, {}⟩]⟩)) {} (fun _ w' =>
        ∃ calls, w'.store.ops = calls ∧
          deletions calls = [deletionOf ⟨"", "v1", "ConfigMap", "ns", "x"⟩]) ∧
      Returns (reconcileComponents {} default { componentStatus := [⟨"c", {}, []⟩] } [] ["c"] ([], {})) {}
        fun r _ => r.1 = [] := by
  -- The empty world holds nothing, injects nothing and has no deadline.
  have calm : World.Calm {} := ⟨fun _ held => (List.not_mem_nil held).elim, rfl, rfl⟩
  refine ⟨calm, Returns.mono (reconcileComponent_deletes_stale_once default "c" [] _ {} calm).1
    fun _ _ facts => ?_, ?_⟩
  -- The one stale entry is deleted.
  · obtain ⟨⟨calls, logged, deleted⟩, -⟩ := facts
    refine ⟨calls, by simpa using logged, ?_⟩
    rw [deleted]
    rfl
  · refine Returns.mono ((reconcileComponent_deletes_stale_once default "c" [] ⟨"c", {}, []⟩ {} calm).2 {}
      { componentStatus := [⟨"c", {}, []⟩] } [] ["c"]) fun r _ facts => ?_
    obtain ⟨visits, named, runs, kept⟩ := facts
    -- The one visit is the pass over c, which renders nothing and had no entry.
    obtain ⟨v, rfl, isC⟩ := List.map_eq_singleton_iff.mp named
    obtain ⟨startCalm, ran⟩ := runs v (List.mem_singleton_self v)
    rw [isC] at ran
    have entries := ((reconcileComponent_deletes_stale_once default "c" [] ⟨"c", {}, []⟩ v.start
      startCalm).1).holds ran
    obtain ⟨-, ⟨applied, removed, none, dropped, -, resources⟩, -⟩ := entries
    have empty : v.pass.1.resources = [] := by
      simp_all [renderedKeys, staleEntries]
    rw [kept]
    simp [empty, manifestsOf]

end MeshControl
