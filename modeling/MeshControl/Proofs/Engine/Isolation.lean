import MeshControl.Proofs.Engine.Agreement
import MeshControl.Proofs.Engine.Leaves
import MeshControl.Proofs.Engine.Persist

/-! Partial failures are isolated: every component and every leaf is visited whatever failed
before, and the failures come out flattened, once each, in the order they happened. -/

namespace MeshControl

/-- One visit of a run over components: the component's name, the world the pass over it started
in, what it returned, and the world it ended in. -/
structure ComponentVisit where
  name : String
  start : World
  pass : ComponentStatus × Except Error Unit
  finish : World

/-- Running components visits each in turn whatever failed before, at the run's clock and within
its log; the visits' failures are noted in order and the components kept are among those visited. -/
theorem reconcileComponents_runs (cfg : EngineConfig) (ctx : Context) (previous : ControlPlaneStatus)
    (rendered : Rendered) {P : String → World → ComponentStatus × Except Error Unit → World → Prop}
    (each : ∀ name w, Returns (reconcileComponent ctx name (manifestsOf rendered name) (previous.find? name)) w
      fun r w' => w'.now = w.now ∧ P name w r w') :
    ∀ (names : List String) (done : List ComponentStatus) (errors : Aggregate) (w : World),
      Returns (reconcileComponents cfg ctx previous rendered names (done, errors)) w fun r w' =>
        w'.now = w.now ∧ World.Logs w w' ∧ ∃ visits : List ComponentVisit, visits.map (·.name) = names ∧
          (∀ v ∈ visits, P v.name v.start v.pass v.finish ∧ v.start.now = w.now ∧ World.Logs w v.start ∧
            World.Logs v.finish w') ∧
          r.2 = visits.foldl (fun agg v => agg.collect v.pass.2) errors ∧
          ∀ c ∈ r.1, c ∈ done ∨ ∃ v ∈ visits, c = v.pass.1
  | [], done, errors, w =>
    Returns.pure ⟨rfl, World.Logs.refl w, [], rfl, by simp, rfl, fun _ member => Or.inl member⟩
  | name :: rest, done, errors, w => by
    -- The pass over this component only adds to the log.
    refine reconcileComponents_cons_returns (Returns.with_keeps (reconcileComponent_logs ctx name _ _) (each name w))
      fun component result w₁ w₂ done' facts between noted => ?_
    obtain ⟨visitLogs, same₁, holds⟩ := facts
    -- Counting it, and waiting for it, keep the log and the clock.
    have logs₂ : World.Logs w₁ w₂ := between World.Logs World.logs_stepsKeep
    have clock : w₂.now = w.now := (between World.Steady World.steady_stepsKeep).now.trans same₁
    have whole : ∀ c ∈ done', c ∈ done ∨ c = component := by
      -- A component dropped adds nothing; one kept is this one.
      rw [noted]
      split
      · exact fun c member => Or.inl member
      · exact fun c member => by simpa using member
    refine Returns.mono (reconcileComponents_runs cfg ctx previous rendered each rest done'
      (errors.collect result) w₂) fun r w' later => ?_
    obtain ⟨same', restLogs, visits, named, holds', gathered, within⟩ := later
    have reached : World.Logs w w₂ := visitLogs.trans logs₂
    -- This visit goes in front of those of the rest, and its failure is noted first.
    refine ⟨same'.trans clock, reached.trans restLogs, ⟨name, w, (component, result), w₁⟩ :: visits,
      by simp [named], ?_, by simp [gathered], ?_⟩
    · intro v member
      rcases List.mem_cons.mp member with here | there
      · rw [here]
        exact ⟨holds, rfl, World.Logs.refl w, logs₂.trans restLogs⟩
      · obtain ⟨passed, started, startLogs, endLogs⟩ := holds' v there
        exact ⟨passed, started.trans clock, reached.trans startLogs, endLogs⟩
    · intro c member
      -- A component kept is one kept before, this one, or one of the rest.
      rcases within c member with early | late
      · rcases whole c early with before | here
        · exact Or.inl before
        · exact Or.inr ⟨_, List.mem_cons_self, here⟩
      · obtain ⟨v, held, rfl⟩ := late
        exact Or.inr ⟨v, List.mem_cons_of_mem _ held, rfl⟩

/-- Running components visits each in turn at the run's clock reading, whatever failed before,
noting failures in order and keeping only components visited. -/
theorem reconcileComponents_visits (cfg : EngineConfig) (ctx : Context)
    (previous : ControlPlaneStatus) (rendered : Rendered)
    {P : String → String → ComponentStatus × Except Error Unit → Prop}
    (each : ∀ name w, Returns (reconcileComponent ctx name (manifestsOf rendered name) (previous.find? name)) w
      fun r w' => w'.now = w.now ∧ P name w.now r) :
    ∀ (names : List String) (done : List ComponentStatus) (errors : Aggregate) (w : World),
      Returns (reconcileComponents cfg ctx previous rendered names (done, errors)) w fun r w' =>
        w'.now = w.now ∧ ∃ visits : List (String × (ComponentStatus × Except Error Unit)),
          visits.map Prod.fst = names ∧ (∀ v ∈ visits, P v.1 w.now v.2) ∧
          r.2 = visits.foldl (fun agg v => agg.collect v.2.2) errors ∧
          ∀ c ∈ r.1, c ∈ done ∨ ∃ v ∈ visits, c = v.2.1 := by
  intro names done errors w
  refine Returns.mono (reconcileComponents_runs cfg ctx previous rendered (P := fun name w r _ => P name w.now r)
    each names done errors w) fun r w' run => ?_
  obtain ⟨same, -, visits, named, passes, gathered, within⟩ := run
  -- Each visit started at the clock reading of the run.
  refine ⟨same, visits.map fun v => (v.name, v.pass), by rw [List.map_map]; exact named, fun v member => ?_,
    by rw [gathered, List.foldl_map], fun c member => ?_⟩
  -- Each visit keeps what its pass gave, at the run's clock reading.
  · obtain ⟨u, held, rfl⟩ := List.mem_map.mp member
    obtain ⟨passed, started, -, -⟩ := passes u held
    rw [← started]
    exact passed
  · rcases within c member with early | ⟨v, held, rfl⟩
    · exact Or.inl early
    · exact Or.inr ⟨_, List.mem_map_of_mem held, rfl⟩

/-- The failures an outcome reports once aggregates are flattened: none for a success, the
members of an aggregate, or the one failure. -/
def reportedFailures (r : Except Error Unit) : List Error := (({} : Aggregate).collect r).errors

/-- Noting an outcome adds the failures it reports, flattened. -/
theorem Aggregate.collect_reported (agg : Aggregate) (r : Except Error Unit) :
    (agg.collect r).errors = agg.errors ++ reportedFailures r := by
  unfold reportedFailures
  -- A success reports nothing; a failure reports itself, or its members if an aggregate.
  cases r with
  | ok u =>
    cases u
    simp
  | error e =>
    simp only [Aggregate.collect_error]
    unfold Aggregate.push
    split
    · simp
    · simp

/-- Outcomes noted in turn add the failures each reports, in order. -/
theorem Aggregate.foldl_collect {β : Type} (outcome : β → Except Error Unit) :
    ∀ (xs : List β) (agg : Aggregate),
      (xs.foldl (fun agg x => agg.collect (outcome x)) agg).errors =
        agg.errors ++ xs.flatMap fun x => reportedFailures (outcome x)
  | [], agg => by simp
  | x :: xs, agg => by
    -- Each outcome's failures come after those noted before it.
    rw [List.foldl_cons, Aggregate.foldl_collect outcome xs, Aggregate.collect_reported,
      List.flatMap_cons, List.append_assoc]

/-- **Failure isolation.** A run visits every component in order whatever failed before; each pass
reports exactly its leaves' and deletions' failures; the run gathers them, flattened, in order. -/
theorem reconcileComponents_isolates_failures (cfg : EngineConfig) (ctx : Context)
    (previous : ControlPlaneStatus) (rendered : Rendered) (names : List String) (w : World) :
    Returns (reconcileComponents cfg ctx previous rendered names ([], {})) w fun r _ =>
      ∃ visits : List ComponentVisit, visits.map (·.name) = names ∧
        (∀ v ∈ visits, PassReport ctx ((previous.find? v.name).getD (.named v.name))
          (manifestsOf rendered v.name) v.start v.pass ∧ v.start.now = w.now) ∧
        r.2.errors = visits.flatMap fun v => reportedFailures v.pass.2 := by
  refine Returns.mono (reconcileComponents_runs cfg ctx previous rendered
    (P := fun name start pass _ => PassReport ctx ((previous.find? name).getD (.named name))
      (manifestsOf rendered name) start pass)
    (fun name w => reconcileComponent_reports ctx name _ _ w) names [] {} w) fun r _ run => ?_
  -- Each visit's report is what the pass over its component gives.
  obtain ⟨_, _, visits, named, reports, gathered, _⟩ := run
  refine ⟨visits, named, fun v member => ⟨(reports v member).1, (reports v member).2.1⟩, ?_⟩
  -- The failures noted in turn are those reported, in order.
  rw [gathered, Aggregate.foldl_collect (fun v => v.pass.2) visits {}]
  simp

end MeshControl
