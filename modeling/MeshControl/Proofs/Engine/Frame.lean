import MeshControl.Engine.World
import MeshControl.Proofs.Cluster.Calls

/-! What engine steps that delete nothing keep of the world: the log only grows, by calls other
than deletions; no object goes away; the clock reading for transition times stays; and a calm
world, one with no failure to inject and no deadline, stays calm. -/

namespace MeshControl

namespace World

/-- No injected failure has calls left, and no deadline can stop the world. -/
def Calm (w : World) : Prop := w.store.Quiet ∧ w.stopped = false ∧ w.deadline = none

instance (w : World) : Decidable w.Calm :=
  inferInstanceAs (Decidable (w.store.Quiet ∧ w.stopped = false ∧ w.deadline = none))

/-- What a step that deletes nothing keeps between the world it starts in and the one it ends
in. -/
structure Steady (w w' : World) : Prop where
  store : Store.Grows w.store w'.store
  now : w'.now = w.now
  calm : w.Calm → w'.Calm

theorem Steady.refl (w : World) : Steady w w := ⟨Store.Grows.refl _, rfl, id⟩

theorem Steady.trans {w₁ w₂ w₃ : World} (first : Steady w₁ w₂) (second : Steady w₂ w₃) :
    Steady w₁ w₃ :=
  ⟨first.store.trans second.store, second.now.trans first.now, fun calm => second.calm (first.calm calm)⟩

instance : IsPreorder World Steady where
  refl := Steady.refl
  trans _ _ _ := Steady.trans

/-- A world whose cluster grew and that kept everything else is a steady successor. -/
theorem Steady.of_store {w : World} {s : Store} (grew : Store.Grows w.store s) :
    Steady w { w with store := s } :=
  -- A quiet cluster stays quiet as it grows; the rest of the world is untouched.
  ⟨grew, rfl, fun ⟨quiet, running, open_⟩ => ⟨grew.quiet quiet, running, open_⟩⟩

end World

namespace Engine

/-- A cluster call runs on the world's cluster unless the world has stopped. -/
theorem cluster_run (x : StoreM α) (w : World) :
    (Engine.cluster x).run w =
      if w.stopped then .error (.config "stopped") w
      else match x.run w.store with
        | .ok a s => .ok a { w with store := s }
        | .error e s => .error e { w with store := s } := rfl

/-- On a world that is not stopped, a cluster call returns what the call returns on its cluster. -/
theorem cluster_returns {x : StoreM α} {w : World} {post : α → World → Prop} (running : w.stopped = false)
    (returns : Returns x w.store fun a s => post a { w with store := s }) :
    Returns (Engine.cluster x) w post := by
  obtain ⟨a, s, ran, holds⟩ := returns
  -- A running world passes the call through to its cluster.
  exact ⟨a, _, by rw [cluster_run, if_neg (by simp [running]), ran], holds⟩

/-- The world a cluster call ends in differs only in its cluster. -/
theorem endState_cluster (x : StoreM α) (w : World) :
    endState ((Engine.cluster x).run w) =
      if w.stopped then w else { w with store := endState (x.run w.store) } := by
  rw [cluster_run]
  -- A stopped world is left as it was; otherwise the call ends where it ends on the cluster.
  split
  · rfl
  · cases x.run w.store <;> rfl

/-- A cluster call that makes the cluster grow is a steady step. -/
theorem cluster_steady {x : StoreM α} (grows : Keeps Store.Grows x) :
    Keeps World.Steady (Engine.cluster x) := by
  intro w
  rw [endState_cluster]
  -- A stopped world is kept, a running one changes only by its cluster's growth.
  split
  · exact World.Steady.refl w
  · exact World.Steady.of_store (grows w.store)

/-- An attempt always returns: the outcome of the step, in the world the step ended in. -/
theorem attempt_run (x : Engine α) (w : World) :
    (Engine.attempt x).run w =
      match x.run w with
      | .ok a w' => .ok (.ok a) w'
      | .error e w' => .ok (.error e) w' := by
  unfold Engine.attempt
  rw [run_tryCatch, run_map]
  -- Either way the step's world is kept and the outcome is returned as a value.
  cases x.run w <;> rfl

/-- An attempt ends where its step ends. -/
theorem endState_attempt (x : Engine α) (w : World) :
    endState ((Engine.attempt x).run w) = endState (x.run w) := by
  rw [attempt_run]
  cases x.run w <;> rfl

theorem attempt_keeps {R : World → World → Prop} [IsPreorder World R] {x : Engine α}
    (kept : Keeps R x) : Keeps R (Engine.attempt x) :=
  Keeps.tryCatch (Keeps.map _ kept) fun _ => Keeps.pure _

/-- An attempt returns whatever its step did, and the step's relation holds of the worlds. -/
theorem attempt_returns {R : World → World → Prop} {x : Engine α} (kept : Keeps R x) (w : World) :
    Returns (Engine.attempt x) w fun r w' =>
      R w w' ∧ (∀ a, r = .ok a → x.run w = .ok a w') ∧ (∀ e, r = .error e → x.run w = .error e w') := by
  have ran := kept w
  rw [Returns, attempt_run]
  -- The outcome the attempt returns is the one the step had.
  cases result : x.run w with
  | ok a w' =>
    rw [result] at ran
    exact ⟨_, _, rfl, ran, by simp, by simp⟩
  | error e w' =>
    rw [result] at ran
    exact ⟨_, _, rfl, ran, by simp, by simp⟩

/-- An attempt never fails. -/
theorem attempt_total (x : Engine α) (w : World) : Returns (Engine.attempt x) w fun _ _ => True := by
  rw [Returns, attempt_run]
  cases x.run w with
  | ok a w' => exact ⟨_, _, rfl, trivial⟩
  | error e w' => exact ⟨_, _, rfl, trivial⟩

/-- An attempt at a step that returns returns the step's value. -/
theorem attempt_ok {x : Engine α} {w : World} {post : α → World → Prop} (returns : Returns x w post) :
    Returns (Engine.attempt x) w fun r w' => ∃ a, r = .ok a ∧ post a w' := by
  obtain ⟨a, w', ran, holds⟩ := returns
  exact ⟨_, _, by rw [attempt_run, ran], a, rfl, holds⟩

theorem record_total (f : Metrics → Metrics) (w : World) :
    Returns (Engine.record f) w fun _ _ => True :=
  ⟨_, _, rfl, trivial⟩

/-- The clock reading is read and nothing changes. -/
theorem now_returns (w : World) : Returns Engine.now w fun n w' => n = w.now ∧ w' = w :=
  ⟨_, _, rfl, rfl, rfl⟩

theorem record_steady (f : Metrics → Metrics) : Keeps World.Steady (Engine.record f) :=
  Keeps.modify fun _ => ⟨Store.Grows.refl _, rfl, fun calm => calm⟩

theorem now_keeps {R : World → World → Prop} [IsPreorder World R] : Keeps R Engine.now :=
  Keeps.bind Keeps.get fun _ => Keeps.pure _

/-- Sleeping only moves the clock, and never stops a world with no deadline. -/
theorem sleep_steady (ms : Nat) : Keeps World.Steady (Engine.sleep ms) := by
  refine Keeps.modify fun w => ?_
  -- A stopped world does not sleep.
  split
  · exact World.Steady.refl w
  · split
    · -- A deadline exists here, so the world was not calm to begin with.
      rename_i d deadline
      have notCalm : ¬w.Calm := fun ⟨_, _, open_⟩ => by simp [open_] at deadline
      split
      · exact ⟨Store.Grows.refl _, rfl, fun calm => absurd calm notCalm⟩
      · exact ⟨Store.Grows.refl _, rfl, fun calm => absurd calm notCalm⟩
    -- Without a deadline only the clock moves.
    · exact ⟨Store.Grows.refl _, rfl, fun ⟨quiet, running, open_⟩ => ⟨quiet, running, open_⟩⟩

theorem ofExcept_keeps {R : World → World → Prop} [IsPreorder World R] (x : Except Error α) :
    Keeps R (Engine.ofExcept x) := by
  cases x
  · exact Keeps.throw _
  · exact Keeps.pure _

end Engine

namespace World

/-- A relation between worlds that each primitive step of the engine keeps: cluster calls that
delete nothing, sleeps and metric records. Every step built from these keeps it as well. -/
structure StepsKeep (R : World → World → Prop) : Prop where
  cluster : ∀ {α : Type} {x : StoreM α}, Keeps Store.Grows x → Keeps R (Engine.cluster x)
  sleep : ∀ ms, Keeps R (Engine.sleep ms)
  record : ∀ f, Keeps R (Engine.record f)

theorem steady_stepsKeep : StepsKeep Steady :=
  ⟨Engine.cluster_steady, Engine.sleep_steady, Engine.record_steady⟩

/-- Not stopped, and with no deadline to stop at: every cluster call is made. -/
def Running (w : World) : Prop := w.stopped = false ∧ w.deadline = none

/-- A running world stays running. -/
def StaysRunning (w w' : World) : Prop := w.Running → w'.Running

instance : IsPreorder World StaysRunning where
  refl _ running := running
  trans _ _ _ first second running := second (first running)

end World

namespace Engine

/-- A cluster call changes only the cluster, whatever it does there. -/
theorem cluster_staysRunning (x : StoreM α) : Keeps World.StaysRunning (Engine.cluster x) := by
  intro w running
  rw [endState_cluster]
  -- The stopped flag and the deadline are not the cluster's.
  split
  · exact running
  · exact running

/-- Without a deadline a sleep only moves the clock. -/
theorem sleep_staysRunning (ms : Nat) : Keeps World.StaysRunning (Engine.sleep ms) := by
  intro w ⟨running, open_⟩
  show World.Running (if w.stopped then w else _)
  -- With no deadline the sleep takes the branch that only moves the clock.
  simp only [running, open_, Bool.false_eq_true, if_false]
  exact ⟨rfl, rfl⟩

end Engine

theorem World.staysRunning_stepsKeep : World.StepsKeep World.StaysRunning :=
  ⟨fun _ => Engine.cluster_staysRunning _, Engine.sleep_staysRunning,
    fun _ => Keeps.modify fun _ running => running⟩

namespace World

/-- The clock reading for transition times stays as it was: nothing the engine does moves it. -/
def SameNow (w w' : World) : Prop := w'.now = w.now

instance : IsPreorder World SameNow where
  refl _ := rfl
  trans _ _ _ first second := second.trans first

end World

/-- A cluster call keeps the clock reading, whatever it does to the cluster. -/
theorem Engine.cluster_sameNow (x : StoreM α) : Keeps World.SameNow (Engine.cluster x) := by
  intro w
  show (endState ((Engine.cluster x).run w)).now = w.now
  rw [Engine.endState_cluster]
  -- The clock reading is not part of the cluster.
  split
  · rfl
  · rfl

theorem World.sameNow_stepsKeep : World.StepsKeep World.SameNow :=
  ⟨fun _ => Engine.cluster_sameNow _, fun _ => (Engine.sleep_steady _).weaken fun _ _ moved => moved.now,
    fun _ => Keeps.modify fun _ => rfl⟩

end MeshControl
