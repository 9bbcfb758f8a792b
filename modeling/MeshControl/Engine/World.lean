import MeshControl.Cluster.Store
import MeshControl.Metrics

/-!
What the engine works on: the cluster it talks to, the metrics it records, a virtual clock
that sleeps advance, and the wall-clock reading written into condition transition times.
Engine steps may fail; a failed step keeps every change made before it, as a real cluster
keeps the writes that went through. A world may have a deadline: a sleep that would end after
it stops the world, and a stopped world ignores every later cluster call and sleep, as a run
cut off by a timeout does nothing more.
-/

namespace MeshControl

/-- The state an engine run works on. -/
structure World where
  store : Store := {}
  metrics : Metrics := {}
  /-- Virtual time in milliseconds, advanced by sleeps. -/
  clock : Nat := 0
  /-- The wall-clock reading written into condition transition times. -/
  now : String := ""
  /-- The last instant anything may happen at, if there is one. -/
  deadline : Option Nat := none
  /-- Whether a sleep ran past the deadline. -/
  stopped : Bool := false
  deriving Inhabited

/-- An engine step: reads and changes the world, and may fail. -/
abbrev Engine := EStateM Error World

namespace Engine

/-- Runs a cluster call on the world's cluster; a failed call keeps what it recorded. A
stopped world makes no call. -/
def cluster (x : StoreM α) : Engine α := fun w =>
  if w.stopped then .error (.config "stopped") w
  else match x w.store with
    | .ok a s => .ok a { w with store := s }
    | .error e s => .error e { w with store := s }

/-- Fails with the error of a plain computation. -/
def ofExcept (x : Except Error α) : Engine α :=
  match x with
  | .ok a => pure a
  | .error e => throw e

/-- Waits some milliseconds of virtual time; waiting past the deadline stops the world there. -/
def sleep (ms : Nat) : Engine Unit := modify fun w =>
  if w.stopped then w
  else match w.deadline with
    | some d => if w.clock + ms > d then { w with clock := d, stopped := true } else { w with clock := w.clock + ms }
    | none => { w with clock := w.clock + ms }

/-- The wall-clock reading for transition times. -/
def now : Engine String := do return (← get).now

/-- Runs a step and gives its outcome as a value; changes it made before failing stay. -/
def attempt (x : Engine α) : Engine (Except Error α) :=
  tryCatch (Except.ok <$> x) fun e => pure (.error e)

/-- Changes the metrics. -/
def record (f : Metrics → Metrics) : Engine Unit :=
  modify fun w => { w with metrics := f w.metrics }

end Engine

end MeshControl
