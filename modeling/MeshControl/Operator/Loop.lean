import MeshControl.Operator.Watcher
import MeshControl.Engine.ControlPlane

/-!
The operator's control loop over virtual time. It first checks that control planes can be
listed at all, retrying with backoff, and gives up with a configuration error when they
cannot. Then the watcher keeps the cache, and every control plane it hands on is reconciled
from the cache; what happens at one instant on the watch happens before the reconciles due
then. After a reconcile the control plane is due again: a second after the finalizer was
added, after the resync interval when one is set, after fifteen seconds for a failure a retry
may cure and a minute for any other, and after ten seconds when this replica does not lead.
A control plane no longer cached is not reconciled. A failing watcher waits before it goes
on, from 0.8 s doubling up to 30 s, starting over after two quiet minutes. Everything stops
at the deadline.
-/

namespace MeshControl

/-- Milliseconds before the pass after the finalizer was added. -/
def requeueAfterFinalizer : Nat := 1000

/-- Milliseconds before a replica that does not lead looks again. -/
def notLeaderRequeue : Nat := 10000

/-- Milliseconds before a failed reconcile is tried again. -/
def retryDelay (e : Error) : Nat := if e.isRetriable then 15000 else 60000

/-- The controller's settings. -/
structure ControllerConfig where
  engine : EngineConfig
  /-- What the renderer gives for every control plane. -/
  rendered : Except Error Rendered
  /-- The namespace watched; all when none. -/
  scope : Option String := none
  /-- Whether this replica leads. -/
  leader : Bool := true
  /-- Milliseconds between reconciles of a settled control plane; none when zero. -/
  resync : Nat := 0

/-- The waits of a failing watcher. -/
structure Backoff where
  /-- The next wait, in milliseconds. -/
  interval : Nat := 800
  /-- When the watcher last started waiting. -/
  last : Option Nat := none
  deriving Inhabited

/-- The next wait of a watcher failing at `now`, and the backoff after it. -/
def Backoff.next (b : Backoff) (now : Nat) : Nat × Backoff :=
  let interval := if b.last.any (fun l => now > l + 120000) then 800 else b.interval
  (interval, { interval := min (interval * 2) 30000, last := some now })

/-- The state of a controller run. -/
structure ControllerRun where
  client : KubeClient
  world : World
  reflector : Reflector := {}
  /-- When the watcher runs next; none when it waits for good. -/
  watcherAt : Option Nat := some 0
  backoff : Backoff := {}
  /-- The reconciles due, each control plane once, in the order first scheduled. -/
  due : List (ObjectRef × Nat) := []
  /-- When the last reconcile of each control plane ended. -/
  ended : List (ObjectRef × Nat) := []
  deriving Inhabited

/-- The time a reference is bound to in a table. -/
def lookupTime (table : List (ObjectRef × Nat)) (ref : ObjectRef) : Option Nat :=
  (table.find? (·.1 == ref)).map (·.2)

/-- Sets the time of a reference in a table. -/
def setTime (table : List (ObjectRef × Nat)) (ref : ObjectRef) (t : Nat) : List (ObjectRef × Nat) :=
  if table.any (·.1 == ref) then table.map fun (r, u) => if r == ref then (r, t) else (r, u)
  else table ++ [(ref, t)]

/-- Makes a control plane due at an instant, unless it is due sooner; not before its last
reconcile ended. -/
def ControllerRun.schedule (s : ControllerRun) (ref : ObjectRef) (t : Nat) : ControllerRun :=
  let t := max t ((lookupTime s.ended ref).getD 0)
  match lookupTime s.due ref with
  | some u => if u ≤ t then s else { s with due := setTime s.due ref t }
  | none => { s with due := s.due ++ [(ref, t)] }

/-- The first of the reconciles due soonest. -/
def firstDue : List (ObjectRef × Nat) → Option (ObjectRef × Nat)
  | [] => none
  | (r, t) :: rest =>
    match firstDue rest with
    | some (r', t') => if t' < t then some (r', t') else some (r, t)
    | none => some (r, t)

/-- Runs the watcher once at `t`. -/
def ControllerRun.watch (cfg : ControllerConfig) (s : ControllerRun) (t : Nat) : ControllerRun :=
  match (s.reflector.step cfg.scope).run s.client with
  | .ok (out, reflector) client =>
    let s := { s with reflector, client }
    match out with
    | .quiet => s
    | .applied cp => { s.schedule cp.ref t with backoff := { s.backoff with interval := 800 } }
    | .failed =>
      let (wait, backoff) := s.backoff.next t
      { s with watcherAt := some (t + wait), backoff }
    | .idle => { s with watcherAt := none }
  | .error _ client => { s with client, watcherAt := none }

/-- Reconciles a control plane at `t` from the cache, and makes it due again. -/
def ControllerRun.reconcile (cfg : ControllerConfig) (s : ControllerRun) (ref : ObjectRef) (t : Nat) :
    ControllerRun :=
  let s := { s with due := s.due.filter (·.1 != ref) }
  match s.reflector.cache.find? (·.ref == ref) with
  | none => s
  | some cp =>
    if !cfg.leader then s.schedule ref (t + notLeaderRequeue)
    else
      let (result, world) := match (reconcileControlPlane cfg.engine cp cfg.rendered).run
          { s.world with clock := t } with
        | .ok o w => (Except.ok o, w)
        | .error e w => (.error e, w)
      let done := world.clock
      let world := match result with
        | .error e => { world with metrics := world.metrics.countError "controlplane" e.kind }
        | .ok _ => world
      let s := { s with world, ended := setTime s.ended ref done }
      match result with
      | .ok .requeue => s.schedule ref (done + requeueAfterFinalizer)
      | .ok .complete => if cfg.resync == 0 then s else s.schedule ref (done + cfg.resync)
      | .error e => s.schedule ref (done + retryDelay e)

/-- Runs the loop until `deadline`, for at most `fuel` steps. -/
def ControllerRun.loop (cfg : ControllerConfig) (deadline : Nat) : Nat → ControllerRun → ControllerRun
  | 0, s => s
  | fuel + 1, s =>
    let next := firstDue s.due
    match s.watcherAt, next with
    | none, none => s
    | some w, some (_, t) =>
      if w ≤ t then
        if w > deadline then s else ControllerRun.loop cfg deadline fuel (s.watch cfg w)
      else step fuel s next
    | some w, none => if w > deadline then s else ControllerRun.loop cfg deadline fuel (s.watch cfg w)
    | none, some _ => step fuel s next
where
  /-- Runs the reconcile due soonest, unless the deadline came first. -/
  step (fuel : Nat) (s : ControllerRun) : Option (ObjectRef × Nat) → ControllerRun
    | some (ref, t) =>
      if t > deadline then s
      else
        let s := s.reconcile cfg ref t
        if s.world.stopped then s else ControllerRun.loop cfg deadline fuel s
    | none => s

/-- The state of the check that control planes can be listed: the client, the clock, and
whether the deadline passed. -/
abbrev CheckM := EStateM Error (KubeClient × Nat × Bool)

/-- One listing of at most one control plane. -/
def listOne (scope : Option String) : CheckM Unit := fun (c, clock, stopped) =>
  match (KubeM.built "GET" (controlPlanesPath scope ++ "?&limit=1") none >>= KubeM.fetch >>=
      fun text => KubeM.ofExcept (listPage text)).run c with
  | .ok _ c => .ok () (c, clock, stopped)
  | .error e c => .error e (c, clock, stopped)

/-- Waits in the check; passing the deadline stops it. -/
def checkSleep (deadline : Nat) (ms : Nat) : CheckM Unit := fun (c, clock, _) =>
  if clock + ms > deadline then .error (.config "stopped") (c, deadline, true)
  else .ok () (c, clock + ms, false)

/-- How a controller run ended. -/
inductive ControllerEnd where
  /-- The deadline came. -/
  | timeout
  /-- The controller gave up. -/
  | failed (e : Error)

/-- Runs the controller from time zero until `deadline` milliseconds: how it ended, the
API client and the world after it. -/
def runController (cfg : ControllerConfig) (deadline : Nat) (client : KubeClient) (world : World) :
    ControllerEnd × KubeClient × World :=
  let check := retryWithBackoff RetryConfig.standard (checkSleep deadline) (listOne cfg.scope)
  match check.run (client, 0, false) with
  | .error _ (client, _, true) => (.timeout, client, world)
  | .error _ (client, _, false) =>
    (.failed (.config "ServiceMeshControlPlane CRD not installed"), client, world)
  | .ok () (client, clock, _) =>
    let start : ControllerRun := { client, world := { world with deadline := some deadline },
                                   watcherAt := some clock }
    -- Each step reads a watch line, takes a page, or runs a reconcile; this bounds them.
    let s := ControllerRun.loop cfg deadline (100000 + 100 * deadline) start
    (.timeout, s.client, s.world)

end MeshControl
