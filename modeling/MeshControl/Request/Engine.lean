import MeshControl.Request.Cluster
import MeshControl.Request.Core

/-!
Requests that run the engine on the in-memory cluster: one object, passes over a component,
steps on a control plane, the hooks of one object, constraint grants, the retry loops and the
installation order. Each answer reports the calls the cluster saw and the objects it holds.
-/

namespace MeshControl.Request

/-- Runs an engine step on a world; a failure is an outcome like any other. -/
def runEngine (w : World) (x : Engine α) : Except Error α × World :=
  match x.run w with
  | .ok a w => (.ok a, w)
  | .error e w => (.error e, w)

/-- A unit outcome with the cluster's calls and objects. -/
def withCluster (result : Json) (s : Store) (seen : Nat) : List (String × Json) :=
  [("result", result), ("ops", opsJson (newOps s seen)), ("objects", objectsJson s)]

/-- Reads a manifest `{name, content}`. -/
def manifestOf (j : Json) : Except Reject Manifest := do
  return ⟨← needString j "name", ← needString j "content"⟩

/-- `object`: one desired object applied for a component, with the new component status and
the keys applied. -/
def objectRequest (env : Env) (req : Json) : Handled := do
  let cp ← instanceOf req false
  let version ← stringOr req "operator_version" "1.0.0"
  let hooks ← hooksOf req
  let store ← clusterOf req
  let old ← match field? req "old_status" with
    | some j => decodeAs ComponentStatus.decode j
    | none => pure (ComponentStatus.named "")
  let obj ← decodeAs Object.decode (← need req "object")
  let ctx := Context.make cp version hooks
  let (r, w) := runEngine { store, now := env.nowText }
    (reconcileObject ctx old obj { status := .named old.resource })
  let (result, status, processed) := match r with
    | .ok (result, t) => (unitJson result, t.status, t.processed)
    | .error e => (errorJson e, ComponentStatus.named old.resource, [])
  let keys := (processed.map ResourceKey.render).mergeSort (fun a b => decide (a ≤ b))
  return .mkObj ([("status", status.toJson), ("processed", .arr (keys.map .str))] ++
    withCluster result w.store 0)

/-- `component`: passes over one component, each starting from its own previous status or
the status the pass before left. -/
def componentRequest (env : Env) (req : Json) : Handled := do
  let cp ← instanceOf req false
  let version ← stringOr req "operator_version" "1.0.0"
  let hooks ← hooksOf req
  let mut world : World := { store := ← clusterOf req, now := env.nowText }
  let name ← stringOr req "name" "istio"
  let mut previous ← match field? req "old_status" with
    | some j => some <$> decodeAs ComponentStatus.decode j
    | none => pure none
  let ctx := Context.make cp version hooks
  let mut out : List Json := []
  for pass in ← listOr req "passes" do
    let manifests ← (← listOr pass "manifests").mapM manifestOf
    if let some j := field? pass "old_status" then
      previous := some (← decodeAs ComponentStatus.decode j)
    let store ← seedAll world.store (← listOr pass "seed")
    let failures ← (← listOr pass "fail").mapM injectedOf
    world := { world with store := { store with failures := store.failures ++ failures } }
    let seen := world.store.ops.length
    let (r, w) := runEngine world (reconcileComponent ctx name manifests previous)
    world := w
    match r with
    | .ok (status, result) =>
      previous := some status
      out := out ++ [.mkObj ([("status", status.toJson)] ++ withCluster (unitJson result) w.store seen)]
    | .error e =>
      out := out ++ [.mkObj ([("status", .null)] ++ withCluster (errorJson e) w.store seen)]
  return .mkObj [("passes", .arr out)]

/-- The rendered components of a step: `{component: [manifest]}`, or null for a failing
renderer. -/
def renderedOf (j : Json) : Except Reject (Except Error Rendered) :=
  match j with
  | .null => .ok (.error (.render "charts unavailable"))
  | .obj fields => do
    let rendered ← fields.mapM fun (name, ms) => do
      let ms ← match ms with
        | .arr xs => xs.mapM manifestOf
        | _ => throw .badInput
      return (name, ms)
    return .ok rendered
  | _ => .error .badInput

/-- The engine settings of a control plane request. -/
def engineConfigOf (req : Json) : Except Reject EngineConfig := do
  let c := (field? req "config").getD Json.empty
  let order ← match field? c "order" with
    | some _ => stringsOr c "order"
    | none => pure defaultComponentOrder
  return { order,
           waitFor := ← stringsOr c "wait_for",
           readinessAttempts := ← natOr c "readiness_attempts" 10,
           readinessInterval := 1000 * (← natOr c "readiness_interval_secs" 0),
           operatorVersion := ← stringOr c "operator_version" "1.0.0",
           finalizerRetry := .fixed (← natOr c "finalizer_attempts" 5) 0,
           hooks := ← hooksOf c }

/-- The state of a control plane session: the world, what the renderer gives, and the
instance last read. -/
structure Session where
  world : World
  rendered : Except Error Rendered
  current : ControlPlane

/-- The deletion time requests mark a control plane with: 2020-01-01T00:00:00Z. -/
def deletionMark : Time := ⟨1577836800, 0⟩

/-- Changes the stored instance object and stores it again as seeded. -/
def editInstance (s : Store) (key : ResourceKey) (f : Object → Object) : Except Reject Store :=
  match s.lookup key with
  | some o => return (← seedInto s (f o)).2
  | none => return s

/-- One step of a control plane request: its result, if it has one, and the session after. -/
def controlPlaneStep (cfg : EngineConfig) (key : ResourceKey) (sess : Session) (step : Json) :
    Except Reject (Option Json × Session) := do
  let reread (sess : Session) (stale : Bool) : Session :=
    if stale then sess
    else match sess.world.store.lookup key with
      | some o =>
        match ControlPlane.ofObject o with
        | .ok cp => { sess with current := cp }
        | .error _ => sess
      | none => sess
  let edit (f : Object → Object) : Except Reject (Option Json × Session) := do
    let store ← editInstance sess.world.store key f
    return (none, { sess with world := { sess.world with store } })
  match ← needString step "do" with
  | "render" => return (none, { sess with rendered := ← renderedOf (← need step "render") })
  | "reconcile" =>
    let sess ← match step.get? "render" with
      | some r => pure { sess with rendered := ← renderedOf r }
      | none => pure sess
    let sess := reread sess (← boolOr step "stale" false)
    let (r, w) := runEngine sess.world (reconcileControlPlane cfg sess.current sess.rendered)
    let result := match r with
      | .ok o => Json.str o.name
      | .error e => errorJson e
    return (some result, { sess with world := w })
  | "delete" =>
    let sess := reread sess (← boolOr step "stale" false)
    let (r, w) := runEngine sess.world (deleteControlPlane cfg sess.current)
    return (some (unitJson (r.map fun _ => ())), { sess with world := w })
  | "bump_generation" =>
    edit fun o => o.withMeta fun m => { m with generation := some (m.generation.getD 0 + 1) }
  | "mark_deleted" =>
    edit fun o => o.withMeta fun m => { m with deletionTimestamp := some deletionMark }
  | "drop_finalizers" => edit fun o => o.withMeta fun m => { m with finalizers := none }
  | "set_status" =>
    let status ← need step "status"
    edit fun o => o.setField "status" status
  | "seed" =>
    let o ← decodeAs Object.decode (← need step "object")
    let (_, store) ← seedInto sess.world.store o
    return (none, { sess with world := { sess.world with store } })
  | "fail" =>
    let f ← injectedOf step
    let store := sess.world.store
    return (none, { sess with world := { sess.world with store := { store with failures := store.failures ++ [f] } } })
  | _ => throw .badInput

/-- Runs the steps of a control plane request: the answer, and the world it leaves. -/
def controlPlaneSession (env : Env) (req : Json) : Except Reject (Json × World) := do
  let cp ← instanceOf req true
  let cfg ← engineConfigOf req
  let key := cp.clusterKey
  -- The instance is stored before the other objects.
  let start ← if ← boolOr req "instance_in_cluster" true then
      pure (← seedInto {} (← (cp.toObject.mapError fun e => Reject.panic e.message))).2
    else pure {}
  let store ← clusterOf req start
  let mut sess : Session := { world := { store, now := env.nowText },
                              rendered := .error (.render "charts unavailable"), current := cp }
  let mut out : List Json := []
  for step in ← listOr req "steps" do
    let seen := sess.world.store.ops.length
    let (result, sess') ← controlPlaneStep cfg key sess step
    sess := sess'
    let s := sess.world.store
    let stored := ((s.lookup key).map Object.toJson).getD .null
    let fields := [("ops", opsJson (newOps s seen)), ("instance", stored), ("objects", objectsJson s (some key))]
    out := out ++ [.mkObj ((result.map fun r => [("result", r)]).getD [] ++ fields)]
  return (.mkObj [("steps", .arr out)], sess.world)

/-- `control_plane`: steps on a control plane stored in the cluster, each with the calls it
made, the stored instance and the other objects. -/
def controlPlaneRequest (env : Env) (req : Json) : Handled :=
  (·.1) <$> controlPlaneSession env req

/-- `metrics`: the metrics text after an optional control plane scenario and direct
recordings. -/
def metricsRequest (env : Env) (req : Json) : Handled := do
  let mut m : Metrics := {}
  if let some scenario := field? req "scenario" then
    m := (← controlPlaneSession env scenario).2.metrics
  for call in ← listOr req "calls" do
    match ← needString call "do" with
    | "observe" =>
      let seconds ← match field? call "seconds" with
        | some (.num (.int i)) => pure (Float.ofInt i)
        | some (.num (.float f)) => pure f
        | _ => throw .badInput
      m := m.observe (← stringOr call "controller" "controlplane") seconds
    | "error" => m := m.countError (← stringOr call "controller" "controlplane") (← needString call "kind")
    | "object" => m := m.countOperation (← needString call "kind") (← needString call "verb")
    | "component" =>
      m := m.setInstalled (← needString call "namespace") (← needString call "name")
        (← needString call "component") (← boolOr call "installed" false)
    | _ => throw .badInput
  return .mkObj [("text", .str m.render)]

/-- `hook`: the hooks of one object's kind at one phase. -/
def hookRequest (env : Env) (req : Json) : Handled := do
  let cp ← instanceOf req false
  let hooks ← hooksOf req
  let store ← clusterOf req
  let obj ← decodeAs Object.decode (← need req "object")
  let phase ← stringOr req "phase" "pre_apply"
  unless ["pre_apply", "post_create", "post_delete"].contains phase do throw .badInput
  let key ← match obj.key with
    | .ok k => pure k
    | .error e => return errorJson e
  let world : World := { store, now := env.nowText }
  let (r, w) := match phase with
    | "pre_apply" => runEngine world (hooks.beforeApply cp.ns key obj)
    | "post_create" => runEngine world ((fun () => obj) <$> hooks.afterCreate key obj)
    | _ => runEngine world ((fun () => obj) <$> hooks.afterDelete key)
  let (result, after) := match r with
    | .ok o => (Json.str "ok", o)
    | .error e => (errorJson e, obj)
  return .mkObj ([("object", after.toJson)] ++ withCluster result w.store 0)

/-- `scc`: grants and revocations of the listed constraints. -/
def sccRequest (env : Env) (req : Json) : Handled := do
  let mut world : World := { store := ← clusterOf req, now := env.nowText }
  let grants : Grants := ⟨← stringsOr req "constraints", .fixed (← natOr req "attempts" 5) 0⟩
  let mut out : List Json := []
  for step in ← listOr req "steps" do
    let seen := world.store.ops.length
    let result ← match ← needString step "do" with
      | "grant" | "revoke" =>
        let add := (← needString step "do") == "grant"
        let ns ← stringOr step "namespace" "istio-system"
        let name ← stringOr step "name" ""
        let (r, w) := runEngine world (updateUsers grants (serviceAccountUser ns name) add)
        world := w
        pure (unitJson r)
      | "fail" =>
        let f ← injectedOf step
        world := { world with store := { world.store with failures := world.store.failures ++ [f] } }
        pure (Json.str "ok")
      | _ => throw .badInput
    out := out ++ [.mkObj (withCluster result world.store seen)]
  return .mkObj [("steps", .arr out)]

/-- `default_order`: the default installation order. -/
def defaultOrderRequest : Handled :=
  return .mkObj [("order", .arr (defaultComponentOrder.map .str))]

/-- Sorts names bytewise and drops repeats, as the keys of a map. -/
def sortedKeys (names : List String) : List String :=
  (names.mergeSort (fun a b => decide (a ≤ b))).foldl pushNew []

/-- `sequence`: the components of a pass. -/
def sequenceRequest (req : Json) : Handled := do
  let priority ← match field? req "priority" with
    | some _ => stringsOr req "priority"
    | none => pure defaultComponentOrder
  let rendered := sortedKeys (← stringsOr req "rendered")
  let previous ← stringsOr req "previous"
  return .mkObj [("sequence", .arr ((componentSequence priority rendered previous).map .str)),
                 ("priority", .arr (priority.map .str))]

/-- The outcome of call `i` among scripted outcomes: the last one repeats. -/
def outcomeAt (outcomes : List Json) (i : Nat) : Json :=
  outcomes.getD (min i (outcomes.length - 1)) .null

/-- `retry`: a retry loop over scripted outcomes, with its result and the number of calls. -/
def retryRequest (yaml : String → Option YamlError) (req : Json) : Handled := do
  let mode ← needString req "mode"
  let attempts ← natOr req "attempts" 5
  let outcomes ← listOr req "outcomes"
  if outcomes.isEmpty then throw .badInput
  let cfg ← match field? req "delay_ms" with
    | none => pure (RetryConfig.fixed attempts 0)
    | some _ =>
      let d ← natOr req "delay_ms" 0
      pure (⟨attempts, d, 4 * d, 2⟩ : RetryConfig)
  -- Each call reads its outcome by the number of calls made so far.
  let errors ← outcomes.mapM fun o => match o with
    | .str "ok" | .bool _ => pure none
    | spec => some <$> errorSpec yaml spec
  let call : EStateM Error Nat Nat := do
    let i ← get
    set (i + 1)
    match errors.getD (min i (errors.length - 1)) none with
    | some e => throw e
    | none => return i
  let noSleep : Nat → EStateM Error Nat Unit := fun _ => pure ()
  let answer (r : EStateM.Result Error Nat Json) : Json :=
    match r with
    | .ok j n => .mkObj [("result", j), ("calls", Json.int n)]
    | .error e n => .mkObj [("result", errorJson e), ("calls", Json.int n)]
  match mode with
  | "conflict" =>
    return answer ((retryOnConflict cfg noSleep call).map (fun i => Json.mkObj [("ok", Json.int i)]) |>.run 0)
  | "backoff" =>
    return answer ((retryWithBackoff cfg noSleep call).map (fun i => Json.mkObj [("ok", Json.int i)]) |>.run 0)
  | "poll" =>
    let check : EStateM Error Nat Bool := do
      let i ← call
      match outcomeAt outcomes i with
      | .bool b => return b
      | _ => return false
    return answer ((pollUntil cfg noSleep check).map (fun b => Json.mkObj [("ready", .bool b)]) |>.run 0)
  | _ => throw .badInput

end MeshControl.Request
