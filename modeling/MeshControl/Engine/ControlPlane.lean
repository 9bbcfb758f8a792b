import MeshControl.Engine.Component

/-!
Reconciling a whole control plane. A pass runs every rendered component in installation
order, then the components of the previous status that no longer render (which tears them
down), gathers the top-level status and stores it. A control plane is first given the
operator's finalizer; once deletion is requested its objects are deleted, newest component
first, and the finalizer is removed so the control plane can go.
-/

namespace MeshControl

/-- Components installed first, in this order, when they are rendered. -/
def defaultComponentOrder : List String :=
  ["istio", "istio/charts/security", "istio/charts/galley", "istio/charts/prometheus",
   "istio/charts/mixer", "istio/charts/pilot", "istio/charts/gateways",
   "istio/charts/sidecarInjectorWebhook", "istio/charts/grafana", "istio/charts/tracing",
   "istio/charts/kiali"]

/-- The rendered manifests of each component, by component name in byte order. -/
abbrev Rendered := List (String × List Manifest)

/-- Appends a name unless it is already there. -/
def pushNew (names : List String) (name : String) : List String :=
  if names.contains name then names else names ++ [name]

/-- The components of one pass: the prioritized ones that rendered, in priority order, then
the other rendered ones by name, then the previous ones that no longer render. -/
def componentSequence (priority rendered previous : List String) : List String :=
  let first := (priority.filter rendered.contains).foldl pushNew []
  (previous.foldl pushNew (rendered.foldl pushNew first))

/-- How the engine runs. -/
structure EngineConfig where
  order : List String := defaultComponentOrder
  /-- Components whose Deployments are waited for after they are reconciled. -/
  waitFor : List String := []
  readinessAttempts : Nat := 10
  /-- Milliseconds between readiness checks. -/
  readinessInterval : Nat := 6000
  /-- The prefix of the mesh generation annotation. -/
  operatorVersion : String := "0.1.0"
  finalizerRetry : RetryConfig := RetryConfig.withAttempts 5
  hooks : Hooks := {}
  deriving Inhabited

/-- What to do after a pass. -/
inductive Outcome where
  /-- Run again right away: the finalizer was just added. -/
  | requeue
  | complete
  deriving DecidableEq, Inhabited, Repr

/-- The name of an outcome. -/
def Outcome.name : Outcome → String
  | .requeue => "Requeue"
  | .complete => "Complete"

/-- A JSON number as a 64-bit signed integer, if it is one. -/
def Json.i64? (j : Json) : Option Int :=
  match j with
  | .num (.int i) => if -Int.pow 2 63 ≤ i && i < Int.pow 2 63 then some i else none
  | _ => none

/-- Whether a Deployment has as many ready replicas as it asks for (one when unset). -/
def deploymentReady (d : Object) : Bool :=
  let spec := (d.field? "spec").getD .null
  let status := (d.field? "status").getD .null
  let desired := ((spec.get? "replicas").bind Json.i64?).getD 1
  let ready := ((status.get? "readyReplicas").bind Json.i64?).getD 0
  ready ≥ desired

/-- Whether every Deployment is ready, reading them in order until one is not. -/
def deploymentsReady : List ResourceKey → Engine Bool
  | [] => return true
  | k :: rest => do
    if deploymentReady (← Engine.cluster (getObject k)) then deploymentsReady rest else return false

/-- Waits for the Deployments of a component that are not deleted to become ready, as many
checks as configured; giving up is only logged. -/
def waitForComponent (cfg : EngineConfig) (component : ComponentStatus) : Engine Unit := do
  let deployments := (component.resources.filter fun r =>
    r.resource.kind == "Deployment" && !r.status.isDeleted).map (·.resource)
  if deployments.isEmpty then return
  discard <| pollUntil (.fixed cfg.readinessAttempts cfg.readinessInterval) Engine.sleep
    (deploymentsReady deployments)

namespace ControlPlane

/-- The key of the control plane; its name falls back to its generated name. -/
def clusterKey (cp : ControlPlane) : ResourceKey :=
  ⟨controlPlaneGroup, controlPlaneVersion, controlPlaneKind, cp.ns,
    (cp.metadata.name.orElse fun _ => cp.metadata.generateName).getD ""⟩

/-- The name, falling back to the generated name. -/
def anyName (cp : ControlPlane) : String := cp.clusterKey.name

end ControlPlane

/-- Adds the operator's finalizer to a control plane by updating it as given. -/
def addFinalizer (cp : ControlPlane) : Engine Unit := do
  if cp.hasFinalizer then return
  let obj ← Engine.ofExcept cp.toObject
  let obj := obj.withMeta fun m => { m with
    finalizers := some (m.finalizers.getD [] ++ [controlPlaneFinalizer]) }
  discard <| Engine.cluster (updateObject obj)

/-- Removes the operator's finalizer from the stored control plane through a cluster client,
given by how it makes a cluster call and how it sleeps; re-reads the control plane after a
conflicting update; a control plane already gone is fine. Conflicts to the end are a finalizer
failure. -/
def removeFinalizerThrough {M : Type → Type} [Monad M] [MonadExceptOf Error M]
    (call : {α : Type} → StoreM α → M α) (sleep : Nat → M Unit) (cp : ControlPlane)
    (retry : RetryConfig) : M Unit := do
  let key := cp.clusterKey
  let once : M Unit := do
    let current ← tryCatch (some <$> call (getObject key)) fun e =>
      if e.isNotFound then pure none else throw e
    let some current := current | return
    let before := current.metadata.finalizers.getD []
    let after := before.filter (· != controlPlaneFinalizer)
    if after.length == before.length then return
    discard <| call (updateObject (current.withMeta fun m => { m with finalizers := some after }))
  tryCatch (retryOnConflict retry sleep once) fun e =>
    if e.isConflict then
      throw (.finalizer ("could not remove finalizer from " ++ key.render ++ ": " ++ e.message))
    else throw e

/-- Removes the operator's finalizer from the stored control plane, through the operator's own
client. -/
def removeFinalizer (cp : ControlPlane) (retry : RetryConfig) : Engine Unit :=
  removeFinalizerThrough Engine.cluster Engine.sleep cp retry

/-- Tears a control plane down: deletes every object of its status not known to be gone,
newest component and newest object first (failures are only logged), then removes the
finalizer. Nothing happens without the finalizer. -/
def deleteControlPlane (cfg : EngineConfig) (cp : ControlPlane) : Engine Unit := do
  if !cp.hasFinalizer then return
  let ctx := Context.make cp cfg.operatorVersion cfg.hooks
  for component in cp.statusOrDefault.componentStatus.reverse do
    for resource in component.resources.reverse do
      if !resource.status.deletionConfirmed then
        discard <| Engine.attempt (deleteResource ctx resource.resource)
  removeFinalizer cp cfg.finalizerRetry

/-- Stores the status of a control plane. -/
def persistStatus (cp : ControlPlane) (status : ControlPlaneStatus) : Engine Unit :=
  discard <| Engine.cluster (patchObjectStatus cp.clusterKey (.mkObj [("status", status.toJson)]))

/-- Runs the components of a pass in sequence, building the new component statuses and
gathering failures. A component with no `.yaml` manifest, no objects and a deleted status is
fully removed and left out. -/
def reconcileComponents (cfg : EngineConfig) (ctx : Context) (previous : ControlPlaneStatus)
    (rendered : Rendered) : List String → List ComponentStatus × Aggregate →
    Engine (List ComponentStatus × Aggregate)
  | [], acc => return acc
  | name :: rest, (done, errors) => do
    let manifests := ((rendered.find? (·.1 == name)).map (·.2)).getD []
    let (component, result) ← reconcileComponent ctx name manifests (previous.find? name)
    Engine.record (·.setInstalled ctx.ns ctx.controlPlane.anyName name component.status.isInstalled)
    let errors ← match result with
      | .ok () => do
        if cfg.waitFor.contains name then waitForComponent cfg component
        pure errors
      | .error e => pure (errors.push e)
    let gone := !manifests.any Manifest.isYaml && component.resources.isEmpty && component.status.isDeleted
    reconcileComponents cfg ctx previous rendered rest (if gone then done else done ++ [component], errors)

/-- One reconcile pass over a control plane. A control plane being deleted is torn down; one
without the finalizer gets it and is requeued; one whose generation is already installed and
reconciled is left alone. Otherwise every component is reconciled against what `rendered`
gives (a rendering failure keeps the previous component statuses), and the status is stored.
The pass fails with its gathered failures, or with a failure to store the status. -/
def reconcileControlPlane (cfg : EngineConfig) (cp : ControlPlane) (rendered : Except Error Rendered) :
    Engine Outcome := do
  if cp.isBeingDeleted then
    if cp.hasFinalizer then deleteControlPlane cfg cp
    return .complete
  if !cp.hasFinalizer then
    addFinalizer cp
    return .requeue
  let previous := cp.statusOrDefault
  let generation := cp.metadata.generation.getD 0
  if generation == previous.status.observedGeneration && previous.status.isInstalled &&
      previous.status.isReconciled then
    return .complete
  let ctx := Context.make cp cfg.operatorVersion cfg.hooks
  let (components, errors) ← match rendered with
    | .ok rendered =>
      let names := componentSequence cfg.order (rendered.map (·.1))
        (previous.componentStatus.map (·.resource))
      reconcileComponents cfg ctx previous rendered names ([], {})
    | .error e => pure (previous.componentStatus, Aggregate.push {} e)
  let result := errors.toResult
  let now ← Engine.now
  let status : ControlPlaneStatus :=
    { status := ({ previous.status with observedGeneration := generation }).afterReconcile now (failureOf result),
      componentStatus := components }
  let persisted ← Engine.attempt (persistStatus cp status)
  match persisted, result with
  | .ok (), .ok () => return .complete
  | .error e, .ok () => throw e
  | _, .error e => throw e

end MeshControl
