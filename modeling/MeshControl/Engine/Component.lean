import MeshControl.Engine.Objects
import MeshControl.Manifest

/-!
One pass over a rendered component: every object of its `.yaml` manifests is applied, then
the objects the previous pass created that this one no longer renders are deleted, newest
first. A component with no `.yaml` manifest left is being removed, and its status records a
deletion instead of a reconcile.
-/

namespace MeshControl

/-- Deletes an object in the foreground; one already gone counts as deleted. The delete hooks
run afterwards either way. -/
def deleteResource (ctx : Context) (key : ResourceKey) : Engine Unit := do
  match ← Engine.attempt (Engine.cluster (deleteObject key (some .foreground))) with
  | .ok () => Engine.record (·.countOperation key.kind "delete")
  | .error e => if !e.isAbsent then throw e
  ctx.hooks.afterDelete key

/-- Deletes, newest first, the objects of the previous pass that this pass did not apply and
that are not already deleted; their statuses are returned oldest first with the outcome of
the deletion. -/
def deleteStale (ctx : Context) (processed : List ResourceKey) : List ResourceStatus → Aggregate →
    Engine (List ResourceStatus × Aggregate)
  | [], errors => return ([], errors)
  | r :: older, errors => do
    if processed.contains r.resource || r.status.isDeleted then
      deleteStale ctx processed older errors
    else
      let now ← Engine.now
      let (r, errors) ← match ← Engine.attempt (deleteResource ctx r.resource) with
        | .ok () => pure ({ r with status := ({ r.status with observedGeneration := 0 }).afterDelete now none }, errors)
        | .error e => pure ({ r with status := r.status.afterDelete now (some e) }, errors.push e)
      let (rest, errors) ← deleteStale ctx processed older errors
      return (rest ++ [r], errors)

/-- Applies every object of the `.yaml` manifests in order; a document that cannot be read is
a failure of the pass. -/
def applyManifests (ctx : Context) (old : ComponentStatus) : List Manifest → Tally → Engine Tally
  | [], t => return t
  | m :: rest, t => do
    let t ← if !m.isYaml then pure t else
      m.objects.foldlM (fun t decoded => do
        match decoded with
        | .ok obj =>
          let (result, t) ← reconcileObject ctx old obj t
          return t.collect result
        | .error e => return { t with errors := t.errors.push e }) t
    applyManifests ctx old rest t

/-- One pass over a component: its new status and the outcome, every failure of the pass
gathered. The status starts from the previous pass's conditions. -/
def reconcileComponent (ctx : Context) (name : String) (manifests : List Manifest)
    (previous : Option ComponentStatus) : Engine (ComponentStatus × Except Error Unit) := do
  let old := previous.getD (.named name)
  let deleteOnly := !manifests.any Manifest.isYaml
  let t ← applyManifests ctx old manifests { status := { resource := name, status := old.status } }
  let (removed, errors) ← deleteStale ctx t.processed old.resources.reverse t.errors
  let status := { t.status with resources := t.status.resources ++ removed }
  let result := errors.toResult
  let now ← Engine.now
  if deleteOnly then
    return ({ status with status := status.status.afterDelete now (failureOf result) }, result)
  else
    let s := match ctx.controlPlane.metadata.generation with
      | some g => { status.status with observedGeneration := g }
      | none => status.status
    return ({ status with status := s.afterReconcile now (failureOf result) }, result)

end MeshControl
