import MeshControl.Engine.Hooks
import MeshControl.Resource.ControlPlane
import MeshControl.Patch

/-!
Applying one desired object. The object is labelled as the control plane's, owned by it when
they share a namespace (and marked a member otherwise), and annotated with the mesh
generation; then the hooks run, the object is stamped with its own configuration, and it is
created when missing or patched when it drifted. Lists are applied item by item. Each object
leaves a status with the outcome of its last pass; failures are gathered, not fatal.
-/

namespace MeshControl

/-- The label naming the namespace of the owning control plane. -/
def ownerLabel : String := "maistra.io/owner"

/-- The label on objects outside the control plane's namespace, naming that namespace. -/
def memberOfLabel : String := "maistra.io/member-of"

/-- The annotation recording the operator version and control plane generation that wrote an
object. -/
def meshGenerationAnnotation : String := "maistra.io/mesh-generation"

/-- What a reconcile pass knows about the control plane it works for. -/
structure Context where
  controlPlane : ControlPlane
  /-- The control plane's namespace, empty when unset. -/
  ns : String
  /-- `<operator version>-<control plane generation>`. -/
  meshGeneration : String
  hooks : Hooks
  deriving Inhabited

/-- The context of a pass over a control plane. -/
def Context.make (cp : ControlPlane) (operatorVersion : String) (hooks : Hooks) : Context :=
  { controlPlane := cp, ns := cp.ns, hooks,
    meshGeneration := operatorVersion ++ "-" ++ toString (cp.metadata.generation.getD 0) }

/-- Marks an object as the control plane's: the owner label, an owner reference when in the
same namespace (replacing one to the same uid) or the member-of label otherwise, and the mesh
generation annotation. -/
def Context.bookkeeping (ctx : Context) (obj : Object) : Object :=
  let m := obj.metadata
  let labels := (m.labels.getD []).insert ownerLabel ctx.ns
  let m := match ctx.controlPlane.ownerReference with
    | some owner =>
      if m.ns == some ctx.ns then
        { m with labels := some labels,
                 ownerReferences := some ((m.ownerReferences.getD []).filter (fun (r : OwnerReference) => r.uid != owner.uid) ++ [owner]) }
      else { m with labels := some (labels.insert memberOfLabel ctx.ns) }
    | none => { m with labels := some (labels.insert memberOfLabel ctx.ns) }
  { obj with metadata := { m with
      annotations := some ((m.annotations.getD []).insert meshGenerationAnnotation ctx.meshGeneration) } }

namespace Object

/-- Whether an object is a list of objects: a kind ending in `List` and an `items` array. -/
def isList (o : Object) : Bool :=
  (o.types.any (·.kind.endsWith "List")) && ((o.field? "items").any Json.isArr)

/-- The items of a list, all of them objects, or the first that is not. -/
def listItems (o : Object) : Except Error (List Object) :=
  match o.field? "items" with
  | some (.arr items) =>
    items.mapM fun item =>
      (Object.ofJson item).mapError fun e =>
        .manifest ("item of list " ++ Text.quotedOption o.metadata.name ++ " is not an object: " ++
          e.render .json)
  | _ => .ok []

end Object

/-- What a pass over a component has built so far: the keys applied, and the new status. -/
structure Tally where
  processed : List ResourceKey := []
  status : ComponentStatus
  errors : Aggregate := {}
  deriving Inhabited

namespace Tally

/-- Notes a key as applied. -/
def process (t : Tally) (k : ResourceKey) : Tally :=
  if t.processed.contains k then t else { t with processed := t.processed ++ [k] }

/-- Appends the status of an object. -/
def addResource (t : Tally) (r : ResourceStatus) : Tally :=
  { t with status := { t.status with resources := t.status.resources ++ [r] } }

/-- Notes the outcome of a step. -/
def collect (t : Tally) (r : Except Error Unit) : Tally := { t with errors := t.errors.collect r }

end Tally

/-- The failure of an outcome, if it failed. -/
def failureOf (r : Except Error Unit) : Option Error :=
  match r with
  | .ok () => none
  | .error e => some e

/-- Sets the observed generation of an object's status. -/
def ResourceStatus.observe (r : ResourceStatus) (generation : Int) : ResourceStatus :=
  { r with status := { r.status with observedGeneration := generation } }

/-- Writes a desired object: hooks first, then a create when it is missing or a patch when it
drifted. The outcome and the object's status, observed at the generation written or found. -/
def applyObject (ctx : Context) (key : ResourceKey) (desired : Object) (status : ResourceStatus) :
    Engine (Except Error Unit × ResourceStatus) := do
  match ← Engine.attempt (ctx.hooks.beforeApply ctx.ns key desired) with
  | .error e => return (.error e, status)
  | .ok desired =>
  let desired := desired.stampLastApplied
  match ← Engine.attempt (Engine.cluster (getObject key)) with
  | .error e =>
    if !e.isNotFound then return (.error e, status)
    match ← Engine.attempt (Engine.cluster (createObject desired)) with
    | .error e => return (.error e, status)
    | .ok created =>
      Engine.record (·.countOperation key.kind "create")
      ctx.hooks.afterCreate key created
      return (.ok (), status.observe (created.metadata.generation.getD 1))
  | .ok current =>
    match createPatch current desired with
    | .error e => return (.error e, status)
    | .ok none =>
      match current.metadata.generation with
      | some g => return (.ok (), status.observe g)
      | none => return (.ok (), status)
    | .ok (some patch) =>
      let status := { status with status := status.status.remove .reconciled }
      match ← Engine.attempt (Engine.cluster (patchObject patch.key patch.body)) with
      | .error e => return (.error e, status)
      | .ok patched =>
        Engine.record (·.countOperation key.kind "patch")
        match patched.metadata.generation with
        | some g => return (.ok (), status.observe g)
        | none => return (.ok (), status)

/-- Applies one object that is not a list, adding its status after the statuses so far; the
status starts from the one the previous pass left for the same key. -/
def reconcileSingle (ctx : Context) (old : ComponentStatus) (desired : Object) (t : Tally) :
    Engine (Except Error Unit × Tally) := do
  let desired := ctx.bookkeeping desired
  match desired.key with
  | .error e => return (.error e, t)
  | .ok key =>
    let t := t.process key
    let (result, status) ← applyObject ctx key desired ((old.find? key).getD (.ofKey key))
    let now ← Engine.now
    let status := { status with status := status.status.afterReconcile now (failureOf result) }
    return (result, t.addResource status)

/-- Applies an object, or each item of a list in order (lists may nest while `fuel` lasts),
gathering the failures. -/
def reconcileTree (ctx : Context) (old : ComponentStatus) : Nat → Object → Tally → Engine Tally
  | 0, desired, t => do
    let (result, t) ← reconcileSingle ctx old desired t
    return t.collect result
  | fuel + 1, desired, t => do
    if desired.isList then
      match desired.listItems with
      | .error e => return t.collect (.error e)
      | .ok items => items.foldlM (fun t item => reconcileTree ctx old fuel item t) t
    else
      let (result, t) ← reconcileSingle ctx old desired t
      return t.collect result

/-- Applies a desired object (a list item by item) into a component pass: the keys applied
and statuses are added to the tally, and the outcome is every failure met. -/
def reconcileObject (ctx : Context) (old : ComponentStatus) (desired : Object) (t : Tally) :
    Engine (Except Error Unit × Tally) := do
  let t' ← reconcileTree ctx old (desired.toJson.depth + 1) desired { t with errors := {} }
  return (t'.errors.toResult, { t' with errors := t.errors })

end MeshControl
