import MeshControl.Request.Basic
import MeshControl.Engine.ControlPlane

/-!
Requests on the in-memory cluster, and the cluster setup shared by the engine requests:
objects seeded as if they already existed, injected failures, the control plane instance and
the hooks. Answers list the calls made and the objects held, in key order.
-/

namespace MeshControl.Request

/-- Reads a failure to inject: `{verb, name, failure, times?}`. -/
def injectedOf (j : Json) : Except Reject Injected := do
  let some verb := Verb.ofName? (← needString j "verb") | throw .badInput
  let name ← needString j "name"
  let some failure := Failure.ofName? (← needString j "failure") | throw .badInput
  let times ← match field? j "times" with
    | none => pure none
    | some (.num (.int i)) => if i ≥ 0 then pure (some i.toNat) else throw .badInput
    | _ => throw .badInput
  return ⟨verb, name, failure, times⟩

/-- Seeds an object into a cluster; an object without a key breaks the seeding. -/
def seedInto (s : Store) (o : Object) : Except Reject (Object × Store) :=
  match (seedObject o).run s with
  | .ok seeded s => .ok (seeded, s)
  | .error e _ =>
    .error (.panic ("seeded object needs an identity: " ++ e.kind ++ ": " ++ e.message))

/-- Seeds objects given as JSON, in order. -/
def seedAll (s : Store) (objects : List Json) : Except Reject Store :=
  objects.foldlM (fun s j => do
    let o ← decodeAs Object.decode j
    return (← seedInto s o).2) s

/-- A cluster seeded with a request's `cluster` objects after those it already holds, and
given its `failures`. -/
def clusterOf (req : Json) (start : Store := {}) : Except Reject Store := do
  let s ← seedAll start (← listOr req "cluster")
  let failures ← (← listOr req "failures").mapM injectedOf
  return { s with failures := s.failures ++ failures }

/-- The record of calls. -/
def opsJson (ops : List Op) : Json := .arr (ops.map Op.toJson)

/-- The objects a cluster holds, in key order, except one key. -/
def objectsJson (s : Store) (except : Option ResourceKey := none) : Json :=
  .arr ((s.objects.filter fun (k, _) => except != some k).map fun (_, o) => o.toJson)

/-- The calls recorded after the first `seen`. -/
def newOps (s : Store) (seen : Nat) : List Op :=
  if seen ≤ s.ops.length then s.ops.drop seen else s.ops

/-- The default instance: `basic` in `istio-system`, generation 1, with the finalizer when
asked. -/
def defaultInstance (finalizer : Bool) : Json :=
  .mkObj [("metadata", .mkObj ([("name", .str "basic"), ("namespace", .str "istio-system"),
    ("uid", .str "uid-basic"), ("generation", Json.int 1)] ++
    if finalizer then [("finalizers", .arr [.str controlPlaneFinalizer])] else []))]

/-- Fills in the apiVersion, kind, spec and metadata of an instance when missing. -/
def completeInstance (j : Json) : Json :=
  match j with
  | .obj fields =>
    let add (fs : Fields) (k : String) (v : Json) : Fields := if fs.contains k then fs else fs.insert k v
    let fs := add fields "apiVersion" (.str (controlPlaneGroup ++ "/" ++ controlPlaneVersion))
    let fs := add fs "kind" (.str controlPlaneKind)
    let fs := add fs "spec" Json.empty
    .obj (add fs "metadata" Json.empty)
  | other => other

/-- The control plane a request works for. -/
def instanceOf (req : Json) (finalizer : Bool) : Except Reject ControlPlane :=
  decodeAs ControlPlane.decode (completeInstance ((field? req "instance").getD (defaultInstance finalizer)))

/-- The hooks a request asks for: the built-in ones (the default), with the listed
constraints granted to service accounts, or none. -/
def hooksOf (req : Json) (attempts : Nat := 5) : Except Reject Hooks := do
  let constraints ← stringsOr req "scc"
  let grants : Option Grants :=
    if constraints.isEmpty then none else some ⟨constraints, .fixed attempts 0⟩
  match ← stringOr req "hooks" "builtin" with
  | "builtin" => return .builtin grants
  | "none" => return .empty
  | _ => throw .badInput

/-- A cluster call's outcome as an answer. -/
def resultJson (r : Except Error Json) : Json :=
  match r with
  | .ok j => j
  | .error e => errorJson e

/-- Runs a cluster call, keeping the cluster it leaves. -/
def runCall (s : Store) (x : StoreM Json) : Json × Store :=
  match x.run s with
  | .ok j s => (j, s)
  | .error e s => (errorJson e, s)

/-- The propagation policy of a delete step; none for `none`. -/
def propagationOf (step : Json) : Except Reject (Option Propagation) := do
  match (← stringOr step "propagation" "foreground").toLower with
  | "foreground" => return some .foreground
  | "background" => return some .background
  | "orphan" => return some .orphan
  | "none" => return none
  | _ => throw .badInput

/-- The control plane of a name and namespace as the test cluster makes it: uid `uid-<name>`,
generation 1 and an empty spec. -/
def helperControlPlane (name ns : String) : ControlPlane :=
  { metadata := { name := some name, ns := some ns, uid := some ("uid-" ++ name), generation := some 1 },
    spec := { version := "" } }

/-- One step on the cluster: its answer and the cluster after it. -/
def fakeStep (s : Store) (step : Json) : Except Reject (Json × Store) := do
  let key : Unit → Except Reject ResourceKey := fun _ => do
    decodeAs ResourceKey.decode (← need step "key")
  let object : Unit → Except Reject Object := fun _ => do
    decodeAs Object.decode (← need step "object")
  match ← needString step "do" with
  | "get" => return runCall s (Object.toJson <$> getObject (← key ()))
  | "list" =>
    let gvk ← need step "gvk"
    let group ← stringOr gvk "group" ""
    let version ← stringOr gvk "version" "v1"
    let kind ← needString gvk "kind"
    let ns := match field? step "namespace" with
      | some (.str n) => some n
      | _ => none
    let selector := match field? step "selector" with
      | some (.str n) => some n
      | _ => none
    return runCall s ((fun os => Json.arr (os.map Object.toJson)) <$> listObjects group version kind ns selector)
  | "create" => return runCall s (Object.toJson <$> createObject (← object ()))
  | "update" => return runCall s (Object.toJson <$> updateObject (← object ()))
  | "patch" => return runCall s (Object.toJson <$> patchObject (← key ()) (← need step "patch"))
  | "patch_status" => return runCall s (Object.toJson <$> patchObjectStatus (← key ()) (← need step "patch"))
  | "delete" =>
    let k ← key ()
    let p ← propagationOf step
    return runCall s ((fun () => Json.str "ok") <$> deleteObject k p)
  | "contains" => return (.bool (s.contains (← key ())), s)
  | "object" => return (((s.lookup (← key ())).map Object.toJson).getD .null, s)
  | "ops_with" =>
    let some verb := Verb.ofName? (← needString step "verb") | throw .badInput
    return (.arr ((s.ops.filter (·.verb == verb)).map (.str ·.key.render)), s)
  | "mutations" =>
    let n := (s.ops.filter fun op => [Verb.create, .update, .patch, .delete].contains op.verb).length
    return (Json.int n, s)
  | "clear_ops" => return (.str "ok", { s with ops := [] })
  | "merge_patch" => return ((← need step "target").mergePatch (← need step "patch"), s)
  | "helper" =>
    let cp := helperControlPlane (← stringOr step "name" "basic") (← stringOr step "namespace" "istio-system")
    return (cp.toJson, s)
  | "seed" =>
    let (o, s) ← seedInto s (← object ())
    return (o.toJson, s)
  | "fail" =>
    let f ← injectedOf step
    return (.str "ok", { s with failures := s.failures ++ [f] })
  | _ => throw .badInput

/-- `fake`: steps on the in-memory cluster, each with its answer and the calls it made, then
the objects held. -/
def fakeRequest (req : Json) : Handled := do
  let mut s ← clusterOf req
  let mut out : List Json := []
  for step in ← listOr req "steps" do
    let seen := s.ops.length
    let (result, s') ← fakeStep s step
    s := s'
    out := out ++ [.mkObj [("result", result), ("ops", opsJson (newOps s seen))]]
  return .mkObj [("steps", .arr out), ("objects", objectsJson s)]

end MeshControl.Request
