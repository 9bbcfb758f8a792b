import MeshControl.Resource.Object
import MeshControl.Status.Tree

/-!
The control plane resource: metadata, a spec (chart version, an optional template, and the
chart values passed through untouched) and the status tree. It travels through the cluster as
an untyped object and is read back from one; the finalizer it carries keeps it around until
its objects are torn down.
-/

namespace MeshControl

/-- The API group of control planes. -/
def controlPlaneGroup : String := "maistra.io"

/-- The API version of control planes. -/
def controlPlaneVersion : String := "v1"

/-- The kind of control planes. -/
def controlPlaneKind : String := "ServiceMeshControlPlane"

/-- The finalizer that protects a control plane until its objects are deleted. -/
def controlPlaneFinalizer : String := "maistra.io/istio-operator"

/-- What a control plane asks for. -/
structure ControlPlaneSpec where
  /-- The chart version; selects the charts handed to the renderer. -/
  version : String := "v1.0"
  /-- The named template the values are layered on. -/
  template : Option String := none
  /-- Chart values passed through to the renderer. -/
  istio : Json := .null
  deriving Inhabited

/-- A control plane resource. -/
structure ControlPlane where
  metadata : ObjectMeta
  spec : ControlPlaneSpec
  status : Option ControlPlaneStatus := none
  deriving Inhabited

namespace ControlPlaneSpec

/-- Reads a spec: every field has a default. -/
def decode (v : Yaml) : Decoded ControlPlaneSpec := do
  let entries ← v.namedEntries "struct ServiceMeshControlPlaneSpec"
  let mut spec : ControlPlaneSpec := {}
  for (k, x, part) in entries do
    match k with
    | "version" => spec := { spec with version := ← Decoded.inPart part x.readString }
    | "template" => spec := { spec with template := ← Decoded.inPart part (Yaml.readOption Yaml.readString x) }
    | "istio" => spec := { spec with istio := ← Decoded.inPart part x.toJson }
    | _ => pure ()
  return spec

/-- The JSON object of a spec; the template only when set. -/
def toJson (s : ControlPlaneSpec) : Json :=
  .mkObj ([("version", .str s.version), ("istio", s.istio)] ++
    match s.template with
    | some t => [("template", .str t)]
    | none => [])

end ControlPlaneSpec

namespace ControlPlane

/-- Reads a control plane; metadata and spec are required, other fields are ignored. -/
def decode (v : Yaml) : Decoded ControlPlane := do
  let entries ← v.namedEntries "struct ServiceMeshControlPlane"
  let mut metadata : Option ObjectMeta := none
  let mut spec : Option ControlPlaneSpec := none
  let mut status : Option ControlPlaneStatus := none
  for (k, x, part) in entries do
    match k with
    | "metadata" => metadata := some (← Decoded.inPart part (ObjectMeta.decode x))
    | "spec" => spec := some (← Decoded.inPart part (ControlPlaneSpec.decode x))
    | "status" => status ← Decoded.inPart part (Yaml.readOption ControlPlaneStatus.decode x)
    | _ => pure ()
  let some m := metadata | throw (.missingField "metadata")
  let some s := spec | throw (.missingField "spec")
  return { metadata := m, spec := s, status }

/-- The JSON object of a control plane, with its apiVersion and kind; status only when set. -/
def toJson (cp : ControlPlane) : Json :=
  .mkObj ([("apiVersion", .str (controlPlaneGroup ++ "/" ++ controlPlaneVersion)),
    ("kind", .str controlPlaneKind), ("metadata", cp.metadata.toJson), ("spec", cp.spec.toJson)] ++
    match cp.status with
    | some st => [("status", st.toJson)]
    | none => [])

/-- The control plane as an untyped cluster object. -/
def toObject (cp : ControlPlane) : Except Error Object :=
  (Object.ofJson cp.toJson).mapError (.json ∘ .decode)

/-- Reads a control plane back from an untyped cluster object. -/
def ofObject (o : Object) : Except Error ControlPlane :=
  (decode o.toJson.toYaml).mapError (.json ∘ .decode)

/-- The namespace, empty when unset. -/
def ns (cp : ControlPlane) : String := cp.metadata.ns.getD ""

/-- The name, empty when unset. -/
def name (cp : ControlPlane) : String := cp.metadata.name.getD ""

/-- The key of the resource in the cluster. -/
def key (cp : ControlPlane) : ResourceKey :=
  ⟨controlPlaneGroup, controlPlaneVersion, controlPlaneKind, cp.ns, cp.name⟩

/-- Whether deletion was requested. -/
def isBeingDeleted (cp : ControlPlane) : Bool := cp.metadata.deletionTimestamp.isSome

/-- Whether the resource carries the operator's finalizer. -/
def hasFinalizer (cp : ControlPlane) : Bool :=
  (cp.metadata.finalizers.getD []).contains controlPlaneFinalizer

/-- The status tree, empty when never reconciled. -/
def statusOrDefault (cp : ControlPlane) : ControlPlaneStatus := cp.status.getD {}

/-- The reference from an owned object to this control plane as its controller; none without
a name and uid. -/
def ownerReference (cp : ControlPlane) : Option OwnerReference := do
  let name ← cp.metadata.name
  let uid ← cp.metadata.uid
  return { apiVersion := controlPlaneGroup ++ "/" ++ controlPlaneVersion, kind := controlPlaneKind,
           name, uid, controller := some true }

end ControlPlane

end MeshControl
