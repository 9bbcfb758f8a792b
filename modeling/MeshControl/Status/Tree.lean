import MeshControl.Status.Condition
import MeshControl.Resource.Key

/-!
The status tree of a control plane: a status per object, per component (with the objects it
created, in order) and for the whole control plane (with its components, in order). Each
level carries the observed generation and conditions of `StatusType` beside its own fields.
-/

namespace MeshControl

/-- The status of one object created for a component. -/
structure ResourceStatus where
  resource : ResourceKey
  status : StatusType := {}
  deriving DecidableEq, Repr, Inhabited

/-- The status of one rendered component and of the objects it created, in creation order. -/
structure ComponentStatus where
  resource : String
  status : StatusType := {}
  resources : List ResourceStatus := []
  deriving DecidableEq, Repr, Inhabited

/-- The status of a control plane and of its components, in installation order. -/
structure ControlPlaneStatus where
  status : StatusType := {}
  componentStatus : List ComponentStatus := []
  deriving DecidableEq, Repr, Inhabited

namespace ResourceKey

/-- Reads a key: version, kind and name are required, group and namespace default to empty. -/
def decode (v : Yaml) : Decoded ResourceKey := do
  let entries ← v.readEntries "struct ResourceKey"
  let mut group : String := ""
  let mut version : Option String := none
  let mut kind : Option String := none
  let mut ns : String := ""
  let mut name : Option String := none
  for ((k, x), i) in entries.zipIdx do
    let part := 2 * i + 1
    match ← Decoded.inPart (2 * i) (Yaml.fieldName k) with
    | "group" => group ← Decoded.inPart part x.readString
    | "version" => version := some (← Decoded.inPart part x.readString)
    | "kind" => kind := some (← Decoded.inPart part x.readString)
    | "namespace" => ns ← Decoded.inPart part x.readString
    | "name" => name := some (← Decoded.inPart part x.readString)
    | _ => pure ()
  let some v := version | throw (.missingField "version")
  let some kd := kind | throw (.missingField "kind")
  let some nm := name | throw (.missingField "name")
  return ⟨group, v, kd, ns, nm⟩

/-- The JSON object of a key. -/
def toJson (k : ResourceKey) : Json :=
  .mkObj [("group", .str k.group), ("version", .str k.version), ("kind", .str k.kind),
    ("namespace", .str k.ns), ("name", .str k.name)]

end ResourceKey

/-- Names the entries of a record, whose keys must be text; each value comes with its number
among the record's parts. -/
def Yaml.namedEntries (name : String) (v : Yaml) : Decoded (List (String × Yaml × Nat)) := do
  let entries ← v.readEntries name
  entries.zipIdx.mapM fun ((k, x), i) => do
    return (← Decoded.inPart (2 * i) (Yaml.fieldName k), x, 2 * i + 1)

namespace ResourceStatus

/-- A fresh status for an object. -/
def ofKey (k : ResourceKey) : ResourceStatus := { resource := k }

/-- Reads an object status. -/
def decode (v : Yaml) : Decoded ResourceStatus := do
  let entries ← v.namedEntries "struct ResourceStatus"
  let mut resource : Option ResourceKey := none
  let mut rest : List (String × Yaml) := []
  for (k, x, part) in entries do
    if k == "resource" then resource := some (← Decoded.inPart part (ResourceKey.decode x))
    else rest := rest ++ [(k, x)]
  let some r := resource | throw (.missingField "resource")
  return { resource := r, status := ← Decoded.buffered (StatusType.ofEntries rest) }

/-- The JSON object of an object status. -/
def toJson (r : ResourceStatus) : Json :=
  .mkObj ([("resource", r.resource.toJson)] ++ r.status.fields)

end ResourceStatus

namespace ComponentStatus

/-- A fresh status for a component. -/
def named (name : String) : ComponentStatus := { resource := name }

/-- The status of an object of this component, if recorded. -/
def find? (c : ComponentStatus) (k : ResourceKey) : Option ResourceStatus :=
  c.resources.find? (·.resource == k)

/-- Reads a component status. -/
def decode (v : Yaml) : Decoded ComponentStatus := do
  let entries ← v.namedEntries "struct ComponentStatus"
  let mut resource : Option String := none
  let mut resources : List ResourceStatus := []
  let mut rest : List (String × Yaml) := []
  for (k, x, part) in entries do
    if k == "resource" then resource := some (← Decoded.inPart part x.readString)
    else if k == "resources" then resources ← Decoded.inPart part (x.readSeq ResourceStatus.decode)
    else rest := rest ++ [(k, x)]
  let some r := resource | throw (.missingField "resource")
  return { resource := r, status := ← Decoded.buffered (StatusType.ofEntries rest), resources }

/-- The JSON object of a component status; resources only when there are any. -/
def toJson (c : ComponentStatus) : Json :=
  .mkObj ([("resource", .str c.resource)] ++ c.status.fields ++
    (if c.resources.isEmpty then [] else [("resources", .arr (c.resources.map ResourceStatus.toJson))]))

end ComponentStatus

namespace ControlPlaneStatus

/-- The status of a component, if recorded. -/
def find? (s : ControlPlaneStatus) (name : String) : Option ComponentStatus :=
  s.componentStatus.find? (·.resource == name)

/-- Reads a control-plane status. -/
def decode (v : Yaml) : Decoded ControlPlaneStatus := do
  let entries ← v.namedEntries "struct ControlPlaneStatus"
  let mut components : List ComponentStatus := []
  let mut rest : List (String × Yaml) := []
  for (k, x, part) in entries do
    if k == "componentStatus" then components ← Decoded.inPart part (x.readSeq ComponentStatus.decode)
    else rest := rest ++ [(k, x)]
  return { status := ← Decoded.buffered (StatusType.ofEntries rest), componentStatus := components }

/-- The JSON object of a control-plane status; componentStatus is always written. -/
def toJson (s : ControlPlaneStatus) : Json :=
  .mkObj (s.status.fields ++ [("componentStatus", .arr (s.componentStatus.map ComponentStatus.toJson))])

end ControlPlaneStatus

end MeshControl
