import MeshControl.Json.Basic
import MeshControl.Decode
import MeshControl.Resource.Time

/-!
Object metadata: name, namespace, labels, annotations, owner references, finalizers and the
fields the server keeps (versions, uid, timestamps, managed fields). Reading keeps the known
fields and drops the rest; writing gives exactly the fields that are set.
-/

namespace MeshControl

/-- A reference from an object to its owner. -/
structure OwnerReference where
  apiVersion : String
  blockOwnerDeletion : Option Bool := none
  controller : Option Bool := none
  kind : String
  name : String
  uid : String
  deriving Inhabited

/-- A record of which manager last wrote which fields. -/
structure ManagedFields where
  apiVersion : Option String := none
  fieldsType : Option String := none
  fieldsV1 : Option Json := none
  manager : Option String := none
  operation : Option String := none
  subresource : Option String := none
  time : Option Time := none
  deriving Inhabited

/-- Labels and annotations: text values under text keys, sorted by key. -/
abbrev TextMap := List (String × String)

/-- Metadata of a cluster object; every field may be absent. -/
structure ObjectMeta where
  annotations : Option TextMap := none
  creationTimestamp : Option Time := none
  deletionGracePeriodSeconds : Option Int := none
  deletionTimestamp : Option Time := none
  finalizers : Option (List String) := none
  generateName : Option String := none
  generation : Option Int := none
  labels : Option TextMap := none
  managedFields : Option (List ManagedFields) := none
  name : Option String := none
  /-- The namespace, if the object has one. -/
  ns : Option String := none
  ownerReferences : Option (List OwnerReference) := none
  resourceVersion : Option String := none
  selfLink : Option String := none
  uid : Option String := none
  deriving Inhabited

namespace TextMap

/-- The value of a key. -/
def get? (m : TextMap) (key : String) : Option String :=
  (m.find? (·.1 == key)).map (·.2)

/-- Stores a value under a key, keeping the keys sorted. -/
def insert : TextMap → String → String → TextMap
  | [], k, v => [(k, v)]
  | (k', v') :: rest, k, v =>
    if k < k' then (k, v) :: (k', v') :: rest
    else if k == k' then (k, v) :: rest
    else (k', v') :: insert rest k v

/-- Drops a key. -/
def erase (m : TextMap) (key : String) : TextMap := m.filter (·.1 != key)

/-- The JSON object of a text map. -/
def toJson (m : TextMap) : Json := .obj (m.map fun (k, v) => (k, .str v))

end TextMap

/-- Reads an instant from RFC 3339 text. -/
def Yaml.readTime (v : Yaml) : Decoded Time :=
  match v with
  | .str s =>
    match Time.parse s with
    | .ok t => .ok t
    | .error e => .error (.custom e.message)
  | other => .error (.invalidType other.unexpected "a formatted date and time string or a unix timestamp")

mutual
/-- Converts a YAML value to a JSON value: mapping keys must be strings (the first one is
named "a string key" in the error), and doubles that are not finite become null. -/
def Yaml.toJson : Yaml → Decoded Json
  | .null => .ok .null
  | .bool b => .ok (.bool b)
  | .num (.float f) => .ok (if f.isNaN || f.isInf then .null else .num (.float f))
  | .num n => .ok (.num n)
  | .str s => .ok (.str s)
  | .seq items => do return .arr (← Yaml.itemsToJson items)
  | .map entries => do return .mkObj (← Yaml.entriesToJson 0 entries)
  | .tagged _ _ => .error (.custom "untagged and internally tagged enums do not support enum input")

/-- Converts sequence items in order, stopping at the first that fails. -/
def Yaml.itemsToJson : List Yaml → Decoded (List Json)
  | [] => .ok []
  | x :: rest => do
    let j ← Yaml.toJson x
    return j :: (← Yaml.itemsToJson rest)

/-- Converts mapping entries in order, the one at `i` first: the key must be a string, then
the value is converted. -/
def Yaml.entriesToJson (i : Nat) : List (Yaml × Yaml) → Decoded (List (String × Json))
  | [] => .ok []
  | (k, x) :: rest => do
    let key ← match k with
      | .str s => pure s
      | other => throw (.invalidType other.unexpected (if i == 0 then "a string key" else "a string"))
    let value ← Yaml.toJson x
    return (key, value) :: (← Yaml.entriesToJson (i + 1) rest)
end

namespace OwnerReference

/-- Reads one field of an owner reference into `r`. -/
def field (r : OwnerReference) (k : String) (x : Yaml) : Decoded OwnerReference :=
  match k with
  | "apiVersion" => return { r with apiVersion := (← Yaml.readOption Yaml.readString x).getD "" }
  | "blockOwnerDeletion" => return { r with blockOwnerDeletion := ← Yaml.readOption Yaml.readBool x }
  | "controller" => return { r with controller := ← Yaml.readOption Yaml.readBool x }
  | "kind" => return { r with kind := (← Yaml.readOption Yaml.readString x).getD "" }
  | "name" => return { r with name := (← Yaml.readOption Yaml.readString x).getD "" }
  | "uid" => return { r with uid := (← Yaml.readOption Yaml.readString x).getD "" }
  | _ => pure r

/-- Reads an owner reference; a missing or null apiVersion, kind, name or uid is empty. -/
def decode (v : Yaml) : Decoded OwnerReference := do
  Yaml.foldFields (← v.readStructEntries "OwnerReference")
    { apiVersion := "", kind := "", name := "", uid := "" } field

/-- The JSON object of an owner reference. -/
def toJson (r : OwnerReference) : Json :=
  .mkObj ([("apiVersion", .str r.apiVersion), ("kind", .str r.kind), ("name", .str r.name),
    ("uid", .str r.uid)] ++
    (r.blockOwnerDeletion.map (fun b => [("blockOwnerDeletion", Json.bool b)])).getD [] ++
    (r.controller.map (fun b => [("controller", Json.bool b)])).getD [])

end OwnerReference

/-- The fields of optional values that are set. -/
def optionalFields (pairs : List (String × Option Json)) : List (String × Json) :=
  pairs.filterMap fun (k, v) => v.map (k, ·)

namespace ManagedFields

/-- Reads one field of a managed-fields record into `r`. -/
def field (r : ManagedFields) (k : String) (x : Yaml) : Decoded ManagedFields :=
  match k with
  | "apiVersion" => return { r with apiVersion := ← Yaml.readOption Yaml.readString x }
  | "fieldsType" => return { r with fieldsType := ← Yaml.readOption Yaml.readString x }
  | "fieldsV1" => return { r with fieldsV1 := ← Yaml.readOption Yaml.toJson x }
  | "manager" => return { r with manager := ← Yaml.readOption Yaml.readString x }
  | "operation" => return { r with operation := ← Yaml.readOption Yaml.readString x }
  | "subresource" => return { r with subresource := ← Yaml.readOption Yaml.readString x }
  | "time" => return { r with time := ← Yaml.readOption Yaml.readTime x }
  | _ => pure r

/-- Reads a managed-fields record. -/
def decode (v : Yaml) : Decoded ManagedFields := do
  Yaml.foldFields (← v.readStructEntries "ManagedFieldsEntry") {} field

/-- The JSON object of a managed-fields record. -/
def toJson (r : ManagedFields) : Json :=
  .mkObj (optionalFields [("apiVersion", r.apiVersion.map .str),
    ("fieldsType", r.fieldsType.map .str), ("fieldsV1", r.fieldsV1),
    ("manager", r.manager.map .str), ("operation", r.operation.map .str),
    ("subresource", r.subresource.map .str), ("time", r.time.map (.str ·.render))])

end ManagedFields

namespace ObjectMeta

/-- Reads one field of metadata into `m`; other fields are dropped. -/
def field (m : ObjectMeta) (k : String) (x : Yaml) : Decoded ObjectMeta :=
  match k with
  | "annotations" => return { m with annotations := ← Yaml.readOption Yaml.readStringMap x }
  | "creationTimestamp" => return { m with creationTimestamp := ← Yaml.readOption Yaml.readTime x }
  | "deletionGracePeriodSeconds" =>
    return { m with deletionGracePeriodSeconds := ← Yaml.readOption Yaml.readI64 x }
  | "deletionTimestamp" => return { m with deletionTimestamp := ← Yaml.readOption Yaml.readTime x }
  | "finalizers" => return { m with finalizers := ← Yaml.readOption (Yaml.readSeq Yaml.readString) x }
  | "generateName" => return { m with generateName := ← Yaml.readOption Yaml.readString x }
  | "generation" => return { m with generation := ← Yaml.readOption Yaml.readI64 x }
  | "labels" => return { m with labels := ← Yaml.readOption Yaml.readStringMap x }
  | "managedFields" =>
    return { m with managedFields := ← Yaml.readOption (Yaml.readSeq ManagedFields.decode) x }
  | "name" => return { m with name := ← Yaml.readOption Yaml.readString x }
  | "namespace" => return { m with ns := ← Yaml.readOption Yaml.readString x }
  | "ownerReferences" =>
    return { m with ownerReferences := ← Yaml.readOption (Yaml.readSeq OwnerReference.decode) x }
  | "resourceVersion" => return { m with resourceVersion := ← Yaml.readOption Yaml.readString x }
  | "selfLink" => return { m with selfLink := ← Yaml.readOption Yaml.readString x }
  | "uid" => return { m with uid := ← Yaml.readOption Yaml.readString x }
  | _ => pure m

/-- Reads metadata, keeping the known fields; a field given twice keeps its last value. -/
def decode (v : Yaml) : Decoded ObjectMeta := do
  Yaml.foldFields (← v.readStructEntries "ObjectMeta") {} field

/-- The JSON of each metadata field under its key, none where the field is unset. -/
def entries (m : ObjectMeta) : List (String × Option Json) := [
    ("annotations", m.annotations.map TextMap.toJson),
    ("creationTimestamp", m.creationTimestamp.map (.str ·.render)),
    ("deletionGracePeriodSeconds", m.deletionGracePeriodSeconds.map Json.int),
    ("deletionTimestamp", m.deletionTimestamp.map (.str ·.render)),
    ("finalizers", m.finalizers.map (fun fs => .arr (fs.map .str))),
    ("generateName", m.generateName.map .str),
    ("generation", m.generation.map Json.int),
    ("labels", m.labels.map TextMap.toJson),
    ("managedFields", m.managedFields.map (fun fs => .arr (fs.map ManagedFields.toJson))),
    ("name", m.name.map .str),
    ("namespace", m.ns.map .str),
    ("ownerReferences", m.ownerReferences.map (fun rs => .arr (rs.map OwnerReference.toJson))),
    ("resourceVersion", m.resourceVersion.map .str),
    ("selfLink", m.selfLink.map .str),
    ("uid", m.uid.map .str)]

/-- The JSON object of metadata: the fields that are set. -/
def toJson (m : ObjectMeta) : Json := .mkObj (optionalFields m.entries)

end ObjectMeta

end MeshControl
