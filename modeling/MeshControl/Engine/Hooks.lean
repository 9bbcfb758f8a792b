import MeshControl.Engine.World
import MeshControl.Engine.Retry
import MeshControl.Yaml.Emit
import MeshControl.Manifest

/-!
Hooks that run around object writes, chosen by the object's group and kind. The Kiali
ConfigMap hook points Kiali's `config.yaml` at the Grafana and tracing routes before the map
is applied. The ServiceAccount hook grants a created account the configured security context
constraints and revokes them when it is deleted. A failing hook before a write stops the
write; hooks after a write only log their failures.
-/

namespace MeshControl

/-- The security context constraints granted to the operator's service accounts, and the
retry of their updates. -/
structure Grants where
  constraints : List String
  retry : RetryConfig
  deriving Inhabited

/-- The hooks an engine runs. -/
structure Hooks where
  /-- Whether the Kiali ConfigMap hook runs. -/
  kiali : Bool := false
  /-- The grants of the ServiceAccount hook, when it runs. -/
  serviceAccounts : Option Grants := none
  deriving Inhabited

namespace Hooks

/-- No hooks. -/
def empty : Hooks := {}

/-- The built-in hooks: Kiali's, and the ServiceAccount hook when there are grants. -/
def builtin (grants : Option Grants) : Hooks := { kiali := true, serviceAccounts := grants }

end Hooks

namespace Yaml

/-- The entries of a mapping inside any tags, with the way to put changed entries back. -/
def mappingOf : Yaml → Option (List (Yaml × Yaml) × (List (Yaml × Yaml) → Yaml))
  | .map entries => some (entries, .map)
  | .tagged t v => (mappingOf v).map fun (entries, rebuild) => (entries, fun es => .tagged t (rebuild es))
  | _ => none

end Yaml

/-- Stores a value under a key of mapping entries: in place when the key is there, last
otherwise. -/
def putEntry : List (Yaml × Yaml) → Yaml → Yaml → List (Yaml × Yaml)
  | [], k, v => [(k, v)]
  | (k', v') :: rest, k, v => if k'.beq k then (k', v) :: rest else (k', v') :: putEntry rest k v

/-- The name of Kiali's ConfigMap. -/
def kialiConfigMap : String := "kiali"

/-- The key of Kiali's configuration in its ConfigMap. -/
def kialiConfigKey : String := "config.yaml"

/-- Sets text at a path of mapping keys, making null nodes on the way into mappings and
adding missing keys last. `done` is the part of the path already walked. -/
def setYamlPath (done : List String) (node : Yaml) : List String → String → Except Error Yaml
  | [], _ => .ok node
  | segment :: rest, value => do
    let node := match node.untagged with
      | .null => Yaml.map []
      | _ => node
    let some (entries, rebuild) := node.mappingOf
      | throw (.hook ("kiali " ++ kialiConfigKey ++ " has a non-map value at " ++ ".".intercalate done))
    let key := Yaml.str segment
    match rest with
    | [] => return rebuild (putEntry entries key (.str value))
    | _ =>
      let child := ((entries.find? (·.1.beq key)).map (·.2)).getD .null
      let child ← setYamlPath (done ++ [segment]) child rest value
      return rebuild (putEntry entries key child)

/-- The key of a route of a namespace. -/
def routeKey (ns name : String) : ResourceKey := ⟨"route.openshift.io", "v1", "Route", ns, name⟩

/-- The URL a route serves: `https` when it terminates TLS, `http` otherwise; none when it has
no host. -/
def routeUrlOf (route : Object) : Option String :=
  let spec := (route.field? "spec").getD .null
  match spec.get? "host" with
  | some (.str host) =>
    if host.isEmpty then none
    else some ((if (spec.get? "tls").any Json.isObj then "https" else "http") ++ "://" ++ host)
  | _ => none

/-- The URL of a route in a namespace; none when the route is missing or has no host. -/
def routeUrl (ns name : String) : Engine (Option String) := do
  let route ← tryCatch (some <$> Engine.cluster (getObject (routeKey ns name))) fun e =>
    if e.isNotFound then pure none else throw e
  return route.bind routeUrlOf

/-- Kiali's ConfigMap pointed at Grafana and tracing: each URL given is set at
`external_services.<service>.url` of its `config.yaml`, and with neither the map is left as it
is. -/
def kialiConfigured (obj : Object) (grafana tracing : Option String) : Except Error Object := do
  if grafana.isNone && tracing.isNone then return obj
  let data := (obj.field? "data").getD .null
  let raw := match data.get? kialiConfigKey with
    | some (.str s) => s
    | _ => ""
  let mut config : Yaml := .map []
  if !raw.toList.all isWhiteSpace then
    match Yaml.parse raw with
    | .ok v => config := v
    | .error e => throw (.yaml e)
  for (service, url) in [("grafana", grafana), ("tracing", tracing)] do
    if let some url := url then
      config ← setYamlPath [] config ["external_services", service, "url"] url
  let fields := match data with
    | .obj fs => fs
    | _ => []
  return obj.setField "data" (.obj (Fields.insert fields kialiConfigKey (.str config.render)))

/-- The Kiali hook before a write: points `external_services.grafana.url` and
`external_services.tracing.url` of the `kiali` ConfigMap's `config.yaml` at the routes of the
control plane's namespace, when either route exists. -/
def configureKiali (ns : String) (obj : Object) : Engine Object := do
  if obj.metadata.name != some kialiConfigMap then return obj
  let grafana ← routeUrl ns "grafana"
  let tracing ← routeUrl ns "tracing"
  Engine.ofExcept (kialiConfigured obj grafana tracing)

/-- The user name of a service account. -/
def serviceAccountUser (ns name : String) : String := "system:serviceaccount:" ++ ns ++ ":" ++ name

/-- The key of a security context constraint. -/
def constraintKey (name : String) : ResourceKey :=
  ⟨"security.openshift.io", "v1", "SecurityContextConstraints", "", name⟩

/-- Adds a user to, or removes it from, the users of every granted constraint in turn,
re-reading a constraint after a conflicting update. -/
def updateUsers (g : Grants) (user : String) (add : Bool) : Engine Unit :=
  g.constraints.forM fun constraint =>
    retryOnConflict g.retry Engine.sleep do
      let scc ← Engine.cluster (getObject (constraintKey constraint))
      let users := match scc.field? "users" with
        | some (.arr xs) => xs.filterMap Json.str?
        | _ => []
      if users.contains user == add then return ()
      let users := if add then users ++ [user] else users.filter (· != user)
      discard <| Engine.cluster (updateObject (scc.setField "users" (.arr (users.map .str))))

/-- Grants a service account the constraints. -/
def grant (g : Grants) (ns name : String) : Engine Unit := updateUsers g (serviceAccountUser ns name) true

/-- Revokes the constraints from a service account. -/
def revoke (g : Grants) (ns name : String) : Engine Unit := updateUsers g (serviceAccountUser ns name) false

/-- Whether a key is of a core-group kind. -/
def ResourceKey.isCore (k : ResourceKey) (kind : String) : Bool := k.group.isEmpty && k.kind == kind

namespace Hooks

/-- Runs the hooks before an object is written; the first failure stops the write. -/
def beforeApply (h : Hooks) (ns : String) (key : ResourceKey) (obj : Object) : Engine Object :=
  if h.kiali && key.isCore "ConfigMap" then configureKiali ns obj else pure obj

/-- Runs the hooks after an object was created; failures are only logged. -/
def afterCreate (h : Hooks) (key : ResourceKey) (obj : Object) : Engine Unit :=
  match h.serviceAccounts with
  | some g =>
    if key.isCore "ServiceAccount" then
      let name := (obj.metadata.name.orElse fun _ => obj.metadata.generateName).getD ""
      discard <| Engine.attempt (grant g obj.ns name)
    else pure ()
  | none => pure ()

/-- Runs the hooks after an object was deleted; failures are only logged. -/
def afterDelete (h : Hooks) (key : ResourceKey) : Engine Unit :=
  match h.serviceAccounts with
  | some g => if key.isCore "ServiceAccount" then discard <| Engine.attempt (revoke g key.ns key.name) else pure ()
  | none => pure ()

end Hooks

end MeshControl
