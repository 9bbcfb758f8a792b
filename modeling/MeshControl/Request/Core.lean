import MeshControl.Request.Basic
import MeshControl.Status.Tree
import MeshControl.Patch

/-!
Requests on identities, failures, conditions and patches: splitting an apiVersion, the key
of an object, the classes of a failure, aggregates, steps on a condition store, patches and
last-applied stamps. Failures are described in requests by kind and text.
-/

namespace MeshControl.Request

/-- Reads a failure described by kind and text, nested at most `fuel` deep; a JSON or YAML
failure is described by the text that fails to read. -/
def errorSpecWith (parseYaml : String → Option YamlError) : Nat → Json → Except Reject Error
  | 0, _ => .error .badInput
  | fuel + 1, j => do
  let kind ← needString j "kind"
  match kind with
  | "Aggregate" =>
    let items ← listOr j "errors"
    let errs ← items.mapM (errorSpecWith parseYaml fuel)
    return .aggregate (Aggregate.ofList errs).errors
  | "Kube" =>
    let code ← natOr j "code" 500
    let message ← stringOr j "message" ""
    let reason ← stringOr j "reason" ""
    let status ← stringOr j "status" "Failure"
    return .kube (.status status message reason code)
  | "Json" =>
    match Json.parse (← needString j "text") with
    | .ok _ => throw .badInput
    | .error e => return .json (.malformed e)
  | "Yaml" =>
    match parseYaml (← needString j "text") with
    | none => throw .badInput
    | some e => return .yaml e
  | _ =>
    let message ← needString j "message"
    match kind with
    | "NotFound" => return .notFound message
    | "Gone" => return .gone message
    | "Conflict" => return .conflict message
    | "Manifest" => return .manifest message
    | "Patch" => return .patch message
    | "Hook" => return .hook message
    | "Finalizer" => return .finalizer message
    | "Config" => return .config message
    | "Render" => return .render message
    | _ => throw .badInput

/-- Reads a failure described by kind and text. -/
def errorSpec (parseYaml : String → Option YamlError) (j : Json) : Except Reject Error :=
  errorSpecWith parseYaml (j.depth + 1) j

end MeshControl.Request

namespace MeshControl.Request

/-- The answer on a failure: its label, text and classes. -/
def classesJson (e : Error) : Json :=
  .mkObj [("kind", .str e.kind), ("message", .str e.message), ("is_not_found", .bool e.isNotFound),
    ("is_gone", .bool e.isGone), ("is_conflict", .bool e.isConflict), ("is_absent", .bool e.isAbsent),
    ("is_retriable", .bool e.isRetriable)]

/-- A unit outcome as an answer, with a failure's classes. -/
def classesResult (r : Except Error Unit) : Json :=
  match r with
  | .ok () => .str "ok"
  | .error e => classesJson e

/-- `split_api_version`: group and version of an apiVersion. -/
def splitApiVersionRequest (req : Json) : Handled := do
  let (g, v) := splitApiVersion (← needString req "api_version")
  return .mkObj [("group", .str g), ("version", .str v)]

/-- The answer describing a key. -/
def keyJson (k : ResourceKey) : Json :=
  .mkObj [("key", k.toJson), ("display", .str k.render), ("api_version", .str k.apiVersion),
    ("group_kind", .str k.groupKind.render), ("cluster_scoped", .bool k.clusterScoped),
    ("placeholder", k.placeholder.toJson)]

/-- `resource_key`: the key of an object, or a key as given, with its derived forms. -/
def resourceKeyRequest (req : Json) : Handled := do
  match req.get? "object", req.get? "key" with
  | some o, _ =>
    let obj ← decodeAs Object.decode o
    match obj.key with
    | .ok k => return keyJson k
    | .error e => return errorJson e
  | none, some k => return keyJson (← decodeAs ResourceKey.decode k)
  | none, none => throw .badInput

/-- `error`: the classes of a failure. -/
def errorRequest (yaml : String → Option YamlError) (req : Json) : Handled := do
  return classesJson (← errorSpec yaml (← need req "error"))

/-- `aggregate`: outcomes collected one by one (null for success), then the combined result. -/
def aggregateRequest (yaml : String → Option YamlError) (req : Json) : Handled := do
  let items ← listOr req "errors"
  let mut agg : Aggregate := {}
  for item in items do
    match item with
    | .null => agg := agg.collect (.ok ())
    | spec => agg := agg.collect (.error (← errorSpec yaml spec))
  return .mkObj [("len", Json.int agg.errors.length), ("is_empty", .bool agg.errors.isEmpty),
    ("display", .str agg.message), ("result", classesResult agg.toResult)]

/-- `aggregate_collect`: failures gathered at once. -/
def aggregateCollectRequest (yaml : String → Option YamlError) (req : Json) : Handled := do
  let items ← listOr req "errors"
  let agg := Aggregate.ofList (← items.mapM (errorSpec yaml))
  return .mkObj [("len", Json.int agg.errors.length), ("display", .str agg.message)]

/-- The flags of a status. -/
def flagsJson (s : StatusType) : Json :=
  .mkObj [("is_installed", .bool s.isInstalled), ("is_reconciled", .bool s.isReconciled),
    ("is_deleted", .bool s.isDeleted), ("deletion_confirmed", .bool s.deletionConfirmed)]

/-- An optional failure of a request: absent or null for none. -/
def optionalError (yaml : String → Option YamlError) (req : Json) (name : String) :
    Except Reject (Option Error) :=
  match field? req name with
  | none => .ok none
  | some spec => (errorSpec yaml spec).map some

/-- `status`: steps on a condition store, with the store after each. -/
def statusRequest (env : Env) (yaml : String → Option YamlError) (req : Json) : Handled := do
  let mut s ← match field? req "status" with
    | some v => decodeAs StatusType.decode v
    | none => pure {}
  let steps ← listOr req "ops"
  let mut out : List Json := []
  for step in steps do
    let mut got : Option Json := none
    match ← needString step "do" with
    | "set" => s := s.set env.nowText (← decodeAs Condition.decode (← need step "condition"))
    | "remove" =>
      s := s.remove (← decodeAs (Yaml.readVariant ConditionType.all ConditionType.name) (← need step "type"))
    | "get" =>
      let t ← decodeAs (Yaml.readVariant ConditionType.all ConditionType.name) (← need step "type")
      got := some (s.get t).toJson
    | "reconcile" => s := s.afterReconcile env.nowText (← optionalError yaml step "error")
    | "delete" => s := s.afterDelete env.nowText (← optionalError yaml step "error")
    | _ => throw .badInput
    let base := [("status", s.toJson), ("flags", flagsJson s)]
    out := out ++ [.mkObj (base ++ (got.map (fun g => [("get", g)])).getD [])]
  return .mkObj [("steps", .arr out)]

/-- `create_patch`: the patch from a live object to a desired one, either stamped first. -/
def createPatchRequest (req : Json) : Handled := do
  let current ← decodeAs Object.decode (← need req "current")
  let desired ← decodeAs Object.decode (← need req "desired")
  let current := if ← boolOr req "stamp_current" false then current.stampLastApplied else current
  let desired := if ← boolOr req "stamp_desired" false then desired.stampLastApplied else desired
  match createPatch current desired with
  | .ok none => return .mkObj [("patch", .null)]
  | .ok (some p) => return .mkObj [("patch", .mkObj [("key", p.key.toJson), ("body", p.body)])]
  | .error e => return errorJson e

/-- `stamp`: an object stamped with its last-applied configuration some number of times. -/
def stampRequest (req : Json) : Handled := do
  let obj ← decodeAs Object.decode (← need req "object")
  let times ← natOr req "times" 1
  let stamped := (List.range times).foldl (fun o _ => o.stampLastApplied) obj
  return .mkObj [("object", stamped.toJson)]

end MeshControl.Request
