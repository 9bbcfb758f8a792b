import MeshControl.Request.Cluster
import MeshControl.Api.Lease
import MeshControl.Api.Rest

/-!
Requests against a scripted API server: cluster calls through the discovering client,
leader election over virtual time, waiting for leadership, and the replica's identity.
-/

namespace MeshControl.Request

/-- Reads a rule of the script. -/
def ruleOf (j : Json) : Except Reject Rule := do
  let text (k : String) : Except Reject (Option String) :=
    match field? j k with
    | some (.str s) => .ok (some s)
    | none => .ok none
    | _ => .error .badInput
  let watch ← match field? j "watch" with
    | some (.bool b) => pure (some b)
    | none => pure none
    | _ => throw .badInput
  let times ← match field? j "times" with
    | some (.num (.int i)) => if i ≥ 0 then pure (some i.toNat) else throw .badInput
    | none => pure none
    | _ => throw .badInput
  let body ← match j.get? "body", field? j "raw", field? j "lines" with
    | some b, _, _ => pure b.render
    | none, some (.str r), _ => pure r
    | none, none, some (.arr ls) => pure (String.join (ls.map (·.render ++ "\n")))
    | none, none, none => pure ""
    | _, _, _ => throw .badInput
  return { method := ← text "method", path := ← text "path", query := ← text "query", watch,
           status := ← natOr j "status" 200, body, times }

/-- The scripted server of a request. -/
def serverOf (req : Json) : Except Reject ApiServer := do
  return { rules := ← (← listOr req "api").mapM ruleOf }

/-- Runs a client call, keeping the client it leaves. -/
def runKube (c : KubeClient) (x : KubeM Json) : Json × KubeClient :=
  match x.run c with
  | .ok j c => (j, c)
  | .error e c => (errorJson e, c)

/-- One cluster call through the client: its answer and the client after it. -/
def kubeStep (c : KubeClient) (step : Json) : Except Reject (Json × KubeClient) := do
  let key : Unit → Except Reject ResourceKey := fun _ => do
    decodeAs ResourceKey.decode (← need step "key")
  let object : Unit → Except Reject Object := fun _ => do
    decodeAs Object.decode (← need step "object")
  match ← needString step "do" with
  | "get" => return runKube c (Object.toJson <$> KubeM.getObject (← key ()))
  | "list" =>
    let gvk ← need step "gvk"
    let group ← stringOr gvk "group" ""
    let version ← stringOr gvk "version" "v1"
    let kind ← needString gvk "kind"
    let ns := (field? step "namespace").bind Json.str?
    let selector := (field? step "selector").bind Json.str?
    return runKube c ((fun os => Json.arr (os.map Object.toJson)) <$>
      KubeM.listObjects group version kind ns selector)
  | "create" => return runKube c (Object.toJson <$> KubeM.createObject (← object ()))
  | "update" => return runKube c (Object.toJson <$> KubeM.updateObject (← object ()))
  | "patch" => return runKube c (Object.toJson <$> KubeM.patchObject (← key ()) (← need step "patch"))
  | "patch_status" =>
    return runKube c (Object.toJson <$> KubeM.patchObjectStatus (← key ()) (← need step "patch"))
  | "delete" =>
    let k ← key ()
    let p ← propagationOf step
    return runKube c ((fun () => Json.str "ok") <$> KubeM.deleteObject k p)
  | _ => throw .badInput

/-- `kube_client`: cluster calls through one client, each with the requests it sent. -/
def kubeClientRequest (req : Json) : Handled := do
  let mut c : KubeClient := { server := ← serverOf req }
  let mut out : List Json := []
  for step in ← listOr req "steps" do
    let seen := c.server.log.length
    let (result, c') ← kubeStep c step
    c := c'
    out := out ++ [.mkObj [("result", result),
      ("requests", .arr ((c.server.log.drop seen).map ApiRequest.toJson))]]
  return .mkObj [("steps", .arr out)]

/-- `leader`: leadership sampled every second from half a second on, while elections run
until a second after the last sample. -/
def leaderRequest (env : Env) (req : Json) : Handled := do
  let server ← serverOf req
  let ns ← stringOr req "namespace" "istio-operator"
  let identity ← stringOr req "identity" "replica-a"
  let seconds ← natOr req "virtual_seconds" 30
  let initial ← boolOr req "initial_leader" false
  let sampleAt := (List.range seconds).map fun k => 500 + 1000 * k
  -- After the last sample a second more passes before the election stops.
  let horizon := 1000 * seconds + 500
  let (samples, c) := electionSamples ns identity env.nowText env.now initial sampleAt horizon { server }
  return .mkObj [("samples", .arr (samples.map .bool)),
                 ("requests", .arr (c.server.log.map ApiRequest.toJson))]

/-- `wait_for_leadership`: whether and when waiting returned, in virtual milliseconds. -/
def waitRequest (req : Json) : Handled := do
  let initial ← boolOr req "initial" false
  let setAfter ← match field? req "set_after_ms" with
    | some _ => some <$> natOr req "set_after_ms" 0
    | none => pure none
  let (returned, elapsed) := waitForLeadership initial setAfter (← natOr req "timeout_ms" 5000)
  return .mkObj [("returned", .bool returned), ("elapsed_ms", Json.int elapsed)]

/-- `holder_identity`: the identity a replica takes from its host name; without one the
machine's name, which is only reported as non-empty. -/
def holderRequest (req : Json) : Handled := do
  match field? req "hostname" with
  | some (.str h) => return .mkObj [("identity", .str h)]
  | none => return .mkObj [("nonempty", .bool true)]
  | some _ => throw .badInput

/-- `http`: requests to the operator's HTTP service, each with the API requests it made; a
JSON body is given as JSON, any other as text. -/
def httpRequest (req : Json) : Handled := do
  let mut c : KubeClient := { server := ← serverOf req }
  let scope := (field? req "watch_namespace").bind Json.str?
  let mut out : List Json := []
  for r in ← listOr req "requests" do
    let method ← stringOr r "method" "GET"
    let path ← needString r "path"
    let seen := c.server.log.length
    let (reply, c') := match (serveHttp scope method path).run c with
      | .ok reply c' => (reply, c')
      | .error e c' => (failureReply 500 "internal" e.message, c')
    c := c'
    let body := if reply.contentType == some "application/json" then
        (Json.parse reply.body).toOption.getD (.str reply.body)
      else .str reply.body
    out := out ++ [.mkObj [("status", Json.int reply.status),
      ("content_type", match reply.contentType with | some t => .str t | none => .null),
      ("body", body), ("requests", .arr ((c.server.log.drop seen).map ApiRequest.toJson))]]
  return .mkObj [("responses", .arr out)]

end MeshControl.Request
