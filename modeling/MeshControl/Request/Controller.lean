import MeshControl.Request.Api
import MeshControl.Request.Engine
import MeshControl.Operator.Loop

/-!
The request that runs the operator's control loop against a scripted API server, with the
engine working on the in-memory cluster.
-/

namespace MeshControl.Request

/-- `controller`: runs the control loop for some virtual seconds; the answer says how it
ended, with the operator version, the API requests, and the cluster's calls and objects. -/
def controllerRequest (env : Env) (req : Json) : Handled := do
  let server ← serverOf req
  let store ← clusterOf req
  let engine ← engineConfigOf req
  let cfg : ControllerConfig :=
    { engine, rendered := ← renderedOf ((field? req "render").getD .null),
      scope := (field? req "watch_namespace").bind Json.str?,
      leader := ← boolOr req "leader" true,
      resync := 1000 * (← natOr req "resync_secs" 0) }
  let seconds ← natOr req "virtual_seconds" 30
  let (ending, client, world) :=
    runController cfg (1000 * seconds) { server } { store, now := env.nowText }
  let result := match ending with
    | .timeout => Json.str "timeout"
    | .failed e => errorJson e
  return .mkObj [("result", result), ("operator_version", .str engine.operatorVersion),
    ("requests", .arr (client.server.log.map ApiRequest.toJson)),
    ("ops", opsJson world.store.ops), ("objects", objectsJson world.store)]

end MeshControl.Request
