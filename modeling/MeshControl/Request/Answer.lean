import MeshControl.Request.Core
import MeshControl.Request.Files
import MeshControl.Request.Engine
import MeshControl.Request.Api
import MeshControl.Request.Controller
import MeshControl.Request.Cli

/-!
Dispatch of requests by operation name, and the text form of the interface: one JSON text
in, one compact JSON text out.
-/

namespace MeshControl.Request

/-- The answer to a request object. -/
def answer (env : Env) (req : Json) : Json :=
  let yaml := yamlFailure
  let handled : Handled :=
    match req.get? "op" with
    | some (.str op) =>
      match op with
      | "split_api_version" => splitApiVersionRequest req
      | "resource_key" => resourceKeyRequest req
      | "error" => errorRequest yaml req
      | "aggregate" => aggregateRequest yaml req
      | "aggregate_collect" => aggregateCollectRequest yaml req
      | "status" => statusRequest env yaml req
      | "create_patch" => createPatchRequest req
      | "stamp" => stampRequest req
      | "manifest" => manifestRequest req
      | "object" => objectRequest env req
      | "component" => componentRequest env req
      | "control_plane" => controlPlaneRequest env req
      | "hook" => hookRequest env req
      | "scc" => sccRequest env req
      | "fake" => fakeRequest req
      | "retry" => retryRequest yaml req
      | "sequence" => sequenceRequest req
      | "default_order" => defaultOrderRequest
      | "render_dir" => renderDirRequest req
      | "metrics" => metricsRequest env req
      | "kube_client" => kubeClientRequest req
      | "leader" => leaderRequest env req
      | "wait_for_leadership" => waitRequest req
      | "holder_identity" => holderRequest req
      | "http" => httpRequest req
      | "controller" => controllerRequest env req
      | "cli" => cliRequest env req
      | _ => .error .badInput
    | _ => .error .badInput
  match handled with
  | .ok j => j
  | .error r => r.toJson

/-- The answer to a request given as JSON text. -/
def answerText (env : Env) (line : String) : String :=
  match Json.parse line with
  | .ok req => (answer env req).render
  | .error _ => Reject.badInput.toJson.render

end MeshControl.Request
