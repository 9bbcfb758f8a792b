import MeshControl.Api.Client
import MeshControl.Resource.ControlPlane
import MeshControl.Metrics

/-!
The operator's read-only HTTP service: a health check, the metrics text, and the status of
control planes, listed in the watched scope or read one at a time. Only GET (and HEAD, which
drops the body) is served; other methods on a known path are refused as not allowed, and
unknown paths as not found, both with an empty body.
-/

namespace MeshControl

/-- The operator's version, as the health check reports it. -/
def serviceVersion : String := "0.1.0"

/-- An answer of the HTTP service. -/
structure HttpReply where
  status : Nat
  /-- The content type, when the answer has a body kind. -/
  contentType : Option String
  body : String
  deriving Inhabited

/-- The paths the service knows. -/
inductive Route where
  | health
  | metrics
  | controlPlanes
  | controlPlane (ns name : String)
  deriving DecidableEq, Repr

/-- The value of a hexadecimal digit. -/
def hexValue (c : Char) : Option Nat :=
  if '0' ≤ c && c ≤ '9' then some (c.toNat - 48)
  else if 'a' ≤ c && c ≤ 'f' then some (c.toNat - 87)
  else if 'A' ≤ c && c ≤ 'F' then some (c.toNat - 55)
  else none

/-- Decodes `%XY` escapes of a path segment; a `%` without two hex digits stays as it is. -/
def percentDecode (s : String) : String :=
  let rec go : List Char → List UInt8
    | '%' :: a :: b :: rest =>
      match hexValue a, hexValue b with
      | some x, some y => (x * 16 + y).toUInt8 :: go rest
      | _, _ => '%'.toNat.toUInt8 :: go (a :: b :: rest)
    | c :: rest => (String.singleton c).toUTF8.toList ++ go rest
    | [] => []
  String.fromUTF8? (ByteArray.mk (go s.toList).toArray) |>.getD s

/-- The route of a path; the query, if any, plays no part. -/
def routeOf (target : String) : Option Route :=
  let path := (target.splitOn "?").headD ""
  match path.splitOn "/" with
  | ["", "health"] => some .health
  | ["", "metrics"] => some .metrics
  | ["", "api", "v1", "controlplanes"] => some .controlPlanes
  | ["", "api", "v1", "controlplanes", ns, name] =>
    if ns.isEmpty || name.isEmpty then none
    else some (.controlPlane (percentDecode ns) (percentDecode name))
  | _ => none

/-- A JSON answer. -/
def jsonReply (status : Nat) (j : Json) : HttpReply :=
  { status, contentType := some "application/json", body := j.render }

/-- A failure answer: a short label and the message. -/
def failureReply (status : Nat) (label message : String) : HttpReply :=
  jsonReply status (.mkObj [("error", .str label), ("message", .str message)])

/-- An instant as RFC 3339 text with a `+00:00` offset and as many fraction digits as it
needs, in groups of three. -/
def Time.rfc3339 (t : Time) : String :=
  let n := t.shownNanos
  let fraction :=
    if n == 0 then ""
    else if n % 1000000 == 0 then "." ++ Time.padded 3 (n / 1000000)
    else if n % 1000 == 0 then "." ++ Time.padded 6 (n / 1000)
    else "." ++ Time.padded 9 n
  t.stamp ++ fraction ++ "+00:00"

/-- The summary fields of a control plane. -/
def summaryFields (cp : ControlPlane) : List (String × Json) :=
  let status := cp.statusOrDefault.status
  [("name", .str cp.name), ("namespace", .str cp.ns), ("version", .str cp.spec.version),
   ("generation", .num (.int (cp.metadata.generation.getD 0))),
   ("observedGeneration", .num (.int status.observedGeneration)),
   ("installed", .bool status.isInstalled), ("reconciled", .bool status.isReconciled)]

/-- A component's summary: its objects still live and those known to be deleted. -/
def componentSummary (c : ComponentStatus) : Json :=
  let deleted := (c.resources.filter fun r => r.status.deletionConfirmed).length
  .mkObj [("name", .str c.resource), ("installed", .bool c.status.isInstalled),
    ("reconciled", .bool c.status.isReconciled), ("resources", Json.int (c.resources.length - deleted)),
    ("deletedResources", Json.int deleted), ("conditions", .arr (c.status.conditions.map Condition.toJson))]

/-- The detail of a control plane: its summary, conditions, components and creation time. -/
def controlPlaneDetail (cp : ControlPlane) : Json :=
  let status := cp.statusOrDefault
  .mkObj (summaryFields cp ++
    [("conditions", .arr (status.status.conditions.map Condition.toJson)),
     ("components", .arr (status.componentStatus.map componentSummary))] ++
    match cp.metadata.creationTimestamp with
    | some t => [("createdAt", .str t.rfc3339)]
    | none => [])

/-- The path of control planes, in a namespace or across all. -/
def controlPlanesPath (ns : Option String) : String :=
  "/apis/" ++ controlPlaneGroup ++ "/" ++ controlPlaneVersion ++
    (match ns with
     | some n => "/namespaces/" ++ n
     | none => "") ++ "/servicemeshcontrolplanes"

/-- Lists the control planes of the watched scope. -/
def listControlPlanes (scope : Option String) : KubeM HttpReply := do
  let listed ← tryCatch (Except.ok <$> (do
      let text ← KubeM.fetch (← KubeM.built "GET" (controlPlanesPath scope ++ "?") none)
      KubeM.ofExcept (KubeM.listRecords ControlPlane.decode text)))
    fun e => pure (.error e)
  match listed with
  | .ok cps =>
    return jsonReply 200 (.mkObj [("items", .arr (cps.map (.mkObj ∘ summaryFields))),
      ("total", Json.int cps.length)])
  | .error (.kube f) => return failureReply 500 "list_failed" f.message
  | .error e => return failureReply 500 "list_failed" e.message

/-- Reads one control plane. -/
def getControlPlane (ns name : String) : KubeM HttpReply := do
  let got ← tryCatch (Except.ok <$> (do
      KubeM.needName name
      KubeM.fetchRecord ControlPlane.decode
        (← KubeM.built "GET" (controlPlanesPath (some ns) ++ "/" ++ name) none)))
    fun e => pure (.error e)
  match got with
  | .ok cp => return jsonReply 200 (controlPlaneDetail cp)
  | .error e =>
    if e.apiCode? == some 404 then
      return failureReply 404 "not_found" ("ServiceMeshControlPlane " ++ ns ++ "/" ++ name ++ " not found")
    else
      match e with
      | .kube f => return failureReply 500 "get_failed" f.message
      | _ => return failureReply 500 "get_failed" e.message

/-- Serves one request; `scope` is the watched namespace, if only one is watched. -/
def serveHttp (scope : Option String) (method target : String) : KubeM HttpReply := do
  match routeOf target with
  | none => return { status := 404, contentType := none, body := "" }
  | some route =>
    if method != "GET" && method != "HEAD" then
      return { status := 405, contentType := none, body := "" }
    let reply ← match route with
      | .health =>
        pure (jsonReply 200 (.mkObj [("status", .str "healthy"), ("version", .str serviceVersion)]))
      | .metrics =>
        pure { status := 200, contentType := some "text/plain; charset=utf-8",
               body := ({} : Metrics).render }
      | .controlPlanes => listControlPlanes scope
      | .controlPlane ns name => getControlPlane ns name
    return if method == "HEAD" then { reply with body := "" } else reply

end MeshControl
