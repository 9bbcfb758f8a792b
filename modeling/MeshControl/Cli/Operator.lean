import MeshControl.Cli.Args
import MeshControl.Cli.Crd
import MeshControl.Cli.LogFilter

/-!
The operator's command line: `run` starts the operator, `version` prints the version, and
`info` lists the control planes. Both `run` and `info` first look for the cluster's
connection settings: a kubeconfig file (the files `KUBECONFIG` lists, or `.kube/config` in the
home directory) and then the service account of a pod (the `KUBERNETES_SERVICE_HOST` and
`KUBERNETES_SERVICE_PORT` variables and the namespace file). Without a file system holding
either, they fail and report both causes; `run` has logged its start by then, when the log
filter of `RUST_LOG` lets the line through.
-/

namespace MeshControl.Cli

/-- The operator's version. -/
def operatorVersion : String := "0.1.0"

/-- The operator's command line. -/
def operatorProgram : ProgramSpec where
  name := "mesh-operator"
  version := operatorVersion
  about := "Kubernetes operator that installs and reconciles a multi-component service mesh control plane"
  commands := [
    { name := "run", about := "Run the operator", options := [
      { long := "namespace", help := "Namespace the operator runs in; holds the leader election lease",
        env := some "OPERATOR_NAMESPACE", default := some "istio-operator" },
      { long := "watch-namespace", help := "Only watch control planes in this namespace",
        env := some "WATCH_NAMESPACE" },
      { long := "manifests-dir", help := "Root of the pre-rendered charts, one directory per control plane version",
        env := some "MANIFESTS_DIR", default := some "/usr/local/share/mesh-operator/manifests" },
      { long := "scc-grants", help := "SecurityContextConstraints granted to every ServiceAccount (OpenShift)",
        env := some "SCC_GRANTS", arity := .list },
      { long := "component-order", help := "Components installed first, in this order",
        env := some "COMPONENT_ORDER", arity := .list },
      { long := "wait-for", help := "Components whose Deployments must be ready before the next component",
        env := some "WAIT_FOR_COMPONENTS", arity := .list,
        default := some "istio/charts/galley,istio/charts/sidecarInjectorWebhook" },
      { long := "readiness-attempts", help := "Readiness checks per waited-on component",
        env := some "READINESS_ATTEMPTS", default := some "10", kind := .bounded (Nat.pow 2 32 - 1) },
      { long := "readiness-interval-secs", help := "Seconds between readiness checks",
        env := some "READINESS_INTERVAL_SECS", default := some "6", kind := .unsigned },
      { long := "resync-interval-secs", help := "Seconds between resyncs of reconciled control planes; 0 disables",
        env := some "RESYNC_INTERVAL_SECS", default := some "300", kind := .unsigned },
      { long := "api-port", help := "Port of the REST API", env := some "API_PORT", default := some "8080",
        kind := .bounded (Nat.pow 2 16 - 1) },
      { long := "log-json", help := "Emit logs as JSON", env := some "LOG_JSON", arity := .switch,
        kind := .boolean }] },
    { name := "version", about := "Show version information" },
    { name := "info", about := "Show the control planes in the cluster", options := [
      { long := "namespace", help := "Only list control planes in this namespace", env := some "WATCH_NAMESPACE" }] }]

/-- What a run of a program leaves: its exit status and its two output streams. -/
structure Exit where
  code : Nat
  stdout : String := ""
  stderr : String := ""
  deriving Repr

/-- The way a missing file is reported. -/
def fileNotFound : String := "Os \x7b code: 2, kind: NotFound, message: \"No such file or directory\" \x7d"

/-- Joins a path and a relative part: no second slash after one already there. -/
def joinPath (base part : String) : String := if base.endsWith "/" then base ++ part else base ++ "/" ++ part

/-- Why no kubeconfig file could be read: the first file `KUBECONFIG` lists (separated by
colons, empty entries skipped), or else the one in the home directory, does not exist. -/
def kubeconfigFailure (env : Environment) : String :=
  let listed := ((env "KUBECONFIG").map fun v => (v.splitOn ":").filter (!·.isEmpty)).getD []
  match listed with
  | path :: _ => "ReadConfig(" ++ fileNotFound ++ ", " ++ Text.quoted path ++ ")"
  | [] =>
    match env "HOME" with
    | some home =>
      if home.isEmpty then "FindPath"
      else "ReadConfig(" ++ fileNotFound ++ ", " ++ Text.quoted (joinPath (joinPath home ".kube") "config") ++ ")"
    | none => "FindPath"

/-- The kind of failure of reading a port number. -/
def portFailure (s : String) : Option String :=
  match readNumber false 0 (Nat.pow 2 16 - 1) s with
  | .ok _ => none
  | .error .empty => some "Empty"
  | .error .tooLarge => some "PosOverflow"
  | .error _ => some "InvalidDigit"

/-- Why the settings of a pod's service account could not be read. -/
def inClusterFailure (env : Environment) : String :=
  match env "KUBERNETES_SERVICE_HOST", env "KUBERNETES_SERVICE_PORT" with
  | some _, some port =>
    match portFailure port with
    | some kind => "ParseClusterPort(ParseIntError \x7b kind: " ++ kind ++ " \x7d)"
    | none => "ReadDefaultNamespace(" ++ fileNotFound ++ ")"
  | _, _ => "ReadEnvironmentVariable(NotPresent)"

/-- The report of a failed search for the cluster's connection settings. -/
def clientFailure (env : Environment) : String :=
  "Error: KubeError(InferConfig(InferConfigError \x7b in_cluster: " ++ inClusterFailure env ++
    ", kubeconfig: " ++ kubeconfigFailure env ++ " \x7d))\n"

/-- The log line announcing the start, at `stamp`, as text or as JSON. -/
def startLine (json : Bool) (stamp : String) : String :=
  let message := "Starting mesh-operator v" ++ operatorVersion
  if json then
    "\x7b\"timestamp\":\"" ++ stamp ++ "\",\"level\":\"INFO\",\"fields\":\x7b\"message\":\"" ++ message ++
      "\"\x7d,\"target\":\"mesh_operator\"\x7d\n"
  else stamp ++ "  INFO mesh_operator: " ++ message ++ "\n"

/-- Runs the operator's command line; `stamp` is the clock's reading for log lines. -/
def runOperator (env : Environment) (stamp : String) (args : List String) : Exit :=
  match readProgram env operatorProgram args false with
  | .answer text => { code := 0, stdout := text }
  | .refusal text => { code := 2, stderr := text }
  | .command "version" _ => { code := 0, stdout := "mesh-operator v" ++ operatorVersion ++ "\n" }
  | .command "run" values =>
    let json := (values.find? (·.1 == "log-json")).any (·.2 == ["true"])
    let (directives, warnings) := readFilter ((env "RUST_LOG").getD "")
    let started := if Directive.allows directives "mesh_operator" .info then startLine json stamp else ""
    { code := 1, stdout := started, stderr := String.join warnings ++ clientFailure env }
  | .command _ _ => { code := 1, stderr := clientFailure env }

/-- Runs the generator of the resource definition: it prints the definition whatever its
arguments. -/
def runCrdgen (_args : List String) : Exit := { code := 0, stdout := Crd.yaml }

end MeshControl.Cli
