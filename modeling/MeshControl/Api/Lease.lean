import MeshControl.Api.Client
import MeshControl.Resource.Time

/-!
Leader election on a lease. A replica reads the lease; it creates the lease when there is
none, renews it when it holds it, takes it over when the holder let it expire, and otherwise
stays a follower. After holding or winning the lease it checks again in ten seconds, else in
five. Waiting for leadership polls the flag every half second.
-/

namespace MeshControl

/-- The name of the operator's lease. -/
def leaseName : String := "mesh-operator-leader"

/-- How long a lease lasts without renewal, in seconds. -/
def leaseDurationSecs : Nat := 15

/-- Milliseconds between renewals while leading. -/
def renewInterval : Nat := 10000

/-- Milliseconds between attempts while following. -/
def retryInterval : Nat := 5000

/-- The parts of a lease that election reads. -/
structure LeaseSpec where
  holder : Option String := none
  renewTime : Option Time := none
  durationSecs : Option Int := none
  deriving Inhabited

/-- Reads an optional field of a lease spec. -/
def optionalField (j : Json) (k : String) (read : Json → Option α) : Except String (Option α) :=
  match j.get? k with
  | none | some .null => .ok none
  | some v =>
    match read v with
    | some a => .ok (some a)
    | none => .error ("invalid type for field `" ++ k ++ "`")

/-- Reads the spec of a lease: an object whose fields have their types. -/
def LeaseSpec.ofJson (spec : Json) : Except String LeaseSpec := do
  let .obj _ := spec | throw "invalid type: expected struct LeaseSpec"
  let time (v : Json) : Option Time := v.str?.bind fun s => (Time.parse s).toOption
  let int32 (v : Json) : Option Int := match v with
    | .num (.int i) => if -Int.pow 2 31 ≤ i && i < Int.pow 2 31 then some i else none
    | _ => none
  discard <| optionalField spec "acquireTime" time
  discard <| optionalField spec "leaseTransitions" int32
  discard <| optionalField spec "preferredHolder" Json.str?
  discard <| optionalField spec "strategy" Json.str?
  return { holder := ← optionalField spec "holderIdentity" Json.str?,
           renewTime := ← optionalField spec "renewTime" time,
           durationSecs := ← optionalField spec "leaseDurationSeconds" int32 }

/-- Checks a lease but for its spec: an object whose apiVersion and kind, when given, are
those of leases, and whose metadata reads. -/
def leaseHeader (j : Json) : Except String Unit := do
  let .obj _ := j | throw "invalid type: expected struct Lease"
  if let some v := j.get? "apiVersion" then
    if v != .str "coordination.k8s.io/v1" then throw "invalid value for apiVersion"
  if let some v := j.get? "kind" then
    if v != .str "Lease" then throw "invalid value for kind"
  if let some m := j.get? "metadata" then
    if let .error e := ObjectMeta.decode m.toYaml then throw (e.render .json)

/-- Reads a lease: its header must check, and its spec, unless missing or null, must read. -/
def leaseOf (j : Json) : Except String (Option LeaseSpec) := do
  leaseHeader j
  match j.get? "spec" with
  | none | some .null => return none
  | some spec => some <$> LeaseSpec.ofJson spec

/-- Whether a lease has expired at an instant: it was never renewed, or its last renewal plus
its duration (fifteen seconds by default) lies before the instant. -/
def leaseExpired (spec : Option LeaseSpec) (now : Time) : Bool :=
  match spec.bind (·.renewTime) with
  | none => true
  | some renew =>
    let duration := (spec.bind (·.durationSecs)).getD leaseDurationSecs
    let deadline : Time := { renew with seconds := renew.seconds + duration }
    now.seconds > deadline.seconds || (now.seconds == deadline.seconds && now.nanos > deadline.nanos)

/-- The path of the leases of a namespace. -/
def leasesPath (ns : String) : String := "/apis/coordination.k8s.io/v1/namespaces/" ++ ns ++ "/leases"

/-- Sends a request and reads back a lease. -/
def sendLease (r : ApiRequest) : KubeM Unit := do
  let j ← KubeM.send r
  match leaseOf j with
  | .ok _ => return
  | .error m => throw (.kube (.badBody m))

/-- The lease a replica creates when there is none: itself as holder, acquired and renewed
at `stamp`, for the lease duration. -/
def newLease (ns identity stamp : String) : Json :=
  Json.mkObj [("apiVersion", .str "coordination.k8s.io/v1"), ("kind", .str "Lease"),
    ("metadata", .mkObj [("name", .str leaseName), ("namespace", .str ns)]),
    ("spec", .mkObj [("holderIdentity", .str identity), ("acquireTime", .str stamp),
      ("renewTime", .str stamp), ("leaseDurationSeconds", Json.int leaseDurationSecs)])]

/-- The merge patch that renews a lease: a new renew time and the lease duration. -/
def renewalPatch (stamp : String) : Json :=
  .mkObj [("spec", .mkObj [("renewTime", .str stamp), ("leaseDurationSeconds", Json.int leaseDurationSecs)])]

/-- The merge patch that takes a lease over: this replica as holder, acquired and renewed at
`stamp`, for the lease duration. -/
def takeoverPatch (identity stamp : String) : Json :=
  .mkObj [("spec", .mkObj [("holderIdentity", .str identity), ("acquireTime", .str stamp),
    ("renewTime", .str stamp), ("leaseDurationSeconds", Json.int leaseDurationSecs)])]

/-- The merge patch a replica sends after reading a lease at an instant: a renewal when the
lease names it as holder, a takeover when the lease has expired, and none when another
replica holds a live lease. -/
def leasePatch (identity stamp : String) (now : Time) (spec : Option LeaseSpec) : Option Json :=
  if spec.bind (·.holder) == some identity then some (renewalPatch stamp)
  else if leaseExpired spec now then some (takeoverPatch identity stamp)
  else none

/-- What a round writes after reading the lease. -/
inductive LeaseWrite where
  /-- Creates the lease, which did not exist. -/
  | create (lease : Json)
  /-- Merges a patch into the stored lease. -/
  | patch (p : Json)

/-- The write of a round that read `existing` (none when there was no lease): a new lease
held by this replica, or the patch of `leasePatch`, if any; an error when the lease read does
not read as a lease. -/
def roundWrite (ns identity stamp : String) (now : Time) :
    Option Json → Except String (Option LeaseWrite)
  | none => .ok (some (.create (newLease ns identity stamp)))
  | some j => (leaseOf j).map fun spec => (leasePatch identity stamp now spec).map .patch

/-- One election round at an instant, `stamp` being its text: whether this replica leads. It
reads the lease, sends the write `roundWrite` makes of it, and leads when it sent one. -/
def electionRound (ns identity stamp : String) (now : Time) : KubeM Bool := do
  let path := leasesPath ns ++ "/" ++ leaseName
  let existing ← tryCatch (some <$> (KubeM.built "GET" path none >>= KubeM.send)) fun e =>
    if e.apiCode? == some 404 then pure none else throw e
  match roundWrite ns identity stamp now existing with
  | .error m => throw (.kube (.badBody m))
  | .ok none => return false
  | .ok (some (.create lease)) =>
    sendLease (← KubeM.built "POST" (leasesPath ns ++ "?") (some lease.render))
    return true
  | .ok (some (.patch p)) =>
    sendLease (← KubeM.built "PATCH" (path ++ "?") (some p.render))
    return true

/-- Runs election rounds from time zero up to `horizon` milliseconds, sampling leadership at
every `sampleAt` instant. Each round happens at once; a leader rests ten seconds, a follower
five. -/
def electionSamples (ns identity stamp : String) (now : Time) (initial : Bool) (sampleAt : List Nat)
    (horizon : Nat) (c : KubeClient) : List Bool × KubeClient :=
  -- Rounds are at least five seconds apart, so this many suffice.
  let rec rounds : Nat → Nat → List (Nat × Bool) → KubeClient → List (Nat × Bool) × KubeClient
    | 0, _, acc, c => (acc, c)
    | fuel + 1, t, acc, c =>
      if t > horizon then (acc, c)
      else
        let (leads, c) := match (electionRound ns identity stamp now).run c with
          | .ok b c => (b, c)
          | .error _ c => (false, c)
        rounds fuel (t + if leads then renewInterval else retryInterval) (acc ++ [(t, leads)]) c
  let (changes, c) := rounds (horizon / retryInterval + 2) 0 [] c
  let leaderAt (s : Nat) : Bool := ((changes.filter (·.1 ≤ s)).getLast?.map (·.2)).getD initial
  (sampleAt.map leaderAt, c)

/-- When waiting for leadership returns, and whether it did before the timeout: the flag is
polled every half second, from the start. -/
def waitForLeadership (initial : Bool) (setAfter : Option Nat) (timeout : Nat) : Bool × Nat :=
  if initial then (true, 0)
  else match setAfter with
    | none => (false, timeout)
    | some s =>
      let poll := (s / 500 + 1) * 500
      if poll ≤ timeout then (true, poll) else (false, timeout)

end MeshControl
