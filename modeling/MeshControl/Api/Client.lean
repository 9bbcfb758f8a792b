import MeshControl.Api.Response
import MeshControl.Resource.Object
import MeshControl.Cluster.Store

/-!
A cluster client over the API server. Before its first call on a kind it discovers where
the kind lives (its plural and whether it is namespaced) from the server's resource list for
the group version, and keeps the answer. Error statuses become API failures carrying the
server's status, or a reconstructed one when the body is not a status; success bodies that
do not read as the expected record are failures too.
-/

namespace MeshControl

/-- Where a kind lives: its group, version and plural, and the group version its paths use. -/
structure ApiResource where
  group : String
  version : String
  apiVersion : String
  kind : String
  plural : String
  namespaced : Bool
  deriving Inhabited

/-- The path of a kind's collection, in a namespace or across the cluster. -/
def ApiResource.path (r : ApiResource) (ns : Option String) : String :=
  "/" ++ (if r.group.isEmpty then "api" else "apis") ++ "/" ++ r.apiVersion ++ "/" ++
    (match ns with
     | some n => "namespaces/" ++ n ++ "/"
     | none => "") ++ r.plural

/-- Splits a group version at its first slash; without one it is a version of the core
group. -/
def splitGroupVersion (gv : String) : String × String :=
  match gv.splitOn "/" with
  | [v] => ("", v)
  | g :: rest => (g, "/".intercalate rest)
  | [] => ("", "")

/-- A client of the API server with the kinds it has discovered, by group, version and
kind. -/
structure KubeClient where
  server : ApiServer
  cache : List ((String × String × String) × ApiResource) := []
  deriving Inhabited

/-- A call through the client; a failed call keeps the requests it made. -/
abbrev KubeM := EStateM Error KubeClient

namespace KubeM

/-- Fails with the error of a plain computation. -/
def ofExcept (x : Except Error α) : KubeM α :=
  match x with
  | .ok a => pure a
  | .error e => throw e

/-- The request to a target; a target that is no valid URI fails the call before anything
is sent, with the failure `fail` makes of the reason. -/
def requestTo (fail : String → ApiFailure) (method target : String) (body : Option String) :
    KubeM ApiRequest :=
  match ApiRequest.ofTarget method target body with
  | .ok r => pure r
  | .error e => throw (.kube (fail e.message))

/-- The request of a call on objects, built the way the client's request builder does. -/
def built (method target : String) (body : Option String) : KubeM ApiRequest :=
  requestTo (fun m => .buildRequest ("failed to build request: " ++ m)) method target body

/-- Refuses a call on one object whose name is empty. -/
def needName (name : String) : KubeM Unit :=
  if name.isEmpty then
    throw (.kube (.buildRequest "failed to validate request: A non-empty name is required"))
  else pure ()

/-- Sends a request and gives the body of a response that is not an error status. -/
def fetch (r : ApiRequest) : KubeM String := do
  let c ← get
  let (resp, server) := c.server.send r
  set { c with server }
  ofExcept (responseText resp)

/-- Sends a request and reads the response as JSON. -/
def send (r : ApiRequest) : KubeM Json := do
  match Json.parse (← fetch r) with
  | .ok j => return j
  | .error e => throw (.kube (.badBody e.message))

/-- Sends a request and reads the response as a record. -/
def fetchRecord (read : Yaml → Decoded α) (r : ApiRequest) : KubeM α := do
  ofExcept (readRecord read (← fetch r))

/-- Where a kind lives: from the cache, or from the resource list of its group version. -/
def resolve (group version kind : String) : KubeM ApiResource := do
  if let some (_, r) := (← get).cache.find? (·.1 == (group, version, kind)) then return r
  let path := if group.isEmpty then "/api/" ++ version else "/apis/" ++ group ++ "/" ++ version
  let list ← fetchRecord ResourceList.decode (← requestTo .badUri "GET" path none)
  let some res := list.resources.find? fun r => r.kind == kind && !r.name.contains '/'
    | throw (.kube (.missingKind group version kind))
  -- The scope is that of the first resource of the same name.
  let namespaced := ((list.resources.find? (·.name == res.name)).map (·.namespaced)).getD res.namespaced
  let (g, v) := splitGroupVersion list.groupVersion
  let found : ApiResource :=
    { group := res.group.getD g, version := res.version.getD v,
      apiVersion := if g.isEmpty then v else g ++ "/" ++ v,
      kind, plural := res.name, namespaced }
  modify fun c => { c with cache := c.cache ++ [((group, version, kind), found)] }
  return found

/-- The collection path for a key's kind: in its namespace when namespaced (which then needs
one), across the cluster otherwise. -/
def pathFor (key : ResourceKey) : KubeM String := do
  let r ← resolve key.group key.version key.kind
  if r.namespaced then
    if key.ns.isEmpty then
      throw (.manifest (key.kind ++ " is namespaced but no namespace was given"))
    return r.path (some key.ns)
  return r.path none

/-- `get`: the object under a key. -/
def getObject (key : ResourceKey) : KubeM Object := do
  let base ← pathFor key
  needName key.name
  fetchRecord Object.decode (← built "GET" (base ++ "/" ++ key.name) none)

/-- Encodes a query value the way forms are encoded. -/
def formEncode (s : String) : String :=
  String.join (s.toUTF8.toList.map fun b =>
    let c := Char.ofNat b.toNat
    if c.isAlphanum || c == '*' || c == '-' || c == '.' || c == '_' then String.singleton c
    else if c == ' ' then "+"
    else
      let hex (n : Nat) : Char := if n < 10 then Char.ofNat (48 + n) else Char.ofNat (55 + n)
      String.ofList ['%', hex (b.toNat / 16), hex (b.toNat % 16)])

/-- Reads the items of a list response as records of one kind. -/
def listRecords (read : Yaml → Decoded α) (text : String) : Except Error (List α) :=
  (readRecord (readObjectList read) text).map (·.2)

/-- `list`: the objects of a kind, in a namespace when the kind is namespaced and one is
given, with labels meeting a selector. -/
def listObjects (group version kind : String) (ns : Option String) (selector : Option String) :
    KubeM (List Object) := do
  let r ← resolve group version kind
  let path := match ns with
    | some n => if r.namespaced then r.path (some n) else r.path none
    | none => r.path none
  let query := match selector with
    | some s => "&labelSelector=" ++ formEncode s
    | none => ""
  ofExcept (listRecords Object.decode (← fetch (← built "GET" (path ++ "?" ++ query) none)))

/-- `create`: sends a new object. -/
def createObject (o : Object) : KubeM Object := do
  let key ← ofExcept o.key
  let base ← pathFor key
  fetchRecord Object.decode (← built "POST" (base ++ "?") (some o.toJson.render))

/-- `update`: replaces an object. -/
def updateObject (o : Object) : KubeM Object := do
  let key ← ofExcept o.key
  let base ← pathFor key
  needName key.name
  fetchRecord Object.decode (← built "PUT" (base ++ "/" ++ key.name ++ "?") (some o.toJson.render))

/-- `patch`: a merge patch of an object. -/
def patchObject (key : ResourceKey) (patch : Json) : KubeM Object := do
  let base ← pathFor key
  needName key.name
  fetchRecord Object.decode (← built "PATCH" (base ++ "/" ++ key.name ++ "?") (some patch.render))

/-- `patch_status`: a merge patch of an object's status. -/
def patchObjectStatus (key : ResourceKey) (patch : Json) : KubeM Object := do
  let base ← pathFor key
  needName key.name
  fetchRecord Object.decode (← built "PATCH" (base ++ "/" ++ key.name ++ "/status?") (some patch.render))

/-- The body of a delete with a propagation policy. -/
def deleteBody (p : Option Propagation) : Json :=
  match p with
  | some p => .mkObj [("propagationPolicy", .str p.name)]
  | none => Json.empty

/-- `delete`: deletes an object; the answer, which must be JSON, is a status when its kind
says so and the object otherwise. -/
def deleteObject (key : ResourceKey) (p : Option Propagation) : KubeM Unit := do
  let base ← pathFor key
  needName key.name
  let text ← fetch (← built "DELETE" (base ++ "/" ++ key.name ++ "?") (some (deleteBody p).render))
  let j ← match Json.parse text with
    | .ok j => pure j
    | .error e => throw (.kube (.badBody e.message))
  if j.get? "kind" == some (.str "Status") then ofExcept (readRecord readDeleteStatus text)
  else discard <| ofExcept (readRecord Object.decode text)

end KubeM

end MeshControl
