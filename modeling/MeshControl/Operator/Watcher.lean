import MeshControl.Api.Rest

/-!
The watcher that keeps the operator's cache of control planes. It lists them page by page,
then watches for changes from the version the list was taken at, and watches again from the
last version seen whenever a watch ends. The cache takes a new list only once its last page
is in; watch events change it one object at a time. A watch that reports its version gone
starts the list over. Every object listed or added or changed is handed on, so that it gets
reconciled; deletions are not.
-/

namespace MeshControl

/-- How many control planes one list page asks for. -/
def listPageSize : Nat := 500

/-- How many seconds a watch asks the server to stay open. -/
def watchTimeoutSecs : Nat := 290

/-- How the cache knows a control plane: by namespace and name. -/
abbrev ObjectRef := String × String

/-- The reference of a control plane. -/
def ControlPlane.ref (cp : ControlPlane) : ObjectRef := (cp.ns, cp.name)

/-- Puts a control plane into a cache, in place of the one with its reference. -/
def cacheInsert (cache : List ControlPlane) (cp : ControlPlane) : List ControlPlane :=
  if cache.any (·.ref == cp.ref) then cache.map fun c => if c.ref == cp.ref then cp else c
  else cache ++ [cp]

/-- Takes the control plane with a reference out of a cache. -/
def cacheRemove (cache : List ControlPlane) (ref : ObjectRef) : List ControlPlane :=
  cache.filter (·.ref != ref)

/-- Where the watcher stands. -/
inductive WatchPhase where
  /-- Nothing listed yet, or the list must start over. -/
  | fresh
  /-- Listing: the token of the next page, the objects of the last page not handed on yet,
  and the version that page was listed at. -/
  | paging (token : Option String) (pending : List ControlPlane) (version : Option String)
  /-- Listed, or a watch ended, at a version: a watch from it comes next. -/
  | listed (version : String)
  /-- Reading a watch: the lines not read yet, and whether the stream stays open after them. -/
  | watching (version : String) (lines : List String) (endless : Bool)
  deriving Inhabited

/-- What one watcher step hands on. -/
inductive WatchOutput where
  /-- Nothing; the watcher goes on at once. -/
  | quiet
  /-- A control plane was listed, added or changed. -/
  | applied (cp : ControlPlane)
  /-- A request or an event failed. -/
  | failed
  /-- The watch is open and silent, and stays so. -/
  | idle

/-- The watcher and the cache it keeps. -/
structure Reflector where
  phase : WatchPhase := .fresh
  /-- The control planes as last seen. -/
  cache : List ControlPlane := []
  /-- The list being collected, which replaces the cache when complete. -/
  buffer : List ControlPlane := []
  deriving Inhabited

/-- What one line of a watch says. -/
inductive WatchLine where
  /-- A blank or cut-off line, which is passed over. -/
  | skip
  | upsert (cp : ControlPlane)
  | remove (cp : ControlPlane)
  /-- The server reached a version with nothing to report. -/
  | bookmark (version : String)
  /-- The server reported an error status with this code. -/
  | status (code : Nat)
  /-- A line that reads as no event. -/
  | unreadable

/-- Reads the object of a bookmark: an apiVersion, a kind, and a resource version. -/
def bookmarkVersion (j : Json) : Option String := do
  let some (.str _) := j.get? "apiVersion" | none
  let some (.str _) := j.get? "kind" | none
  let some md := j.get? "metadata" | none
  let some (.str v) := md.get? "resourceVersion" | none
  return v

/-- Reads one line of a watch. A line cut off before its end is passed over. -/
def readWatchLine (line : String) : WatchLine :=
  match Json.parse line with
  | .error e =>
    if [JsonErrorCode.eofWhileParsingList, .eofWhileParsingObject, .eofWhileParsingString,
        .eofWhileParsingValue].contains e.code then .skip
    else .unreadable
  | .ok j =>
    let object := j.get? "object"
    let controlPlane : Option ControlPlane := object.bind fun o => (ControlPlane.decode o.toYaml).toOption
    match j.get? "type", object with
    | some (.str "ADDED"), some _ | some (.str "MODIFIED"), some _ =>
      (controlPlane.map .upsert).getD .unreadable
    | some (.str "DELETED"), some _ => (controlPlane.map .remove).getD .unreadable
    | some (.str "BOOKMARK"), some o => ((bookmarkVersion o).map .bookmark).getD .unreadable
    | some (.str "ERROR"), some o =>
      match errorStatusOf o.render with
      | some (.status _ _ _ code) => .status code
      | _ => .unreadable
    | _, _ => .unreadable

/-- Reads a list page: its control planes, the version it was listed at, and the token of
the next page; empty texts count as absent. -/
def listPage (text : String) : Except Error (List ControlPlane × Option String × Option String) := do
  let (md, items) ← readRecord (readObjectList ControlPlane.decode) text
  let given (s : Option String) : Option String := s.bind fun s => if s.isEmpty then none else some s
  return (items, given md.resourceVersion, given md.next)

/-- The query of a watch from a version. -/
def watchQuery (version : String) : String :=
  "&watch=true&timeoutSeconds=" ++ toString watchTimeoutSecs ++ "&allowWatchBookmarks=true&resourceVersion=" ++
    KubeM.formEncode version

/-- The lines of a watch body; a carriage return ending a line is dropped. -/
def watchLines (body : String) : List String :=
  (body.splitOn "\n").map fun l => if l.endsWith "\r" then (l.dropEnd 1).toString else l

/-- Runs a client call and gives its outcome as a value. -/
def KubeM.attempt (x : KubeM α) : KubeM (Except Error α) :=
  tryCatch (Except.ok <$> x) fun e => pure (.error e)

/-- One step of the watcher over control planes in `scope` (all namespaces when none). -/
def Reflector.step (scope : Option String) (r : Reflector) : KubeM (WatchOutput × Reflector) := do
  match r.phase with
  | .fresh => return (.quiet, { r with phase := .paging none [] none, buffer := [] })
  | .paging token (cp :: rest) version =>
    return (.applied cp, { r with phase := .paging token rest version, buffer := cacheInsert r.buffer cp })
  | .paging none [] (some version) =>
    return (.quiet, { r with phase := .listed version, cache := r.buffer, buffer := [] })
  | .paging token [] _ =>
    let query := "&limit=" ++ toString listPageSize ++
      (match token with
       | some t => "&continue=" ++ KubeM.formEncode t
       | none => "")
    let page ← KubeM.attempt do
      let text ← KubeM.fetch (← KubeM.built "GET" (controlPlanesPath scope ++ "?" ++ query) none)
      KubeM.ofExcept (listPage text)
    match page with
    | .ok (items, version, next) =>
      if version.isNone && next.isNone then return (.failed, { r with phase := .fresh })
      return (.quiet, { r with phase := .paging next items version })
    | .error _ => return (.failed, { r with phase := .fresh })
  | .listed version =>
    match ApiRequest.ofTarget "GET" (controlPlanesPath scope ++ "?" ++ watchQuery version) none with
    | .error _ => return (.failed, r)
    | .ok request =>
      let (resp, server) := (← get).server.send request
      modify fun c => { c with server }
      return (.quiet, { r with phase := .watching version (watchLines resp.body) resp.endless })
  | .watching version (line :: rest) endless =>
    let going (v : String) : WatchPhase := .watching v rest endless
    match readWatchLine line with
    | .skip => return (.quiet, { r with phase := going version })
    | .upsert cp =>
      match cp.metadata.resourceVersion with
      | some v => return (.applied cp, { r with phase := going v, cache := cacheInsert r.cache cp })
      | none => return (.failed, { r with phase := .fresh })
    | .remove cp =>
      match cp.metadata.resourceVersion with
      | some v => return (.quiet, { r with phase := going v, cache := cacheRemove r.cache cp.ref })
      | none => return (.failed, { r with phase := .fresh })
    | .bookmark v => return (.quiet, { r with phase := going v })
    | .status code => return (.failed, { r with phase := if code == 410 then .fresh else going version })
    | .unreadable => return (.failed, { r with phase := going version })
  | .watching version [] endless =>
    if endless then return (.idle, r) else return (.quiet, { r with phase := .listed version })

end MeshControl
