import MeshControl.Api.Server
import MeshControl.Json.Located
import MeshControl.Error

/-!
What the API server's answers mean. An error status is a failure carrying the server's status
record, or a reconstructed one when the body is not such a record. A success body is read as
the record the call expects, streaming through its text: the first thing that does not fit
fails the call, with the line and column reached. The records are a resource list (what
discovery reads), a list of objects with its list metadata, and the status a delete may
answer with.
-/

namespace MeshControl

/-- The reason phrase of an HTTP status code. -/
def httpReason (code : Nat) : String :=
  match code with
  | 100 => "Continue" | 101 => "Switching Protocols" | 102 => "Processing"
  | 200 => "OK" | 201 => "Created" | 202 => "Accepted" | 203 => "Non Authoritative Information"
  | 204 => "No Content" | 205 => "Reset Content" | 206 => "Partial Content" | 207 => "Multi-Status"
  | 208 => "Already Reported" | 226 => "IM Used"
  | 300 => "Multiple Choices" | 301 => "Moved Permanently" | 302 => "Found" | 303 => "See Other"
  | 304 => "Not Modified" | 305 => "Use Proxy" | 307 => "Temporary Redirect" | 308 => "Permanent Redirect"
  | 400 => "Bad Request" | 401 => "Unauthorized" | 402 => "Payment Required" | 403 => "Forbidden"
  | 404 => "Not Found" | 405 => "Method Not Allowed" | 406 => "Not Acceptable"
  | 407 => "Proxy Authentication Required" | 408 => "Request Timeout" | 409 => "Conflict"
  | 410 => "Gone" | 411 => "Length Required" | 412 => "Precondition Failed"
  | 413 => "Payload Too Large" | 414 => "URI Too Long" | 415 => "Unsupported Media Type"
  | 416 => "Range Not Satisfiable" | 417 => "Expectation Failed" | 418 => "I'm a teapot"
  | 421 => "Misdirected Request" | 422 => "Unprocessable Entity" | 423 => "Locked"
  | 424 => "Failed Dependency" | 426 => "Upgrade Required" | 428 => "Precondition Required"
  | 429 => "Too Many Requests" | 431 => "Request Header Fields Too Large"
  | 451 => "Unavailable For Legal Reasons"
  | 500 => "Internal Server Error" | 501 => "Not Implemented" | 502 => "Bad Gateway"
  | 503 => "Service Unavailable" | 504 => "Gateway Timeout" | 505 => "HTTP Version Not Supported"
  | 506 => "Variant Also Negotiates" | 507 => "Insufficient Storage" | 508 => "Loop Detected"
  | 510 => "Not Extended" | 511 => "Network Authentication Required"
  | _ => "<unknown status code>"

/-- Reads the status record of an error response: a status and a code, with a message and a
reason that default to empty. -/
def errorStatusOf (body : String) : Option ApiFailure := do
  let .ok j := Json.parse body | none
  let .obj _ := j | none
  let some (.str status) := j.get? "status" | none
  let some (.num (.int code)) := j.get? "code" | none
  if code < 0 || code ≥ 65536 then none
  let text (k : String) : Option String :=
    match j.get? k with
    | none => some ""
    | some (.str s) => some s
    | some _ => none
  return .status status (← text "message") (← text "reason") code.toNat

/-- The body of a response that is not an error status. -/
def responseText (resp : ApiResponse) : Except Error String :=
  if 400 ≤ resp.status && resp.status < 600 then
    match errorStatusOf resp.body with
    | some f => .error (.kube f)
    | none =>
      .error (.kube (.status (toString resp.status ++ " " ++ httpReason resp.status)
        (Text.quoted resp.body) "Failed to parse error data" resp.status))
  else .ok resp.body

/-- Reads a response: an error status is the server's failure, and a success body must be
JSON. -/
def readResponse (resp : ApiResponse) : Except Error Json := do
  match Json.parse (← responseText resp) with
  | .ok j => .ok j
  | .error e => .error (.kube (.badBody e.message))

/-- Reads a record out of a success body. -/
def readRecord (read : Yaml → Decoded α) (text : String) : Except Error α :=
  (Json.readTyped read text).mapError fun m => .kube (.badBody m)

namespace Yaml

/-- Reads an unsigned integer below `bound`, named `name` in errors. -/
def readBounded (name : String) (bound : Nat) (v : Yaml) : Decoded Nat :=
  match v with
  | .num (.int i) =>
    if i < 0 then .error (.invalidValue (.signed i) name)
    else if i.toNat < bound then .ok i.toNat
    else .error (.invalidValue (.unsigned i.toNat) name)
  | other => .error (.invalidType other.unexpected name)

/-- Reads a text that must be one of the given values; another text is refused once read. -/
def readFixed (expected : String) (v : Yaml) : Decoded Unit := do
  let s ← v.readString
  if s != expected then throw (.between (.invalidValue (.str s) expected))

end Yaml

/-- One resource of a resource list, as far as discovery needs it. -/
structure DiscoveredResource where
  name : String := ""
  kind : String := ""
  namespaced : Bool := false
  group : Option String := none
  version : Option String := none

namespace DiscoveredResource

/-- Reads one field of a resource into `r`; a missing or null name, kind or namespaced takes
its empty value. -/
def field (r : DiscoveredResource) (k : String) (x : Yaml) : Decoded DiscoveredResource :=
  let text := Yaml.readOption Yaml.readString x
  let texts := Yaml.readOption (Yaml.readSeq Yaml.readString) x
  match k with
  | "categories" => do discard texts; pure r
  | "group" => return { r with group := ← text }
  | "kind" => return { r with kind := (← text).getD "" }
  | "name" => return { r with name := (← text).getD "" }
  | "namespaced" => return { r with namespaced := (← Yaml.readOption Yaml.readBool x).getD false }
  | "shortNames" => do discard texts; pure r
  | "singularName" => do discard text; pure r
  | "storageVersionHash" => do discard text; pure r
  | "verbs" => do discard texts; pure r
  | "version" => return { r with version := ← text }
  | _ => pure r

/-- Reads a resource of a resource list. -/
def decode (v : Yaml) : Decoded DiscoveredResource := do
  Yaml.foldFields (← v.readStructEntries "APIResource") {} field

end DiscoveredResource

/-- A resource list: the group version it describes and its resources. -/
structure ResourceList where
  groupVersion : String := ""
  resources : List DiscoveredResource := []

namespace ResourceList

/-- Reads one field of a resource list into `l`: apiVersion and kind must name a resource
list of the core version. -/
def field (l : ResourceList) (k : String) (x : Yaml) : Decoded ResourceList :=
  match k with
  | "apiVersion" => do Yaml.readFixed "v1" x; pure l
  | "kind" => do Yaml.readFixed "APIResourceList" x; pure l
  | "groupVersion" => return { l with groupVersion := (← Yaml.readOption Yaml.readString x).getD "" }
  | "resources" =>
    return { l with resources := (← Yaml.readOption (Yaml.readSeq DiscoveredResource.decode) x).getD [] }
  | _ => pure l

/-- Reads a resource list. -/
def decode (v : Yaml) : Decoded ResourceList := do
  Yaml.foldFields (← v.readStructEntries "APIResourceList") {} field

end ResourceList

/-- The metadata of a list: where to continue a paged listing, and the version listed at. -/
structure ListMeta where
  next : Option String := none
  remainingItemCount : Option Int := none
  resourceVersion : Option String := none
  selfLink : Option String := none

namespace ListMeta

/-- Reads one field of list metadata into `m`. -/
def field (m : ListMeta) (k : String) (x : Yaml) : Decoded ListMeta :=
  match k with
  | "continue" => return { m with next := ← Yaml.readOption Yaml.readString x }
  | "remainingItemCount" => return { m with remainingItemCount := ← Yaml.readOption Yaml.readI64 x }
  | "resourceVersion" => return { m with resourceVersion := ← Yaml.readOption Yaml.readString x }
  | "selfLink" => return { m with selfLink := ← Yaml.readOption Yaml.readString x }
  | _ => pure m

/-- Reads list metadata. -/
def decode (v : Yaml) : Decoded ListMeta := do
  Yaml.foldFields (← v.readStructEntries "ListMeta") {} field

end ListMeta

/-- Reads a list of records: its metadata (empty when absent) and its items, which must be
given and are none when null. -/
def readObjectList (read : Yaml → Decoded α) (v : Yaml) : Decoded (ListMeta × List α) := do
  let entries ← v.readEntries "struct ObjectList"
  let mut md : ListMeta := {}
  let mut items : Option (List α) := none
  for ((k, x), i) in entries.zipIdx do
    let name ← Decoded.inPart (2 * i) (Yaml.fieldName k)
    if name == "metadata" then md ← Decoded.inPart (2 * i + 1) (ListMeta.decode x)
    else if name == "items" then
      items := some ((← Decoded.inPart (2 * i + 1) (Yaml.readOption (Yaml.readSeq read) x)).getD [])
  let some xs := items | throw (.missingField "items")
  return (md, xs)

/-- Reads the status a delete may answer with: its summary names success or failure, its
code fits 16 bits, its texts are text, and its details are read as far as their fields go. -/
def readDeleteStatus (v : Yaml) : Decoded Unit := do
  let entries ← v.readEntries "struct Status"
  let texts (x : Yaml) : Decoded Unit := discard (x.readString)
  let cause (c : Yaml) : Decoded Unit := do
    discard <| Yaml.foldFields (← c.readEntries "struct StatusCause") () fun _ k x =>
      if k == "reason" || k == "message" || k == "field" then texts x else pure ()
  let details (d : Yaml) : Decoded Unit := do
    discard <| Yaml.foldFields (← d.readEntries "struct StatusDetails") () fun _ k x =>
      if k == "name" || k == "group" || k == "kind" || k == "uid" then texts x
      else if k == "causes" then discard (x.readSeq cause)
      else if k == "retryAfterSeconds" then discard (Yaml.readBounded "u32" (Nat.pow 2 32) x)
      else pure ()
  let summary (x : Yaml) : Decoded Unit :=
    match x with
    | .null => pure ()
    | .str s =>
      if s == "Success" || s == "Failure" then pure ()
      else throw (.unknownVariant s ["Success", "Failure"])
    | _ => throw (.onSight (.custom "expected value"))
  Yaml.foldFields entries () fun _ k x =>
    if k == "status" then summary x
    else if k == "code" then discard (Yaml.readBounded "u16" 65536 x)
    else if k == "message" || k == "reason" then texts x
    else if k == "details" then Yaml.readOption details x |>.map fun _ => ()
    else pure ()

end MeshControl
