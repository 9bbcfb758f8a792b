import MeshControl.Json.Parse
import MeshControl.Yaml.Error
import MeshControl.Text.Quoted

/-!
Failures of the engine as causes, each with one text (`Error.message`) and a short label
(`Error.kind`). Aggregates collect the failures of a pass; pushing an aggregate into another
adds its members, so an aggregate never holds one.
-/

namespace MeshControl

/-- A failure reported by the API server or met while talking to it. -/
inductive ApiFailure where
  /-- An error status from the server: its status, message, reason and HTTP code. -/
  | status (status message reason : String) (code : Nat)
  /-- A success response whose body could not be read. -/
  | badBody (detail : String)
  /-- Discovery found no resource of this kind. -/
  | missingKind (group version kind : String)
  /-- A request the client refused to build, with the reason. -/
  | buildRequest (detail : String)
  /-- A discovery request whose target is no valid URI, with the reason. -/
  | badUri (detail : String)

/-- The text of an API failure. -/
def ApiFailure.message : ApiFailure → String
  | .status st msg why code =>
    "ApiError: " ++ msg ++ ": " ++ why ++ " (ErrorResponse \x7b status: " ++
      Text.quoted st ++ ", message: " ++ Text.quoted msg ++ ", reason: " ++
      Text.quoted why ++ ", code: " ++ toString code ++ " \x7d)"
  | .badBody detail => "Error deserializing response: " ++ detail
  | .missingKind g v k =>
    "Error from discovery: Missing Kind: GroupVersionKind \x7b group: " ++ Text.quoted g ++
      ", version: " ++ Text.quoted v ++ ", kind: " ++ Text.quoted k ++ " \x7d"
  | .buildRequest detail => "Failed to build request: " ++ detail
  | .badUri detail => "HttpError: " ++ detail

/-- The HTTP code of an error status. -/
def ApiFailure.code? : ApiFailure → Option Nat
  | .status _ _ _ code => some code
  | _ => none

/-- A JSON text that could not be read, or a JSON value that is not the record asked for. -/
inductive JsonFailure where
  | malformed (e : JsonError)
  | decode (e : DecodeError)

/-- The text of a JSON failure. -/
def JsonFailure.message : JsonFailure → String
  | .malformed e => e.message
  | .decode e => e.render .json

/-- A failure of the engine. -/
inductive Error where
  | kube (failure : ApiFailure)
  | notFound (what : String)
  | gone (what : String)
  | conflict (what : String)
  | json (failure : JsonFailure)
  | yaml (failure : YamlError)
  | manifest (text : String)
  | patch (text : String)
  | hook (text : String)
  | finalizer (text : String)
  | config (text : String)
  | render (text : String)
  /-- The failures of a pass, none of them an aggregate. -/
  | aggregate (errors : List Error)
  deriving Inhabited

namespace Error

mutual
/-- The text of a failure. -/
def message : Error → String
  | .kube f => "Kubernetes API error: " ++ f.message
  | .notFound s => "not found: " ++ s
  | .gone s => "gone: " ++ s
  | .conflict s => "conflict: " ++ s
  | .json f => "Serialization error: " ++ f.message
  | .yaml f => "YAML error: " ++ f.message
  | .manifest s => "Manifest error: " ++ s
  | .patch s => "Patch error: " ++ s
  | .hook s => "Hook error: " ++ s
  | .finalizer s => "Finalizer error: " ++ s
  | .config s => "Configuration error: " ++ s
  | .render s => "Render error: " ++ s
  | .aggregate errors => "[" ++ messages errors ++ "]"

/-- The texts of several failures, joined by commas. -/
def messages : List Error → String
  | [] => ""
  | [e] => message e
  | e :: rest => message e ++ ", " ++ messages rest
end

/-- The short label of a failure. -/
def kind : Error → String
  | .kube _ => "kube"
  | .notFound _ => "not_found"
  | .gone _ => "gone"
  | .conflict _ => "conflict"
  | .json _ | .yaml _ => "serialization"
  | .manifest _ => "manifest"
  | .patch _ => "patch"
  | .hook _ => "hook"
  | .finalizer _ => "finalizer"
  | .config _ => "config"
  | .render _ => "render"
  | .aggregate _ => "aggregate"

/-- The HTTP code of a server error status. -/
def apiCode? : Error → Option Nat
  | .kube f => f.code?
  | _ => none

/-- The object does not exist: a not-found failure or HTTP 404. -/
def isNotFound (e : Error) : Bool :=
  (match e with | .notFound _ => true | _ => false) || e.apiCode? == some 404

/-- The object is gone: a gone failure or HTTP 410. -/
def isGone (e : Error) : Bool :=
  (match e with | .gone _ => true | _ => false) || e.apiCode? == some 410

/-- A write lost a race: a conflict failure or HTTP 409. -/
def isConflict (e : Error) : Bool :=
  (match e with | .conflict _ => true | _ => false) || e.apiCode? == some 409

/-- Deleting what is already absent counts as done. -/
def isAbsent (e : Error) : Bool := e.isNotFound || e.isGone

mutual
/-- Whether a quick retry may help: any API failure, a conflict or a gone object, or an
aggregate holding one. -/
def isRetriable : Error → Bool
  | .kube _ | .conflict _ | .gone _ => true
  | .aggregate errors => anyRetriable errors
  | _ => false

/-- Whether some failure of a list is retriable. -/
def anyRetriable : List Error → Bool
  | [] => false
  | e :: rest => isRetriable e || anyRetriable rest
end

end Error

/-- Failures collected during a pass, in the order they happened, with no aggregate among
them. -/
structure Aggregate where
  errors : List Error := []
  deriving Inhabited

namespace Aggregate

/-- Adds a failure; an aggregate adds its members instead. -/
def push (agg : Aggregate) (e : Error) : Aggregate :=
  match e with
  | .aggregate inner => ⟨agg.errors ++ inner⟩
  | other => ⟨agg.errors ++ [other]⟩

/-- Adds the failure of an outcome, if it failed. -/
def collect (agg : Aggregate) (r : Except Error Unit) : Aggregate :=
  match r with
  | .error e => agg.push e
  | .ok () => agg

/-- Collects failures one after another. -/
def ofList (errors : List Error) : Aggregate := errors.foldl push {}

/-- `[a, b]`: the members' texts in brackets. -/
def message (agg : Aggregate) : String := "[" ++ Error.messages agg.errors ++ "]"

/-- Success when nothing failed, the failure when one did, the aggregate otherwise. -/
def toResult (agg : Aggregate) : Except Error Unit :=
  match agg.errors with
  | [] => .ok ()
  | [e] => .error e
  | errors => .error (.aggregate errors)

end Aggregate

end MeshControl
