import MeshControl.Error
import MeshControl.Json.Print
import MeshControl.Json.Parse
import MeshControl.Resource.Time

/-!
The JSON interface of the library: a request is a JSON object naming an operation and its
inputs, and its answer is a JSON value. A request that cannot be used at all is refused
(`bad_input`); an input that is not the record its operation needs is answered with the
reading error (`decode`).
-/

namespace MeshControl.Request

/-- Why a request got no regular answer. -/
inductive Reject where
  /-- The request itself is unusable: unknown operation, missing field, and the like. -/
  | badInput
  /-- An input could not be read as the record it stands for. -/
  | decode (e : DecodeError)
  /-- The request broke an assumption the engine makes of its inputs. -/
  | panic (message : String)

/-- The outcome of handling a request. -/
abbrev Handled := Except Reject Json

/-- The answer of a refused request. -/
def Reject.toJson : Reject → Json
  | .badInput => .mkObj [("error", .str "bad_input")]
  | .decode e => .mkObj [("error", .str "decode"), ("message", .str (e.render .json))]
  | .panic m => .mkObj [("error", .str "panic"), ("message", .str m)]

/-- A failure of the engine as an answer: its label and its text. -/
def errorJson (e : Error) : Json :=
  .mkObj [("error", .str e.kind), ("message", .str e.message)]

/-- A unit outcome as an answer: `"ok"` or the failure. -/
def unitJson (r : Except Error Unit) : Json :=
  match r with
  | .ok () => .str "ok"
  | .error e => errorJson e

/-- A field of a request. -/
def field? (req : Json) (name : String) : Option Json :=
  match req.get? name with
  | some .null => none
  | other => other

/-- A required field; null counts as given. -/
def need (req : Json) (name : String) : Except Reject Json :=
  match req.get? name with
  | some v => .ok v
  | none => .error .badInput

/-- A required text field. -/
def needString (req : Json) (name : String) : Except Reject String :=
  match field? req name with
  | some (.str s) => .ok s
  | _ => .error .badInput

/-- An optional text field with a default. -/
def stringOr (req : Json) (name : String) (default : String) : Except Reject String :=
  match field? req name with
  | some (.str s) => .ok s
  | none => .ok default
  | _ => .error .badInput

/-- An optional natural-number field with a default. -/
def natOr (req : Json) (name : String) (default : Nat) : Except Reject Nat :=
  match field? req name with
  | some (.num (.int i)) => if i ≥ 0 then .ok i.toNat else .error .badInput
  | none => .ok default
  | _ => .error .badInput

/-- An optional flag with a default. -/
def boolOr (req : Json) (name : String) (default : Bool) : Except Reject Bool :=
  match field? req name with
  | some (.bool b) => .ok b
  | none => .ok default
  | _ => .error .badInput

/-- An optional list field, empty when absent. -/
def listOr (req : Json) (name : String) : Except Reject (List Json) :=
  match field? req name with
  | some (.arr xs) => .ok xs
  | none => .ok []
  | _ => .error .badInput

/-- An optional list of texts, empty when absent. -/
def stringsOr (req : Json) (name : String) : Except Reject (List String) := do
  let xs ← listOr req name
  xs.mapM fun x => match x with
    | .str s => .ok s
    | _ => .error .badInput

/-- Reads a record from a JSON input, turning a reading error into a `decode` answer. -/
def decodeAs (read : Yaml → Decoded α) (j : Json) : Except Reject α :=
  match read j.toYaml with
  | .ok a => .ok a
  | .error e => .error (.decode e)

/-- What the surroundings of a request provide: the clock's reading as text, as written
into transition times, and as an instant, for comparing lease times; the clock's reading in
log lines; and the environment variables a command line starts with. -/
structure Env where
  nowText : String
  now : Time
  logStamp : String
  baseVariables : List (String × String)

end MeshControl.Request
