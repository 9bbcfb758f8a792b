import MeshControl.Decode
import MeshControl.Json.Basic
import MeshControl.Error

/-!
Conditions and the condition store of a status. A store holds conditions in order; reading
a type gives its first condition, or an Unknown one when there is none. Writing a condition
replaces the first one of its type, or appends it, and stamps the transition time: the
clock's reading when the status changed or nothing was there, the old time otherwise.
The transition rules of reconcile and delete passes are at the end.
-/

namespace MeshControl

/-- What a condition reports on. -/
inductive ConditionType where
  | installed
  | reconciled
  deriving DecidableEq, Repr, Inhabited

/-- The truth of a condition: written `True`, `False` or `Unknown`. -/
inductive ConditionStatus where
  | yes
  | no
  | unknown
  deriving DecidableEq, Repr, Inhabited

/-- The machine-readable reason of a condition. -/
inductive ConditionReason where
  | installSuccessful
  | installError
  | reconcileSuccessful
  | reconcileError
  | deletionSuccessful
  | deletionError
  deriving DecidableEq, Repr

/-- A condition: its type and status, an optional reason, a message (empty when none) and
the time of its last status change. -/
structure Condition where
  type : ConditionType
  status : ConditionStatus
  reason : Option ConditionReason := none
  message : String := ""
  lastTransitionTime : Option String := none
  deriving DecidableEq, Repr, Inhabited

/-- Conditions plus the generation they were computed for. -/
structure StatusType where
  observedGeneration : Int := 0
  conditions : List Condition := []
  deriving DecidableEq, Repr, Inhabited

namespace ConditionType

/-- The written name. -/
def name : ConditionType → String
  | .installed => "Installed"
  | .reconciled => "Reconciled"

/-- All types, in the order their names are listed. -/
def all : List ConditionType := [.installed, .reconciled]

end ConditionType

/-- The written name of a status. -/
def ConditionStatus.name : ConditionStatus → String
  | .yes => "True"
  | .no => "False"
  | .unknown => "Unknown"

/-- All statuses, in the order their names are listed. -/
def ConditionStatus.all : List ConditionStatus := [.yes, .no, .unknown]

namespace ConditionReason

/-- The written name. -/
def name : ConditionReason → String
  | .installSuccessful => "InstallSuccessful"
  | .installError => "InstallError"
  | .reconcileSuccessful => "ReconcileSuccessful"
  | .reconcileError => "ReconcileError"
  | .deletionSuccessful => "DeletionSuccessful"
  | .deletionError => "DeletionError"

/-- All reasons, in the order their names are listed. -/
def all : List ConditionReason :=
  [.installSuccessful, .installError, .reconcileSuccessful, .reconcileError,
   .deletionSuccessful, .deletionError]

end ConditionReason

/-- Reads one of a closed set of names: a string naming a member, or a mapping of one entry
from a name to null. The name is looked up before its value is read, and a mapping of any
other size is refused. -/
def Yaml.readVariant (all : List α) (name : α → String) (v : Yaml) : Decoded α :=
  let pick (s : String) : Decoded α :=
    match all.find? (name · == s) with
    | some a => .ok a
    | none => .error (.unknownVariant s (all.map name))
  match v with
  | .str s => pick s
  | .map [(k, x)] => do
    let a ← match k with
      | .str s => pick s
      | other => .error (.invalidType other.unexpected "variant identifier")
    match x with
    | .null => pure a
    | other => .error (.invalidType other.unexpected "unit")
  | .map _ => .error (.invalidValue .map "map with a single key")
  | other => .error (.invalidType other.unexpected "string or map")

namespace Condition

/-- The condition reported for a type that was never set. -/
def unknownOf (t : ConditionType) : Condition := { type := t, status := .unknown }

/-- A fresh condition with a reason and a message. -/
def make (t : ConditionType) (s : ConditionStatus) (r : ConditionReason) (m : String) :
    Condition :=
  { type := t, status := s, reason := some r, message := m }

/-- Whether the status is True. -/
def isTrue (c : Condition) : Bool := c.status == .yes

/-- Reads a condition: type and status are required. -/
def decode (v : Yaml) : Decoded Condition := do
  let entries ← v.readEntries "struct Condition"
  let mut type : Option ConditionType := none
  let mut status : Option ConditionStatus := none
  let mut reason : Option ConditionReason := none
  let mut message : String := ""
  let mut time : Option String := none
  for (k, x) in entries do
    match ← Yaml.fieldName k with
    | "type" => type := some (← x.readVariant ConditionType.all ConditionType.name)
    | "status" => status := some (← x.readVariant ConditionStatus.all ConditionStatus.name)
    | "reason" => reason := ← Yaml.readOption (Yaml.readVariant ConditionReason.all ConditionReason.name) x
    | "message" => message := ← x.readString
    | "lastTransitionTime" => time := ← Yaml.readOption Yaml.readString x
    | _ => pure ()
  let some t := type | throw (.missingField "type")
  let some s := status | throw (.missingField "status")
  return { type := t, status := s, reason, message, lastTransitionTime := time }

/-- The JSON object of a condition: reason, message and time only when set. -/
def toJson (c : Condition) : Json :=
  .mkObj ([("type", .str c.type.name), ("status", .str c.status.name)] ++
    (c.reason.map (fun r => [("reason", Json.str r.name)])).getD [] ++
    (if c.message.isEmpty then [] else [("message", .str c.message)]) ++
    (c.lastTransitionTime.map (fun t => [("lastTransitionTime", Json.str t)])).getD [])

end Condition

namespace StatusType

/-- The first condition of a type, or an Unknown one. -/
def get (s : StatusType) (t : ConditionType) : Condition :=
  (s.conditions.find? (·.type == t)).getD (Condition.unknownOf t)

/-- Replaces the first condition of the same type, or appends. -/
def replaceFirst : List Condition → Condition → Option (List Condition)
  | [], _ => none
  | c :: rest, new =>
    if c.type == new.type then some (new :: rest)
    else (replaceFirst rest new).map (c :: ·)

/-- Stores a condition, stamping its transition time from the clock reading `now` when its
status changed or no condition of its type existed, and keeping the old time otherwise. -/
def set (s : StatusType) (now : String) (c : Condition) : StatusType :=
  match s.conditions.find? (·.type == c.type) with
  | some old =>
    let time := if old.status != c.status then now else old.lastTransitionTime.getD now
    let c := { c with lastTransitionTime := some time }
    { s with conditions := (replaceFirst s.conditions c).getD s.conditions }
  | none => { s with conditions := s.conditions ++ [{ c with lastTransitionTime := some now }] }

/-- Removes every condition of a type. -/
def remove (s : StatusType) (t : ConditionType) : StatusType :=
  { s with conditions := s.conditions.filter (·.type != t) }

/-- Whether Installed is True. -/
def isInstalled (s : StatusType) : Bool := (s.get .installed).isTrue

/-- Whether Reconciled is True. -/
def isReconciled (s : StatusType) : Bool := (s.get .reconciled).isTrue

/-- Whether Installed is False, which a confirmed or failed deletion (or a failed install)
leaves. -/
def isDeleted (s : StatusType) : Bool := (s.get .installed).status == .no

/-- Whether the object is known to be gone: Installed False for a successful deletion. -/
def deletionConfirmed (s : StatusType) : Bool :=
  let c := s.get .installed
  c.status == .no && c.reason == some .deletionSuccessful

/-- The conditions after a reconcile pass that ended with `err`. -/
def afterReconcile (s : StatusType) (now : String) (err : Option Error) : StatusType :=
  let installed := (s.get .installed).status
  match err with
  | none =>
    if installed != .yes then
      (s.set now (.make .installed .yes .installSuccessful "")).set now
        (.make .reconciled .yes .installSuccessful "")
    else s.set now (.make .reconciled .yes .reconcileSuccessful "")
  | some e =>
    let msg := e.message
    if installed == .unknown then
      (s.set now (.make .installed .no .installError msg)).set now
        (.make .reconciled .no .installError msg)
    else s.set now (.make .reconciled .no .reconcileError msg)

/-- The conditions after a delete pass that ended with `err`. -/
def afterDelete (s : StatusType) (now : String) (err : Option Error) : StatusType :=
  match err with
  | none =>
    (s.set now (.make .installed .no .deletionSuccessful "")).set now
      (.make .reconciled .yes .deletionSuccessful "")
  | some e => s.set now (.make .reconciled .no .deletionError e.message)

/-- Reads the observed generation and conditions out of record entries, ignoring others. -/
def ofEntries (entries : List (String × Yaml)) : Decoded StatusType := do
  let mut gen : Int := 0
  let mut conds : List Condition := []
  for (k, x) in entries do
    if k == "observedGeneration" then gen ← x.readI64
    else if k == "conditions" then conds ← x.readSeq Condition.decode
  return { observedGeneration := gen, conditions := conds }

/-- Reads a status. -/
def decode (v : Yaml) : Decoded StatusType := do
  let entries ← v.readEntries "struct StatusType"
  let named ← entries.mapM (fun (k, x) => do return (← Yaml.fieldName k, x))
  ofEntries named

/-- The fields of a status: observedGeneration always, conditions when there are any. -/
def fields (s : StatusType) : List (String × Json) :=
  [("observedGeneration", Json.int s.observedGeneration)] ++
    (if s.conditions.isEmpty then [] else [("conditions", .arr (s.conditions.map Condition.toJson))])

/-- The JSON object of a status. -/
def toJson (s : StatusType) : Json := .mkObj s.fields

end StatusType

end MeshControl
