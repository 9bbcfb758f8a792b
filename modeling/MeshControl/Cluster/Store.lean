import MeshControl.Resource.Object
import MeshControl.Json.Merge

/-!
An in-memory cluster that behaves like a small API server. Objects get a resourceVersion from
one counter on every write; the generation goes up when anything outside metadata and status
changes; an update that carries a stale resourceVersion conflicts; failures can be injected
per verb and object name. Every call except listing is recorded before it is answered, so a
failed call is recorded too.
-/

namespace MeshControl

/-- The calls a cluster answers. -/
inductive Verb where
  | get
  | list
  | create
  | update
  | patch
  | patchStatus
  | delete
  deriving DecidableEq, Inhabited, Repr

namespace Verb

/-- The name of a verb in operation records. -/
def name : Verb → String
  | .get => "Get"
  | .list => "List"
  | .create => "Create"
  | .update => "Update"
  | .patch => "Patch"
  | .patchStatus => "PatchStatus"
  | .delete => "Delete"

/-- Every verb. -/
def all : List Verb := [.get, .list, .create, .update, .patch, .patchStatus, .delete]

/-- The verb of a name. -/
def ofName? (s : String) : Option Verb := all.find? (·.name == s)

end Verb

/-- A failure the cluster can be told to give. -/
inductive Failure where
  | conflict
  | notFound
  | gone
  | server
  deriving DecidableEq, Inhabited, Repr

namespace Failure

/-- The error of a failure for an object name. -/
def toError (f : Failure) (name : String) : Error :=
  match f with
  | .conflict => .conflict (name ++ " has been modified")
  | .notFound => .notFound name
  | .gone => .gone name
  | .server => .config ("injected failure for " ++ name)

/-- The failure of a name. -/
def ofName? : String → Option Failure
  | "Conflict" => some .conflict
  | "NotFound" => some .notFound
  | "Gone" => some .gone
  | "Server" => some .server
  | _ => none

end Failure

/-- How a deletion reaches an object's dependents. -/
inductive Propagation where
  | foreground
  | background
  | orphan
  deriving DecidableEq, Inhabited, Repr

/-- The name of a propagation policy. -/
def Propagation.name : Propagation → String
  | .foreground => "Foreground"
  | .background => "Background"
  | .orphan => "Orphan"

/-- A recorded call. -/
structure Op where
  verb : Verb
  key : ResourceKey
  propagation : Option Propagation := none
  deriving Inhabited

/-- The record of a call: verb and key, and the propagation of a deletion. -/
def Op.toJson (op : Op) : Json :=
  .mkObj ([("verb", .str op.verb.name), ("key", .str op.key.render)] ++
    match op.propagation with
    | some p => [("propagation", .str p.name)]
    | none => [])

/-- A failure to inject: calls of a verb on objects of a name fail, always or for a number
of calls still left. -/
structure Injected where
  verb : Verb
  name : String
  failure : Failure
  remaining : Option Nat
  deriving Inhabited

/-- An in-memory cluster: objects sorted by key, the calls made so far in order, the failures
to inject and the last resourceVersion handed out. -/
structure Store where
  objects : List (ResourceKey × Object) := []
  ops : List Op := []
  failures : List Injected := []
  version : Nat := 0
  deriving Inhabited

/-- A computation on a cluster that may fail; a failure keeps the cluster as it was then. -/
abbrev StoreM := EStateM Error Store

/-- Fails with an error of a plain computation. -/
def StoreM.ofExcept (x : Except Error α) : StoreM α :=
  match x with
  | .ok a => pure a
  | .error e => throw e

/-- The parts of an object value that count for its generation: all but metadata and
status. -/
def specPart (v : Json) : Json :=
  match v with
  | .obj fields => .obj (Fields.erase (Fields.erase fields "metadata") "status")
  | other => other

/-- The generation after `g`, counted as a signed 64-bit integer: past the largest it wraps
to the smallest. -/
def nextGeneration (g : Int) : Int := (g + 1).bmod 18446744073709551616

/-- Whether an object's labels meet a selector: comma-separated `k=v` (equal) or `k`
(present) terms, empty terms skipped. -/
def labelsMatch (o : Object) (selector : Option String) : Bool :=
  match selector with
  | none => true
  | some sel =>
    let labels := o.metadata.labels.getD []
    (sel.splitOn ",").all fun term =>
      if term.isEmpty then true
      else match term.splitOn "=" with
        | [k] => (labels.find? (·.1 == k)).isSome
        | k :: rest => labels.get? k == some (String.intercalate "=" rest)
        | [] => true

namespace Store

/-- The object stored under a key. -/
def lookup (s : Store) (key : ResourceKey) : Option Object :=
  (s.objects.find? (·.1 == key)).map (·.2)

/-- Whether an object is stored under a key. -/
def contains (s : Store) (key : ResourceKey) : Bool := (s.lookup key).isSome

/-- Stores an object under a key, keeping the keys sorted. -/
def put (s : Store) (key : ResourceKey) (o : Object) : Store :=
  let rec go : List (ResourceKey × Object) → List (ResourceKey × Object)
    | [] => [(key, o)]
    | (k, x) :: rest =>
      match ResourceKey.compareKeys key k with
      | .lt => (key, o) :: (k, x) :: rest
      | .eq => (key, o) :: rest
      | .gt => (k, x) :: go rest
  { s with objects := go s.objects }

/-- Drops the object under a key. -/
def remove (s : Store) (key : ResourceKey) : Store :=
  { s with objects := s.objects.filter (·.1 != key) }

/-- Adds a failure to inject. -/
def addFailure (s : Store) (verb : Verb) (name : String) (failure : Failure)
    (times : Option Nat) : Store :=
  { s with failures := s.failures ++ [⟨verb, name, failure, times⟩] }

/-- The objects of the cluster in key order. -/
def snapshot (s : Store) : List Object := s.objects.map (·.2)

end Store

/-- Hands out the next resourceVersion. -/
def nextVersion : StoreM String := do
  let s ← get
  set { s with version := s.version + 1 }
  return toString (s.version + 1)

/-- The first injected failure that matches a call and has calls left, with its position. -/
def findFailure (failures : List Injected) (verb : Verb) (name : String) : Option (Nat × Injected) :=
  let rec go : Nat → List Injected → Option (Nat × Injected)
    | _, [] => none
    | i, f :: rest =>
      if f.verb == verb && f.name == name && f.remaining != some 0 then some (i, f) else go (i + 1) rest
  go 0 failures

/-- Records a call, then fails it if an injected failure matches (using up one of its calls). -/
def record (verb : Verb) (key : ResourceKey) (propagation : Option Propagation) : StoreM Unit := do
  let s ← get
  let s := { s with ops := s.ops ++ [({ verb, key, propagation } : Op)] }
  match findFailure s.failures verb key.name with
  | none => set s
  | some (i, f) =>
    let used := { f with remaining := f.remaining.map (· - 1) }
    set { s with failures := s.failures.set i used }
    throw (f.failure.toError key.name)

/-- The stored object under a key, or not found. -/
def stored (key : ResourceKey) : StoreM Object := do
  match (← get).lookup key with
  | some o => return o
  | none => throw (.notFound key.render)

/-- An object with metadata changed. -/
def Object.withMeta (o : Object) (f : ObjectMeta → ObjectMeta) : Object :=
  { o with metadata := f o.metadata }

/-- Seeds an object as if it already existed: a new resourceVersion, and generation 1 and uid
`uid-<name>` when missing. -/
def seedObject (o : Object) : StoreM Object := do
  let key ← StoreM.ofExcept o.key
  let v ← nextVersion
  let o := o.withMeta fun m => { m with
    resourceVersion := some v,
    generation := some (m.generation.getD 1),
    uid := some (m.uid.getD ("uid-" ++ key.name)) }
  modify (·.put key o)
  return o

/-- `get`: the stored object. -/
def getObject (key : ResourceKey) : StoreM Object := do
  record .get key none
  stored key

/-- `list`: the objects of a kind, in a namespace if given, whose labels meet a selector.
Listing is not recorded. -/
def listObjects (group version kind : String) (ns : Option String) (selector : Option String) :
    StoreM (List Object) := do
  let s ← get
  return (s.objects.filter fun (k, o) =>
    k.group == group && k.version == version && k.kind == kind &&
      (ns.map (· == k.ns)).getD true && labelsMatch o selector).map (·.2)

/-- `create`: a new object with generation 1 and uid `uid-<name>`; an existing key conflicts. -/
def createObject (o : Object) : StoreM Object := do
  let key ← StoreM.ofExcept o.key
  record .create key none
  if (← get).contains key then throw (.conflict (key.render ++ " already exists"))
  let v ← nextVersion
  let created := o.withMeta fun m => { m with
    generation := some 1, uid := some ("uid-" ++ key.name), resourceVersion := some v }
  modify (·.put key created)
  return created

/-- `update`: replaces a stored object. A resourceVersion that differs from the stored one
conflicts; the generation goes up when the object changed outside metadata and status; the
uid stays. -/
def updateObject (o : Object) : StoreM Object := do
  let key ← StoreM.ofExcept o.key
  record .update key none
  let current ← stored key
  if o.metadata.resourceVersion.isSome && o.metadata.resourceVersion != current.metadata.resourceVersion then
    throw (.conflict (key.render ++ " has been modified"))
  let changed := !(specPart current.toJson).beq (specPart o.toJson)
  let generation := current.metadata.generation.getD 1
  let v ← nextVersion
  let updated := o.withMeta fun m => { m with
    generation := some (if changed then nextGeneration generation else generation),
    uid := current.metadata.uid, resourceVersion := some v }
  modify (·.put key updated)
  return updated

/-- `patch`: a JSON merge patch of the whole object; the generation goes up as for an
update. -/
def patchObject (key : ResourceKey) (patch : Json) : StoreM Object := do
  record .patch key none
  let current ← stored key
  let before := current.toJson
  let after := before.mergePatch patch
  let patched ← StoreM.ofExcept ((Object.ofJson after).mapError (.json ∘ .decode))
  let generation := current.metadata.generation.getD 1
  let v ← nextVersion
  let patched := patched.withMeta fun m => { m with
    generation := some (if (specPart before).beq (specPart after) then generation else nextGeneration generation),
    resourceVersion := some v }
  modify (·.put key patched)
  return patched

/-- `patch_status`: merges only the patch's status into the object's status. -/
def patchObjectStatus (key : ResourceKey) (patch : Json) : StoreM Object := do
  record .patchStatus key none
  let current ← stored key
  let value := current.toJson
  let value := match patch.get? "status" with
    | some st => value.set "status" (((value.get? "status").getD .null).mergePatch st)
    | none => value
  let patched ← StoreM.ofExcept ((Object.ofJson value).mapError (.json ∘ .decode))
  let v ← nextVersion
  let patched := patched.withMeta fun m => { m with resourceVersion := some v }
  modify (·.put key patched)
  return patched

/-- `delete`: drops a stored object, or not found. -/
def deleteObject (key : ResourceKey) (propagation : Option Propagation) : StoreM Unit := do
  record .delete key propagation
  if (← get).contains key then modify (·.remove key)
  else throw (.notFound key.render)

end MeshControl
