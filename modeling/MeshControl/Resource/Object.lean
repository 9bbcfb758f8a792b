import MeshControl.Resource.Key
import MeshControl.Resource.Meta
import MeshControl.Error

/-!
Cluster objects of any kind: apiVersion and kind (both or neither), metadata, and every other
top-level field kept as JSON. Reading takes apiVersion and kind in the order they are
written and gives up on them at the first one that is not text, which drops the entries read
so far; the key of an object (`Object.key`) needs both, and a non-empty name.
-/

namespace MeshControl

/-- The apiVersion and kind of an object. -/
structure TypeMeta where
  apiVersion : String
  kind : String
  deriving DecidableEq, Inhabited

/-- A cluster object. -/
structure Object where
  types : Option TypeMeta := none
  metadata : ObjectMeta := {}
  /-- Every top-level field other than apiVersion, kind and metadata. -/
  data : Fields := []
  deriving Inhabited

namespace Object

/-- Takes apiVersion and kind out of the top-level entries, in the order written. Both must
be text; at the first that is not, the type is unknown and the entries taken so far are
dropped. -/
def takeTypes (entries : List (String × Yaml)) : Option TypeMeta × List (String × Yaml) :=
  let rec go : List (String × Yaml) → Option String → Option String → List (String × Yaml) →
      Option TypeMeta × List (String × Yaml)
    | [], av, kd, kept =>
      match av, kd with
      | some a, some k => (some ⟨a, k⟩, kept.reverse)
      | _, _ => (none, kept.reverse)
    | (name, v) :: rest, av, kd, kept =>
      if name == "apiVersion" || name == "kind" then
        match v with
        | .str s =>
          if name == "apiVersion" then go rest (some s) kd kept else go rest av (some s) kept
        | _ => (none, kept.reverse ++ rest)
      else go rest av kd ((name, v) :: kept)
  go entries none none []

/-- Reads the top-level entries from position `i` on: metadata is read where it stands and
may be given once; the other fields are buffered after `others` as they are. -/
def readEntriesFrom (i : Nat) :
    List (Yaml × Yaml) → Option ObjectMeta → List (String × Yaml) →
      Decoded (Option ObjectMeta × List (String × Yaml))
  | [], metadata, others => .ok (metadata, others)
  | (k, x) :: rest, metadata, others => do
    let name ← Decoded.inPart (2 * i) (Yaml.fieldName k)
    if name == "metadata" then
      if metadata.isSome then throw (.inside (2 * i) (.custom "duplicate field `metadata`"))
      let read ← Decoded.inPart (2 * i + 1) (ObjectMeta.decode x)
      readEntriesFrom (i + 1) rest (some read) others
    else
      -- Other fields are held as plain values, which tagged values are not.
      if !x.tagFree then
        throw (.custom "untagged and internally tagged enums do not support enum input")
      readEntriesFrom (i + 1) rest metadata (others ++ [(name, x)])

/-- Reads an object from a value: metadata is read where it stands and may be given once; the
other fields are buffered, and apiVersion and kind taken out of them once the whole value was
read. -/
def decode (v : Yaml) : Decoded Object := do
  let entries ← v.readEntries "struct DynamicObject"
  let (metadata, others) ← readEntriesFrom 0 entries none []
  let (types, rest) := takeTypes others
  let pairs ← Decoded.buffered (rest.mapM (fun (k, x) => do return (k, ← x.toJson)))
  return { types, metadata := metadata.getD {}, data := Fields.ofList pairs }

/-- Reads an object from a JSON value. -/
def ofJson (j : Json) : Decoded Object := decode j.toYaml

/-- The JSON object of an object: apiVersion and kind if known, metadata, then the other
fields, a later field replacing an earlier one of the same key. -/
def toJson (o : Object) : Json :=
  let typeFields : List (String × Json) :=
    match o.types with
    | some t => [("apiVersion", .str t.apiVersion), ("kind", .str t.kind)]
    | none => []
  .mkObj (typeFields ++ [("metadata", o.metadata.toJson)] ++ o.data)

/-- The name, if set. -/
def name? (o : Object) : Option String := o.metadata.name

/-- The namespace, empty when unset. -/
def ns (o : Object) : String := o.metadata.ns.getD ""

/-- The key of an object: needs apiVersion and kind, both non-empty, and a non-empty name. -/
def key (o : Object) : Except Error ResourceKey :=
  match o.types with
  | none => .error (.manifest ("object " ++ Text.quotedOption o.metadata.name ++ " has no apiVersion/kind"))
  | some t =>
    if t.kind.isEmpty || t.apiVersion.isEmpty then
      .error (.manifest ("object " ++ Text.quotedOption o.metadata.name ++ " has an empty apiVersion or kind"))
    else
      match o.metadata.name with
      | some n =>
        if n.isEmpty then .error (.manifest (t.kind ++ " object has no metadata.name"))
        else
          let (g, v) := splitApiVersion t.apiVersion
          .ok ⟨g, v, t.kind, o.ns, n⟩
      | none => .error (.manifest (t.kind ++ " object has no metadata.name"))

/-- A field of the other top-level fields. -/
def field? (o : Object) (name : String) : Option Json := Fields.get? o.data name

/-- Stores a top-level field. -/
def setField (o : Object) (name : String) (value : Json) : Object :=
  { o with data := Fields.insert o.data name value }

end Object

/-- An object that carries only a key: apiVersion, kind, name and a namespace if any. -/
def ResourceKey.placeholder (k : ResourceKey) : Object :=
  { types := some ⟨k.apiVersion, k.kind⟩,
    metadata := { name := some k.name, ns := if k.ns.isEmpty then none else some k.ns },
    data := [] }

end MeshControl
