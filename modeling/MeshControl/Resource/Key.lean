/-!
The identity of a cluster object: API group, version, kind, namespace and name. Keys are
ordered field by field in that order, which is the order snapshots of the cluster list
objects in. The text of a key is `<apiVersion>/<kind> <namespace>/<name>`, the namespace
left out for cluster-scoped objects.
-/

namespace MeshControl

/-- Identifies a live object in the cluster; an empty group is the core group and an empty
namespace a cluster-scoped object. -/
structure ResourceKey where
  group : String
  version : String
  kind : String
  /-- The namespace; empty for a cluster-scoped object. -/
  ns : String
  name : String
  deriving DecidableEq, Inhabited, Repr

/-- Splits an apiVersion at its first slash into group and version; without a slash it is
a version of the core group. -/
def splitApiVersion (apiVersion : String) : String × String :=
  match apiVersion.toList.span (· != '/') with
  | (group, _ :: version) => (String.ofList group, String.ofList version)
  | (_, []) => ("", apiVersion)

/-- An API group and kind, which selects the hooks of an object. -/
structure GroupKind where
  group : String
  kind : String
  deriving DecidableEq, Repr

/-- `Kind` for the core group, `Kind.group` otherwise. -/
def GroupKind.render (gk : GroupKind) : String :=
  if gk.group.isEmpty then gk.kind else gk.kind ++ "." ++ gk.group

namespace ResourceKey

/-- `group/version`, or the version alone for the core group. -/
def apiVersion (k : ResourceKey) : String :=
  if k.group.isEmpty then k.version else k.group ++ "/" ++ k.version

/-- The group and kind of the key. -/
def groupKind (k : ResourceKey) : GroupKind := ⟨k.group, k.kind⟩

/-- Whether the key names a cluster-scoped object. -/
def clusterScoped (k : ResourceKey) : Bool := k.ns.isEmpty

/-- The text of a key: `<apiVersion>/<kind> <namespace>/<name>`, or `<apiVersion>/<kind>
<name>` without a namespace. -/
def render (k : ResourceKey) : String :=
  if k.ns.isEmpty then k.apiVersion ++ "/" ++ k.kind ++ " " ++ k.name
  else k.apiVersion ++ "/" ++ k.kind ++ " " ++ k.ns ++ "/" ++ k.name

/-- Orders keys by group, then version, kind, namespace and name. -/
def compareKeys (a b : ResourceKey) : Ordering :=
  (compare a.group b.group).then <| (compare a.version b.version).then <|
    (compare a.kind b.kind).then <| (compare a.ns b.ns).then (compare a.name b.name)

instance : Ord ResourceKey := ⟨compareKeys⟩

/-- Whether one key sorts strictly before another. -/
def lt (a b : ResourceKey) : Bool := compareKeys a b == .lt

end ResourceKey

end MeshControl
