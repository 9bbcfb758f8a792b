import MeshControl.Request.Basic
import MeshControl.Manifest
import MeshControl.Charts
import MeshControl.Request.Cluster

/-!
Requests on rendered files: splitting a manifest into documents and reading its objects, and
rendering the components of a chart tree.
-/

namespace MeshControl.Request

/-- The failure of reading a YAML text as a value, if it fails. -/
def yamlFailure (text : String) : Option YamlError :=
  match Yaml.parse text with
  | .ok _ => none
  | .error e => some e

/-- `manifest`: whether a file is applied, its raw documents and its decoded objects. -/
def manifestRequest (req : Json) : Handled := do
  let m : Manifest := ⟨← needString req "name", ← needString req "content"⟩
  let objects := m.objects.map fun
    | .ok o => Json.mkObj [("object", o.toJson)]
    | .error e => errorJson e
  return .mkObj [("is_yaml", .bool m.isYaml), ("documents", .arr (m.documents.map .str)),
    ("objects", .arr objects)]

/-- A relative path of a request's tree: it may not start with `/` or climb out with `..`. -/
def relativePath (j : Json) : Except Reject (List String) := do
  let some path := j.str? | throw .badInput
  if path.startsWith "/" || (path.splitOn "..").length > 1 then throw .badInput
  return pathComponents path

/-- A file of a request's tree: `{path, content}` or `{path, bytes}`. -/
def fileOf (j : Json) : Except Reject (List String × FileBody) := do
  let path ← relativePath (← need j "path")
  match field? j "content", field? j "bytes" with
  | some (.str s), _ => return (path, .text s)
  | none, some (.arr xs) =>
    let bytes ← xs.mapM fun x => match x with
      | .num (.int i) => if 0 ≤ i && i < 256 then pure i.toNat.toUInt8 else throw .badInput
      | _ => throw .badInput
    return (path, .bytes bytes)
  | _, _ => throw .badInput

/-- `render_dir`: the components a chart tree renders for an instance's version. -/
def renderDirRequest (req : Json) : Handled := do
  let dirs ← (← listOr req "dirs").mapM relativePath
  let files ← (← listOr req "files").mapM fileOf
  let cp ← instanceOf req false
  let version ← match field? req "version" with
    | some (.str v) => pure v
    | some _ => throw .badInput
    | none => pure cp.spec.version
  let tree : FileTree := { root := "<root>", dirs, files }
  match renderCharts tree version with
  | .ok components =>
    let manifests (ms : List Manifest) : Json :=
      .arr (ms.map fun m => .mkObj [("name", .str m.name), ("content", .str m.content)])
    return .mkObj [("components", .mkObj (components.map fun (n, ms) => (n, manifests ms)))]
  | .error e => return errorJson e

end MeshControl.Request
