import MeshControl.Yaml.Emit
import MeshControl.Resource.ControlPlane

/-!
The custom resource definition of control planes, as the cluster needs it installed: the
names, the printer columns, and the schema of the spec and of the status tree. Schema nodes
are built by small functions so that the condition schema, used at every level of the status
tree, is written once.
-/

namespace MeshControl.Crd

/-- A schema node: its fields, with a description when there is one. -/
def node (description : Option String) (fields : List (String × Json)) : Json :=
  .mkObj (fields ++ match description with
    | some d => [("description", .str d)]
    | none => [])

/-- A string property. -/
def stringProperty (description : Option String) (extra : List (String × Json) := []) : Json :=
  node description (extra ++ [("type", .str "string")])

/-- A string property limited to some values. -/
def enumProperty (description : String) (values : List String) (nullable : Bool) : Json :=
  stringProperty (some description) ([("enum", .arr (values.map .str))] ++
    if nullable then [("nullable", .bool true)] else [])

/-- An object with properties, some of them required. -/
def objectSchema (description : Option String) (properties : List (String × Json))
    (required : List String := []) (extra : List (String × Json) := []) : Json :=
  node description (extra ++ [("properties", .mkObj properties), ("type", .str "object")] ++
    if required.isEmpty then [] else [("required", .arr (required.map .str))])

/-- An array of items. -/
def arraySchema (description : Option String) (items : Json) (extra : List (String × Json) := []) : Json :=
  node description (extra ++ [("items", items), ("type", .str "array")])

/-- A condition: its type, status, reason, message and transition time. -/
def conditionSchema : Json :=
  objectSchema (some "A typed condition following Kubernetes API conventions")
    [("lastTransitionTime", stringProperty (some "RFC3339 time of the last status change")
        [("nullable", .bool true)]),
     ("message", stringProperty none),
     ("reason", enumProperty "Machine-readable reason for a condition"
        (ConditionReason.all.map ConditionReason.name) true),
     ("status", enumProperty "Status of a condition: \"True\", \"False\", or \"Unknown\""
        (ConditionStatus.all.map ConditionStatus.name) false),
     ("type", enumProperty "Kind of condition tracked for every level of the status tree"
        (ConditionType.all.map ConditionType.name) false)]
    ["status", "type"]

/-- The properties every level of the status tree has: conditions and the generation they
were computed for. -/
def statusProperties : List (String × Json) :=
  [("conditions", arraySchema none conditionSchema),
   ("observedGeneration", node none [("default", Json.int 0), ("format", .str "int64"),
      ("type", .str "integer")])]

/-- The key of an object in the cluster. -/
def resourceKeySchema : Json :=
  objectSchema (some "Identifies a live object in the cluster")
    [("group", stringProperty (some "API group, empty for the core group") [("default", .str "")]),
     ("kind", stringProperty none),
     ("name", stringProperty none),
     ("namespace", stringProperty (some "Empty for cluster-scoped kinds") [("default", .str "")]),
     ("version", stringProperty none)]
    ["kind", "name", "version"]

/-- The status of one object of a component. -/
def resourceStatusSchema : Json :=
  objectSchema (some "Status of a single object created for a component")
    (statusProperties ++ [("resource", resourceKeySchema)]) ["resource"]

/-- The status of one component. -/
def componentStatusSchema : Json :=
  objectSchema (some "Status of one rendered component (a chart or sub-chart)")
    (statusProperties ++
      [("resource", stringProperty (some "Component name")),
       ("resources", arraySchema (some "Objects of this component, in creation order") resourceStatusSchema)])
    ["resource"]

/-- The status of a control plane. -/
def controlPlaneStatusSchema : Json :=
  objectSchema (some "Top-level status of a ServiceMeshControlPlane")
    ([("componentStatus", arraySchema
        (some "Components in installation order; always serialized so that a merge patch can clear it")
        componentStatusSchema [("default", .arr [])])] ++ statusProperties)
    [] [("nullable", .bool true)]

/-- The spec of a control plane. -/
def controlPlaneSpecSchema : Json :=
  objectSchema none
    [("istio", node (some "Chart values passed through to the renderer untouched") []),
     ("template", stringProperty (some "Named template (profile) the values are layered on")
        [("nullable", .bool true)]),
     ("version", stringProperty (some "Control plane version; selects the chart set handed to the renderer")
        [("default", .str "v1.0")])]

/-- A printer column. -/
def printerColumn (name path kind : String) : Json :=
  .mkObj [("jsonPath", .str path), ("name", .str name), ("type", .str kind)]

/-- The column showing whether a condition holds. -/
def conditionColumn (t : ConditionType) : Json :=
  printerColumn t.name (".status.conditions[?(@.type==" ++ "'" ++ t.name ++ "'" ++ ")].status") "string"

/-- The resource definition of control planes. -/
def definition : Json :=
  let plural := "servicemeshcontrolplanes"
  .mkObj [("apiVersion", .str "apiextensions.k8s.io/v1"), ("kind", .str "CustomResourceDefinition"),
    ("metadata", .mkObj [("name", .str (plural ++ "." ++ controlPlaneGroup))]),
    ("spec", .mkObj [
      ("group", .str controlPlaneGroup),
      ("names", .mkObj [("categories", .arr []), ("kind", .str controlPlaneKind), ("plural", .str plural),
        ("shortNames", .arr [.str "smcp"]), ("singular", .str "servicemeshcontrolplane")]),
      ("scope", .str "Namespaced"),
      ("versions", .arr [.mkObj [
        ("additionalPrinterColumns", .arr [printerColumn "Version" ".spec.version" "string",
          conditionColumn .installed, conditionColumn .reconciled,
          printerColumn "Age" ".metadata.creationTimestamp" "date"]),
        ("name", .str controlPlaneVersion),
        ("schema", .mkObj [("openAPIV3Schema",
          objectSchema (some ("Auto-generated derived type for ServiceMeshControlPlaneSpec via " ++
              "\x60CustomResource\x60"))
            [("spec", controlPlaneSpecSchema), ("status", controlPlaneStatusSchema)]
            ["spec"] [("title", .str controlPlaneKind)])]),
        ("served", .bool true), ("storage", .bool true),
        ("subresources", .mkObj [("status", Json.empty)])]])])]

/-- The resource definition as a YAML document. -/
def yaml : String := Yaml.render definition.toYaml

end MeshControl.Crd
