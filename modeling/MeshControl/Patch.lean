import MeshControl.Resource.Object
import MeshControl.Json.Parse
import MeshControl.Json.Print

/-!
Three-way merge patches. A desired object is stamped with its own configuration (the
last-applied annotation); later, the patch from a live object to a desired one writes every
desired field the live object lacks or holds differently, and nulls every field that was
last applied, is no longer desired and is still live. Status, apiVersion, kind and the
metadata the server keeps never take part. Arrays count as met when the live array
`covers` the desired one: the same length, and element-wise every desired field present
and every dropped field gone.
-/

namespace MeshControl

/-- The annotation that records the configuration last sent to the cluster. -/
def lastAppliedAnnotation : String := "kubectl.kubernetes.io/last-applied-configuration"

/-- Metadata fields that only the server writes. -/
def serverMetadataFields : List String :=
  ["managedFields", "resourceVersion", "generation", "creationTimestamp", "uid", "selfLink"]

/-- Drops status, apiVersion, kind and the server's metadata fields from an object value. -/
def stripServerFields (v : Json) : Json :=
  match v with
  | .obj fields =>
    let fields := Fields.erase (Fields.erase (Fields.erase fields "status") "apiVersion") "kind"
    let fields := match Fields.get? fields "metadata" with
      | some (.obj md) =>
        Fields.insert fields "metadata" (.obj (serverMetadataFields.foldl Fields.erase md))
      | _ => fields
    .obj fields
  | other => other

/-- The value at an index of an optional array. -/
def itemAt? (xs : Option (List Json)) (i : Nat) : Option Json := xs.bind (·[i]?)

/-- The value under a key of optional fields. -/
def fieldAt? (fs : Option Fields) (k : String) : Option Json := fs.bind (Fields.get? · k)

mutual
/-- Whether `live` already holds everything of `desired`, given the value `original` last
applied: objects need every desired field (a null one absent or null) and every field of
`original` that is no longer desired gone; arrays need equal length and element-wise
coverage; other values need equality. -/
def covers (original : Option Json) (live : Json) : Json → Bool
  | .obj d =>
    match live with
    | .obj l =>
      let o := original.bind Json.fields?
      coversFields o l d && (match o with
        | some ofs => ofs.all (fun (k, _) => Fields.contains d k || !Fields.contains l k)
        | none => true)
    | _ => false
  | .arr d =>
    match live with
    | .arr l => d.length == l.length && coversItems (original.bind Json.items?) 0 l d
    | _ => false
  | desired => desired.beq live

/-- Whether every desired field is met by the live fields. -/
def coversFields (original : Option Fields) (live : Fields) : List (String × Json) → Bool
  | [] => true
  | (k, w) :: rest =>
    let here := match Fields.get? live k with
      | none => w.isNull
      | some lv => if w.isNull && lv.isNull then true else covers (fieldAt? original k) lv w
    here && coversFields original live rest

/-- Whether the live items cover the desired items, pairing them by position from `i`. -/
def coversItems (original : Option (List Json)) (i : Nat) (live : List Json) :
    List Json → Bool
  | [] => true
  | w :: ws =>
    match live with
    | lv :: ls => covers (itemAt? original i) lv w && coversItems original (i + 1) ls ws
    | [] => true
end

/-- Nulls for the fields of `original` that are no longer desired and are still live, added
to the patch `written`. -/
def nullDropped (original : Option Fields) (current : Option Fields)
    (desired : List (String × Json)) (written : Fields) : Fields :=
  match original with
  | none => written
  | some ofs =>
    ofs.foldl (fun acc (k, _) =>
      if !Fields.contains desired k && (current.map (Fields.contains · k)).getD false then
        Fields.insert acc k .null
      else acc) written

mutual
/-- The patch entries of the desired fields, with `original` the fields last applied and
`current` the live ones: changed and missing desired fields, and sub-patches for objects on
both sides. -/
def diffEntries (original : Option Fields) (current : Option Fields) :
    List (String × Json) → Fields
  | [] => []
  | (k, wanted) :: rest =>
    let tail := diffEntries original current rest
    match valuePatch (fieldAt? original k) (fieldAt? current k) wanted with
    | some entry => Fields.insert tail k entry
    | none => tail

/-- The patch entry that brings the live value of a field to the `wanted` one, with
`original` the value last applied there; none when nothing needs writing. Objects on both
sides get a sub-patch, an array that covers the wanted one is left alone, a wanted null
needs the field gone or null, and anything else is written whole unless equal. -/
def valuePatch (original : Option Json) (live : Option Json) : Json → Option Json
  | .obj w =>
    match live with
    | some (.obj l) =>
      let ancestor := original.bind Json.fields?
      let nested := nullDropped ancestor (some l) w (diffEntries ancestor (some l) w)
      if nested.isEmpty then none else some (.obj nested)
    | some lv => if (Json.obj w).beq lv then none else some (.obj w)
    | none => some (.obj w)
  | .null =>
    match live with
    | none => none
    | some .null => none
    | some _ => some .null
  | .arr w =>
    match live with
    | some lv =>
      if lv.isArr && covers original lv (.arr w) then none
      else if (Json.arr w).beq lv then none
      else some (.arr w)
    | none => some (.arr w)
  | other =>
    match live with
    | some lv => if other.beq lv then none else some other
    | none => some other
end

/-- The merge patch from `current` to `desired` fields, with `original` the fields last
applied: the entries of the desired fields, and nulls for fields dropped since `original`
that are still live. -/
def diffObject (original : Option Fields) (current : Option Fields) (desired : List (String × Json)) :
    Fields :=
  nullDropped original current desired (diffEntries original current desired)

/-- A computed merge patch for an object. -/
structure ObjectPatch where
  key : ResourceKey
  body : Json

namespace Object

/-- The annotations, empty when unset. -/
def annotations (o : Object) : TextMap := o.metadata.annotations.getD []

/-- The configuration last applied to an object, read from its annotation. -/
def lastApplied (o : Object) : Except Error (Option Json) :=
  match o.metadata.annotations.bind (TextMap.get? · lastAppliedAnnotation) with
  | none => .ok none
  | some raw =>
    match Json.parse raw with
    | .ok v => .ok (some v)
    | .error e =>
      .error (.patch ("unparsable " ++ lastAppliedAnnotation ++ " annotation on " ++
        Text.quotedOption o.metadata.name ++ ": " ++ e.message))

/-- Records an object's own configuration, status left out, in its last-applied annotation;
an earlier record is not part of the new one. -/
def stampLastApplied (o : Object) : Object :=
  let snapshotAnnotations := o.metadata.annotations.bind fun a =>
    let a := a.erase lastAppliedAnnotation
    if a.isEmpty then none else some a
  let snapshot := { o with metadata := { o.metadata with annotations := snapshotAnnotations } }
  let encoded := (snapshot.toJson.erase "status").render
  { o with metadata := { o.metadata with
      annotations := some (o.annotations.insert lastAppliedAnnotation encoded) } }

end Object

/-- The patch that brings `current` to `desired`, or none when it is already met. Both need
a key, and the keys must agree in group, kind, namespace and name. -/
def createPatch (current desired : Object) : Except Error (Option ObjectPatch) := do
  let currentKey ← current.key
  let desiredKey ← desired.key
  if currentKey.group != desiredKey.group || currentKey.kind != desiredKey.kind ||
      currentKey.ns != desiredKey.ns || currentKey.name != desiredKey.name then
    throw (.patch ("cannot patch " ++ desiredKey.render ++ " into " ++ currentKey.render))
  let original := (← current.lastApplied).map stripServerFields
  let live := stripServerFields current.toJson
  let wanted := stripServerFields desired.toJson
  match live, wanted with
  | .obj l, .obj w =>
    let body := diffObject (original.bind Json.fields?) (some l) w
    return if body.isEmpty then none else some ⟨desiredKey, .obj body⟩
  | _, _ => throw (.patch (desiredKey.render ++ " did not serialize to an object"))

end MeshControl
