import MeshControl.Proofs.Resource.Decode
import MeshControl.Status.Tree

/-! The status tree reads back from its JSON at every level, where each generation fits a
signed 64-bit integer, and its JSON is canonical, so the cluster keeps it as written. -/

namespace MeshControl

@[simp] theorem ConditionType.readVariant_name (t : ConditionType) :
    Yaml.readVariant ConditionType.all ConditionType.name (.str t.name) = .ok t := by
  -- Each name is found in the table of all variants at its own place.
  cases t <;> rfl

@[simp] theorem ConditionStatus.readVariant_name (s : ConditionStatus) :
    Yaml.readVariant ConditionStatus.all ConditionStatus.name (.str s.name) = .ok s := by
  cases s <;> rfl

@[simp] theorem ConditionReason.readVariant_name (r : ConditionReason) :
    Yaml.readVariant ConditionReason.all ConditionReason.name (.str r.name) = .ok r := by
  cases r <;> rfl

theorem Yaml.readSeq_map {α : Type} {read : Yaml → Decoded α} {enc : α → Json} {as : List α}
    (each : ∀ a ∈ as, read (enc a).toYaml = .ok a) :
    Yaml.readSeq read (Json.arr (as.map enc)).toYaml = .ok as := by
  simp only [Json.toYaml, Yaml.readSeq, Json.itemsToYaml_eq, List.map_map]
  -- The position only places errors, so the induction runs from any start.
  generalize 0 = i
  induction as generalizing i with
  | nil => rfl
  | cons a rest ih =>
    have restOk := ih (fun b mem => each b (List.mem_cons_of_mem _ mem)) (i + 1)
    simp [Yaml.readItemsFrom, each a List.mem_cons_self, restOk, bind, Except.bind, pure, Except.pure,
      Decoded.inPart, Except.mapError]

namespace Condition

theorem toJson_eq (c : Condition) :
    c.toJson = .obj ((c.lastTransitionTime.map fun t => ("lastTransitionTime", Json.str t)).toList ++
      (if c.message.isEmpty then [] else [("message", .str c.message)]) ++
      (c.reason.map fun r => ("reason", Json.str r.name)).toList ++
      [("status", .str c.status.name), ("type", .str c.type.name)]) := by
  obtain ⟨type, status, reason, message, time⟩ := c
  -- Each optional field is written or left out; the keys already ascend.
  cases reason <;> cases time <;> by_cases h : message.isEmpty <;>
    simp only [Condition.toJson, h, if_true, if_false, Option.map, Option.getD, Option.toList,
      List.nil_append, List.append_nil, List.cons_append, Bool.false_eq_true] <;> rfl

theorem decode_toJson (c : Condition) : decode c.toJson.toYaml = .ok c := by
  rw [toJson_eq]
  obtain ⟨type, status, reason, message, time⟩ := c
  -- Each present field reads back, and an absent one reads as its default.
  cases reason <;> cases time <;> by_cases h : message.isEmpty <;>
    simp [h, decode, Json.toYaml, Json.fieldsToYaml, Yaml.readEntries, Yaml.fieldName,
      Yaml.readOption, Yaml.readString, bind, Except.bind, pure, Except.pure, Except.map] <;>
    -- An empty message is left out and read back as the empty text.
    exact String.isEmpty_iff.mp h

end Condition

theorem ResourceKey.decode_toJson (k : ResourceKey) : ResourceKey.decode k.toJson.toYaml = .ok k := by
  -- The keys of a resource key are written in order.
  have sorted : k.toJson = .obj [("group", .str k.group), ("kind", .str k.kind), ("name", .str k.name),
      ("namespace", .str k.ns), ("version", .str k.version)] := rfl
  rw [sorted]
  simp [ResourceKey.decode, Json.toYaml, Json.fieldsToYaml, Yaml.readEntries, Yaml.fieldName,
      Yaml.readString, bind, Except.bind, pure, Except.pure, Decoded.inPart, Except.mapError]

/-- A generation as a signed 64-bit integer holds it. -/
def StatusType.Fits (s : StatusType) : Prop :=
  -(2 ^ 63 : Int) ≤ s.observedGeneration ∧ s.observedGeneration < 2 ^ 63

theorem StatusType.readI64_generation {s : StatusType} (fits : s.Fits) :
    Yaml.readI64 (Json.int s.observedGeneration).toYaml = .ok s.observedGeneration := by
  -- The bound on the generation is the one the reader checks.
  have below : s.observedGeneration < 9223372036854775808 := fits.2
  simp [Yaml.readI64, Json.int, Json.toYaml, below]

theorem StatusType.conditions_readBack (s : StatusType) :
    Yaml.readSeq Condition.decode (Json.arr (s.conditions.map Condition.toJson)).toYaml = .ok s.conditions :=
  Yaml.readSeq_map fun c _ => Condition.decode_toJson c

theorem ResourceStatus.toJson_eq (r : ResourceStatus) :
    r.toJson = .obj ((if r.status.conditions.isEmpty then [] else
      [("conditions", .arr (r.status.conditions.map Condition.toJson))]) ++
      [("observedGeneration", Json.int r.status.observedGeneration), ("resource", r.resource.toJson)]) := by
  obtain ⟨resource, ⟨g, conds⟩⟩ := r
  -- Empty conditions are left out of the object.
  by_cases h : conds.isEmpty <;>
    simp only [ResourceStatus.toJson, StatusType.fields, h, if_true, if_false, List.nil_append,
      List.append_nil, List.cons_append, Bool.false_eq_true] <;> rfl

theorem ResourceStatus.decode_toJson (r : ResourceStatus) (fits : r.status.Fits) :
    ResourceStatus.decode r.toJson.toYaml = .ok r := by
  rw [ResourceStatus.toJson_eq]
  obtain ⟨resource, ⟨g, conds⟩⟩ := r
  -- The generation, the conditions and the key each read back on their own.
  have gen := StatusType.readI64_generation fits
  have cs := StatusType.conditions_readBack ⟨g, conds⟩
  simp only [Json.toYaml] at gen cs
  -- Without conditions the reader falls back to the empty list.
  by_cases h : conds.isEmpty
  · have empty : conds = [] := List.isEmpty_iff.mp h
    subst empty
    simp [ResourceStatus.decode, Yaml.namedEntries, Json.toYaml, Json.fieldsToYaml, Yaml.readEntries, Yaml.fieldName,
      bind, Except.bind, pure, Except.pure, Decoded.inPart, Except.mapError, ResourceKey.decode_toJson,
      StatusType.ofEntries, Decoded.buffered, gen]
  · simp [h, ResourceStatus.decode, Yaml.namedEntries, Json.toYaml, Json.fieldsToYaml, Yaml.readEntries, Yaml.fieldName,
      bind, Except.bind, pure, Except.pure, Decoded.inPart, Except.mapError, ResourceKey.decode_toJson,
      StatusType.ofEntries, Decoded.buffered, gen, cs]

def ComponentStatus.Fits (c : ComponentStatus) : Prop := c.status.Fits ∧ ∀ r ∈ c.resources, r.status.Fits

def ControlPlaneStatus.Fits (s : ControlPlaneStatus) : Prop :=
  s.status.Fits ∧ ∀ c ∈ s.componentStatus, c.Fits

theorem ComponentStatus.toJson_eq (c : ComponentStatus) :
    c.toJson = .obj ((if c.status.conditions.isEmpty then [] else
      [("conditions", .arr (c.status.conditions.map Condition.toJson))]) ++
      [("observedGeneration", Json.int c.status.observedGeneration), ("resource", .str c.resource)] ++
      (if c.resources.isEmpty then [] else [("resources", .arr (c.resources.map ResourceStatus.toJson))])) := by
  obtain ⟨resource, ⟨g, conds⟩, resources⟩ := c
  -- Conditions and resources are each left out when empty.
  by_cases h : conds.isEmpty <;> by_cases h' : resources.isEmpty <;>
    simp only [ComponentStatus.toJson, StatusType.fields, h, h', if_true, if_false, List.nil_append,
      List.append_nil, List.cons_append, Bool.false_eq_true] <;> rfl

theorem ComponentStatus.decode_toJson (c : ComponentStatus) (fits : c.Fits) :
    ComponentStatus.decode c.toJson.toYaml = .ok c := by
  rw [ComponentStatus.toJson_eq]
  obtain ⟨resource, ⟨g, conds⟩, resources⟩ := c
  have gen := StatusType.readI64_generation fits.1
  have cs := StatusType.conditions_readBack ⟨g, conds⟩
  -- Each resource reads back because its generation fits.
  have rs : Yaml.readSeq ResourceStatus.decode (Json.arr (resources.map ResourceStatus.toJson)).toYaml = .ok resources :=
    Yaml.readSeq_map fun r mem => ResourceStatus.decode_toJson r (fits.2 r mem)
  simp only [Json.toYaml] at gen cs rs
  -- Absent conditions or resources read back as empty lists.
  by_cases h : conds = [] <;> by_cases h' : resources = [] <;>
    simp [h, h', ComponentStatus.decode, Yaml.namedEntries, Json.toYaml, Json.fieldsToYaml, Yaml.readEntries,
      Yaml.fieldName, bind, Except.bind, pure, Except.pure, Decoded.inPart, Except.mapError,
      StatusType.ofEntries, Decoded.buffered, Yaml.readString, gen, cs, rs]

theorem ControlPlaneStatus.toJson_eq (s : ControlPlaneStatus) :
    s.toJson = .obj ([("componentStatus", .arr (s.componentStatus.map ComponentStatus.toJson))] ++
      (if s.status.conditions.isEmpty then [] else
        [("conditions", .arr (s.status.conditions.map Condition.toJson))]) ++
      [("observedGeneration", Json.int s.status.observedGeneration)]) := by
  obtain ⟨⟨g, conds⟩, components⟩ := s
  by_cases h : conds.isEmpty <;>
    simp only [ControlPlaneStatus.toJson, StatusType.fields, h, if_true, if_false, List.nil_append,
      List.append_nil, List.cons_append, Bool.false_eq_true] <;> rfl

theorem ControlPlaneStatus.decode_toJson (s : ControlPlaneStatus) (fits : s.Fits) :
    ControlPlaneStatus.decode s.toJson.toYaml = .ok s := by
  rw [ControlPlaneStatus.toJson_eq]
  obtain ⟨⟨g, conds⟩, components⟩ := s
  have gen := StatusType.readI64_generation fits.1
  have cs := StatusType.conditions_readBack ⟨g, conds⟩
  -- Each component reads back because its generations fit.
  have each : Yaml.readSeq ComponentStatus.decode (Json.arr (components.map ComponentStatus.toJson)).toYaml =
      .ok components :=
    Yaml.readSeq_map fun c mem => ComponentStatus.decode_toJson c (fits.2 c mem)
  simp only [Json.toYaml] at gen cs each
  by_cases h : conds = [] <;>
    simp [h, ControlPlaneStatus.decode, Yaml.namedEntries, Json.toYaml, Json.fieldsToYaml, Yaml.readEntries,
      Yaml.fieldName, bind, Except.bind, pure, Except.pure, Decoded.inPart, Except.mapError,
      StatusType.ofEntries, Decoded.buffered, gen, cs, each]

/-! The JSON of a status is canonical. -/

/-- Fields whose keys ascend are sorted, whatever their values. -/
theorem Fields.sorted_of_keys {fs : Fields} (keys : fs.keys.Pairwise (· < ·)) : fs.Sorted :=
  List.pairwise_map.mp keys

theorem Condition.canonical_toJson (c : Condition) : c.toJson.Canonical := by
  rw [Condition.toJson_eq, Json.canonical_obj]
  obtain ⟨type, status, reason, message, time⟩ := c
  -- Whatever fields are present, their keys ascend and their values are strings.
  cases reason <;> cases time <;> by_cases h : message.isEmpty <;>
    simp only [h, if_true, if_false, Bool.false_eq_true, Option.map, Option.toList, List.nil_append,
      List.cons_append, List.append_nil] <;>
    exact ⟨Fields.sorted_of_keys (by simp only [Fields.keys, List.map]; decide), by simp⟩

theorem ResourceKey.canonical_toJson (k : ResourceKey) : k.toJson.Canonical := by
  have sorted : k.toJson = .obj [("group", .str k.group), ("kind", .str k.kind), ("name", .str k.name),
      ("namespace", .str k.ns), ("version", .str k.version)] := rfl
  rw [sorted, Json.canonical_obj]
  exact ⟨Fields.sorted_of_keys (by simp only [Fields.keys, List.map]; decide), by simp⟩

theorem StatusType.canonical_conditions (s : StatusType) :
    (Json.arr (s.conditions.map Condition.toJson)).Canonical := by
  simpa using fun c _ => c.canonical_toJson

theorem ResourceStatus.canonical_toJson (r : ResourceStatus) : r.toJson.Canonical := by
  rw [ResourceStatus.toJson_eq, Json.canonical_obj]
  have conditions := r.status.canonical_conditions
  have key := r.resource.canonical_toJson
  -- The keys ascend whether or not the conditions are written.
  by_cases h : r.status.conditions.isEmpty <;>
    simp only [h, if_true, if_false, Bool.false_eq_true, List.nil_append, List.cons_append] <;>
    exact ⟨Fields.sorted_of_keys (by simp only [Fields.keys, List.map]; decide),
      by simp [Json.int, Number.Finite, conditions, key]⟩

theorem ComponentStatus.canonical_toJson (c : ComponentStatus) : c.toJson.Canonical := by
  rw [ComponentStatus.toJson_eq, Json.canonical_obj]
  have conditions := c.status.canonical_conditions
  have resources : (Json.arr (c.resources.map ResourceStatus.toJson)).Canonical := by
    simpa using fun r _ => r.canonical_toJson
  -- Likewise with the resources, which follow the resource name.
  by_cases h : c.status.conditions.isEmpty <;> by_cases h' : c.resources.isEmpty <;>
    simp only [h, h', if_true, if_false, Bool.false_eq_true, List.nil_append, List.cons_append,
      List.append_nil] <;>
    exact ⟨Fields.sorted_of_keys (by simp only [Fields.keys, List.map]; decide),
      by simp [Json.int, Number.Finite, conditions, resources]⟩

theorem ControlPlaneStatus.canonical_toJson (s : ControlPlaneStatus) : s.toJson.Canonical := by
  rw [ControlPlaneStatus.toJson_eq, Json.canonical_obj]
  have conditions := s.status.canonical_conditions
  have components : (Json.arr (s.componentStatus.map ComponentStatus.toJson)).Canonical := by
    simpa using fun c _ => c.canonical_toJson
  -- The component statuses come first, then the conditions.
  by_cases h : s.status.conditions.isEmpty <;>
    simp only [h, if_true, if_false, Bool.false_eq_true, List.nil_append, List.cons_append,
      List.append_nil] <;>
    exact ⟨Fields.sorted_of_keys (by simp only [Fields.keys, List.map]; decide),
      by simp [Json.int, Number.Finite, conditions, components]⟩

end MeshControl
