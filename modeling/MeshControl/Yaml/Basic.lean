import MeshControl.Json.Basic

/-!
YAML values: JSON's values plus mappings whose keys may be any value, kept in document
order, tagged values, and doubles that may be infinite or not a number. Every JSON value is
one (`Json.toYaml`), with its fields in key order, so one reader of typed records serves both.
-/

namespace MeshControl

/-- A YAML value. Mapping entries stay in the order they were written. -/
inductive Yaml where
  | null
  | bool (value : Bool)
  | num (value : Number)
  | str (value : String)
  | seq (items : List Yaml)
  | map (entries : List (Yaml × Yaml))
  | tagged (tag : String) (value : Yaml)
  deriving Inhabited

namespace Json

mutual
/-- The YAML value of a JSON value: objects become mappings with string keys. -/
def toYaml : Json → Yaml
  | .null => .null
  | .bool b => .bool b
  | .num n => .num n
  | .str s => .str s
  | .arr items => .seq (itemsToYaml items)
  | .obj fields => .map (fieldsToYaml fields)

/-- The YAML values of array items. -/
def itemsToYaml : List Json → List Yaml
  | [] => []
  | x :: rest => toYaml x :: itemsToYaml rest

/-- The mapping entries of object fields. -/
def fieldsToYaml : List (String × Json) → List (Yaml × Yaml)
  | [] => []
  | (k, v) :: rest => (.str k, toYaml v) :: fieldsToYaml rest
end

end Json

namespace Yaml

mutual
/-- Structural equality of YAML values, with numbers compared as numbers. -/
def beq : Yaml → Yaml → Bool
  | .null, .null => true
  | .bool a, .bool b => a == b
  | .num a, .num b => a.beq b
  | .str a, .str b => a == b
  | .seq xs, .seq ys => beqItems xs ys
  | .map xs, .map ys => beqEntries xs ys
  | .tagged t x, .tagged u y => t == u && beq x y
  | _, _ => false

/-- Element-wise equality of sequences. -/
def beqItems : List Yaml → List Yaml → Bool
  | [], [] => true
  | x :: xs, y :: ys => beq x y && beqItems xs ys
  | _, _ => false

/-- Entry-wise equality of mappings. -/
def beqEntries : List (Yaml × Yaml) → List (Yaml × Yaml) → Bool
  | [], [] => true
  | (k, x) :: xs, (l, y) :: ys => beq k l && beq x y && beqEntries xs ys
  | _, _ => false
end

instance : BEq Yaml := ⟨beq⟩

mutual
/-- Whether a value holds no tagged value anywhere. -/
def tagFree : Yaml → Bool
  | .seq items => tagFreeItems items
  | .map entries => tagFreeEntries entries
  | .tagged _ _ => false
  | _ => true

/-- Whether no item of a sequence holds a tagged value. -/
def tagFreeItems : List Yaml → Bool
  | [] => true
  | x :: rest => tagFree x && tagFreeItems rest

/-- Whether no key or value of a mapping holds a tagged value. -/
def tagFreeEntries : List (Yaml × Yaml) → Bool
  | [] => true
  | (k, x) :: rest => tagFree k && tagFree x && tagFreeEntries rest
end

/-- The value under a string key of a mapping. -/
def lookup? : Yaml → String → Option Yaml
  | .map entries, key => (entries.find? (fun (k, _) => k.beq (.str key))).map (·.2)
  | _, _ => none

/-- The value inside any tags. -/
def untagged : Yaml → Yaml
  | .tagged _ v => v.untagged
  | v => v

end Yaml

end MeshControl
