/-!
JSON values as the cluster exchanges them. Objects keep their fields sorted by key with no
key twice, so a value has one written form; numbers are integers of the 64-bit range or
finite doubles, and the two never compare equal.
-/

namespace MeshControl

/-- A JSON number: an integer in the range of signed or unsigned 64-bit words, or a finite
double. -/
inductive Number where
  | int (value : Int)
  | float (value : Float)

namespace Number

/-- Integers compare as integers and doubles as doubles; an integer never equals a double. -/
def beq : Number → Number → Bool
  | .int a, .int b => a == b
  | .float a, .float b => a == b
  | _, _ => false

instance : BEq Number := ⟨beq⟩

end Number

/-- A JSON value. The fields of an object are sorted by key, each key at most once. -/
inductive Json where
  | null
  | bool (value : Bool)
  | num (value : Number)
  | str (value : String)
  | arr (items : List Json)
  | obj (fields : List (String × Json))
  deriving Inhabited

/-- The fields of a JSON object, sorted by key. -/
abbrev Fields := List (String × Json)

namespace Fields

/-- The value stored under a key. -/
def get? : Fields → String → Option Json
  | [], _ => none
  | (k, v) :: rest, key => if k == key then some v else get? rest key

/-- Whether a key is present. -/
def contains (fields : Fields) (key : String) : Bool := (Fields.get? fields key).isSome

/-- Stores a value under a key: an existing entry is replaced in place, a new one goes where
its key sorts. -/
def insert : Fields → String → Json → Fields
  | [], key, value => [(key, value)]
  | (k, v) :: rest, key, value =>
    if key < k then (key, value) :: (k, v) :: rest
    else if key == k then (key, value) :: rest
    else (k, v) :: insert rest key value

/-- Drops the entry of a key. -/
def erase : Fields → String → Fields
  | [], _ => []
  | (k, v) :: rest, key => if k == key then rest else (k, v) :: erase rest key

/-- The keys in order. -/
def keys (fields : Fields) : List String := fields.map (·.1)

/-- Builds sorted fields from pairs in any order; of two pairs with one key the later wins. -/
def ofList (pairs : List (String × Json)) : Fields :=
  pairs.foldl (fun acc (k, v) => Fields.insert acc k v) []

end Fields

namespace Json

mutual
/-- Structural equality of values, with numbers compared as numbers. -/
def beq : Json → Json → Bool
  | .null, .null => true
  | .bool a, .bool b => a == b
  | .num a, .num b => a.beq b
  | .str a, .str b => a == b
  | .arr xs, .arr ys => beqItems xs ys
  | .obj xs, .obj ys => beqFields xs ys
  | _, _ => false

/-- Element-wise equality of two arrays. -/
def beqItems : List Json → List Json → Bool
  | [], [] => true
  | x :: xs, y :: ys => beq x y && beqItems xs ys
  | _, _ => false

/-- Entry-wise equality of two field lists. -/
def beqFields : List (String × Json) → List (String × Json) → Bool
  | [], [] => true
  | (k, x) :: xs, (l, y) :: ys => k == l && beq x y && beqFields xs ys
  | _, _ => false
end

instance : BEq Json := ⟨beq⟩

mutual
/-- The nesting depth: scalars have depth zero, arrays and objects one more than their
deepest member. -/
def depth : Json → Nat
  | .arr items => depthItems items + 1
  | .obj fields => depthFields fields + 1
  | _ => 0

/-- The greatest depth of array items. -/
def depthItems : List Json → Nat
  | [] => 0
  | x :: rest => max (depth x) (depthItems rest)

/-- The greatest depth of field values. -/
def depthFields : List (String × Json) → Nat
  | [] => 0
  | (_, x) :: rest => max (depth x) (depthFields rest)
end

/-- An integer value. -/
def int (i : Int) : Json := .num (.int i)

/-- An object built from pairs in any order. -/
def mkObj (pairs : List (String × Json)) : Json := .obj (Fields.ofList pairs)

/-- The empty object. -/
def empty : Json := .obj []

/-- The field of an object, if this is an object holding it. -/
def get? : Json → String → Option Json
  | .obj fields, key => Fields.get? fields key
  | _, _ => none

/-- The fields of an object, if this is one. -/
def fields? : Json → Option Fields
  | .obj fields => some fields
  | _ => none

/-- The items of an array, if this is one. -/
def items? : Json → Option (List Json)
  | .arr items => some items
  | _ => none

/-- The text of a string, if this is one. -/
def str? : Json → Option String
  | .str s => some s
  | _ => none

/-- The flag of a boolean, if this is one. -/
def bool? : Json → Option Bool
  | .bool b => some b
  | _ => none

/-- The integer of a number written without fraction, if this is one. -/
def int? : Json → Option Int
  | .num (.int i) => some i
  | _ => none

/-- Whether this is null. -/
def isNull : Json → Bool
  | .null => true
  | _ => false

/-- Whether this is an object. -/
def isObj : Json → Bool
  | .obj _ => true
  | _ => false

/-- Whether this is an array. -/
def isArr : Json → Bool
  | .arr _ => true
  | _ => false

/-- Stores a field in an object; a value that is no object is left as it is. -/
def set (j : Json) (key : String) (value : Json) : Json :=
  match j with
  | .obj fields => .obj (Fields.insert fields key value)
  | other => other

/-- Drops a field of an object; a value that is no object is left as it is. -/
def erase (j : Json) (key : String) : Json :=
  match j with
  | .obj fields => .obj (Fields.erase fields key)
  | other => other

end Json

end MeshControl
