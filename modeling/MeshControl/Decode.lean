import MeshControl.Yaml.Basic
import MeshControl.Text.Quoted
import MeshControl.Decimal.Shortest

/-!
Reading typed records out of YAML (and so JSON) values. A failure names what was found and
what was expected, a missing field, or an unknown variant; its wording differs slightly
between values read from JSON and from YAML (`null` against `unit value`, and the text of
doubles), which `DecodeError.render` takes as a parameter.
-/

namespace MeshControl

/-- What a reader found where it expected something else. -/
inductive Unexpected where
  | null
  | bool (value : Bool)
  | unsigned (value : Nat)
  | signed (value : Int)
  | float (value : Float)
  | str (value : String)
  | seq
  | map
  | tagged
  /-- Anything else, described in words. -/
  | other (text : String)

/-- The source dialect of a value, which words a reading error. -/
inductive Dialect where
  | json
  | yaml
  deriving DecidableEq

/-- Doubles in YAML diagnostics: always positional, integers with ".0". -/
def Decimal.Style.positional : Decimal.Style := ⟨400, 400, false⟩

/-- The words for an unexpected value. -/
def Unexpected.render (dialect : Dialect) : Unexpected → String
  | .null => if dialect == .json then "null" else "unit value"
  | .bool b => "boolean `" ++ (if b then "true" else "false") ++ "`"
  | .unsigned n => "integer `" ++ toString n ++ "`"
  | .signed i => "integer `" ++ toString i ++ "`"
  | .float f =>
    let text :=
      if f.isNaN then "NaN"
      else if f.isInf then (if f < 0 then "-inf" else "inf")
      else if dialect == .json then Decimal.render Decimal.Style.json f
      else Decimal.render Decimal.Style.positional f
    "floating point `" ++ text ++ "`"
  | .str s => "string " ++ Text.quoted s
  | .seq => "sequence"
  | .map => "map"
  | .tagged => "enum"
  | .other text => text

/-- What kind of value this is, for a reading error. -/
def Yaml.unexpected : Yaml → Unexpected
  | .null => .null
  | .bool b => .bool b
  | .num (.int i) => if i ≥ 0 then .unsigned i.toNat else .signed i
  | .num (.float f) => .float f
  | .str s => .str s
  | .seq _ => .seq
  | .map _ => .map
  | .tagged _ _ => .tagged

/-- Why a value could not be read as a typed record. -/
inductive DecodeError where
  | invalidType (found : Unexpected) (expected : String)
  | invalidValue (found : Unexpected) (expected : String)
  | missingField (field : String)
  | unknownVariant (name : String) (variants : List String)
  | custom (text : String)
  /-- A sequence given to a record reader that has no sequence form: it is refused only
  once the reader has stepped into it. -/
  | refusedSeq (expected : String)
  /-- An error that arose in a part of the value read, numbered in the order written: the
  items of a sequence, and for entry `i` of a mapping its key `2 * i` and its value
  `2 * i + 1`. -/
  | inside (part : Nat) (inner : DecodeError)
  /-- An error of reading a buffered copy of the value, raised once the whole value was
  read. -/
  | buffered (inner : DecodeError)
  /-- An error raised on looking at the first byte of the value, before reading it. -/
  | onSight (inner : DecodeError)
  /-- An error raised by a record reader on the entry it has just read, before it steps to
  the next entry. -/
  | between (inner : DecodeError)

/-- The list of allowed variants: one, two joined by "or", or "one of" a longer list. -/
def oneOf (names : List String) : String :=
  let tick (s : String) := "`" ++ s ++ "`"
  match names with
  | [] => "there are no variants"
  | [a] => tick a
  | [a, b] => tick a ++ " or " ++ tick b
  | _ => "one of " ++ Text.joinWith ", " (names.map tick)

/-- The text of a reading error. -/
def DecodeError.render (dialect : Dialect) : DecodeError → String
  | .invalidType u e => "invalid type: " ++ u.render dialect ++ ", expected " ++ e
  | .invalidValue u e => "invalid value: " ++ u.render dialect ++ ", expected " ++ e
  | .missingField f => "missing field `" ++ f ++ "`"
  | .unknownVariant n vs => "unknown variant `" ++ n ++ "`, expected " ++ oneOf vs
  | .custom t => t
  | .refusedSeq e => "invalid type: sequence, expected " ++ e
  | .inside _ e => e.render dialect
  | .buffered e => e.render dialect
  | .onSight e => e.render dialect
  | .between e => e.render dialect

/-- The parts leading from the value read to the one where the error arose. -/
def DecodeError.trail : DecodeError → List Nat
  | .inside part e => part :: e.trail
  | _ => []

/-- The error at the end of its trail. -/
def DecodeError.here : DecodeError → DecodeError
  | .inside _ e => e.here
  | e => e

/-- The error itself, without its place. -/
def DecodeError.cause : DecodeError → DecodeError
  | .inside _ e => e.cause
  | .buffered e => e.cause
  | .onSight e => e.cause
  | .between e => e.cause
  | e => e

/-- A reading step. -/
abbrev Decoded (α : Type) := Except DecodeError α

/-- Places the errors of reading a part of a value at that part. -/
def Decoded.inPart (part : Nat) (x : Decoded α) : Decoded α := x.mapError (.inside part)

/-- Reads out of a buffered copy of the value: its errors are raised once the whole value was
read, so they can only be placed at the value as a whole. -/
def Decoded.buffered (x : Decoded α) : Decoded α := x.mapError fun e => .buffered e.cause

namespace Yaml

/-- Reads a string. -/
def readString (v : Yaml) : Decoded String :=
  match v with
  | .str s => .ok s
  | other => .error (.invalidType other.unexpected "a string")

/-- Reads a boolean. -/
def readBool (v : Yaml) : Decoded Bool :=
  match v with
  | .bool b => .ok b
  | other => .error (.invalidType other.unexpected "a boolean")

/-- Reads a signed 64-bit integer. -/
def readI64 (v : Yaml) : Decoded Int :=
  match v with
  | .num (.int i) =>
    if i < Int.pow 2 63 then .ok i else .error (.invalidValue (.unsigned i.toNat) "i64")
  | other => .error (.invalidType other.unexpected "i64")

/-- Reads a value that may be null. -/
def readOption (read : Yaml → Decoded α) (v : Yaml) : Decoded (Option α) :=
  match v with
  | .null => .ok none
  | other => (read other).map some

/-- Reads sequence items from position `i` on, in order, stopping at the first that fails. -/
def readItemsFrom (read : Yaml → Decoded α) (i : Nat) : List Yaml → Decoded (List α)
  | [] => .ok []
  | x :: rest => do
    let a ← Decoded.inPart i (read x)
    return a :: (← readItemsFrom read (i + 1) rest)

/-- Reads a sequence item by item. -/
def readSeq (read : Yaml → Decoded α) (v : Yaml) : Decoded (List α) :=
  match v with
  | .seq items => readItemsFrom read 0 items
  | other => .error (.invalidType other.unexpected "a sequence")

/-- Reads the string pairs of mapping entries from position `i` on, the key of each before
its value. -/
def readStringPairsFrom (i : Nat) : List (Yaml × Yaml) → Decoded (List (String × String))
  | [] => .ok []
  | (k, x) :: rest => do
    let key ← Decoded.inPart (2 * i) (readString k)
    let value ← Decoded.inPart (2 * i + 1) (readString x)
    return (key, value) :: (← readStringPairsFrom (i + 1) rest)

/-- Reads a mapping from strings to strings; of two entries with one key the later wins,
and the result is sorted by key. -/
def readStringMap (v : Yaml) : Decoded (List (String × String)) :=
  match v with
  | .map entries => do
    let pairs ← readStringPairsFrom 0 entries
    return pairs.foldl (fun acc (k, x) => insertSorted acc k x) []
  | other => .error (.invalidType other.unexpected "a map")
where
  /-- Stores a pair in a sorted list, replacing the entry of its key. -/
  insertSorted : List (String × String) → String → String → List (String × String)
    | [], k, x => [(k, x)]
    | (k', x') :: rest, k, x =>
      if k < k' then (k, x) :: (k', x') :: rest
      else if k == k' then (k, x) :: rest
      else (k', x') :: insertSorted rest k x

/-- The entries of a mapping read as a record named `name`. -/
def readEntries (name : String) (v : Yaml) : Decoded (List (Yaml × Yaml)) :=
  match v with
  | .map entries => .ok entries
  | other => .error (.invalidType other.unexpected name)

/-- The field name of a record entry's key. -/
def fieldName (k : Yaml) : Decoded String :=
  match k with
  | .str s => .ok s
  | other => .error (.invalidType other.unexpected "field identifier")

/-- The entries of a mapping read as a record named `name` by a reader that steps into a
sequence before refusing it. -/
def readStructEntries (name : String) (v : Yaml) : Decoded (List (Yaml × Yaml)) :=
  match v with
  | .map entries => .ok entries
  | .seq _ => .error (.refusedSeq name)
  | other => .error (.invalidType other.unexpected name)

/-- Reads record entries from position `i` on: each field name and value is folded into
`acc` by `step`, and an error is placed at the key or the value it came from. -/
def foldFieldsFrom (step : σ → String → Yaml → Decoded σ) (i : Nat) :
    List (Yaml × Yaml) → σ → Decoded σ
  | [], acc => .ok acc
  | (k, x) :: rest, acc => do
    let name ← Decoded.inPart (2 * i) (fieldName k)
    let acc ← Decoded.inPart (2 * i + 1) (step acc name x)
    foldFieldsFrom step (i + 1) rest acc

/-- Reads a record entry by entry: each field name and value is folded into `acc` by
`step`, and an error is placed at the key or the value it came from. -/
def foldFields (entries : List (Yaml × Yaml)) (acc : σ) (step : σ → String → Yaml → Decoded σ) :
    Decoded σ :=
  foldFieldsFrom step 0 entries acc

end Yaml

end MeshControl
