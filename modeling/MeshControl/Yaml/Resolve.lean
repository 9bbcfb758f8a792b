import MeshControl.Decode
import MeshControl.Json.Parse
import MeshControl.Yaml.Scan

/-!
What a scalar means. A plain scalar is null (`~`, `null`, empty), a boolean (`true`, `false`
in three spellings), an integer (decimal, `0x`, `0o`, `0b`, optionally signed), a double
(including `.inf` and `.nan`) or else text; digits with a leading zero stay text. Quoted and
block scalars are text. The core tags `!!bool`, `!!int`, `!!float` and `!!null` demand their
type; integers beyond 64 bits are refused.
-/

namespace MeshControl.YamlScalar

/-- The texts of null. -/
def isNullText (t : String) : Bool := t == "null" || t == "Null" || t == "NULL" || t == "~"

/-- The boolean a text spells, if any. -/
def boolOf? (t : String) : Option Bool :=
  if t == "true" || t == "True" || t == "TRUE" then some true
  else if t == "false" || t == "False" || t == "FALSE" then some false
  else none

/-- The characters after one leading sign. -/
def unsigned (cs : List Char) : List Char :=
  match cs with
  | '-' :: rest => rest
  | '+' :: rest => rest
  | _ => cs

/-- Whether a text is a zero followed by more digits (after an optional sign): text, not a
number. -/
def digitsButNotNumber (t : String) : Bool :=
  match unsigned t.toList with
  | '0' :: rest => !rest.isEmpty && rest.all Char.isDigit
  | _ => false

/-- The value of a non-empty run of digits in a radix. -/
def digitsIn (radix : Nat) (cs : List Char) : Option Nat :=
  if cs.isEmpty then none
  else cs.foldl (fun acc c => acc.bind fun v =>
    let d := if c.isDigit then c.toNat - 48
      else if 'a' ≤ c && c ≤ 'z' then c.toNat - 87
      else if 'A' ≤ c && c ≤ 'Z' then c.toNat - 55
      else radix
    if d < radix then some (v * radix + d) else none) (some 0)

/-- Reads an integer in a radix after an optional sign; a minus only when `signed`. -/
def radixValue (radix : Nat) (signed : Bool) (cs : List Char) : Option Int :=
  match cs with
  | '+' :: rest => (digitsIn radix rest).map Int.ofNat
  | '-' :: rest => if signed then (digitsIn radix rest).map (fun n => -(n : Int)) else none
  | _ => (digitsIn radix cs).map Int.ofNat

/-- The radix of a `0x`, `0o` or `0b` prefix and the digits after it. -/
def radixPrefix (cs : List Char) : Option (Nat × List Char) :=
  match cs with
  | '0' :: 'x' :: rest => some (16, rest)
  | '0' :: 'o' :: rest => some (8, rest)
  | '0' :: 'b' :: rest => some (2, rest)
  | _ => none

/-- Whether a list starts with a sign. -/
def signed (cs : List Char) : Bool := cs.head? == some '+' || cs.head? == some '-'

/-- Reads a non-negative integer: an optional `+`, then a radix prefix and digits, or
decimal digits without a leading zero. -/
def unsignedValue (t : String) : Option Int :=
  let cs := t.toList
  let (plus, body) := match cs with
    | '+' :: rest => (true, rest)
    | _ => (false, cs)
  if plus && signed body then none
  else
    let decimal : Option Int :=
      if signed body || digitsButNotNumber t then none else radixValue 10 false body
    match radixPrefix body with
    | some (radix, rest) =>
      if signed rest then none
      else match radixValue radix false rest with
        | some v => some v
        | none => decimal
    | none => decimal

/-- Reads an integer that may be negative: `-0x`, `-0o` or `-0b` with digits, or signed
decimal digits without a leading zero. -/
def signedValue (t : String) : Option Int :=
  let cs := t.toList
  let prefixed : Option Int := match cs with
    | '-' :: rest =>
      match radixPrefix rest with
      | some (radix, digits) => radixValue radix true ('-' :: digits)
      | none => none
    | _ => none
  match prefixed with
  | some v => some v
  | none => if digitsButNotNumber t then none else radixValue 10 true cs

/-- The integer a text spells, tried as a 64-bit unsigned, a 64-bit signed, a 128-bit
unsigned and a 128-bit signed number in turn: within 64 bits a value, within 128 bits a
refusal (such integers are not values), beyond that nothing. -/
def intOf? (t : String) : Option (Except DecodeError Int) :=
  let u := unsignedValue t
  let i := signedValue t
  let refuse (v : Int) (kind : String) : Except DecodeError Int :=
    .error (.invalidType (.other ("integer `" ++ toString v ++ "` as " ++ kind)) "any YAML value")
  match u.filter (· < Int.pow 2 64), i.filter (fun v => -Int.pow 2 63 ≤ v && v < Int.pow 2 63),
      u.filter (· < Int.pow 2 128), i.filter (fun v => -Int.pow 2 127 ≤ v && v < Int.pow 2 127) with
  | some v, _, _, _ => some (.ok v)
  | none, some v, _, _ => some (.ok v)
  | none, none, some v, _ => some (refuse v "u128")
  | none, none, none, some v => some (refuse v "i128")
  | none, none, none, none => none

/-- Reads a decimal number: digits with an optional point and fraction (or a point and a
fraction), then an optional exponent, after an optional sign. -/
def decimalValue (cs : List Char) : Option Float :=
  let (negative, body) := match cs with
    | '-' :: rest => (true, rest)
    | '+' :: rest => (false, rest)
    | _ => (false, cs)
  let whole := body.takeWhile Char.isDigit
  let afterWhole := body.dropWhile Char.isDigit
  let (fracDigits, afterFrac) := match afterWhole with
    | '.' :: rest => (rest.takeWhile Char.isDigit, rest.dropWhile Char.isDigit)
    | _ => ([], afterWhole)
  if whole.isEmpty && fracDigits.isEmpty then none
  else
    let expo : Option Int := match afterFrac with
      | [] => some 0
      | e :: rest =>
        if e != 'e' && e != 'E' then none
        else radixValue 10 true rest
    match expo, digitsIn 10 (whole ++ fracDigits) with
    | some x, some m => some (JsonText.floatOf negative m (x - fracDigits.length))
    | _, _ => none

/-- The double a text spells: `.inf`, `-.inf`, `.nan` in three spellings, or a finite
decimal number. -/
def floatOf? (t : String) : Option Float :=
  let cs := t.toList
  let (plus, body) := match cs with
    | '+' :: rest => (true, rest)
    | _ => (false, cs)
  let bodyText := String.ofList body
  if plus && signed body then none
  else if bodyText == ".inf" || bodyText == ".Inf" || bodyText == ".INF" then some (1.0 / 0.0)
  else if t == "-.inf" || t == "-.Inf" || t == "-.INF" then some (-1.0 / 0.0)
  else if t == ".nan" || t == ".NaN" || t == ".NAN" then some (0.0 / 0.0)
  else match decimalValue body with
    | some f => if f.isFinite then some f else none
    | none => none

/-- The value of an untagged plain scalar. -/
def plainValue (t : String) : Except DecodeError Yaml :=
  if t.isEmpty || isNullText t then .ok .null
  else match boolOf? t with
    | some b => .ok (.bool b)
    | none =>
      match intOf? t with
      | some (.ok i) => .ok (.num (.int i))
      | some (.error e) => .error e
      | none =>
        match (if digitsButNotNumber t then none else floatOf? t) with
        | some f => .ok (.num (.float f))
        | none => .ok (.str t)

/-- The value of a scalar from its tag (unless the tag was already taken by a tagged value),
text and style. -/
def scalarValue (tag : Option String) (tagTaken : Bool) (t : String)
    (style : YamlSyntax.ScalarStyle) : Except DecodeError Yaml :=
  let refuse (what : String) : Except DecodeError Yaml := .error (.invalidValue (.str t) what)
  match tag, tagTaken with
  | some tg, false =>
    if tg == "tag:yaml.org,2002:bool" then
      match boolOf? t with
      | some b => .ok (.bool b)
      | none => refuse "a boolean"
    else if tg == "tag:yaml.org,2002:int" then
      match intOf? t with
      | some (.ok i) => .ok (.num (.int i))
      | some (.error e) => .error e
      | none => refuse "an integer"
    else if tg == "tag:yaml.org,2002:float" then
      match floatOf? t with
      | some f => .ok (.num (.float f))
      | none => refuse "a float"
    else if tg == "tag:yaml.org,2002:null" then
      if isNullText t then .ok .null else refuse "null"
    else if tg.startsWith "!" && style == .plain then plainValue t
    else .ok (.str t)
  | _, _ => if style == .plain then plainValue t else .ok (.str t)

end MeshControl.YamlScalar
