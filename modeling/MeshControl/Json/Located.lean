import MeshControl.Json.Parse
import MeshControl.Decode

/-!
Where the values of a JSON text lie, for placing the errors of reading a typed record out of
it. A text that reads as JSON is read once more, in the order written and keeping repeated
keys, into a value and a span per value. The parts an error passed through
(`DecodeError.trail`) lead to the span where it arose, and the place reported is the one a
reader streaming through the text has reached there: just past a scalar it read, at the
bracket of a sequence or mapping it refused on sight, at the first item of a sequence it
stepped into before refusing it, and past the closing bracket of a record it finished.
-/

namespace MeshControl

/-- Where a value lies in a text, by byte offsets. -/
inductive Span where
  /-- A scalar, from its first byte to the offset just past it. -/
  | scalar (start stop : Nat)
  /-- A sequence or mapping, from its opening bracket to the offset just past its closing
  one, with the spans of its parts in the order written (a mapping's keys and values in
  turn). -/
  | nest (start stop : Nat) (parts : List Span)
  deriving Inhabited

namespace Span

/-- The offset of the first byte. -/
def start : Span → Nat
  | .scalar a _ => a
  | .nest a _ _ => a

/-- The span of a part, by the parts leading to it. -/
def find (s : Span) : List Nat → Option Span
  | [] => some s
  | p :: rest =>
    match s with
    | .scalar _ _ => none
    | .nest _ _ parts =>
      match parts[p]? with
      | some part => part.find rest
      | none => none

/-- The offset just past the value. -/
def stop : Span → Nat
  | .scalar _ b => b
  | .nest _ b _ => b

/-- The offset a streaming reader of `bytes` has reached when it raises `e` at the value
lying here: past a scalar it read or a record it finished, at the first byte of a value it
refused on sight, at the first item of a sequence it stepped into, and after an entry just
read at the next byte that is not blank, or past it when it closes the record. -/
def reached (bytes : Array UInt8) (s : Span) (e : DecodeError) : Nat :=
  match e with
  | .onSight _ => s.start
  | .between _ =>
    let next := JsonText.skipBlanks bytes s.stop
    if bytes[next]? == some 125 then next + 1 else next
  | _ =>
    match s with
    | .scalar _ stop => stop
    | .nest start stop parts =>
      match e with
      | .invalidType _ _ => start
      | .refusedSeq _ =>
        match parts with
        | first :: _ => first.start
        | [] => stop
      | _ => stop

end Span

namespace JsonText

mutual
/-- Reads one value of a valid text at an offset (blanks first), with its span and the
offset after it; `fuel` bounds the work by the length of the text. -/
def locValue (bytes : Bytes) : Nat → Nat → Option (Yaml × Span × Nat)
  | 0, _ => none
  | fuel + 1, i =>
    let i := skipBlanks bytes i
    let leaf (v : Yaml) (j : Nat) : Option (Yaml × Span × Nat) := some (v, .scalar i j, j)
    match bytes[i]? with
    | none => none
    | some b =>
      if b == 110 then (keyword bytes [117, 108, 108] (i + 1)).toOption.bind (leaf .null)
      else if b == 116 then (keyword bytes [114, 117, 101] (i + 1)).toOption.bind (leaf (.bool true))
      else if b == 102 then
        (keyword bytes [97, 108, 115, 101] (i + 1)).toOption.bind (leaf (.bool false))
      else if b == 45 then (number bytes true (i + 1)).toOption.bind fun (n, j) => leaf (.num n) j
      else if isDigit b then (number bytes false i).toOption.bind fun (n, j) => leaf (.num n) j
      else if b == 34 then (stringBody bytes (i + 1)).toOption.bind fun (s, j) => leaf (.str s) j
      else if b == 91 then
        (locItems bytes fuel (i + 1) []).map fun (xs, j) =>
          (.seq (xs.map (·.1)), .nest i j (xs.map (·.2)), j)
      else if b == 123 then
        (locMembers bytes fuel (i + 1) []).map fun (es, j) =>
          (.map (es.map fun (k, _, v, _) => (k, v)),
            .nest i j (es.flatMap fun (_, ks, _, vs) => [ks, vs]), j)
      else none

/-- Reads the items of a valid array up to its closing bracket. -/
def locItems (bytes : Bytes) : Nat → Nat → List (Yaml × Span) → Option (List (Yaml × Span) × Nat)
  | 0, _, _ => none
  | fuel + 1, i, acc =>
    let i := skipBlanks bytes i
    match bytes[i]? with
    | none => none
    | some 93 => some (acc.reverse, i + 1)
    | some 44 => locItems bytes fuel (i + 1) acc
    | some _ =>
      match locValue bytes fuel i with
      | some (v, s, j) => locItems bytes fuel j ((v, s) :: acc)
      | none => none

/-- Reads the members of a valid object up to its closing brace: each key and value with
their spans. -/
def locMembers (bytes : Bytes) : Nat → Nat → List (Yaml × Span × Yaml × Span) →
    Option (List (Yaml × Span × Yaml × Span) × Nat)
  | 0, _, _ => none
  | fuel + 1, i, acc =>
    let i := skipBlanks bytes i
    match bytes[i]? with
    | none => none
    | some 125 => some (acc.reverse, i + 1)
    | some 44 => locMembers bytes fuel (i + 1) acc
    | some 34 =>
      match stringBody bytes (i + 1) with
      | .error _ => none
      | .ok (key, j) =>
        let colon := skipBlanks bytes j
        match locValue bytes fuel (colon + 1) with
        | some (v, s, k) => locMembers bytes fuel k ((.str key, .scalar i j, v, s) :: acc)
        | none => none
    | some _ => none
end

end JsonText

/-- A JSON text read in the order written, keeping repeated keys, with the span of every
value; none when the text is not JSON. -/
def Json.locate (text : String) : Option (Yaml × Span) :=
  let bytes := text.toUTF8.data
  (JsonText.locValue bytes (2 * bytes.size + 4) 0).map fun (v, s, _) => (v, s)

/-- Reads a typed record out of a JSON text the way a streaming reader does: a text that is
not JSON fails with the reading error, and an error of the record names the line and column
reached where it arose. -/
def Json.readTyped (read : Yaml → Decoded α) (text : String) : Except String α :=
  match Json.parse text with
  | .error e => .error e.message
  | .ok _ =>
    match Json.locate text with
    | none => .error "unreadable text"
    | some (v, span) =>
      match read v with
      | .ok a => .ok a
      | .error e =>
        let bytes := text.toUTF8.data
        let offset := ((span.find e.trail).map (·.reached bytes e.here)).getD 0
        let (line, column) := JsonText.place bytes (min bytes.size (offset + 1))
        .error (e.render .json ++ " at line " ++ toString line ++ " column " ++ toString column)

end MeshControl
