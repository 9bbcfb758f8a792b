import MeshControl.Json.Basic

/-!
Reading JSON text into values. Errors name their cause and the line and column where
reading stopped: columns count bytes from the start of the line, and an error found by
looking at the next byte points one past the bytes read. Integers that fit a 64-bit word
stay integers, `-0` and larger integers become doubles; nesting deeper than 127 is refused.
Other numbers become doubles by scaling a 64-bit significand with one rounded power of ten,
which can land one unit away from the nearest double.
-/

namespace MeshControl

/-- Why a JSON text could not be read. -/
inductive JsonErrorCode where
  | eofWhileParsingList
  | eofWhileParsingObject
  | eofWhileParsingString
  | eofWhileParsingValue
  | expectedColon
  | expectedListCommaOrEnd
  | expectedObjectCommaOrEnd
  | expectedSomeIdent
  | expectedSomeValue
  | invalidEscape
  | invalidNumber
  | numberOutOfRange
  | controlCharacterWhileParsingString
  | keyMustBeAString
  | loneLeadingSurrogateInHexEscape
  | trailingComma
  | trailingCharacters
  | unexpectedEndOfHexEscape
  | recursionLimitExceeded
  deriving DecidableEq, Repr

/-- The words for each cause. -/
def JsonErrorCode.message : JsonErrorCode → String
  | .eofWhileParsingList => "EOF while parsing a list"
  | .eofWhileParsingObject => "EOF while parsing an object"
  | .eofWhileParsingString => "EOF while parsing a string"
  | .eofWhileParsingValue => "EOF while parsing a value"
  | .expectedColon => "expected `:`"
  | .expectedListCommaOrEnd => "expected `,` or `]`"
  | .expectedObjectCommaOrEnd => "expected `,` or `\x7d`"
  | .expectedSomeIdent => "expected ident"
  | .expectedSomeValue => "expected value"
  | .invalidEscape => "invalid escape"
  | .invalidNumber => "invalid number"
  | .numberOutOfRange => "number out of range"
  | .controlCharacterWhileParsingString =>
    "control character (\\u0000-\\u001F) found while parsing a string"
  | .keyMustBeAString => "key must be a string"
  | .loneLeadingSurrogateInHexEscape => "lone leading surrogate in hex escape"
  | .trailingComma => "trailing comma"
  | .trailingCharacters => "trailing characters"
  | .unexpectedEndOfHexEscape => "unexpected end of hex escape"
  | .recursionLimitExceeded => "recursion limit exceeded"

/-- A reading error with its place. -/
structure JsonError where
  code : JsonErrorCode
  line : Nat
  column : Nat

/-- The text of a reading error. -/
def JsonError.message (e : JsonError) : String :=
  e.code.message ++ " at line " ++ toString e.line ++ " column " ++ toString e.column

namespace JsonText

/-- The bytes being read. -/
abbrev Bytes := Array UInt8

/-- Line and column of a byte offset: the line counts newlines before it, the column the
bytes since the last one. -/
def place (bytes : Bytes) (i : Nat) : Nat × Nat :=
  let before := (bytes.toList.take i)
  let lineStart := before.length - ((before.reverse.takeWhile (· != 10)).length)
  let newlines := (before.take lineStart).count 10
  (newlines + 1, i - lineStart)

/-- An error placed at the offset reached. -/
def errAt (bytes : Bytes) (code : JsonErrorCode) (i : Nat) : JsonError :=
  let (l, c) := place bytes i
  ⟨code, l, c⟩

/-- An error placed one past the offset reached (the byte looked at), at most the end. -/
def errPeek (bytes : Bytes) (code : JsonErrorCode) (i : Nat) : JsonError :=
  errAt bytes code (min bytes.size (i + 1))

/-- Skips blanks: space, tab, newline and carriage return. -/
def skipBlanks (bytes : Bytes) (i : Nat) : Nat :=
  let rec go : Nat → Nat → Nat
    | 0, j => j
    | fuel + 1, j =>
      match bytes[j]? with
      | some b => if b == 32 || b == 9 || b == 10 || b == 13 then go fuel (j + 1) else j
      | none => j
  go (bytes.size + 1) i

/-- The result of a reading step: a value and the offset after it. -/
abbrev Step (α : Type) := Except JsonError (α × Nat)

/-- The value of a hex digit. -/
def hexValue (b : UInt8) : Option Nat :=
  if 48 ≤ b && b ≤ 57 then some (b.toNat - 48)
  else if 97 ≤ b && b ≤ 102 then some (b.toNat - 87)
  else if 65 ≤ b && b ≤ 70 then some (b.toNat - 55)
  else none

/-- Four hex digits at an offset. -/
def hex4 (bytes : Bytes) (i : Nat) : Step Nat :=
  if i + 4 ≤ bytes.size then
    let ds := [bytes[i]?, bytes[i+1]?, bytes[i+2]?, bytes[i+3]?].map (fun b => b.bind hexValue)
    match ds with
    | [some a, some b, some c, some d] => .ok (((a * 16 + b) * 16 + c) * 16 + d, i + 4)
    | _ => .error (errAt bytes .invalidEscape (i + 4))
  else .error (errAt bytes .eofWhileParsingString bytes.size)

/-- The UTF-8 bytes of a code point. -/
def utf8 (c : Nat) : List UInt8 :=
  (String.singleton (Char.ofNat c)).toUTF8.toList

/-- Reads a `\u` escape (the `u` already read), pairing surrogates. -/
def unicodeEscape (bytes : Bytes) (i : Nat) : Except JsonError (List UInt8 × Nat) := do
  let (n, i) ← hex4 bytes i
  if 0xDC00 ≤ n && n ≤ 0xDFFF then throw (errAt bytes .loneLeadingSurrogateInHexEscape i)
  if n < 0xD800 || n > 0xDBFF then return (utf8 n, i)
  -- A leading surrogate must be followed by an escaped trailing one.
  match bytes[i]? with
  | none => throw (errAt bytes .eofWhileParsingString i)
  | some b =>
    if b != 92 then throw (errAt bytes .unexpectedEndOfHexEscape (i + 1))
    match bytes[i + 1]? with
    | none => throw (errAt bytes .eofWhileParsingString (i + 1))
    | some b2 =>
      if b2 != 117 then throw (errAt bytes .unexpectedEndOfHexEscape (i + 2))
      let (n2, i) ← hex4 bytes (i + 2)
      if n2 < 0xDC00 || n2 > 0xDFFF then throw (errAt bytes .loneLeadingSurrogateInHexEscape i)
      return (utf8 ((((n - 0xD800) * 1024) ||| (n2 - 0xDC00)) + 0x10000), i)

/-- Reads the rest of a string after its opening quote. -/
def stringBody (bytes : Bytes) (i : Nat) : Step String :=
  let rec go : Nat → Nat → Array UInt8 → Step String
    | 0, j, _ => .error (errAt bytes .eofWhileParsingString j)
    | fuel + 1, j, acc =>
      match bytes[j]? with
      | none => .error (errAt bytes .eofWhileParsingString bytes.size)
      | some 34 => .ok ((String.fromUTF8? (ByteArray.mk acc)).getD "", j + 1)
      | some 92 =>
        match bytes[j + 1]? with
        | none => .error (errAt bytes .eofWhileParsingString (j + 1))
        | some e =>
          let simple : Option UInt8 :=
            if e == 34 then some 34 else if e == 92 then some 92 else if e == 47 then some 47
            else if e == 98 then some 8 else if e == 102 then some 12
            else if e == 110 then some 10 else if e == 114 then some 13
            else if e == 116 then some 9 else none
          match simple with
          | some c => go fuel (j + 2) (acc.push c)
          | none =>
            if e == 117 then
              match unicodeEscape bytes (j + 2) with
              | .ok (cs, k) => go fuel k (acc ++ cs.toArray)
              | .error err => .error err
            else .error (errAt bytes .invalidEscape (j + 2))
      | some b =>
        if b < 32 then .error (errAt bytes .controlCharacterWhileParsingString (j + 1))
        else go fuel (j + 1) (acc.push b)
  go (bytes.size + 1) i #[]

/-- Whether a byte is a decimal digit. -/
def isDigit (b : UInt8) : Bool := 48 ≤ b && b ≤ 57

/-- The digits at an offset and the offset after them. -/
def digitsAt (bytes : Bytes) (i : Nat) : List UInt8 × Nat :=
  let rec go : Nat → Nat → List UInt8 → List UInt8 × Nat
    | 0, j, acc => (acc.reverse, j)
    | fuel + 1, j, acc =>
      match bytes[j]? with
      | some b => if isDigit b then go fuel (j + 1) (b :: acc) else (acc.reverse, j)
      | none => (acc.reverse, j)
  go (bytes.size + 1) i []

/-- The natural number of a digit list. -/
def digitsValue (ds : List UInt8) : Nat := ds.foldl (fun n d => n * 10 + (d.toNat - 48)) 0

/-- The largest unsigned 64-bit word. -/
def wordMax : Nat := Nat.pow 2 64 - 1

/-- A double from a sign, decimal significand and decimal exponent, correctly rounded. -/
def floatOf (negative : Bool) (m : Nat) (e : Int) : Float :=
  let size : Int := (Nat.toDigits 10 m).length
  -- Far outside the range of doubles the answer is known without computing the power.
  let f :=
    if m == 0 || e + size < -400 then 0.0
    else if e + size > 400 then 1.0 / 0.0
    else if e ≥ 0 then Float.ofScientific m false e.toNat
    else Float.ofScientific m true (-e).toNat
  if negative then -f else f

/-- The largest signed 32-bit number, the bound of a decimal exponent. -/
def exponentMax : Nat := Nat.pow 2 31 - 1

/-- Keeps an exponent within the signed 32-bit numbers. -/
def clampExponent (e : Int) : Int := max (-(exponentMax : Int) - 1) (min exponentMax e)

/-- Appends digits to `acc` while the value stays within `bound`: the value reached and how
many digits were taken. Appending a digit never lowers the value, so the digits taken are the
longest prefix that fits. -/
def accumulate (bound acc : Nat) : List UInt8 → Nat × Nat
  | [] => (acc, 0)
  | d :: ds =>
    let next := acc * 10 + (d.toNat - 48)
    if next > bound then (acc, 0)
    else
      let (v, n) := accumulate bound next ds
      (v, n + 1)

/-- The double nearest to `10 ^ k`, ties going to the even significand. -/
def powerOfTen (k : Nat) : Float :=
  let n := Nat.pow 10 k
  let b := n.log2
  if b < 53 then (UInt64.ofNat n).toFloat
  else
    let shift := b - 52
    let q := n >>> shift
    let rest := n % Nat.pow 2 shift
    let half := Nat.pow 2 (shift - 1)
    let q := if rest > half || (rest == half && q % 2 == 1) then q + 1 else q
    (UInt64.ofNat q).toFloat.scaleB shift

/-- A double from a 64-bit significand and a decimal exponent, computed the quick way rather
than the exact one: the significand rounded to a double, then multiplied or divided by one
rounded power of ten. An exponent below -308 first divides by `1e308` until it is in range or
the value is zero; none when the value overflows. A significand is below `2 ^ 64`, so two
divisions by `1e308` reach zero and four rounds always finish. -/
def scaleByTen (significand : Nat) (exponent : Int) : Option Float :=
  let rec go : Nat → Float → Int → Option Float
    | 0, f, _ => some f
    | fuel + 1, f, e =>
      if e.natAbs ≤ 308 then
        if e ≥ 0 then
          let g := f * powerOfTen e.toNat
          if g.isInf then none else some g
        else some (f / powerOfTen e.natAbs)
      else if f == 0 then some f
      else if e ≥ 0 then none
      else go fuel (f / powerOfTen 308) (e + 308)
  go 4 (UInt64.ofNat significand).toFloat exponent

/-- The double of a number whose text ends at `j`: the significand scaled by the exponent,
or out of range there. -/
def finish (bytes : Bytes) (negative : Bool) (significand : Nat) (exponent : Int) (j : Nat) :
    Except JsonError (Number × Nat) :=
  match scaleByTen significand exponent with
  | some f => .ok (.float (if negative then -f else f), j)
  | none => .error (errAt bytes .numberOutOfRange j)

/-- Reads the exponent whose mark is at `j`, for digits so far standing for
`significand * 10 ^ exponent`. An exponent that does not fit 32 bits stops the reading past
the digit that overflowed when it would make the value infinite, and otherwise makes it
zero. -/
def exponentOf (bytes : Bytes) (negative : Bool) (significand : Nat) (exponent : Int) (j : Nat) :
    Except JsonError (Number × Nat) :=
  let (up, k) := match bytes[j + 1]? with
    | some 43 => (true, j + 2)
    | some 45 => (false, j + 2)
    | _ => (true, j + 1)
  match bytes[k]? with
  | none => .error (errAt bytes .eofWhileParsingValue k)
  | some b =>
    if !isDigit b then .error (errAt bytes .invalidNumber (k + 1))
    else
      let (ds, stop) := digitsAt bytes k
      let (x, taken) := accumulate exponentMax 0 ds
      if taken < ds.length then
        if significand != 0 && up then .error (errAt bytes .numberOutOfRange (k + taken + 1))
        else .ok (.float (if negative then -0.0 else 0.0), stop)
      else
        finish bytes negative significand (clampExponent (if up then exponent + x else exponent - x)) stop

/-- Reads the fraction whose point is at `j`: its digits join the significand while it fits
64 bits, and the rest are skipped. At least one digit must follow the point. -/
def fractionOf (bytes : Bytes) (negative : Bool) (significand : Nat) (exponent : Int) (j : Nat) :
    Except JsonError (Number × Nat) :=
  let (ds, stop) := digitsAt bytes (j + 1)
  if ds.isEmpty then
    match bytes[j + 1]? with
    | some _ => .error (errPeek bytes .invalidNumber (j + 1))
    | none => .error (errPeek bytes .eofWhileParsingValue (j + 1))
  else
    let (significand, taken) := accumulate wordMax significand ds
    let exponent := exponent - taken
    match bytes[stop]? with
    | some 101 | some 69 => exponentOf bytes negative significand exponent stop
    | _ => finish bytes negative significand exponent stop

/-- Reads a number after its optional minus sign. The digits before the point make a 64-bit
significand; the digits that no longer fit count as powers of ten. A whole number that fits
is an integer, except `-0` and those below the smallest 64-bit integer, which become doubles. -/
def number (bytes : Bytes) (negative : Bool) (i : Nat) : Except JsonError (Number × Nat) := do
  let first ← match bytes[i]? with
    | none => throw (errAt bytes .eofWhileParsingValue i)
    | some b => pure b
  if !isDigit first then throw (errAt bytes .invalidNumber (i + 1))
  let (whole, j) :=
    if first == 48 then ([first], i + 1) else digitsAt bytes i
  -- Only one leading zero.
  if first == 48 then
    if let some b := bytes[j]? then
      if isDigit b then throw (errPeek bytes .invalidNumber j)
  let (significand, taken) := accumulate wordMax 0 whole
  let extra := whole.length - taken
  match bytes[j]? with
  | some 46 => fractionOf bytes negative significand extra j
  | some 101 | some 69 => exponentOf bytes negative significand extra j
  | _ =>
    if extra > 0 then finish bytes negative significand extra j
    else if !negative then return (.int significand, j)
    else if significand == 0 || significand > Nat.pow 2 63 then
      return (.float (-(UInt64.ofNat significand).toFloat), j)
    else return (.int (-(significand : Int)), j)

/-- Reads the fixed letters of a keyword after its first letter. -/
def keyword (bytes : Bytes) (rest : List UInt8) (i : Nat) : Except JsonError Nat :=
  let rec go : List UInt8 → Nat → Except JsonError Nat
    | [], j => .ok j
    | c :: cs, j =>
      match bytes[j]? with
      | none => .error (errAt bytes .eofWhileParsingValue j)
      | some b => if b == c then go cs (j + 1) else .error (errAt bytes .expectedSomeIdent (j + 1))
  go rest i

mutual
/-- Reads one value at an offset (blanks first); `depth` counts the nesting still allowed
and `fuel` bounds the work by the length of the text. -/
def value (bytes : Bytes) : Nat → Nat → Nat → Step Json
  | 0, _, i => .error (errPeek bytes .recursionLimitExceeded i)
  | fuel + 1, depth, i =>
    let i := skipBlanks bytes i
    match bytes[i]? with
    | none => .error (errPeek bytes .eofWhileParsingValue i)
    | some b =>
      if b == 110 then (keyword bytes [117, 108, 108] (i + 1)).map (fun j => (.null, j))
      else if b == 116 then (keyword bytes [114, 117, 101] (i + 1)).map (fun j => (.bool true, j))
      else if b == 102 then
        (keyword bytes [97, 108, 115, 101] (i + 1)).map (fun j => (.bool false, j))
      else if b == 45 then (number bytes true (i + 1)).map (fun (n, j) => (.num n, j))
      else if isDigit b then (number bytes false i).map (fun (n, j) => (.num n, j))
      else if b == 34 then (stringBody bytes (i + 1)).map (fun (s, j) => (.str s, j))
      else if b == 91 then
        if depth ≤ 1 then .error (errPeek bytes .recursionLimitExceeded i)
        else (items bytes fuel (depth - 1) true (i + 1) []).map (fun (xs, j) => (.arr xs, j))
      else if b == 123 then
        if depth ≤ 1 then .error (errPeek bytes .recursionLimitExceeded i)
        else (members bytes fuel (depth - 1) true (i + 1) []).map
          (fun (fs, j) => (.obj (Fields.ofList fs), j))
      else .error (errPeek bytes .expectedSomeValue i)

/-- Reads array items up to the closing bracket. -/
def items (bytes : Bytes) : Nat → Nat → Bool → Nat → List Json → Step (List Json)
  | 0, _, _, i, _ => .error (errPeek bytes .recursionLimitExceeded i)
  | fuel + 1, depth, first, i, acc =>
    let i := skipBlanks bytes i
    match bytes[i]? with
    | none => .error (errPeek bytes .eofWhileParsingList i)
    | some 93 => .ok (acc.reverse, i + 1)
    | some b =>
      let start : Except JsonError Nat :=
        if first then .ok i
        else if b == 44 then
          let k := skipBlanks bytes (i + 1)
          match bytes[k]? with
          | some 93 => .error (errPeek bytes .trailingComma k)
          | some _ => .ok k
          | none => .error (errPeek bytes .eofWhileParsingValue k)
        else .error (errPeek bytes .expectedListCommaOrEnd i)
      match start with
      | .error e => .error e
      | .ok k =>
        match value bytes fuel depth k with
        | .error e => .error e
        | .ok (v, j) => items bytes fuel depth false j (v :: acc)

/-- Reads object members up to the closing brace. -/
def members (bytes : Bytes) : Nat → Nat → Bool → Nat → List (String × Json) →
    Step (List (String × Json))
  | 0, _, _, i, _ => .error (errPeek bytes .recursionLimitExceeded i)
  | fuel + 1, depth, first, i, acc =>
    let i := skipBlanks bytes i
    match bytes[i]? with
    | none => .error (errPeek bytes .eofWhileParsingObject i)
    | some 125 => .ok (acc.reverse, i + 1)
    | some b =>
      let start : Except JsonError Nat :=
        if first then
          if b == 34 then .ok i else .error (errPeek bytes .keyMustBeAString i)
        else if b == 44 then
          let k := skipBlanks bytes (i + 1)
          match bytes[k]? with
          | some 34 => .ok k
          | some 125 => .error (errPeek bytes .trailingComma k)
          | some _ => .error (errPeek bytes .keyMustBeAString k)
          | none => .error (errPeek bytes .eofWhileParsingValue k)
        else .error (errPeek bytes .expectedObjectCommaOrEnd i)
      match start with
      | .error e => .error e
      | .ok k =>
        match stringBody bytes (k + 1) with
        | .error e => .error e
        | .ok (key, j) =>
          let j := skipBlanks bytes j
          match bytes[j]? with
          | none => .error (errPeek bytes .eofWhileParsingObject j)
          | some 58 =>
            match value bytes fuel depth (j + 1) with
            | .error e => .error e
            | .ok (v, j) => members bytes fuel depth false j ((key, v) :: acc)
          | some _ => .error (errPeek bytes .expectedColon j)
end

end JsonText

/-- Reads a whole JSON text: one value, then only blanks. -/
def Json.parse (text : String) : Except JsonError Json :=
  let bytes := text.toUTF8.data
  match JsonText.value bytes (2 * bytes.size + 4) 128 0 with
  | .error e => .error e
  | .ok (v, j) =>
    let k := JsonText.skipBlanks bytes j
    if k < bytes.size then .error (JsonText.errPeek bytes .trailingCharacters k) else .ok v

end MeshControl
