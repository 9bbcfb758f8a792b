import MeshControl.Json.Basic
import MeshControl.Decimal.Shortest

/-!
Compact JSON text: no blanks, fields in key order, strings with the short escapes for quote,
backslash and the common controls, and `\u00XX` in lower-case hex for the other controls.
-/

namespace MeshControl

/-- The hex digit of a value below sixteen, lower case. -/
def hexDigit (n : Nat) : Char :=
  if n < 10 then Char.ofNat (48 + n) else Char.ofNat (87 + n)

/-- The escaped form of one character inside a JSON string. -/
def escapeChar (c : Char) : String :=
  match c with
  | '"' => "\\\""
  | '\\' => "\\\\"
  | '\n' => "\\n"
  | '\r' => "\\r"
  | '\t' => "\\t"
  | '\x08' => "\\b"
  | '\x0c' => "\\f"
  | c =>
    if c.toNat < 0x20 then
      "\\u00" ++ String.singleton (hexDigit (c.toNat / 16)) ++ String.singleton (hexDigit (c.toNat % 16))
    else String.singleton c

/-- A string in double quotes with its characters escaped. -/
def quoteJson (s : String) : String :=
  "\"" ++ String.join (s.toList.map escapeChar) ++ "\""

namespace Number

/-- The text of a number: integers in decimal, doubles in their shortest form. -/
def render : Number → String
  | .int i => toString i
  | .float f => Decimal.render Decimal.Style.json f

end Number

namespace Json

mutual
/-- The compact text of a value. -/
def render : Json → String
  | .null => "null"
  | .bool true => "true"
  | .bool false => "false"
  | .num n => n.render
  | .str s => quoteJson s
  | .arr items => "[" ++ renderItems items ++ "]"
  | .obj fields => "\x7b" ++ renderFields fields ++ "\x7d"

/-- The comma-separated texts of array items. -/
def renderItems : List Json → String
  | [] => ""
  | [x] => render x
  | x :: rest => render x ++ "," ++ renderItems rest

/-- The comma-separated texts of object fields. -/
def renderFields : List (String × Json) → String
  | [] => ""
  | [(k, v)] => quoteJson k ++ ":" ++ render v
  | (k, v) :: rest => quoteJson k ++ ":" ++ render v ++ "," ++ renderFields rest
end

end Json

end MeshControl
