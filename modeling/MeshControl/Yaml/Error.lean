import MeshControl.Decode

/-!
Why a YAML text could not be read into a value or a record. Syntax errors carry the place of
the problem and, often, of the construct being read; places are shown one-based and left
out at the very start of the text, and the construct's place also when it equals the
problem's.
-/

namespace MeshControl

/-- A place in a text: byte offset, line and column, counted from zero. -/
structure Mark where
  index : Nat
  line : Nat
  column : Nat
  deriving DecidableEq, Inhabited, Repr

/-- `line L column C`, one-based. -/
def Mark.render (m : Mark) : String :=
  "line " ++ toString (m.line + 1) ++ " column " ++ toString (m.column + 1)

/-- Whether a place is the very start of the text. -/
def Mark.atStart (m : Mark) : Bool := m.line == 0 && m.column == 0

/-- A step of the path from a document's root to a value: a mapping key, a sequence index,
or a key that is not text. -/
inductive PathStep where
  | key (name : String)
  | index (i : Nat)
  | unknown

/-- The text of a path: keys joined by dots, indices in brackets, `?` for a key that is not
text, `.` for the root. -/
def renderPath (steps : List PathStep) : String :=
  -- Steps are stored innermost first; a step under the root has no dot before it.
  let rec go : List PathStep → String
    | [] => "."
    | .key k :: rest => (if rest.isEmpty then "" else go rest ++ ".") ++ k
    | .index i :: rest => go rest ++ "[" ++ toString i ++ "]"
    | .unknown :: rest => (if rest.isEmpty then "" else go rest ++ ".") ++ "?"
  go steps

/-- A text with a place appended, unless the place is the very start. -/
def Mark.suffix (m : Mark) (text : String) : String :=
  if m.atStart then text else text ++ " at " ++ m.render

/-- Why a YAML text could not be read. -/
inductive YamlError where
  /-- The text breaks the grammar: a problem at a place, often within a construct begun
  at another place. -/
  | malformed (problem : String) (mark : Mark) (context : Option (String × Mark))
  /-- The text holds a character no YAML text may hold, at a byte offset. -/
  | unreadable (problem : String) (offset : Nat)
  /-- A value of the document is wrong where it stands, at a path and a place. -/
  | located (problem : String) (path : List PathStep) (mark : Mark)
  /-- A value could not be read as the record asked for. -/
  | decode (e : DecodeError)
  /-- The text holds a second document where one was expected. -/
  | moreThanOneDocument
  /-- Collections nest deeper than allowed. -/
  | recursionLimit (mark : Mark)
  /-- Aliases expand to more values than allowed. -/
  | repetitionLimit
  /-- An alias names no anchor defined before it. -/
  | unknownAnchor (mark : Mark)
  /-- The text ended inside a value. -/
  | endOfStream

/-- The text of a YAML error. -/
def YamlError.message : YamlError → String
  | .malformed problem mark context =>
    let head := mark.suffix problem
    match context with
    | none => head
    | some (text, cm) =>
      if cm.atStart || (cm.line == mark.line && cm.column == mark.column) then head ++ ", " ++ text
      else head ++ ", " ++ text ++ " at " ++ cm.render
  | .unreadable problem offset =>
    if offset == 0 then problem else problem ++ " at position " ++ toString offset
  | .located problem path mark =>
    mark.suffix (if path.isEmpty then problem else renderPath path ++ ": " ++ problem)
  | .decode e => e.render .yaml
  | .moreThanOneDocument => "deserializing from YAML containing more than one document is not supported"
  | .recursionLimit mark => mark.suffix "recursion limit exceeded"
  | .repetitionLimit => "repetition limit exceeded"
  | .unknownAnchor mark => mark.suffix "unknown anchor"
  | .endOfStream => "EOF while parsing a value"

end MeshControl
