import MeshControl.Yaml.Event
import MeshControl.Yaml.Resolve
import MeshControl.Decimal.Shortest

/-!
Reading one YAML document into a value. The events of the first document are gathered
(aliases resolved to the node their anchor names), then read into a value: scalars by their
tag and style, tags of the form `!name` as tagged values, and mappings refusing a key they
already hold. Collections nest at most 128 deep and aliases expand at most a hundred times
the document's size. A syntax error ends the document early: it is reported unless the value
failed first. A second document in the text is refused.
-/

namespace MeshControl.YamlSyntax

/-- A node event of a loaded document; an alias points at the event that defined its anchor. -/
inductive Item where
  | alias (target : Nat)
  | scalar (tag : Option String) (text : String) (style : ScalarStyle)
  | sequenceStart (tag : Option String)
  | sequenceEnd
  | mappingStart (tag : Option String)
  | mappingEnd
  | void
  deriving Inhabited

/-- The node events of a document with their places, and the error that cut it short. -/
structure Document where
  items : Array (Item × Mark)
  error : Option YamlError

/-- Gathers the next document's events; none when the stream ends, except for the first
document, which is then an empty one. Returns the parser when more may follow. -/
def loadDocument (p : Parser) (first : Bool) : Option Document × Option Parser :=
  let rec go : Nat → Parser → List (String × Nat) → Array (Item × Mark) → Option Document × Option Parser
    | 0, p, _, items => (some ⟨items, none⟩, some p)
    | n + 1, p, anchors, items =>
      match p.step with
      | .error e => (some ⟨items, some e⟩, none)
      | .ok ((event, mark), p) =>
        -- An anchored node is recorded under its name; a later one of the same name wins.
        let anchored (anchor : Option String) : List (String × Nat) :=
          match anchor with
          | some a => (a, items.size) :: anchors
          | none => anchors
        match event with
        | .streamStart | .documentStart => go n p anchors items
        | .streamEnd =>
          if first then (some ⟨if items.isEmpty then #[(.void, mark)] else items, none⟩, none)
          else (none, none)
        | .documentEnd => (some ⟨items, none⟩, some p)
        | .alias name =>
          match anchors.find? (·.1 == name) with
          | some (_, target) => go n p anchors (items.push (.alias target, mark))
          | none => (some ⟨items, some (.unknownAnchor mark)⟩, none)
        | .scalar anchor tag text style =>
          go n p (anchored anchor) (items.push (.scalar tag text style, mark))
        | .sequenceStart anchor tag => go n p (anchored anchor) (items.push (.sequenceStart tag, mark))
        | .sequenceEnd => go n p anchors (items.push (.sequenceEnd, mark))
        | .mappingStart anchor tag => go n p (anchored anchor) (items.push (.mappingStart tag, mark))
        | .mappingEnd => go n p anchors (items.push (.mappingEnd, mark))
  go (4 * p.scanner.input.size + 16) p [] #[]

/-- The tag that makes a node a tagged value: a local tag, without its `!` unless that is all
of it; none once the node's tag has been taken. -/
def enumTag (tag : Option String) (taken : Bool) : Option String :=
  if taken then none
  else match tag with
    | some t =>
      match t.toList with
      | '!' :: [] => some "!"
      | '!' :: rest => some (String.ofList rest)
      | _ => none
    | none => none

/-- How a duplicate key is named in an error. -/
def duplicateKeyText (k : Yaml) : String :=
  let number : Number → String
    | .int i => toString i
    | .float f =>
      if f.isNaN then ".nan" else if f.isInf then (if f < 0 then "-.inf" else ".inf")
      else Decimal.render Decimal.Style.yaml f
  "duplicate entry " ++ match k with
    | .null => "with null key"
    | .bool b => "with key `" ++ (if b then "true" else "false") ++ "`"
    | .num n => "with key " ++ number n
    | .str s => "with key " ++ Text.quoted s
    | _ => "in YAML map"

/-- A step's result: a value, the index after it, and the aliases expanded so far. -/
abbrev Composed (α : Type) := Except YamlError (α × Nat × Nat)

mutual
/-- Reads the value at an event index, at a path, with `depth` more collections allowed
inside it; `taken` when the node's tag already made a tagged value around it. -/
def compose (d : Document) : Nat → Nat → List PathStep → Nat → Bool → Nat → Composed Yaml
  | 0, _, _, _, _, _ => .error .repetitionLimit
  | fuel + 1, pos, path, depth, taken, jumps =>
    match d.items[pos]? with
    | none => .error (d.error.getD .endOfStream)
    | some (item, mark) =>
      let tagged (tag : Option String) : Option String := enumTag tag taken
      match item with
      | .alias target =>
        if jumps + 1 > d.items.size * 100 then .error .repetitionLimit
        else match compose d fuel target path depth false (jumps + 1) with
          | .ok (v, _, jumps) => .ok (v, pos + 1, jumps)
          | .error e => .error e
      | .scalar tag text style =>
        match tagged tag with
        | some t =>
          match compose d fuel pos path depth true jumps with
          | .ok (v, next, jumps) => .ok (.tagged t v, next, jumps)
          | .error e => .error e
        | none =>
          match YamlScalar.scalarValue tag taken text style with
          | .ok v => .ok (v, pos + 1, jumps)
          | .error e => .error (.located (e.render .yaml) path mark)
      | .sequenceStart tag =>
        match tagged tag with
        | some t =>
          match compose d fuel pos path depth true jumps with
          | .ok (v, next, jumps) => .ok (.tagged t v, next, jumps)
          | .error e => .error e
        | none =>
          if depth == 0 then .error (.recursionLimit mark)
          else match composeItems d fuel (pos + 1) path (depth - 1) 0 [] jumps with
            | .ok (xs, next, jumps) => .ok (.seq xs, next, jumps)
            | .error e => .error e
      | .mappingStart tag =>
        match tagged tag with
        | some t =>
          match compose d fuel pos path depth true jumps with
          | .ok (v, next, jumps) => .ok (.tagged t v, next, jumps)
          | .error e => .error e
        | none =>
          if depth == 0 then .error (.recursionLimit mark)
          else match composeEntries d fuel (pos + 1) path (depth - 1) mark [] jumps with
            | .ok (es, next, jumps) => .ok (.map es, next, jumps)
            | .error e => .error e
      | .void => .ok (.null, pos + 1, jumps)
      | .sequenceEnd | .mappingEnd => .error .endOfStream

/-- Reads sequence items up to the sequence's end; item `i` is at path step `[i]`. -/
def composeItems (d : Document) : Nat → Nat → List PathStep → Nat → Nat → List Yaml → Nat →
    Composed (List Yaml)
  | 0, _, _, _, _, _, _ => .error .repetitionLimit
  | fuel + 1, pos, path, depth, index, acc, jumps =>
    match d.items[pos]? with
    | none => .error (d.error.getD .endOfStream)
    | some (.sequenceEnd, _) => .ok (acc.reverse, pos + 1, jumps)
    | some _ =>
      match compose d fuel pos (.index index :: path) depth false jumps with
      | .ok (v, next, jumps) => composeItems d fuel next path depth (index + 1) (v :: acc) jumps
      | .error e => .error e

/-- Reads mapping entries up to the mapping's end. A key already present is an error at the
mapping; a value's path step is its key's text, or `?` for a key that is not a scalar. -/
def composeEntries (d : Document) : Nat → Nat → List PathStep → Nat → Mark → List (Yaml × Yaml) →
    Nat → Composed (List (Yaml × Yaml))
  | 0, _, _, _, _, _, _ => .error .repetitionLimit
  | fuel + 1, pos, path, depth, mapMark, acc, jumps =>
    match d.items[pos]? with
    | none => .error (d.error.getD .endOfStream)
    | some (.mappingEnd, _) => .ok (acc.reverse, pos + 1, jumps)
    | some (keyItem, _) =>
      let step := match keyItem with
        | .scalar _ text _ => PathStep.key text
        | _ => PathStep.unknown
      match compose d fuel pos path depth false jumps with
      | .error e => .error e
      | .ok (k, next, jumps) =>
        -- A repeated key is named as first written: `0.0` and `-0.0` are the same key.
        match acc.find? (fun (seen, _) => seen.beq k) with
        | some (seen, _) => .error (.located (duplicateKeyText seen) path mapMark)
        | none =>
          match compose d fuel next (step :: path) depth false jumps with
          | .ok (v, next, jumps) => composeEntries d fuel next path depth mapMark ((k, v) :: acc) jumps
          | .error e => .error e
end

/-- The UTF-8 offset of the first character a YAML text may not hold. -/
def firstDisallowed (text : String) : Option Nat :=
  let rec go : List Char → Nat → Option Nat
    | [], _ => none
    | c :: rest, offset => if isAllowed c then go rest (offset + c.utf8Size) else some offset
  go text.toList 0

end MeshControl.YamlSyntax

namespace MeshControl

open YamlSyntax in
/-- Reads a YAML text holding one document into a value. -/
def Yaml.parse (text : String) : Except YamlError Yaml := do
  if let some offset := firstDisallowed text then
    throw (.unreadable "control characters are not allowed" offset)
  let (doc?, rest) := loadDocument (Parser.ofString text) true
  let some doc := doc? | throw .endOfStream
  let size := doc.items.size + 1
  let (v, _, _) ← compose doc (2 * size * (100 * size + 2)) 0 [] 128 false 0
  if let some e := doc.error then throw e
  if let some p := rest then
    if (loadDocument p false).1.isSome then throw .moreThanOneDocument
  return v

end MeshControl
