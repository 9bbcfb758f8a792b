import MeshControl.Yaml.Scan

/-!
The events of a YAML text: the scanner's tokens read by the grammar of streams, documents,
block and flow collections and nodes. The parser is a state machine with a stack of states
to return to and a stack of the places where open collections began, which errors cite.
-/

namespace MeshControl.YamlSyntax

/-- What the parser reads next. -/
inductive State where
  | streamStart
  | implicitDocumentStart
  | documentStart
  | documentContent
  | documentEnd
  | blockNode
  | blockSequenceFirstEntry
  | blockSequenceEntry
  | indentlessSequenceEntry
  | blockMappingFirstKey
  | blockMappingKey
  | blockMappingValue
  | flowSequenceFirstEntry
  | flowSequenceEntry
  | flowSequenceEntryMappingKey
  | flowSequenceEntryMappingValue
  | flowSequenceEntryMappingEnd
  | flowMappingFirstKey
  | flowMappingKey
  | flowMappingValue
  | flowMappingEmptyValue
  | finished
  deriving DecidableEq, Inhabited

/-- A parsing event. Nodes carry their anchor and resolved tag. -/
inductive Event where
  | streamStart
  | streamEnd
  | documentStart
  | documentEnd
  | alias (name : String)
  | scalar (anchor tag : Option String) (text : String) (style : ScalarStyle)
  | sequenceStart (anchor tag : Option String)
  | sequenceEnd
  | mappingStart (anchor tag : Option String)
  | mappingEnd
  deriving Inhabited

/-- The parser: the scanner, the current state, the states to return to, the places where
open collections began, and the tag handles of the current document. -/
structure Parser where
  scanner : Scanner
  state : State := .streamStart
  states : List State := []
  marks : List Mark := []
  handles : List (String × String) := []

/-- The outcome of one parsing step: an event with its place and the parser after it. -/
abbrev Stepped := Except YamlError ((Event × Mark) × Parser)

/-- The handles every document knows: `!` and `!!`. -/
def defaultHandles : List (String × String) := [("!", "!"), ("!!", "tag:yaml.org,2002:")]

namespace Parser

/-- A parser at the start of a text. -/
def ofString (text : String) : Parser := { scanner := Scanner.ofString text }

/-- The next token. -/
def peek (p : Parser) : Except YamlError (Token × Parser) := do
  let (t, s) ← p.scanner.peek
  return (t, { p with scanner := s })

/-- Takes the next token. -/
def skipToken (p : Parser) : Parser := { p with scanner := p.scanner.next }

/-- Returns to the state on top of the stack. -/
def pop (p : Parser) : Parser := { p with state := p.states.headD .finished, states := p.states.tail }

/-- Returns to the state on top of the stack, closing the innermost collection. -/
def close (p : Parser) : Parser := { p.pop with marks := p.marks.tail }

/-- Goes to a state. -/
def goto (p : Parser) (st : State) : Parser := { p with state := st }

/-- Goes to a state, to come back to another one after a node. -/
def call (p : Parser) (back : State) : Parser := { p with states := back :: p.states }

/-- An empty plain scalar at a place. -/
def emptyScalar (p : Parser) (mark : Mark) : Stepped := .ok ((.scalar none none "" .plain, mark), p)

/-- A grammar problem at a token, within a construct begun elsewhere. -/
def problem (context : String) (contextMark : Mark) (text : String) (t : Token) : YamlError :=
  .malformed text t.start (some (context, contextMark))

/-- Reads the directives before a document, then adds the default handles it does not
redefine. -/
def directives (p : Parser) : Except YamlError Parser :=
  let rec go : Nat → Parser → Bool → List (String × String) → Except YamlError Parser
    | 0, p, _, hs => .ok { p with handles := hs }
    | n + 1, p, seenVersion, hs =>
      match p.peek with
      | .error e => .error e
      | .ok (t, p) =>
        match t.kind with
        | .versionDirective major minor =>
          if seenVersion then .error (.malformed "found duplicate %YAML directive" t.start none)
          else if major != 1 || (minor != 1 && minor != 2) then
            .error (.malformed "found incompatible YAML document" t.start none)
          else go n p.skipToken true hs
        | .tagDirective handle pfx =>
          if hs.any (·.1 == handle) then .error (.malformed "found duplicate %TAG directive" t.start none)
          else go n p.skipToken seenVersion (hs ++ [(handle, pfx)])
        | _ =>
          .ok { p with handles := hs ++ defaultHandles.filter (fun (h, _) => !hs.any (·.1 == h)) }
  go (p.scanner.input.size + 2) p false []

/-- The stream start. -/
def streamStart (p : Parser) : Stepped := do
  let (t, p) ← p.peek
  if t.kind != .streamStart then throw (.malformed "did not find expected <stream-start>" t.start none)
  return ((.streamStart, t.start), { p.skipToken with state := .implicitDocumentStart })

/-- Skips the `...` markers before a document. -/
def skipDocumentEnds (p : Parser) (t : Token) : Except YamlError (Token × Parser) :=
  let rec go : Nat → Token → Parser → Except YamlError (Token × Parser)
    | 0, t, p => .ok (t, p)
    | n + 1, t, p => if t.kind == .documentEnd then (match p.skipToken.peek with
        | .ok (t, p) => go n t p
        | .error e => .error e) else .ok (t, p)
  go (p.scanner.input.size + 2) t p

/-- The start of a document, implicit (content with no `---`) only for the first one, or the
end of the stream. -/
def documentStart (p : Parser) (implicit : Bool) : Stepped := do
  let (t, p) ← p.peek
  let (t, p) ← if implicit then pure (t, p) else p.skipDocumentEnds t
  let isDirective := match t.kind with
    | .versionDirective _ _ | .tagDirective _ _ => true
    | _ => false
  if implicit && !isDirective && t.kind != .documentStart && t.kind != .streamEnd then
    let p ← p.directives
    return ((.documentStart, t.start), { p.call .documentEnd with state := .blockNode })
  else if t.kind != .streamEnd then
    let start := t.start
    let p ← p.directives
    let (t, p) ← p.peek
    if t.kind != .documentStart then
      throw (.malformed "did not find expected <document start>" t.start none)
    return ((.documentStart, start), { p.skipToken.call .documentEnd with state := .documentContent })
  else return ((.streamEnd, t.start), { p.skipToken with state := .finished })

/-- The end of a document, explicit with `...` or implicit. -/
def documentEnd (p : Parser) : Stepped := do
  let (t, p) ← p.peek
  let p := if t.kind == .documentEnd then p.skipToken else p
  return ((.documentEnd, t.start), { p with handles := [], state := .documentStart })

/-- A node: an alias, or optional anchor and tag (either order) before a scalar or a
collection; with properties but no content it is an empty scalar. In an indentless context a
`-` opens a sequence at the current indentation. -/
def node (p : Parser) (block indentless : Bool) : Stepped := do
  let (t, p) ← p.peek
  if let .alias name := t.kind then
    return ((.alias name, t.start), p.skipToken.pop)
  let start := t.start
  let mut p := p
  let mut t := t
  let mut anchor : Option String := none
  let mut tagPart : Option (String × String) := none
  let mut tagMark := t.start
  match t.kind with
  | .anchor a =>
    anchor := some a
    let (t', p') ← p.skipToken.peek
    t := t'
    p := p'
    if let .tag h sfx := t.kind then
      tagPart := some (h, sfx)
      tagMark := t.start
      let (t', p') ← p.skipToken.peek
      t := t'
      p := p'
  | .tag h sfx =>
    tagPart := some (h, sfx)
    tagMark := t.start
    let (t', p') ← p.skipToken.peek
    t := t'
    p := p'
    if let .anchor a := t.kind then
      anchor := some a
      let (t', p') ← p.skipToken.peek
      t := t'
      p := p'
  | _ => pure ()
  let tag ← match tagPart with
    | none => pure none
    | some (h, sfx) =>
      if h.isEmpty then pure (some sfx)
      else match p.handles.find? (·.1 == h) with
        | some (_, pfx) => pure (some (pfx ++ sfx))
        | none => throw (.malformed "found undefined tag handle" tagMark (some ("while parsing a node", start)))
  if indentless && t.kind == .blockEntry then
    return ((.sequenceStart anchor tag, start), { p with state := .indentlessSequenceEntry })
  match t.kind with
  | .scalar text style => return ((.scalar anchor tag text style, start), p.skipToken.pop)
  | .flowSequenceStart =>
    return ((.sequenceStart anchor tag, start), { p with state := .flowSequenceFirstEntry })
  | .flowMappingStart =>
    return ((.mappingStart anchor tag, start), { p with state := .flowMappingFirstKey })
  | .blockSequenceStart =>
    if block then return ((.sequenceStart anchor tag, start), { p with state := .blockSequenceFirstEntry })
  | .blockMappingStart =>
    if block then return ((.mappingStart anchor tag, start), { p with state := .blockMappingFirstKey })
  | _ => pure ()
  if anchor.isSome || tag.isSome then return ((.scalar anchor tag "" .plain, start), p.pop)
  throw (problem (if block then "while parsing a block node" else "while parsing a flow node") start
    "did not find expected node content" t)

/-- Takes the token that opens a collection, remembering where it began. -/
def openCollection (p : Parser) (first : Bool) : Except YamlError Parser := do
  if first then
    let (t, p) ← p.peek
    return { p.skipToken with marks := t.start :: p.marks }
  else return p

/-- The content of a document: a node, or an empty scalar when it has none. -/
def documentContent (p : Parser) : Stepped := do
  let (t, p) ← p.peek
  match t.kind with
  | .versionDirective _ _ | .tagDirective _ _ | .documentStart | .documentEnd | .streamEnd =>
    p.pop.emptyScalar t.start
  | _ => p.node true false

/-- An entry of a block sequence, or its end. -/
def blockSequenceEntry (p : Parser) (first : Bool) : Stepped := do
  let p ← p.openCollection first
  let (t, p) ← p.peek
  match t.kind with
  | .blockEntry =>
    let mark := t.stop
    let (t, p) ← p.skipToken.peek
    if t.kind != .blockEntry && t.kind != .blockEnd then (p.call .blockSequenceEntry).node true false
    else (p.goto .blockSequenceEntry).emptyScalar mark
  | .blockEnd => return ((.sequenceEnd, t.start), p.skipToken.close)
  | _ => throw (problem "while parsing a block collection" (p.marks.headD t.start)
      "did not find expected '-' indicator" t)

/-- An entry of a sequence written at its mapping's indentation, or its end. -/
def indentlessSequenceEntry (p : Parser) : Stepped := do
  let (t, p) ← p.peek
  if t.kind == .blockEntry then
    let mark := t.stop
    let (t, p) ← p.skipToken.peek
    if t.kind != .blockEntry && t.kind != .key && t.kind != .value && t.kind != .blockEnd then
      (p.call .indentlessSequenceEntry).node true false
    else (p.goto .indentlessSequenceEntry).emptyScalar mark
  else return ((.sequenceEnd, t.start), p.pop)

/-- A key of a block mapping, or its end. -/
def blockMappingKey (p : Parser) (first : Bool) : Stepped := do
  let p ← p.openCollection first
  let (t, p) ← p.peek
  match t.kind with
  | .key =>
    let mark := t.stop
    let (t, p) ← p.skipToken.peek
    if t.kind != .key && t.kind != .value && t.kind != .blockEnd then
      (p.call .blockMappingValue).node true true
    else (p.goto .blockMappingValue).emptyScalar mark
  | .blockEnd => return ((.mappingEnd, t.start), p.skipToken.close)
  | _ => throw (problem "while parsing a block mapping" (p.marks.headD t.start)
      "did not find expected key" t)

/-- A value of a block mapping; empty when the key has none. -/
def blockMappingValue (p : Parser) : Stepped := do
  let (t, p) ← p.peek
  if t.kind == .value then
    let mark := t.stop
    let (t, p) ← p.skipToken.peek
    if t.kind != .key && t.kind != .value && t.kind != .blockEnd then
      (p.call .blockMappingKey).node true true
    else (p.goto .blockMappingKey).emptyScalar mark
  else (p.goto .blockMappingKey).emptyScalar t.start

/-- An entry of a flow sequence, or its end; a `?` or a simple key opens a one-pair mapping. -/
def flowSequenceEntry (p : Parser) (first : Bool) : Stepped := do
  let p ← p.openCollection first
  let (t, p) ← p.peek
  if t.kind == .flowSequenceEnd then return ((.sequenceEnd, t.start), p.skipToken.close)
  let (t, p) ← if first then pure (t, p)
    else if t.kind == .flowEntry then p.skipToken.peek
    else throw (problem "while parsing a flow sequence" (p.marks.headD t.start)
      "did not find expected ',' or ']'" t)
  if t.kind == .key then
    return ((.mappingStart none none, t.start), { p.skipToken with state := .flowSequenceEntryMappingKey })
  if t.kind == .flowSequenceEnd then return ((.sequenceEnd, t.start), p.skipToken.close)
  (p.call .flowSequenceEntry).node false false

/-- The key of a one-pair mapping inside a flow sequence. -/
def flowSequenceEntryMappingKey (p : Parser) : Stepped := do
  let (t, p) ← p.peek
  if t.kind != .value && t.kind != .flowEntry && t.kind != .flowSequenceEnd then
    (p.call .flowSequenceEntryMappingValue).node false false
  else (p.goto .flowSequenceEntryMappingValue).emptyScalar t.start

/-- The value of a one-pair mapping inside a flow sequence. -/
def flowSequenceEntryMappingValue (p : Parser) : Stepped := do
  let (t, p) ← p.peek
  if t.kind == .value then
    let (t, p) ← p.skipToken.peek
    if t.kind != .flowEntry && t.kind != .flowSequenceEnd then
      (p.call .flowSequenceEntryMappingEnd).node false false
    else (p.goto .flowSequenceEntryMappingEnd).emptyScalar t.start
  else (p.goto .flowSequenceEntryMappingEnd).emptyScalar t.start

/-- The end of a one-pair mapping inside a flow sequence. -/
def flowSequenceEntryMappingEnd (p : Parser) : Stepped := do
  let (t, p) ← p.peek
  return ((.mappingEnd, t.start), { p with state := .flowSequenceEntry })

/-- A key of a flow mapping, or its end; a key without `?` or `:` gets an empty value. -/
def flowMappingKey (p : Parser) (first : Bool) : Stepped := do
  let p ← p.openCollection first
  let (t, p) ← p.peek
  if t.kind == .flowMappingEnd then return ((.mappingEnd, t.start), p.skipToken.close)
  let (t, p) ← if first then pure (t, p)
    else if t.kind == .flowEntry then p.skipToken.peek
    else throw (problem "while parsing a flow mapping" (p.marks.headD t.start)
      "did not find expected ',' or '\x7d'" t)
  if t.kind == .key then
    let (t, p) ← p.skipToken.peek
    if t.kind != .value && t.kind != .flowEntry && t.kind != .flowMappingEnd then
      (p.call .flowMappingValue).node false false
    else (p.goto .flowMappingValue).emptyScalar t.start
  else if t.kind == .flowMappingEnd then return ((.mappingEnd, t.start), p.skipToken.close)
  else (p.call .flowMappingEmptyValue).node false false

/-- A value of a flow mapping; empty when the key has none. -/
def flowMappingValue (p : Parser) (empty : Bool) : Stepped := do
  let (t, p) ← p.peek
  if empty then return ← (p.goto .flowMappingKey).emptyScalar t.start
  if t.kind == .value then
    let (t, p) ← p.skipToken.peek
    if t.kind != .flowEntry && t.kind != .flowMappingEnd then (p.call .flowMappingKey).node false false
    else (p.goto .flowMappingKey).emptyScalar t.start
  else (p.goto .flowMappingKey).emptyScalar t.start

/-- One parsing step: the next event. -/
def step (p : Parser) : Stepped :=
  match p.state with
  | .streamStart => p.streamStart
  | .implicitDocumentStart => p.documentStart true
  | .documentStart => p.documentStart false
  | .documentContent => p.documentContent
  | .documentEnd => p.documentEnd
  | .blockNode => p.node true false
  | .blockSequenceFirstEntry => p.blockSequenceEntry true
  | .blockSequenceEntry => p.blockSequenceEntry false
  | .indentlessSequenceEntry => p.indentlessSequenceEntry
  | .blockMappingFirstKey => p.blockMappingKey true
  | .blockMappingKey => p.blockMappingKey false
  | .blockMappingValue => p.blockMappingValue
  | .flowSequenceFirstEntry => p.flowSequenceEntry true
  | .flowSequenceEntry => p.flowSequenceEntry false
  | .flowSequenceEntryMappingKey => p.flowSequenceEntryMappingKey
  | .flowSequenceEntryMappingValue => p.flowSequenceEntryMappingValue
  | .flowSequenceEntryMappingEnd => p.flowSequenceEntryMappingEnd
  | .flowMappingFirstKey => p.flowMappingKey true
  | .flowMappingKey => p.flowMappingKey false
  | .flowMappingValue => p.flowMappingValue false
  | .flowMappingEmptyValue => p.flowMappingValue true
  | .finished => .ok ((.streamEnd, p.scanner.mark), p)

end Parser

end MeshControl.YamlSyntax
