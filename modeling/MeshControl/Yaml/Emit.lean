import MeshControl.Yaml.Resolve
import MeshControl.Decimal.Shortest

/-!
Writing a value as a YAML document in block style, two spaces per level. Mappings keep their
entry order; a sequence inside a mapping sits at the mapping's indentation; empty collections
are written `[]` and `{}`. Text is written plain when it would read back as the same text,
in single quotes when it would read as another type or contains indicators, as a literal
block when it spans lines, and in double quotes with escapes when it holds characters that
cannot be written as they are.
-/

namespace MeshControl.YamlWriter

/-- Whether the writer may put a character into a document unescaped. -/
def isPrintable (c : Char) : Bool :=
  let v := c.toNat
  v == 0x0A || (0x20 ≤ v && v ≤ 0x7E) || (0xA0 ≤ v && v ≤ 0xD7FF) ||
    (0xE000 ≤ v && v ≤ 0xFFFD && v != 0xFEFF)

/-- Whether a character is blank, a line break or the end. -/
def isBlankZ (c : Char) : Bool := YamlSyntax.isBlankOrEnd c

/-- What the text of a scalar allows. -/
structure ScalarFacts where
  multiline : Bool
  flowPlainAllowed : Bool
  blockPlainAllowed : Bool
  singleQuotedAllowed : Bool
  blockAllowed : Bool

/-- The running findings while looking through a scalar's text. -/
structure Scan where
  flowIndicators : Bool := false
  blockIndicators : Bool := false
  lineBreaks : Bool := false
  special : Bool := false
  leadingSpace : Bool := false
  leadingBreak : Bool := false
  trailingSpace : Bool := false
  trailingBreak : Bool := false
  breakSpace : Bool := false
  spaceBreak : Bool := false
  previousSpace : Bool := false
  previousBreak : Bool := false
  precededByWhitespace : Bool := true

/-- Looks at one character of a scalar: its position, the character after it, and the
findings so far. -/
def Scan.step (n : Nat) (st : Scan) (i : Nat) (c next : Char) : Scan :=
  let followed := isBlankZ next
  let st :=
    if i == 0 then
      let st := if "#,[]\x7b\x7d&*!|>'\"%@".contains c || c == '\x60' then
          { st with flowIndicators := true, blockIndicators := true } else st
      let st := if c == '?' || c == ':' then
          { st with flowIndicators := true, blockIndicators := st.blockIndicators || followed } else st
      if c == '-' && followed then { st with flowIndicators := true, blockIndicators := true } else st
    else
      let st := if ",?[]\x7b\x7d".contains c then { st with flowIndicators := true } else st
      let st := if c == ':' then
          { st with flowIndicators := true, blockIndicators := st.blockIndicators || followed } else st
      if c == '#' && st.precededByWhitespace then
        { st with flowIndicators := true, blockIndicators := true } else st
  let st := if !isPrintable c then { st with special := true } else st
  let st := if YamlSyntax.isBreak c then { st with lineBreaks := true } else st
  let st :=
    if c == ' ' then
      { st with leadingSpace := st.leadingSpace || i == 0,
                trailingSpace := st.trailingSpace || i + 1 == n,
                breakSpace := st.breakSpace || st.previousBreak,
                previousSpace := true, previousBreak := false }
    else if YamlSyntax.isBreak c then
      { st with leadingBreak := st.leadingBreak || i == 0,
                trailingBreak := st.trailingBreak || i + 1 == n,
                spaceBreak := st.spaceBreak || st.previousSpace,
                previousSpace := false, previousBreak := true }
    else { st with previousSpace := false, previousBreak := false }
  { st with precededByWhitespace := isBlankZ c }

/-- What the text of a scalar allows: plain in flow or block context, single quotes, a block
scalar. -/
def analyze (text : String) : ScalarFacts :=
  let cs := text.toList
  let n := cs.length
  if n == 0 then ⟨false, false, true, true, false⟩
  else
    let marker := n ≥ 3 && (cs.take 3 == ['-', '-', '-'] || cs.take 3 == ['.', '.', '.'])
    let start : Scan := { flowIndicators := marker, blockIndicators := marker }
    let rec go : Nat → List Char → Scan → Scan
      | _, [], st => st
      | i, c :: rest, st => go (i + 1) rest (st.step n i c (rest.headD YamlSyntax.endChar))
    let st := go 0 cs start
    let edges := st.leadingSpace || st.leadingBreak || st.trailingSpace || st.trailingBreak
    let flowPlain := !edges && !st.breakSpace && !st.spaceBreak && !st.special && !st.lineBreaks &&
      !st.flowIndicators
    let blockPlain := !edges && !st.breakSpace && !st.spaceBreak && !st.special && !st.lineBreaks &&
      !st.blockIndicators
    let single := !st.breakSpace && !st.spaceBreak && !st.special
    let block := !st.trailingSpace && !st.spaceBreak && !st.special
    ⟨st.lineBreaks, flowPlain, blockPlain, single, block⟩

/-- How a scalar is written. -/
inductive Style where
  | plain
  | singleQuoted
  | doubleQuoted
  | literal
  deriving DecidableEq

/-- The style a text asks for: a literal block when it holds a newline, single quotes when it
would read back as something other than this text, plain otherwise. -/
def requestedStyle (text : String) : Style :=
  if text.contains '\n' then .literal
  else if text.isEmpty || YamlScalar.digitsButNotNumber text then .singleQuoted
  else match YamlScalar.plainValue text with
    | .ok (.str _) => .plain
    | _ => .singleQuoted

/-- Where a node stands. -/
structure Place where
  root : Bool := false
  inSequence : Bool := false
  inMapping : Bool := false
  simpleKey : Bool := false

/-- The style a scalar is written in, from the one asked for and what its text allows. -/
def selectStyle (requested : Style) (facts : ScalarFacts) (length : Nat) (place : Place) : Style :=
  let style := if place.simpleKey && facts.multiline then .doubleQuoted else requested
  let style :=
    if style == .plain && (!facts.blockPlainAllowed || (length == 0 && place.simpleKey)) then
      .singleQuoted
    else style
  let style := if style == .singleQuoted && !facts.singleQuotedAllowed then .doubleQuoted else style
  if style == .literal && (!facts.blockAllowed || place.simpleKey) then .doubleQuoted else style

/-- The text being written, with the column and whether the last thing written was blank or
indentation. -/
structure Writer where
  out : String := ""
  column : Nat := 0
  whitespace : Bool := true
  indention : Bool := true
  openEnded : Nat := 0

namespace Writer

/-- Writes characters that hold no line break. -/
def put (w : Writer) (s : String) : Writer :=
  { w with out := w.out ++ s, column := w.column + s.length }

/-- Starts a new line. -/
def newline (w : Writer) : Writer := { w with out := w.out.push '\n', column := 0 }

/-- Writes a line break character as it is. -/
def writeBreak (w : Writer) (c : Char) : Writer := { w with out := w.out.push c, column := 0 }

/-- Moves to the indentation of a node: a new line unless already at it, then spaces. -/
def indentTo (w : Writer) (indent : Int) : Writer :=
  let target := indent.toNat
  let w := if !w.indention || w.column > target || (w.column == target && !w.whitespace) then w.newline
    else w
  let w := w.put (String.ofList (List.replicate (target - w.column) ' '))
  { w with whitespace := true, indention := true }

/-- Writes an indicator, with a blank before it when one is needed. -/
def indicator (w : Writer) (text : String) (needWhitespace isWhitespace isIndention : Bool) : Writer :=
  let w := if needWhitespace && !w.whitespace then w.put " " else w
  let w := w.put text
  { w with whitespace := isWhitespace, indention := w.indention && isIndention, openEnded := 0 }

end Writer

/-- Two upper-case hex digits per byte of a value, `width` digits in all. -/
def hexUpper (v width : Nat) : String :=
  let digit (d : Nat) : Char := if d < 10 then Char.ofNat (48 + d) else Char.ofNat (55 + d)
  String.ofList ((List.range width).reverse.map fun i => digit (v / Nat.pow 16 i % 16))

/-- The escape of a character in double quotes. -/
def escapeDouble (c : Char) : String :=
  match c.toNat with
  | 0x00 => "\\0"
  | 0x07 => "\\a"
  | 0x08 => "\\b"
  | 0x09 => "\\t"
  | 0x0A => "\\n"
  | 0x0B => "\\v"
  | 0x0C => "\\f"
  | 0x0D => "\\r"
  | 0x1B => "\\e"
  | 0x22 => "\\\""
  | 0x5C => "\\\\"
  | 0x85 => "\\N"
  | 0xA0 => "\\_"
  | 0x2028 => "\\L"
  | 0x2029 => "\\P"
  | v =>
    if v ≤ 0xFF then "\\x" ++ hexUpper v 2
    else if v ≤ 0xFFFF then "\\u" ++ hexUpper v 4
    else "\\U" ++ hexUpper v 8

/-- Writes a plain scalar. -/
def writePlain (w : Writer) (text : String) (place : Place) : Writer :=
  let w := if !w.whitespace && !text.isEmpty then w.put " " else w
  let w := text.foldl (fun w c => if YamlSyntax.isBreak c then w.writeBreak c else w.put (String.singleton c)) w
  { w with whitespace := false, indention := false, openEnded := if place.root then 1 else w.openEnded }

/-- Writes a single-quoted scalar, doubling its quotes. -/
def writeSingle (w : Writer) (text : String) (indent : Int) : Writer :=
  let w := w.indicator "'" true false false
  let (w, breaks) := text.foldl (fun (w, breaks) c =>
    if YamlSyntax.isBreak c then
      let w := if !breaks && c == '\n' then w.newline else w
      ({ w.writeBreak c with indention := true }, true)
    else
      let w := if breaks then w.indentTo indent else w
      let w := if c == '\'' then w.put "''" else w.put (String.singleton c)
      ({ w with indention := false }, false)) (w, false)
  let w := if breaks then w.indentTo indent else w
  let w := w.indicator "'" false false false
  { w with whitespace := false, indention := false }

/-- Writes a double-quoted scalar with escapes. -/
def writeDouble (w : Writer) (text : String) : Writer :=
  let w := w.indicator "\"" true false false
  let w := text.foldl (fun w c =>
    if !isPrintable c || c.toNat == 0xFEFF || YamlSyntax.isBreak c || c == '"' || c == '\\' then
      w.put (escapeDouble c)
    else w.put (String.singleton c)) w
  let w := w.indicator "\"" false false false
  { w with whitespace := false, indention := false }

/-- Writes a literal block scalar: its indentation and chomping hints, then its lines at the
scalar's indentation. -/
def writeLiteral (w : Writer) (text : String) (indent : Int) : Writer :=
  let cs := text.toList
  let w := w.indicator "|" true false false
  let w := match cs with
    | c :: _ => if c == ' ' || YamlSyntax.isBreak c then w.indicator "2" false false false else w
    | [] => w
  let w := { w with openEnded := 0 }
  let rev := cs.reverse
  let (chomp, openEnded) : Option String × Nat := match rev with
    | [] => (some "-", 0)
    | last :: before =>
      if !YamlSyntax.isBreak last then (some "-", 0)
      else match before with
        | [] => (some "+", 2)
        | prev :: _ => if YamlSyntax.isBreak prev then (some "+", 2) else (none, 0)
  let w := match chomp with
    | some h => { w.indicator h false false false with openEnded }
    | none => w
  let w := { w.newline with indention := true, whitespace := true }
  let (w, _) := cs.foldl (fun (w, breaks) c =>
    if YamlSyntax.isBreak c then
      ({ w.writeBreak c with indention := true }, true)
    else
      let w := if breaks then w.indentTo indent else w
      ({ w.put (String.singleton c) with indention := false }, false)) (w, true)
  w

/-- The text of a number scalar. -/
def numberText : Number → String
  | .int i => toString i
  | .float f =>
    if f.isNaN then ".nan" else if f.isInf then (if f > 0 then ".inf" else "-.inf")
    else Decimal.render Decimal.Style.yaml f

/-- The text and requested style of a scalar value, if it is one. -/
def scalarOf : Yaml → Option (String × Style)
  | .null => some ("null", .plain)
  | .bool b => some (if b then "true" else "false", .plain)
  | .num n => some (numberText n, .plain)
  | .str s => some (s, requestedStyle s)
  | _ => none

/-- Writes a scalar at a place; its lines sit one level deeper than `indent`. -/
def writeScalar (w : Writer) (text : String) (requested : Style) (indent : Int) (place : Place) :
    Writer :=
  let facts := analyze text
  let inner : Int := if indent < 0 then 2 else indent + 2
  match selectStyle requested facts text.utf8ByteSize place with
  | .plain => writePlain w text place
  | .singleQuoted => writeSingle w text inner
  | .doubleQuoted => writeDouble w text
  | .literal => writeLiteral w text inner

/-- The tag a tagged value is written with: its tag without a leading `!` (a lone `!`
stays), marked local again by one `!` unless it starts with one. -/
def localTag (tag : String) : String :=
  let bare := if tag.startsWith "!" && tag != "!" then (tag.drop 1).toString else tag
  if bare.startsWith "!" then bare else "!" ++ bare

/-- The characters of a tag as written: letters, digits and `-_;/?:@&=+$,.~*'()[]` as they
are, every byte of any other character as `%XX`. -/
def tagContent (s : String) : String :=
  String.join (s.toList.map fun c =>
    if c.isAlphanum || "-_;/?:@&=+$,.~*'()[]".contains c then String.singleton c
    else String.join ((String.singleton c).toUTF8.toList.map fun b => "%" ++ hexUpper b.toNat 2))

/-- The text of a tag: after the `!` handle when there is more than the `!`, and the lone
`!` in the verbatim form `!<%21>`. -/
def tagText (tag : String) : String :=
  let t := localTag tag
  if t.length ≥ 2 then "!" ++ tagContent (t.drop 1).toString else "!<" ++ tagContent t ++ ">"

/-- Whether a key can be written before `:` on one line: a one-line scalar of at most 128
bytes, or an empty collection. -/
def simpleKey : Yaml → Bool
  | .seq [] | .map [] => true
  | .seq _ | .map _ => false
  | .tagged t v => match scalarOf v with
    | some (s, _) => !(analyze s).multiline && (localTag t).utf8ByteSize + s.utf8ByteSize ≤ 128
    | none => simpleKey v
  | v => match scalarOf v with
    | some (s, _) => !(analyze s).multiline && s.utf8ByteSize ≤ 128
    | none => false

mutual
/-- Writes a value at a place, inside a block whose indentation is `indent` (-1 at the
root). -/
def writeNode (w : Writer) (indent : Int) (place : Place) : Yaml → Writer
  | .seq [] =>
    (w.indicator "[" true true false).indicator "]" false false false
  | .map [] =>
    (w.indicator "\x7b" true true false).indicator "\x7d" false false false
  | .seq items =>
    -- A sequence right after a mapping key, not on a line of its own, is not indented.
    let indentless := place.inMapping && !w.indention
    let inner : Int := if indent < 0 then 0 else if indentless then indent else indent + 2
    writeItems w inner items
  | .map entries =>
    let inner : Int := if indent < 0 then 0 else indent + 2
    writeEntries w inner entries
  | .tagged tag v =>
    writeNode (w.indicator (tagText tag) true false false) indent place v
  | .null => writeScalar w "null" .plain indent place
  | .bool b => writeScalar w (if b then "true" else "false") .plain indent place
  | .num n => writeScalar w (numberText n) .plain indent place
  | .str s => writeScalar w s (requestedStyle s) indent place

/-- Writes the items of a block sequence, one `-` line each. -/
def writeItems (w : Writer) (indent : Int) : List Yaml → Writer
  | [] => w
  | item :: rest =>
    let w := (w.indentTo indent).indicator "-" true false true
    writeItems (writeNode w indent { inSequence := true } item) indent rest

/-- Writes the entries of a block mapping: `key: value`, or `? key` and `: value` on lines of
their own for a key that cannot stand on one line. -/
def writeEntries (w : Writer) (indent : Int) : List (Yaml × Yaml) → Writer
  | [] => w
  | (k, v) :: rest =>
    let w := w.indentTo indent
    let w :=
      if simpleKey k then
        let w := writeNode w indent { inMapping := true, simpleKey := true } k
        writeNode (w.indicator ":" false false false) indent { inMapping := true } v
      else
        let w := writeNode (w.indicator "?" true false true) indent { inMapping := true } k
        let w := (w.indentTo indent).indicator ":" true false true
        writeNode w indent { inMapping := true } v
    writeEntries w indent rest
end

end MeshControl.YamlWriter

namespace MeshControl

/-- The YAML text of a value as one document, ending with a line break. -/
def Yaml.render (v : Yaml) : String :=
  let w := YamlWriter.writeNode {} (-1) { root := true } v
  let w := w.indentTo 0
  if w.openEnded == 2 then (w.indicator "..." true false false |>.indentTo 0).out else w.out

end MeshControl
