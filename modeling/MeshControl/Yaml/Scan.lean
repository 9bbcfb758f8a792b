import MeshControl.Yaml.Error

/-!
The tokens of a YAML text. The scanner reads characters left to right, tracking the block
indentation, the flow nesting and, per nesting level, the place where a simple key may have
begun: when a `:` follows such a place, the key token (and, in block context, the mapping
start) is inserted back where the key began. Tokens are produced on demand, so a problem late
in the text is met only when the reader gets there.
-/

namespace MeshControl.YamlSyntax

/-- Whether a character ends a line. -/
def isBreak (c : Char) : Bool :=
  c == '\r' || c == '\n' || c == '\x85' || c == '\u2028' || c == '\u2029'

/-- Whether a character is a space or a tab. -/
def isBlank (c : Char) : Bool := c == ' ' || c == '\t'

/-- The character that stands for the end of the text. -/
def endChar : Char := '\x00'

/-- Whether a character ends a line or the text. -/
def isBreakOrEnd (c : Char) : Bool := isBreak c || c == endChar

/-- Whether a character is blank or ends a line or the text. -/
def isBlankOrEnd (c : Char) : Bool := isBlank c || isBreakOrEnd c

/-- Letters, digits, `_` and `-`: the characters of anchors, tag handles and directive names. -/
def isWordChar (c : Char) : Bool := c.isAlphanum || c == '_' || c == '-'

/-- Whether a character is one of the characters of a text. -/
def isOneOf (chars : String) (c : Char) : Bool := chars.toList.contains c

/-- Whether a character is a hexadecimal digit. -/
def isHexChar (c : Char) : Bool := c.isDigit || ('a' ≤ c && c ≤ 'f') || ('A' ≤ c && c ≤ 'F')

/-- The value of a hexadecimal digit. -/
def hexValue (c : Char) : Nat :=
  if c.isDigit then c.toNat - 48 else if 'a' ≤ c && c ≤ 'f' then c.toNat - 87 else c.toNat - 55

/-- Whether a YAML text may hold a character: tab, line ends, printable ASCII, NEL and the
code points that are neither controls nor surrogates nor the two non-characters. -/
def isAllowed (c : Char) : Bool :=
  let v := c.toNat
  v == 0x09 || v == 0x0A || v == 0x0D || (0x20 ≤ v && v ≤ 0x7E) || v == 0x85 ||
    (0xA0 ≤ v && v ≤ 0xD7FF) || (0xE000 ≤ v && v ≤ 0xFFFD) || 0x10000 ≤ v

/-- How a scalar was written. -/
inductive ScalarStyle where
  | plain
  | singleQuoted
  | doubleQuoted
  | literal
  | folded
  deriving DecidableEq, Inhabited, Repr

/-- What a token is. -/
inductive TokenKind where
  | streamStart
  | streamEnd
  | versionDirective (major minor : Nat)
  | tagDirective (handle pfx : String)
  | documentStart
  | documentEnd
  | blockSequenceStart
  | blockMappingStart
  | blockEnd
  | flowSequenceStart
  | flowSequenceEnd
  | flowMappingStart
  | flowMappingEnd
  | blockEntry
  | flowEntry
  | key
  | value
  | alias (name : String)
  | anchor (name : String)
  | tag (handle suffix : String)
  | scalar (text : String) (style : ScalarStyle)
  deriving DecidableEq, Inhabited, Repr

/-- A token with the places where it starts and ends. -/
structure Token where
  kind : TokenKind
  start : Mark
  stop : Mark
  deriving Inhabited

/-- A place where a simple key may have begun: whether it still may, whether it must (a block
key at the indentation column), and the number its key token would get. -/
structure SimpleKey where
  possible : Bool
  required : Bool
  tokenNumber : Nat
  mark : Mark
  deriving Inhabited

/-- No simple key. -/
def SimpleKey.none : SimpleKey := ⟨false, false, 0, ⟨0, 0, 0⟩⟩

/-- The scanner: the text, the current place, the tokens produced but not yet taken, and the
indentation, flow and simple-key bookkeeping. -/
structure Scanner where
  input : Array Char
  mark : Mark := ⟨0, 0, 0⟩
  queue : List Token := []
  taken : Nat := 0
  started : Bool := false
  ended : Bool := false
  flowLevel : Nat := 0
  indent : Int := -1
  indents : List Int := []
  keyAllowed : Bool := false
  keys : List SimpleKey := []

/-- The text gathered while reading a scalar: the text so far, the pending first line break,
the breaks and the blanks after it, and whether the scalar is past a line break. -/
structure Folding where
  text : String := ""
  leadingBreak : String := ""
  trailingBreaks : String := ""
  whitespaces : String := ""
  leadingBlanks : Bool := false

/-- Folds pending blanks into the text: a single line break becomes a space unless more
breaks follow it, other breaks are kept, and blanks within a line are kept. -/
def Folding.join (f : Folding) : Folding :=
  if f.leadingBlanks then
    if f.leadingBreak.startsWith "\n" then
      if f.trailingBreaks.isEmpty then { f with text := f.text ++ " ", leadingBreak := "" }
      else { f with text := f.text ++ f.trailingBreaks, leadingBreak := "", trailingBreaks := "" }
    else
      { f with text := f.text ++ f.leadingBreak ++ f.trailingBreaks, leadingBreak := "",
               trailingBreaks := "" }
  else { f with text := f.text ++ f.whitespaces, whitespaces := "" }

/-- The character of a one-letter escape in a double-quoted scalar, or the number of hex
digits of a code escape. -/
def escapeOf (c : Char) : Option (Sum Char Nat) :=
  match c with
  | '0' => some (.inl '\x00')
  | 'a' => some (.inl '\x07')
  | 'b' => some (.inl '\x08')
  | 't' => some (.inl '\t')
  | '\t' => some (.inl '\t')
  | 'n' => some (.inl '\n')
  | 'v' => some (.inl '\x0b')
  | 'f' => some (.inl '\x0c')
  | 'r' => some (.inl '\r')
  | 'e' => some (.inl '\x1b')
  | ' ' => some (.inl ' ')
  | '"' => some (.inl '"')
  | '/' => some (.inl '/')
  | '\\' => some (.inl '\\')
  | 'N' => some (.inl '\x85')
  | '_' => some (.inl '\xa0')
  | 'L' => some (.inl '\u2028')
  | 'P' => some (.inl '\u2029')
  | 'x' => some (.inr 2)
  | 'u' => some (.inr 4)
  | 'U' => some (.inr 8)
  | _ => none

/-- Whether a character may stand in a tag URI; `,`, `[` and `]` only inside `!<...>`. -/
def isUriChar (verbatim : Bool) (c : Char) : Bool :=
  isWordChar c || isOneOf ";/?:@&=+$.%!~*'()" c || (verbatim && (c == ',' || c == '[' || c == ']'))

/-- The length of a UTF-8 sequence from its first byte, zero for a byte that cannot start one. -/
def utf8Width (octet : Nat) : Nat :=
  if octet < 0x80 then 1
  else if octet / 32 == 6 then 2
  else if octet / 16 == 14 then 3
  else if octet / 8 == 30 then 4
  else 0

namespace Scanner

/-- A scanner at the start of a text. The text is known to be UTF-8, so a leading
byte-order mark is no encoding mark: it is skipped like any mark at the start of a line, as
one column. -/
def ofString (text : String) : Scanner :=
  { input := text.toList.toArray }

/-- The character `k` places ahead, or the end character past the text. -/
def peekAt (s : Scanner) (k : Nat) : Char := s.input.getD (s.mark.index + k) endChar

/-- The current character. -/
def cur (s : Scanner) : Char := s.peekAt 0

/-- Moves past one character of the current line. -/
def skip (s : Scanner) : Scanner :=
  { s with mark := ⟨s.mark.index + 1, s.mark.line, s.mark.column + 1⟩ }

/-- Moves past `k` characters of the current line. -/
def skipN (s : Scanner) : Nat → Scanner
  | 0 => s
  | k + 1 => (s.skip).skipN k

/-- Moves past a line break; CR LF counts as one. -/
def skipLine (s : Scanner) : Scanner :=
  if s.cur == '\r' && s.peekAt 1 == '\n' then
    { s with mark := ⟨s.mark.index + 2, s.mark.line + 1, 0⟩ }
  else if isBreak s.cur then { s with mark := ⟨s.mark.index + 1, s.mark.line + 1, 0⟩ }
  else s

/-- Reads a line break: CR, LF, CR LF and NEL read as a newline, the other breaks as
themselves. -/
def readBreak (s : Scanner) : String × Scanner :=
  let c := s.cur
  if c == '\r' || c == '\n' || c == '\x85' then ("\n", s.skipLine)
  else if isBreak c then (String.singleton c, s.skipLine)
  else ("", s)

/-- The characters left in the text, a bound on every scanning loop. -/
def left (s : Scanner) : Nat := s.input.size - s.mark.index + 1

/-- Skips characters while they pass a test. -/
def skipWhile (p : Char → Bool) (s : Scanner) : Scanner :=
  let rec go : Nat → Scanner → Scanner
    | 0, s => s
    | n + 1, s => if p s.cur && s.cur != endChar then go n s.skip else s
  go s.left s

/-- Reads characters while they pass a test. -/
def readWhile (p : Char → Bool) (s : Scanner) : String × Scanner :=
  let rec go : Nat → String → Scanner → String × Scanner
    | 0, acc, s => (acc, s)
    | n + 1, acc, s => if p s.cur && s.cur != endChar then go n (acc.push s.cur) s.skip else (acc, s)
  go s.left "" s

/-- Appends a token. -/
def push (s : Scanner) (kind : TokenKind) (start stop : Mark) : Scanner :=
  { s with queue := s.queue ++ [⟨kind, start, stop⟩] }

/-- Inserts a token at a position of the queue. -/
def insertAt (s : Scanner) (i : Nat) (t : Token) : Scanner :=
  { s with queue := s.queue.take i ++ t :: s.queue.drop i }

/-- A problem at the current place, within an optional construct begun elsewhere. -/
def problem (s : Scanner) (context : Option (String × Mark)) (text : String) : YamlError :=
  .malformed text s.mark context

/-- The error of a simple key that never met its `:`. -/
def keyError (s : Scanner) (k : SimpleKey) : YamlError :=
  s.problem (some ("while scanning a simple key", k.mark)) "could not find expected ':'"

/-- Whether a document marker (`---` or `...` and a blank) starts at the current place. -/
def atDocumentMarker (s : Scanner) : Bool :=
  s.mark.column == 0 &&
    ((s.cur == '-' && s.peekAt 1 == '-' && s.peekAt 2 == '-') ||
      (s.cur == '.' && s.peekAt 1 == '.' && s.peekAt 2 == '.')) && isBlankOrEnd (s.peekAt 3)

/-- Gives up the simple keys that can no longer be keys: begun on an earlier line or more than
1024 characters back. A required one is an error. -/
def staleKeys (s : Scanner) : Except YamlError Scanner := do
  let keys ← s.keys.mapM fun k =>
    if k.possible && (k.mark.line < s.mark.line || k.mark.index + 1024 < s.mark.index) then
      if k.required then throw (s.keyError k) else pure { k with possible := false }
    else pure k
  return { s with keys }

/-- Drops the simple key of the current level; a required one is an error. -/
def removeKey (s : Scanner) : Except YamlError Scanner :=
  match s.keys with
  | k :: rest =>
    if k.possible && k.required then .error (s.keyError k)
    else .ok { s with keys := { k with possible := false } :: rest }
  | [] => .ok s

/-- Records that a simple key may begin here, when one is allowed. -/
def saveKey (s : Scanner) : Except YamlError Scanner := do
  if s.keyAllowed then
    let required := s.flowLevel == 0 && s.indent == (s.mark.column : Int)
    let key : SimpleKey := ⟨true, required, s.taken + s.queue.length, s.mark⟩
    let s ← s.removeKey
    return { s with keys := key :: s.keys.tail }
  else return s

/-- Enters a flow collection. -/
def enterFlow (s : Scanner) : Scanner :=
  { s with keys := SimpleKey.none :: s.keys, flowLevel := s.flowLevel + 1 }

/-- Leaves a flow collection. -/
def leaveFlow (s : Scanner) : Scanner :=
  if s.flowLevel > 0 then { s with flowLevel := s.flowLevel - 1, keys := s.keys.tail } else s

/-- In block context, opens a block collection when a column is deeper than the current
indentation; the start token goes at the end of the queue or before a given token number. -/
def rollIndent (s : Scanner) (column : Nat) (number : Option Nat) (kind : TokenKind)
    (mark : Mark) : Scanner :=
  if s.flowLevel == 0 && s.indent < (column : Int) then
    let s := { s with indents := s.indent :: s.indents, indent := column }
    match number with
    | none => s.push kind mark mark
    | some n => s.insertAt (n - s.taken) ⟨kind, mark, mark⟩
  else s

/-- In block context, closes every block collection deeper than a column. -/
def unrollIndent (s : Scanner) (column : Int) : Scanner :=
  -- Each round pops one indentation, so the stack itself bounds the rounds.
  let rec go : List Int → Scanner → Scanner
    | [], s => s
    | _ :: rest, s =>
      if s.flowLevel == 0 && s.indent > column then
        let s := s.push .blockEnd s.mark s.mark
        go rest { s with indent := s.indents.headD (-1), indents := s.indents.tail }
      else s
  go s.indents s

/-- Skips blanks, comments and line breaks up to the next token. A tab counts as a blank only
in flow context or where no simple key may start; a line break in block context allows one. -/
def skipToToken (s : Scanner) : Scanner :=
  let rec go : Nat → Scanner → Scanner
    | 0, s => s
    | n + 1, s =>
      let s := if s.mark.column == 0 && s.cur == '\uFEFF' then s.skip else s
      let tabs := s.flowLevel > 0 || !s.keyAllowed
      let s := s.skipWhile (fun c => c == ' ' || (tabs && c == '\t'))
      let s := if s.cur == '#' then s.skipWhile (fun c => !isBreakOrEnd c) else s
      if isBreak s.cur then
        let s := s.skipLine
        go n (if s.flowLevel == 0 then { s with keyAllowed := true } else s)
      else s
  go s.left s

/-- The stream-start token, with the bookkeeping of an empty stream. -/
def streamStart (s : Scanner) : Scanner :=
  ({ s with started := true, keyAllowed := true, indent := -1, keys := [SimpleKey.none] }).push
    .streamStart s.mark s.mark

/-- The stream-end token: on a fresh line, after closing every block collection. -/
def streamEnd (s : Scanner) : Except YamlError Scanner := do
  let s := if s.mark.column != 0 then
      { s with mark := { s.mark with line := s.mark.line + 1, column := 0 } }
    else s
  let s := s.unrollIndent (-1)
  let s ← s.removeKey
  return ({ s with keyAllowed := false, ended := true }).push .streamEnd s.mark s.mark

/-- A document marker, `---` or `...`, after closing every block collection. -/
def documentIndicator (s : Scanner) (kind : TokenKind) : Except YamlError Scanner := do
  let s := s.unrollIndent (-1)
  let s ← s.removeKey
  let s := { s with keyAllowed := false }
  let start := s.mark
  let s := s.skipN 3
  return s.push kind start s.mark

/-- `[` or `{`: a simple key may start at the bracket and just after it. -/
def flowStart (s : Scanner) (kind : TokenKind) : Except YamlError Scanner := do
  let s ← s.saveKey
  let s := { s.enterFlow with keyAllowed := true }
  let start := s.mark
  let s := s.skip
  return s.push kind start s.mark

/-- `]` or `}`. -/
def flowEnd (s : Scanner) (kind : TokenKind) : Except YamlError Scanner := do
  let s ← s.removeKey
  let s := { s.leaveFlow with keyAllowed := false }
  let start := s.mark
  let s := s.skip
  return s.push kind start s.mark

/-- `,` between flow entries. -/
def flowEntry (s : Scanner) : Except YamlError Scanner := do
  let s ← s.removeKey
  let s := { s with keyAllowed := true }
  let start := s.mark
  let s := s.skip
  return s.push .flowEntry start s.mark

/-- `-` before a block sequence entry; in block context it may open the sequence. -/
def blockEntry (s : Scanner) : Except YamlError Scanner := do
  let s ← if s.flowLevel == 0 then
      if !s.keyAllowed then
        throw (s.problem none "block sequence entries are not allowed in this context")
      else pure (s.rollIndent s.mark.column none .blockSequenceStart s.mark)
    else pure s
  let s ← s.removeKey
  let s := { s with keyAllowed := true }
  let start := s.mark
  let s := s.skip
  return s.push .blockEntry start s.mark

/-- `?` before a complex key; in block context it may open the mapping. -/
def complexKey (s : Scanner) : Except YamlError Scanner := do
  let s ← if s.flowLevel == 0 then
      if !s.keyAllowed then throw (s.problem none "mapping keys are not allowed in this context")
      else pure (s.rollIndent s.mark.column none .blockMappingStart s.mark)
    else pure s
  let s ← s.removeKey
  let s := { s with keyAllowed := s.flowLevel == 0 }
  let start := s.mark
  let s := s.skip
  return s.push .key start s.mark

/-- The bookkeeping of a `:` after a complex key, or of one with no key before it. -/
def complexValue (s : Scanner) : Except YamlError Scanner := do
  let s ← if s.flowLevel == 0 then
      if !s.keyAllowed then throw (s.problem none "mapping values are not allowed in this context")
      else pure (s.rollIndent s.mark.column none .blockMappingStart s.mark)
    else pure s
  return { s with keyAllowed := s.flowLevel == 0 }

/-- `:` before a value. After a possible simple key it inserts the key token where the key
began (and, in block context, may open the mapping there). -/
def valueIndicator (s : Scanner) : Except YamlError Scanner := do
  let s ← match s.keys with
    | k :: rest =>
      if k.possible then
        let s := s.insertAt (k.tokenNumber - s.taken) ⟨.key, k.mark, k.mark⟩
        let s := s.rollIndent k.mark.column (some k.tokenNumber) .blockMappingStart k.mark
        pure { s with keys := { k with possible := false } :: rest, keyAllowed := false }
      else s.complexValue
    | [] => s.complexValue
  let start := s.mark
  let s := s.skip
  return s.push .value start s.mark

/-- `&name` or `*name`: an anchor or an alias. -/
def anchorOrAlias (s : Scanner) (isAlias : Bool) : Except YamlError Scanner := do
  let s ← s.saveKey
  let s := { s with keyAllowed := false }
  let start := s.mark
  let (name, s) := s.skip.readWhile isWordChar
  let c := s.cur
  let ends := isBlankOrEnd c || c == '?' || c == ':' || c == ',' || c == ']' || c == '}' ||
    c == '%' || c == '@' || c == '\x60'
  if name.isEmpty || !ends then
    throw (s.problem (some (if isAlias then "while scanning an alias" else "while scanning an anchor",
      start)) "did not find expected alphabetic or numeric character")
  return s.push (if isAlias then .alias name else .anchor name) start s.mark

/-- Reads a tag handle: `!`, `!!` or `!word!`; in a directive it must be one of these. -/
def tagHandle (s : Scanner) (directive : Bool) (start : Mark) : Except YamlError (String × Scanner) := do
  if s.cur != '!' then
    throw (s.problem (some (if directive then "while scanning a tag directive" else "while scanning a tag",
      start)) "did not find expected '!'")
  let (word, s) := s.skip.readWhile isWordChar
  if s.cur == '!' then return ("!" ++ word ++ "!", s.skip)
  if directive && !word.isEmpty then
    throw (s.problem (some ("while parsing a tag directive", start)) "did not find expected '!'")
  return ("!" ++ word, s)

/-- Reads a `%XX` escape of a tag URI: one UTF-8 sequence, one escaped byte at a time. -/
def uriEscape (s : Scanner) (context : String) (start : Mark) : Except YamlError (String × Scanner) :=
  let octetAt (s : Scanner) : Option Nat :=
    if s.cur == '%' && isHexChar (s.peekAt 1) && isHexChar (s.peekAt 2) then
      some (hexValue (s.peekAt 1) * 16 + hexValue (s.peekAt 2))
    else none
  let rec trailing : Nat → List UInt8 → Scanner → Except YamlError (List UInt8 × Scanner)
    | 0, acc, s => .ok (acc, s)
    | n + 1, acc, s =>
      match octetAt s with
      | none => .error (s.problem (some (context, start)) "did not find URI escaped octet")
      | some o =>
        if o / 64 != 2 then
          .error (s.problem (some (context, start)) "found an incorrect trailing UTF-8 octet")
        else trailing n (acc ++ [o.toUInt8]) (s.skipN 3)
  match octetAt s with
  | none => .error (s.problem (some (context, start)) "did not find URI escaped octet")
  | some o =>
    let width := utf8Width o
    if width == 0 then .error (s.problem (some (context, start)) "found an incorrect leading UTF-8 octet")
    else
      match trailing (width - 1) [o.toUInt8] (s.skipN 3) with
      | .error e => .error e
      | .ok (bytes, s) => .ok ((String.fromUTF8? (ByteArray.mk bytes.toArray)).getD "", s)

/-- Reads a tag URI after a head (whose first character is dropped); an empty one is an
error. -/
def tagUri (s : Scanner) (verbatim directive : Bool) (head : String) (start : Mark) :
    Except YamlError (String × Scanner) := do
  let context := if directive then "while parsing a %TAG directive" else "while parsing a tag"
  let rec go : Nat → String → Nat → Scanner → Except YamlError (String × Nat × Scanner)
    | 0, acc, count, s => .ok (acc, count, s)
    | n + 1, acc, count, s =>
      if isUriChar verbatim s.cur then
        if s.cur == '%' then
          match s.uriEscape context start with
          | .ok (piece, s) => go n (acc ++ piece) (count + 1) s
          | .error e => .error e
        else go n (acc.push s.cur) (count + 1) s.skip
      else .ok (acc, count, s)
  let (text, count, s) ← go s.left (String.ofList (head.toList.drop 1)) head.length s
  if count == 0 then throw (s.problem (some (context, start)) "did not find expected tag URI")
  return (text, s)

/-- A tag: `!<uri>`, `!handle!suffix`, `!suffix` or the lone `!`. -/
def tagToken (s : Scanner) : Except YamlError Scanner := do
  let s ← s.saveKey
  let s := { s with keyAllowed := false }
  let start := s.mark
  let (handle, suffix, s) ← if s.peekAt 1 == '<' then do
      let (suffix, s) ← (s.skipN 2).tagUri true false "" start
      if s.cur != '>' then
        throw (s.problem (some ("while scanning a tag", start)) "did not find the expected '>'")
      pure ("", suffix, s.skip)
    else do
      let (handle, s) ← s.tagHandle false start
      if handle.length > 1 && handle.endsWith "!" then
        let (suffix, s) ← s.tagUri false false "" start
        pure (handle, suffix, s)
      else
        let (suffix, s) ← s.tagUri false false handle start
        pure (if suffix.isEmpty then ("", "!", s) else ("!", suffix, s))
  if !isBlankOrEnd s.cur && (s.flowLevel == 0 || s.cur != ',') then
    throw (s.problem (some ("while scanning a tag", start)) "did not find expected whitespace or line break")
  return s.push (.tag handle suffix) start s.mark

/-- Reads the non-blank characters of a plain scalar up to an indicator that ends it, joining
the blanks before them. -/
def plainWord (start : Mark) : Nat → Scanner → Folding → Mark →
    Except YamlError (Scanner × Folding × Mark)
  | 0, s, f, e => .ok (s, f, e)
  | n + 1, s, f, e =>
    let c := s.cur
    let next := s.peekAt 1
    if isBlankOrEnd c then .ok (s, f, e)
    else if s.flowLevel > 0 && c == ':' && isOneOf ",?[]\x7b\x7d" next then
      .error (s.problem (some ("while scanning a plain scalar", start)) "found unexpected ':'")
    else if (c == ':' && isBlankOrEnd next) || (s.flowLevel > 0 && isOneOf ",[]\x7b\x7d" c) then
      .ok (s, f, e)
    else
      let f := if f.leadingBlanks || !f.whitespaces.isEmpty then { f.join with leadingBlanks := false } else f
      let s := s.skip
      plainWord start n s { f with text := f.text.push c } s.mark

/-- Reads the blanks and line breaks after a word of a plain scalar; a tab in the indentation
of a continuation line is an error. -/
def plainBlanks (start : Mark) (indent : Int) : Nat → Scanner → Folding →
    Except YamlError (Scanner × Folding)
  | 0, s, f => .ok (s, f)
  | n + 1, s, f =>
    let c := s.cur
    if isBlank c then
      if f.leadingBlanks && (s.mark.column : Int) < indent && c == '\t' then
        .error (s.problem (some ("while scanning a plain scalar", start))
          "found a tab character that violates indentation")
      else if f.leadingBlanks then plainBlanks start indent n s.skip f
      else plainBlanks start indent n s.skip { f with whitespaces := f.whitespaces.push c }
    else if isBreak c then
      let (b, s) := s.readBreak
      if f.leadingBlanks then plainBlanks start indent n s { f with trailingBreaks := f.trailingBreaks ++ b }
      else plainBlanks start indent n s { f with whitespaces := "", leadingBreak := b, leadingBlanks := true }
    else .ok (s, f)

/-- Reads the lines of a plain scalar until an indicator, a comment, a document marker or, in
block context, a line indented less than the scalar. -/
def plainLines (start : Mark) (indent : Int) : Nat → Scanner → Folding → Mark →
    Except YamlError (Scanner × Folding × Mark)
  | 0, s, f, e => .ok (s, f, e)
  | n + 1, s, f, e =>
    if s.atDocumentMarker || s.cur == '#' then .ok (s, f, e)
    else
      match plainWord start s.left s f e with
      | .error err => .error err
      | .ok (s, f, e) =>
        if !(isBlank s.cur || isBreak s.cur) then .ok (s, f, e)
        else
          match plainBlanks start indent s.left s f with
          | .error err => .error err
          | .ok (s, f) =>
            if s.flowLevel == 0 && (s.mark.column : Int) < indent then .ok (s, f, e)
            else plainLines start indent n s f e

/-- A plain scalar. A simple key may follow it only if it ran over a line break. -/
def plainScalar (s : Scanner) : Except YamlError Scanner := do
  let s ← s.saveKey
  let s := { s with keyAllowed := false }
  let start := s.mark
  let (s, f, e) ← plainLines start (s.indent + 1) s.left s {} start
  let s := s.push (.scalar f.text .plain) start e
  return if f.leadingBlanks then { s with keyAllowed := true } else s

/-- The value of `k` hex digits at the current place. -/
def hexDigitsValue (s : Scanner) (k : Nat) : Option Nat :=
  (List.range k).foldl (fun acc i => acc.bind fun v =>
    if isHexChar (s.peekAt i) then some (v * 16 + hexValue (s.peekAt i)) else none) (some 0)

/-- Reads the non-blank characters of a quoted scalar up to its closing quote, a blank or an
escaped line break, decoding escapes. -/
def quotedWord (single : Bool) (start : Mark) : Nat → Scanner → Folding →
    Except YamlError (Scanner × Folding)
  | 0, s, f => .ok (s, f)
  | n + 1, s, f =>
    let c := s.cur
    let next := s.peekAt 1
    let context := some ("while parsing a quoted scalar", start)
    if isBlankOrEnd c then .ok (s, f)
    else if single && c == '\'' && next == '\'' then
      quotedWord single start n (s.skipN 2) { f with text := f.text.push '\'' }
    else if c == (if single then '\'' else '"') then .ok (s, f)
    else if !single && c == '\\' && isBreak next then
      .ok (s.skip.skipLine, { f with leadingBlanks := true })
    else if !single && c == '\\' then
      match escapeOf next with
      | none => .error (s.problem context "found unknown escape character")
      | some (.inl ch) => quotedWord single start n (s.skipN 2) { f with text := f.text.push ch }
      | some (.inr k) =>
        let s := s.skipN 2
        match s.hexDigitsValue k with
        | none => .error (s.problem context "did not find expected hexadecimal number")
        | some v =>
          if (0xD800 ≤ v && v ≤ 0xDFFF) || v > 0x10FFFF then
            .error (s.problem context "found invalid Unicode character escape code")
          else quotedWord single start n (s.skipN k) { f with text := f.text.push (Char.ofNat v) }
    else quotedWord single start n s.skip { f with text := f.text.push c }

/-- Reads the blanks and line breaks inside a quoted scalar. -/
def quotedBlanks : Nat → Scanner → Folding → Scanner × Folding
  | 0, s, f => (s, f)
  | n + 1, s, f =>
    let c := s.cur
    if isBlank c then
      quotedBlanks n s.skip (if f.leadingBlanks then f else { f with whitespaces := f.whitespaces.push c })
    else if isBreak c then
      let (b, s) := s.readBreak
      if f.leadingBlanks then quotedBlanks n s { f with trailingBreaks := f.trailingBreaks ++ b }
      else quotedBlanks n s { f with whitespaces := "", leadingBreak := b, leadingBlanks := true }
    else (s, f)

/-- Reads the body of a quoted scalar, line by line, up to its closing quote. -/
def quotedLines (single : Bool) (start : Mark) : Nat → Scanner → Folding →
    Except YamlError (Scanner × Folding)
  | 0, s, f => .ok (s, f)
  | n + 1, s, f =>
    let context := some ("while scanning a quoted scalar", start)
    if s.atDocumentMarker then .error (s.problem context "found unexpected document indicator")
    else if s.cur == endChar then .error (s.problem context "found unexpected end of stream")
    else
      match quotedWord single start s.left s { f with leadingBlanks := false } with
      | .error e => .error e
      | .ok (s, f) =>
        if s.cur == (if single then '\'' else '"') then .ok (s, f)
        else
          let (s, f) := quotedBlanks s.left s f
          quotedLines single start n s f.join

/-- A single- or double-quoted scalar. -/
def quotedScalar (s : Scanner) (single : Bool) : Except YamlError Scanner := do
  let s ← s.saveKey
  let s := { s with keyAllowed := false }
  let start := s.mark
  let (s, f) ← quotedLines single start s.left s.skip {}
  let s := s.skip
  return s.push (.scalar f.text (if single then .singleQuoted else .doubleQuoted)) start s.mark

/-- Skips the indentation spaces of a block scalar line, up to a known indentation. -/
def skipIndent (indent : Nat) (s : Scanner) : Scanner :=
  let rec go : Nat → Scanner → Scanner
    | 0, s => s
    | n + 1, s => if (indent == 0 || s.mark.column < indent) && s.cur == ' ' then go n s.skip else s
  go s.left s

/-- Reads the indentation and empty lines before a line of a block scalar. When the
indentation is not yet known it becomes that of the deepest empty line or the first content
line, at least one more than the enclosing block. Returns the indentation, the breaks read
and the place after the last of them. -/
def blockBreaks (s : Scanner) (start : Mark) (indent : Nat) :
    Except YamlError (Nat × String × Mark × Scanner) :=
  let settle (maxIndent : Nat) : Nat :=
    if indent == 0 then max (max maxIndent (s.indent + 1).toNat) 1 else indent
  let rec go : Nat → Scanner → String → Nat → Mark → Except YamlError (Nat × String × Mark × Scanner)
    | 0, s, breaks, maxIndent, stop => .ok (settle maxIndent, breaks, stop, s)
    | n + 1, s, breaks, maxIndent, stop =>
      let s := skipIndent indent s
      let maxIndent := max maxIndent s.mark.column
      if (indent == 0 || s.mark.column < indent) && s.cur == '\t' then
        .error (s.problem (some ("while scanning a block scalar", start))
          "found a tab character where an indentation space is expected")
      else if isBreak s.cur then
        let (b, s) := s.readBreak
        go n s (breaks ++ b) maxIndent s.mark
      else .ok (settle maxIndent, breaks, stop, s)
  go s.left s "" 0 s.mark

/-- Reads the content lines of a block scalar at its indentation, folding line breaks between
plain lines when the scalar is folded. Returns the text, the last line break and the empty
lines after it. -/
def blockLines (literal : Bool) (start : Mark) (indent : Nat) : Nat → Scanner → String →
    String → String → Bool → Mark → Except YamlError (Scanner × String × String × String × Mark)
  | 0, s, text, lb, tb, _, stop => .ok (s, text, lb, tb, stop)
  | n + 1, s, text, lb, tb, leadingBlank, stop =>
    if s.mark.column == indent && s.cur != endChar then
      let trailingBlank := isBlank s.cur
      let text :=
        if !literal && lb.startsWith "\n" && !leadingBlank && !trailingBlank then
          (if tb.isEmpty then text ++ " " else text)
        else text ++ lb
      let text := text ++ tb
      let leadingBlank := isBlank s.cur
      let (line, s) := s.readWhile (fun c => !isBreakOrEnd c)
      let (b, s) := s.readBreak
      match s.blockBreaks start indent with
      | .error e => .error e
      | .ok (_, tb, stop, s) => blockLines literal start indent n s (text ++ line) b tb leadingBlank stop
    else .ok (s, text, lb, tb, stop)

/-- Reads the chomping (`+` keep, `-` strip) and indentation indicators of a block scalar,
in either order. -/
def blockIndicators (s : Scanner) (context : Option (String × Mark)) :
    Except YamlError (Int × Nat × Scanner) := do
  let chompOf (c : Char) : Int := if c == '+' then 1 else -1
  if s.cur == '+' || s.cur == '-' then
    let chomping := chompOf s.cur
    let s := s.skip
    if s.cur.isDigit then
      if s.cur == '0' then throw (s.problem context "found an indentation indicator equal to 0")
      return (chomping, s.cur.toNat - 48, s.skip)
    return (chomping, 0, s)
  else if s.cur.isDigit then
    if s.cur == '0' then throw (s.problem context "found an indentation indicator equal to 0")
    let increment := s.cur.toNat - 48
    let s := s.skip
    if s.cur == '+' || s.cur == '-' then return (chompOf s.cur, increment, s.skip)
    return (0, increment, s)
  else return (0, 0, s)

/-- A literal (`|`) or folded (`>`) block scalar. -/
def blockScalar (s : Scanner) (literal : Bool) : Except YamlError Scanner := do
  let s ← s.removeKey
  let s := { s with keyAllowed := true }
  let start := s.mark
  let context := some ("while scanning a block scalar", start)
  let (chomping, increment, s) ← s.skip.blockIndicators context
  let s := s.skipWhile isBlank
  let s := if s.cur == '#' then s.skipWhile (fun c => !isBreakOrEnd c) else s
  if !isBreakOrEnd s.cur then throw (s.problem context "did not find expected comment or line break")
  let s := if isBreak s.cur then s.skipLine else s
  let indent : Nat :=
    if increment > 0 then (if s.indent ≥ 0 then s.indent.toNat + increment else increment) else 0
  let (indent, tb, stop, s) ← s.blockBreaks start indent
  let (s, text, lb, tb, stop) ← blockLines literal start indent s.left s "" "" tb false stop
  let text := if chomping != -1 then text ++ lb else text
  let text := if chomping == 1 then text ++ tb else text
  return s.push (.scalar text (if literal then .literal else .folded)) start stop

/-- Reads a version number of a `%YAML` directive: at most nine digits. -/
def versionNumber (s : Scanner) (start : Mark) : Except YamlError (Nat × Scanner) := do
  let context := some ("while scanning a %YAML directive", start)
  let rec go : Nat → Nat → Nat → Scanner → Except YamlError (Nat × Nat × Scanner)
    | 0, v, count, s => .ok (v, count, s)
    | n + 1, v, count, s =>
      if s.cur.isDigit then
        if count + 1 > 9 then .error (s.problem context "found extremely long version number")
        else go n (v * 10 + (s.cur.toNat - 48)) (count + 1) s.skip
      else .ok (v, count, s)
  let (v, count, s) ← go s.left 0 0 s
  if count == 0 then throw (s.problem context "did not find expected version number")
  return (v, s)

/-- A directive line: `%YAML major.minor` or `%TAG handle prefix`. -/
def directive (s : Scanner) : Except YamlError Scanner := do
  let s := s.unrollIndent (-1)
  let s ← s.removeKey
  let s := { s with keyAllowed := false }
  let start := s.mark
  let context := some ("while scanning a directive", start)
  let (name, s) := s.skip.readWhile isWordChar
  if name.isEmpty then throw (s.problem context "could not find expected directive name")
  if !isBlankOrEnd s.cur then throw (s.problem context "found unexpected non-alphabetical character")
  let s ← if name == "YAML" then do
      let (major, s) ← (s.skipWhile isBlank).versionNumber start
      if s.cur != '.' then
        throw (s.problem (some ("while scanning a %YAML directive", start))
          "did not find expected digit or '.' character")
      let (minor, s) ← s.skip.versionNumber start
      pure (s.push (.versionDirective major minor) start s.mark)
    else if name == "TAG" then do
      let tagContext := some ("while scanning a %TAG directive", start)
      let (handle, s) ← (s.skipWhile isBlank).tagHandle true start
      if !isBlank s.cur then throw (s.problem tagContext "did not find expected whitespace")
      let (pfx, s) ← (s.skipWhile isBlank).tagUri true true "" start
      if !isBlankOrEnd s.cur then
        throw (s.problem tagContext "did not find expected whitespace or line break")
      pure (s.push (.tagDirective handle pfx) start s.mark)
    else throw (s.problem context "found unknown directive name")
  let s := s.skipWhile isBlank
  let s := if s.cur == '#' then s.skipWhile (fun c => !isBreakOrEnd c) else s
  if !isBreakOrEnd s.cur then throw (s.problem context "did not find expected comment or line break")
  return if isBreak s.cur then s.skipLine else s

/-- Produces the tokens that start at the next non-blank place. -/
def fetchNext (s : Scanner) : Except YamlError Scanner := do
  if !s.started then return s.streamStart
  let s := s.skipToToken
  let s ← s.staleKeys
  let s := s.unrollIndent s.mark.column
  let c := s.cur
  let next := s.peekAt 1
  if c == endChar then s.streamEnd
  else if s.mark.column == 0 && c == '%' then s.directive
  else if s.atDocumentMarker && c == '-' then s.documentIndicator .documentStart
  else if s.atDocumentMarker then s.documentIndicator .documentEnd
  else if c == '[' then s.flowStart .flowSequenceStart
  else if c == '{' then s.flowStart .flowMappingStart
  else if c == ']' then s.flowEnd .flowSequenceEnd
  else if c == '}' then s.flowEnd .flowMappingEnd
  else if c == ',' then s.flowEntry
  else if c == '-' && isBlankOrEnd next then s.blockEntry
  else if c == '?' && (s.flowLevel > 0 || isBlankOrEnd next) then s.complexKey
  else if c == ':' && (s.flowLevel > 0 || isBlankOrEnd next) then s.valueIndicator
  else if c == '*' then s.anchorOrAlias true
  else if c == '&' then s.anchorOrAlias false
  else if c == '!' then s.tagToken
  else if c == '|' && s.flowLevel == 0 then s.blockScalar true
  else if c == '>' && s.flowLevel == 0 then s.blockScalar false
  else if c == '\'' then s.quotedScalar true
  else if c == '"' then s.quotedScalar false
  else if !(isBlankOrEnd c || isOneOf "-?:,[]\x7b\x7d#&*!|>'\"%@" c || c == '\x60') ||
      (c == '-' && !isBlank next) ||
      (s.flowLevel == 0 && (c == '?' || c == ':') && !isBlankOrEnd next) then
    s.plainScalar
  else
    throw (s.problem (some ("while scanning for the next token", s.mark))
      "found character that cannot start any token")

/-- Produces tokens until the first one waiting is settled: there is one, and no simple key
could still turn into a key token placed before it. -/
def fetchMore (s : Scanner) : Except YamlError Scanner :=
  let rec go : Nat → Scanner → Except YamlError Scanner
    | 0, s => .ok s
    | n + 1, s =>
      let waiting := s.queue.isEmpty || s.keys.any (fun k => k.possible && k.tokenNumber == s.taken)
      if waiting && !s.ended then
        match s.fetchNext with
        | .ok s => go n s
        | .error e => .error e
      else .ok s
  go (4 * s.input.size + 16) s

/-- The next token, produced if needed. -/
def peek (s : Scanner) : Except YamlError (Token × Scanner) := do
  let s ← s.fetchMore
  match s.queue with
  | t :: _ => return (t, s)
  | [] => return (⟨.streamEnd, s.mark, s.mark⟩, s)

/-- Takes the first token off the queue. -/
def next (s : Scanner) : Scanner := { s with queue := s.queue.tail, taken := s.taken + 1 }

end Scanner

end MeshControl.YamlSyntax
