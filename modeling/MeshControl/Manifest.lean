import MeshControl.Yaml.Load
import MeshControl.Resource.Object
import MeshControl.Error

/-!
Rendered manifest files. A file holds several YAML documents separated by `---` lines (a line
that is `---` up to trailing blanks, or starts with `--- `); only `.yaml` files are applied.
Each document is read on its own, so a broken one does not hide its siblings: empty documents
are skipped, and a document that is not a mapping or not an object is an error that names
the file and the document's position.
-/

namespace MeshControl

/-- One rendered file of a component. -/
structure Manifest where
  name : String
  content : String
  deriving Inhabited

/-- Whether a character is Unicode white space. -/
def isWhiteSpace (c : Char) : Bool :=
  let v := c.toNat
  c == ' ' || (0x09 ≤ v && v ≤ 0x0D) || v == 0x85 || v == 0xA0 || v == 0x1680 ||
    (0x2000 ≤ v && v ≤ 0x200A) || v == 0x2028 || v == 0x2029 || v == 0x202F || v == 0x205F ||
    v == 0x3000

/-- The lines of a text, each with its line feed; the last may lack one. -/
def linesWithBreaks (text : String) : List String :=
  let rec go : List Char → List Char → List String
    | [], [] => []
    | [], current => [String.ofList current.reverse]
    | '\n' :: rest, current => String.ofList ('\n' :: current).reverse :: go rest []
    | c :: rest, current => go rest (c :: current)
  go text.toList []

/-- Whether a line separates documents. -/
def isSeparator (line : String) : Bool :=
  let trimmed := (line.toList.reverse.dropWhile isWhiteSpace).reverse
  trimmed == ['-', '-', '-'] || trimmed.take 4 == ['-', '-', '-', ' ']

namespace Manifest

/-- Only `.yaml` files are reconciled; notes and helpers are skipped. -/
def isYaml (m : Manifest) : Bool := m.name.endsWith ".yaml"

/-- The raw documents of the file, in order; separator lines belong to none. -/
def documents (m : Manifest) : List String :=
  let (done, current) := (linesWithBreaks m.content).foldl
    (fun (done, current) line =>
      if isSeparator line then (done ++ [current], "") else (done, current ++ line))
    ([], "")
  done ++ [current]

/-- Reads one document through its tag, if it has one: none when it is null, an object when it
is a mapping that is one. -/
def decodeDocument (raw : String) : Except Error (Option Object) :=
  match (Yaml.parse raw).map Yaml.untagged with
  | .error e => .error (.yaml e)
  | .ok .null => .ok none
  | .ok (.map entries) =>
    match Object.decode (.map entries) with
    | .ok o => .ok (some o)
    | .error e => .error (.yaml (.decode e))
  | .ok _ => .error (.manifest "document is not a YAML mapping")

/-- The decoded non-empty documents, each an object or the error that names its document. -/
def objects (m : Manifest) : List (Except Error Object) :=
  let numbered := (List.range m.documents.length).zip m.documents
  numbered.filterMap fun (i, raw) =>
    match decodeDocument raw with
    | .ok none => none
    | .ok (some o) => some (.ok o)
    | .error e =>
      some (.error (.manifest (m.name ++ " (document " ++ toString (i + 1) ++ "): " ++ e.message)))

end Manifest

end MeshControl
