import MeshControl.Manifest
import MeshControl.Text.Quoted

/-!
Rendering a control plane's components from a tree of chart files. The charts of a version
live in the directory named after it; every directory below holding files is a component,
named by its path relative to the version directory, whose manifests are its files in name
order. Files directly in the version directory belong to no component.
-/

namespace MeshControl

/-- The bytes of a file, or its text when it is known to be text. -/
inductive FileBody where
  | text (content : String)
  | bytes (content : List UInt8)
  deriving Inhabited

/-- A tree of files: directories and files under paths given as their components. A
directory exists when listed or when it holds something. -/
structure FileTree where
  /-- The root's path as shown in errors. -/
  root : String
  dirs : List (List String) := []
  files : List (List String × FileBody) := []
  deriving Inhabited

/-- Splits a relative path into its components, dropping empty and `.` ones. -/
def pathComponents (path : String) : List String :=
  (path.splitOn "/").filter fun c => !c.isEmpty && c != "."

namespace FileTree

/-- Whether a path is a directory: listed, or a proper prefix of something listed. -/
def isDir (t : FileTree) (path : List String) : Bool :=
  (t.files.all fun (f, _) => f != path) &&
    (t.dirs.any (path.isPrefixOf ·) || t.files.any fun (f, _) => path.isPrefixOf f && f.length > path.length)

/-- The entries directly inside a directory: subdirectories and files, each by name, sorted
and without repeats. -/
def entries (t : FileTree) (dir : List String) : List String × List String :=
  let n := dir.length
  let below (p : List String) : Option String :=
    if dir.isPrefixOf p && p.length > n then p[n]? else none
  let files := t.files.filterMap fun (f, _) => if f.length == n + 1 then below f else none
  let subdirs := (t.dirs.filterMap below ++ t.files.filterMap fun (f, _) =>
      if f.length > n + 1 then below f else none).filter (!files.contains ·)
  let sortDedup (xs : List String) : List String :=
    (xs.mergeSort fun a b => decide (a ≤ b)).eraseDups
  (sortDedup subdirs, sortDedup files)

/-- A path under the root as shown in errors. -/
def display (t : FileTree) (path : List String) : String := "/".intercalate (t.root :: path)

/-- The text of a file; bytes that are not UTF-8 are an error naming the file. -/
def readText (t : FileTree) (path : List String) : Except Error String :=
  match t.files.find? (·.1 == path) with
  | some (_, .text s) => .ok s
  | some (_, .bytes bs) =>
    match String.fromUTF8? (ByteArray.mk bs.toArray) with
    | some s => .ok s
    | none => .error (.render (t.display path ++ ": stream did not contain valid UTF-8"))
  | none => .error (.render (t.display path ++ ": No such file or directory (os error 2)"))

/-- A bound on the number of directories of the tree: every one is a prefix of a listed
path. -/
def size (t : FileTree) : Nat :=
  t.dirs.foldl (fun n d => n + d.length) 0 + t.files.foldl (fun n f => n + f.1.length) 0 + 1

/-- Reads the components below a version directory, visiting directories depth first; a
directory with files becomes a component named by its path below `base`. -/
def components (t : FileTree) (base : List String) : Except Error (List (String × List Manifest)) :=
  let rec walk : Nat → List (List String) → List (String × List Manifest) →
      Except Error (List (String × List Manifest))
    | 0, _, acc => .ok acc
    | _ + 1, [], acc => .ok acc
    | fuel + 1, dir :: pending, acc => do
      let (subdirs, files) := t.entries dir
      let pending := (subdirs.map (dir ++ [·])).reverse ++ pending
      if dir == base || files.isEmpty then walk fuel pending acc
      else
        let manifests ← files.mapM fun f => do
          return (⟨f, ← t.readText (dir ++ [f])⟩ : Manifest)
        let name := "/".intercalate (dir.drop base.length)
        walk fuel pending (acc ++ [(name, manifests)])
  do
    let found ← walk (t.size + 1) [base] []
    return found.mergeSort fun a b => decide (a.1 ≤ b.1)

end FileTree

/-- A version without the white space at its ends. -/
def trimVersion (v : String) : String :=
  String.ofList (((v.toList.dropWhile isWhiteSpace).reverse.dropWhile isWhiteSpace).reverse)

/-- The components of a chart version: a version that is empty, climbs out with `..` or
holds a `/` is refused, and a version without a directory has no charts. -/
def renderCharts (t : FileTree) (version : String) : Except Error (List (String × List Manifest)) := do
  let v := trimVersion version
  if v.isEmpty || (v.splitOn "..").length > 1 || v.contains '/' then
    throw (.render ("invalid control plane version " ++ Text.quoted version))
  let base := pathComponents v
  if !t.isDir base && !base.isEmpty then
    throw (.render ("no charts for version " ++ v ++ " under " ++ t.root))
  t.components base

end MeshControl
