import FeatureSheets.FileTree.Resolve

/-!
# Reading and changing a tree

The operations of a file system on a tree: reading and writing files, making directories and
links, and looking around. Each either answers or names its fault; a change gives the tree after
it.
-/

namespace FeatureSheets

namespace FileTree

/-- The content of a file. -/
def readFile (t : FileTree) (p : Path) : Except FileFault (List UInt8) := do
  match ← t.resolve .look p with
  | .file _ content slash => if slash then .error .notDirectory else .ok content
  | .directory _ => .error .isDirectory
  | .vacant .. | .link _ => .error .missing

/-- Writes a file, new or not. A link to nowhere makes the file it leads to. Neither the path nor
a link at its end may put a slash after the name of the file. -/
def writeFile (t : FileTree) (p : Path) (content : List UInt8) : Except FileFault FileTree := do
  match ← t.resolve .write p with
  | .file key _ _ => .ok (t.setContent key content)
  | .vacant dir name _ => .ok (t.insert dir name (.file content))
  | .directory _ | .link _ => .error .isDirectory

/-- Makes a directory in a directory. A link at the end of the path is in the way, wherever it
leads; slashes after the last name make no difference. -/
def makeDirectory (t : FileTree) (p : Path) : Except FileFault FileTree := do
  match ← t.resolve .make p with
  | .vacant dir name _ => .ok (t.insert dir name .directory)
  | .directory _ | .file .. | .link _ => .error .occupied

/-- Makes a link in a directory. Whether its target is there does not matter. -/
def makeLink (t : FileTree) (p target : Path) : Except FileFault FileTree := do
  if target.text = [] then .error .missing
  else if target.text.contains '\x00' then .error .nulInPath
  else if target.isTooLong then .error .tooLong
  else
    match ← t.resolve .make p with
    | .vacant dir name slash =>
      if slash then .error .missing else .ok (t.insert dir name (.link target))
    | .directory _ | .file .. | .link _ => .error .occupied

/-- What a path leads to. -/
def kind (t : FileTree) (p : Path) : Except FileFault FileKind := do
  match ← t.resolve .look p with
  | .directory _ => .ok .directory
  | .file _ _ slash => if slash then .error .notDirectory else .ok .file
  | .vacant .. | .link _ => .error .missing

/-- The entries of the directory that a path leads to. -/
def children (t : FileTree) (p : Path) : Except FileFault (List DirectoryEntry) := do
  match ← t.resolve .look p with
  | .directory key => .ok (t.entries key)
  | .file .. => .error .notDirectory
  | .vacant .. | .link _ => .error .missing

/-- The place of what a path leads to, whatever way the path takes. -/
def identity (t : FileTree) (p : Path) : Except FileFault Text := do
  match ← t.resolve .look p with
  | .directory key | .file key _ _ => .ok (Text.joinWith '/' key)
  | .vacant .. | .link _ => .error .missing

/-- The files below a directory that are reached without links, with their contents: depth
first, each directory in the order of its names, for at most `depth` levels. -/
def filesBelow (t : FileTree) (path : Path) : (depth : Nat) → Key → List (Path × List UInt8)
  | 0, _ => []
  | depth + 1, dir =>
    let sorted := ((t.entries dir).map DirectoryEntry.name).mergeSort fun a b =>
      decide (a.map Char.toNat ≤ b.map Char.toNat)
    sorted.flatMap fun name =>
      match t.get? (dir ++ [name]) with
      | some (.file content) => [(⟨path.text ++ '/' :: name⟩, content)]
      | some .directory => filesBelow t ⟨path.text ++ '/' :: name⟩ depth (dir ++ [name])
      | _ => []

/-- The files below the directory that a path leads to. Every level has a directory, so there
are no more levels than nodes. -/
def listing (t : FileTree) (p : Path) : List (Path × List UInt8) :=
  match t.resolve .look p with
  | .ok (.directory key) => t.filesBelow p (t.nodes.length + 1) key
  | _ => []

end FileTree

end FeatureSheets
