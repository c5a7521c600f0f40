import FeatureSheets.Discovery.Basic
import FeatureSheets.Platform

/-!
# Scanning directories

A scan walks each root and everything below it, links followed, and keeps the regular files that
have a name before the extension `feature`. A root that cannot be read ends the scan; anything
deeper that cannot be read is counted and passed over, and so is a link to a directory that the
walk is inside of. Only links are looked at for that: a directory that the walk comes by again on
its way down from a link is walked again. The documents found are put in the order of their
paths, and of equal paths the first is kept.
-/

namespace FeatureSheets

/-- The extension of documents. -/
def featureExtension : Text := "feature".toList

/-- The document at a path that was reached from a root, if it is the path of a document. -/
def FeatureFile.ofPath? (root p : Path) : Option FeatureFile :=
  if p.extension? = some featureExtension then
    p.stem?.map fun stem => ⟨p, stem, (Path.below? root p).getD p⟩
  else none

namespace Discovery

/-- The documents without those at the same place as `last`, or as the one before them. -/
def dropRepeatsAfter (last : FeatureFile) : List FeatureFile → List FeatureFile
  | [] => []
  | f :: rest =>
    if f.path.same last.path then dropRepeatsAfter last rest else f :: dropRepeatsAfter f rest

/-- The documents without those at the same place as the one before them. -/
def dropRepeats : List FeatureFile → List FeatureFile
  | [] => []
  | f :: rest => f :: dropRepeatsAfter f rest

/-- The documents in the order of their paths, each place once. -/
def arrange (features : List FeatureFile) : List FeatureFile :=
  dropRepeats (features.mergeSort fun a b => a.path.le b.path)

/-! ## Walking -/

/-- What a walk meets: a regular file, or something that it cannot go on with. -/
abbrev Find := Except WalkFault Path

variable {m : Type → Type} [Monad m] [Platform m]

/-- The directories that a walk is inside of, the innermost first, with their identities. -/
abbrev Way := List (Path × Text)

/-- Turns to a directory: `walk` goes on in it. A directory that a link leads to must not be on
the way yet. -/
def enter (isLink : Bool) (way : Way) (p : Path) (walk : Way → m (List Find)) :
    m (List Find) := do
  match ← Platform.identity p with
  | .error fault => return [.error (.unreadable p fault)]
  | .ok id =>
    match if isLink then way.find? (fun w => w.2 == id) else none with
    | some (ancestor, _) => return [.error (.loop p ancestor)]
    | none => walk ((p, id) :: way)

/-- Looks at an entry with the path `p`: a file is met, a directory entered. -/
def visit (way : Way) (p : Path) (kind : EntryKind) (walk : Way → m (List Find)) :
    m (List Find) := do
  match kind with
  | .kind k => meets false k
  | .link =>
    match ← Platform.kind p with
    | .error fault => return [.error (.unreadable p fault)]
    | .ok k => meets true k
where
  /-- What the walk does at a file of a kind. -/
  meets (isLink : Bool) : FileKind → m (List Find)
    | .file => return [.ok p]
    | .other => return []
    | .directory => enter isLink way p walk

/-- Walks what a directory holds, `depth` levels of it. -/
def walkBelow : (depth : Nat) → Way → Path → m (List Find)
  | 0, _, _ => return []
  | depth + 1, way, dir => do
    match ← Platform.children dir with
    | .error fault => return [.error (.unreadable dir fault)]
    | .ok entries =>
      let finds ← entries.mapM fun e =>
        let p := dir.join ⟨e.name⟩
        visit way p e.kind fun way => walkBelow depth way p
      return finds.flatten

/-- Walks a root. Every level makes the paths longer, so there are no more levels than bytes of a
path. -/
def walkRoot (root : Path) : Operation m (List Find) := do
  let ask {α : Type} (x : m (Except FileFault α)) : Operation m α :=
    Operation.ask (fun fault => .walk (.unreadable root fault)) x
  match ← ask (Platform.kind root) with
  | .file => return [.ok root]
  | .other => return []
  | .directory =>
    let id ← ask (Platform.identity root)
    let _ ← ask (Platform.children root)
    ExceptT.lift (walkBelow Path.maxBytes [(root, id)] root)

/-! ## Scanning -/

/-- What there is to say about a walk from a root: everything that was passed over. -/
def skipNotes (root : Path) (finds : List Find) : List Note :=
  finds.filterMap fun
    | .ok _ => none
    | .error fault => some ⟨.warn, .scanner, "skipping unreadable entry under '".toList ++
        root.text ++ "': ".toList ++ fault.message⟩

/-- The documents that a walk from a root met. -/
def featuresOf (root : Path) (finds : List Find) : List FeatureFile :=
  finds.filterMap fun
    | .ok p => FeatureFile.ofPath? root p
    | .error _ => none

/-- Walks the roots in turn: the documents met, and the number of entries passed over. -/
def walkRoots : List Path → Operation m (List FeatureFile × Nat)
  | [] => return ([], 0)
  | root :: rest => do
    let finds ← walkRoot root
    let skipped := skipNotes root finds
    Operation.sayAll skipped
    let (features, count) ← walkRoots rest
    return (featuresOf root finds ++ features, skipped.length + count)

/-- Scans the roots for documents. -/
def scan (roots : List Path) : Operation m Discovery := do
  let (features, skipped) ← walkRoots roots
  return ⟨roots, arrange features, .ofNat skipped⟩

end Discovery

end FeatureSheets
