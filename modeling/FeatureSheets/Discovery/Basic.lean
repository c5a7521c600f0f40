import FeatureSheets.Error
import FeatureSheets.Text.Lower

/-!
# Discovered features

What a scan of directories finds, and the plan of where each document is exported to. Every
document has a directory of its own below the output directory, at the place that it has below
its root. Directories whose names agree in lower case are one; the first document of the scan
gets it, and every later one is told who did.
-/

namespace FeatureSheets

/-- A document found by a scan. -/
structure FeatureFile where
  /-- The path of the document. -/
  path : Path
  /-- The file name without its extension. -/
  stem : Text
  /-- The path below the root of the scan. -/
  relative : Path
  deriving DecidableEq

/-- The directory below `base` that a document is exported to. -/
def FeatureFile.exportDir (base : Path) (f : FeatureFile) : Path :=
  base.join f.relative.withoutExtension

/-- The result of a scan. -/
structure Discovery where
  /-- The directories that were scanned. -/
  roots : List Path
  /-- The documents, in the order of their paths. -/
  features : List FeatureFile
  /-- The number of entries that could not be read. -/
  skipped : UInt64
  deriving DecidableEq

namespace Discovery

/-- The number of documents. -/
def total (d : Discovery) : Nat :=
  d.features.length

/-- The first document with this stem. -/
def find? (d : Discovery) (stem : Text) : Option FeatureFile :=
  d.features.find? fun f => f.stem == stem

/-- What two directories have in common when they are taken for one. -/
def claimKey (dir : Path) : Text :=
  Text.lower dir.text

/-- The plan for documents that come after those with the directories `claimed`. -/
def planFrom (base : Path) (claimed : List (Text × Path)) :
    List FeatureFile → List (FeatureFile × Except Error Path)
  | [] => []
  | f :: rest =>
    let dir := f.exportDir base
    match claimed.lookup (claimKey dir) with
    | some existing =>
      (f, .error (.outputCollision f.path existing dir)) :: planFrom base claimed rest
    | none => (f, .ok dir) :: planFrom base ((claimKey dir, f.path) :: claimed) rest

/-- Where each document is exported to below `base`, in order. -/
def exportPlan (d : Discovery) (base : Path) : List (FeatureFile × Except Error Path) :=
  planFrom base [] d.features

end Discovery

end FeatureSheets
