import FeatureSheets.Csv.Writer
import FeatureSheets.Export.FileName
import FeatureSheets.Store

/-!
# Writing sheets

An export makes its directory, writes the sheets in the format that is asked for, and leaves a
manifest of what it wrote. An error ends the export; what is written before it stays, and the
manifest is written last.
-/

namespace FeatureSheets

/-- The file name of manifests. -/
def manifestFile : Path := .ofString "manifest.json"

/-- The file name of all sheets in one. -/
def workbookFile : Path := .ofString "sheets.json"

/-- What an export says about where its sheets come from. -/
structure ExportSource where
  /-- The title of the document. -/
  feature : Text
  /-- The path of the document, if it is a file. -/
  path : Option Path
  deriving DecidableEq

/-- The result of an export. -/
structure ExportResult where
  /-- The files that were written, the manifest last. -/
  filesWritten : List Path
  /-- The manifest. -/
  manifest : Manifest
  deriving DecidableEq

variable {m : Type → Type} [Monad m] [Platform m]

/-- Whether a path leads to a directory. -/
def isDirectory (p : Path) : m Bool := do
  match ← Platform.kind p with
  | .ok .directory => return true
  | _ => return false

/-- Makes a directory that may be there already; what else goes wrong is handed to `handle`. -/
def makeDirectoryOr (p : Path) (handle : FileFault → m (Except FileFault Unit)) :
    m (Except FileFault Unit) := do
  match ← Platform.makeDirectory p with
  | .ok () => return .ok ()
  | .error fault => if fault ≠ .missing ∧ (← isDirectory p) then return .ok () else handle fault

/-- Makes the first of a list of directories, each inside the next, making the next where it is
missing. -/
def makeDirectories : List Path → m (Except FileFault Unit)
  | [] => return .ok ()
  | p :: outer =>
    makeDirectoryOr p fun
      | .missing => do
        match ← makeDirectories outer with
        | .error fault => return .error fault
        | .ok () => makeDirectoryOr p fun fault => return .error fault
      | fault => return .error fault

/-- A path, and the directories that it lies in from the inside out. -/
def Path.chain (p : Path) : List Path :=
  match p.components with
  | [] => []
  | parts =>
    p :: (List.range' 1 (parts.length - 1)).reverse.map fun n => ofComponents (parts.take n)

/-- Writes a sheet to a file of comma-separated values. -/
def Sheet.writeCsv (s : Sheet) (p : Path) : Operation m Unit := do
  let (text, unequal) := Csv.write s.rows
  Operation.ask (.sheetFile p) (Platform.writeFile p (Text.Utf8.encode text))
  match unequal with
  | some u => throw (.unequalRows p u.found u.previous)
  | none =>
    Operation.say .debug .writer ("wrote sheet '".toList ++ s.name ++ "' to ".toList ++ p.text)

/-- Writes sheets to the files chosen for them. -/
def writeChosen (dir : Path) :
    List (Sheet × Except Error FileName.Choice) → Operation m (List (Path × ManifestEntry))
  | [] => return []
  | (_, .error e) :: _ => throw e
  | (s, .ok choice) :: rest => do
    if choice.chosen ≠ choice.wanted then
      Operation.say .warn .writer ("file name '".toList ++ choice.wanted ++
        ".csv' already used, writing '".toList ++ choice.file ++ ['\''])
    let file : Path := ⟨choice.file⟩
    s.writeCsv (dir.join file)
    return (dir.join file, .ofSheet file s) :: (← writeChosen dir rest)

/-- Writes each sheet to a file of its own. -/
def writeCsvFiles (sheets : List Sheet) (dir : Path) : Operation m (List (Path × ManifestEntry)) :=
  writeChosen dir (sheets.zip (FileName.choices (sheets.map Sheet.name)))

/-- The text of all sheets in one. -/
def workbookText (sheets : List Sheet) : Text :=
  Json.write sheets ++ ['\n']

/-- Writes all sheets to one file. -/
def writeWorkbook (sheets : List Sheet) (dir : Path) : Operation m (Path × List ManifestEntry) := do
  let p := dir.join workbookFile
  writeText p (workbookText sheets)
  return (p, sheets.map (.ofSheet workbookFile))

/-- Writes the files of the sheets: the paths, and what the manifest says about them. -/
def writeFiles (sheets : List Sheet) (dir : Path) :
    OutputFormat → Operation m (List Path × List ManifestEntry)
  | .csv => do
    let written ← writeCsvFiles sheets dir
    return (written.map Prod.fst, written.map Prod.snd)
  | .json => do
    let (p, entries) ← writeWorkbook sheets dir
    return ([p], entries)

/-- Exports sheets to a directory. -/
def writeSheets (sheets : List Sheet) (dir : Path) (format : OutputFormat)
    (source : ExportSource) : Operation m ExportResult := do
  Operation.ask .fileSystem (makeDirectories dir.chain)
  let (files, entries) ← writeFiles sheets dir format
  let now ← ExceptT.lift Platform.now
  let manifest : Manifest := ⟨now, source.path, source.feature, format, entries⟩
  let p := dir.join manifestFile
  saveJson p manifest
  return ⟨files ++ [p], manifest⟩

end FeatureSheets
