import FeatureSheets.Cli.Command
import FeatureSheets.Discovery.Scan
import FeatureSheets.Export.Write
import FeatureSheets.Text.Quoted

/-!
# Running commands

What each command does and what it reports. A batch goes on after a document that fails; the
errors are listed at its end, and the batch itself succeeds.
-/

namespace FeatureSheets.Cli

variable {m : Type → Type} [Monad m] [Platform m]

open Operation (printLine)

/-- Writes lines to the standard output. -/
def printLines : List Text → Operation m Unit
  | [] => pure ()
  | line :: rest => do
    printLine line
    printLines rest

/-- Converts a document that has to have a scenario. -/
def convertChecked (config : SheetConfig) (file : Path) : Operation m Conversion := do
  let c ← Conversion.load config file
  if c.isEmpty then throw (.noScenarios file) else return c

/-- Exports a converted document. -/
def exportConversion (c : Conversion) (source output : Path) (format : OutputFormat) :
    Operation m ExportResult :=
  writeSheets c.sheets output format ⟨c.featureName, some source⟩

/-! ## Single documents -/

/-- Shows the rows of a document as JSON. -/
def runParse (file : Path) : Operation m Unit := do
  let feature ← Feature.load file
  printLine (Json.write feature.rows)

/-- Converts a document and lists what was written. -/
def runConvert (file output : Path) (format : Text) (config : Option Path) : Operation m Unit := do
  let format ← liftExcept (OutputFormat.ofName format)
  let config ← SheetConfig.loadOrStandard config
  let c ← convertChecked config file
  let result ← exportConversion c file output format
  printLines [
    "Feature: ".toList ++ c.featureName,
    "Exported ".toList ++ Text.ofNat c.sheets.length ++ " sheets (".toList ++
      Text.ofNat c.totalSteps ++ " steps) to ".toList ++ output.text]
  printLines (result.filesWritten.map fun p => "  - ".toList ++ p.text)
where
  /-- A result as an action. -/
  liftExcept {α : Type} : Except Error α → Operation m α
    | .ok a => pure a
    | .error e => throw e

/-! ## Scans -/

/-- What a detailed scan says about a document. -/
def detailLine (p : Path) : Except Error Feature → Text
  | .ok f => "  ".toList ++ p.text ++ " (".toList ++ Text.ofNat f.scenarioCount ++
      " scenarios) - ".toList ++ f.title
  | .error e => "  ".toList ++ p.text ++ " (error: ".toList ++ e.message ++ [')']

/-- Looks into documents and says what is in each. -/
def printDetails : List FeatureFile → Operation m Unit
  | [] => pure ()
  | f :: rest => do
    let feature ← (Feature.load f.path : Operation m Feature).attempt
    printLine (detailLine f.path feature)
    printDetails rest

/-- Lists the documents below directories. -/
def runScan (roots : List Path) (detail : Bool) : Operation m Unit := do
  let d ← Discovery.scan roots
  printLine ("Scanned ".toList ++ Text.ofNat d.roots.length ++ " root(s):".toList)
  printLines (d.roots.map fun p => "  ".toList ++ p.text)
  printLine []
  printLine ("Found ".toList ++ Text.ofNat d.total ++ " feature files".toList)
  if d.skipped ≠ 0 then
    printLine ("Skipped ".toList ++ Text.ofNat d.skipped.toNat ++ " unreadable entries".toList)
  if detail then printDetails d.features
  else printLines (d.features.map fun f => "  ".toList ++ f.path.text)

/-! ## Batches -/

/-- What became of a batch so far. -/
structure Tally where
  /-- The number of sheets written. -/
  sheets : Nat
  /-- The number of files written. -/
  files : Nat
  /-- The documents that failed, and why, in order. -/
  errors : List (Path × Error)
  deriving DecidableEq

/-- Converts a document and exports it to its directory. -/
def exportFeature (config : SheetConfig) (format : OutputFormat) (f : FeatureFile)
    (target : Except Error Path) : Operation m (Except Error (Conversion × Path × ExportResult)) :=
  let fail (what : String) (e : Error) :
      Operation m (Except Error (Conversion × Path × ExportResult)) := do
    Operation.say .warn .cli (what.toList ++ f.path.text ++ ": ".toList ++ e.message)
    return .error e
  match target with
  | .error e => fail "skipping " e
  | .ok dir => do
    Operation.say .info .cli ("converting ".toList ++ f.path.text)
    match ← (convertChecked config f.path : Operation m Conversion).attempt with
    | .error e => fail "failed to convert " e
    | .ok c =>
      match ← (exportConversion c f.path dir format : Operation m ExportResult).attempt with
      | .error e => fail "failed to export " e
      | .ok result => return .ok (c, dir, result)

/-- What a batch says about a document that was written. -/
def wroteLine (f : FeatureFile) (c : Conversion) (dir : Path) (result : ExportResult) : Text :=
  f.relative.text ++ ": wrote ".toList ++ Text.ofNat c.sheets.length ++ " sheets, ".toList ++
    Text.ofNat result.filesWritten.length ++ " files to ".toList ++ dir.text

/-- Exports planned documents in turn. -/
def exportAll (config : SheetConfig) (format : OutputFormat) (tally : Tally) :
    List (FeatureFile × Except Error Path) → Operation m Tally
  | [] => return tally
  | (f, target) :: rest => do
    match ← exportFeature config format f target with
    | .error e =>
      exportAll config format { tally with errors := tally.errors ++ [(f.path, e)] } rest
    | .ok (c, dir, result) =>
      printLine (wroteLine f c dir result)
      exportAll config format
        { tally with
          sheets := tally.sheets + c.sheets.length
          files := tally.files + result.filesWritten.length } rest

/-- The summary at the end of a batch. -/
def summaryLines (total : Nat) (tally : Tally) : List Text :=
  [[], "Batch complete:".toList,
    "  ".toList ++ Text.ofNat total ++ " feature files".toList,
    "  ".toList ++ Text.ofNat tally.sheets ++ " total sheets".toList,
    "  ".toList ++ Text.ofNat tally.files ++ " total files written".toList] ++
  match tally.errors with
  | [] => []
  | errors =>
    [[], "Errors (".toList ++ Text.ofNat errors.length ++ "):".toList] ++
      errors.map fun e => "  ".toList ++ e.1.text ++ ": ".toList ++ e.2.message

/-- Converts the documents of a batch. -/
def runBatch (file : Path) : Operation m Unit := do
  let batch ← loadJson Batch file
  let config ← SheetConfig.loadOrStandard batch.config
  printLines [
    "Roots: ".toList ++ Text.quotedList (batch.roots.map Path.text),
    "Output: ".toList ++ batch.outputDir.text ++ " (".toList ++ batch.format.name ++ [')'],
    []]
  let d ← Discovery.scan batch.roots
  let tally ← exportAll config batch.format ⟨0, 0, []⟩ (d.exportPlan batch.outputDir)
  printLines (summaryLines d.total tally)

/-! ## Files to start from -/

/-- Writes the standard configuration. -/
def runInitConfig (output : Path) : Operation m Unit := do
  saveJson output SheetConfig.standard
  printLines [
    "Created config file: ".toList ++ output.text,
    [],
    "Edit the file to change sheet metadata, then run:".toList,
    "  alm-cli convert --file <feature> --output <dir> --config ".toList ++ output.text]

/-- Writes a batch file. -/
def runCreateBatch (output : Path) (roots : List Path) (exportDir : Path) : Operation m Unit := do
  saveJson output (⟨roots, exportDir, none, .csv⟩ : Batch)
  printLines [
    "Created batch file: ".toList ++ output.text,
    [],
    "Edit the file to configure your batch, then run:".toList,
    "  alm-cli batch --batch ".toList ++ output.text]

end FeatureSheets.Cli
