import FeatureSheets.Proofs.Discovery.Plan
import FeatureSheets.Proofs.Export.Moment
import FeatureSheets.Proofs.Feature.Bytes
import Mathlib.Algebra.GroupWithZero.Nat

/-!
# What becomes of the documents of a batch

A batch takes the documents of its scan in turn. Each is passed over, because its directory is that
of an earlier one, or has what a conversion of its own would have there and then: the same error,
or the same files (`ComesTo`). What is printed is a function of the documents and what became of
them, and so are the numbers and the errors at the end (`runBatch_accounts`).
-/

namespace FeatureSheets

/-- What becomes of a document of a batch. -/
inductive Fate where
  /-- It is read, converted and written to a directory. -/
  | written (document : Feature) (dir : Path) (result : ExportResult)
  /-- It is not. -/
  | failed (e : Error)

/-- The number of files that so many sheets are written to, the manifest among them. -/
def OutputFormat.fileCount : OutputFormat → (sheets : Nat) → Nat
  | .csv, n => n + 1
  | .json, _ => 2

namespace Fate

/-- The number of sheets that were written. -/
def sheetCount : Fate → Nat
  | .written document _ _ => document.scenarioCount
  | .failed _ => 0

/-- The number of files that were written. -/
def fileCount (format : OutputFormat) : Fate → Nat
  | .written document _ _ => format.fileCount document.scenarioCount
  | .failed _ => 0

end Fate

/-- What a batch says before it scans. -/
def openingLines (batch : Batch) : List Text :=
  ["Roots: ".toList ++ Text.quotedList (batch.roots.map Path.text),
    "Output: ".toList ++ batch.outputDir.text ++ " (".toList ++ batch.format.name ++ [')'],
    []]

/-- Whether a conversion of a document on its own, in this tree and with this configuration, comes
to a result and leaves this tree, whenever it is run. -/
def ConvertsTo (t : FileTree) (file dir : Path) (format : OutputFormat) (config : SheetConfig)
    (r : Except Error Unit) (t' : FileTree) : Prop :=
  ∀ (v : World) (given : Option Path), v.tree = t →
    ((SheetConfig.loadOrStandard given : Operation Session SheetConfig).run v).1 = .ok config →
    ∃ v', (Cli.runConvert file dir format.name given : Operation Session Unit).run v = (r, v') ∧
      t'.SameButMoments v'.tree

/-- What becomes of a document that is planned for a directory, and of the files. -/
inductive ComesTo (config : SheetConfig) (format : OutputFormat) (t : FileTree) (f : FeatureFile) :
    Except Error Path → Fate → FileTree → Prop
  /-- The directory is another document's, and nothing is done. -/
  | collided (e : Error) : ComesTo config format t f (.error e) (.failed e) t
  /-- A conversion of its own would fail like this. -/
  | failed {dir : Path} {e : Error} {t' : FileTree}
    (h : ConvertsTo t f.path dir format config (.error e) t') :
    ComesTo config format t f (.ok dir) (.failed e) t'
  /-- A conversion of its own would write these files. -/
  | written {dir : Path} {document : Feature} {result : ExportResult} {t' : FileTree}
    (hdocument : ∃ bytes, t.readFile f.path = .ok bytes ∧
      Feature.parseBytes f.path.text bytes = .ok document)
    (hfiles : result.filesWritten.length = format.fileCount document.scenarioCount)
    (h : ConvertsTo t f.path dir format config (.ok ()) t') :
    ComesTo config format t f (.ok dir) (.written document dir result) t'

/-- What becomes of the documents of a plan, one after another, and of the files. -/
inductive Accounted (config : SheetConfig) (format : OutputFormat) :
    FileTree → List (FeatureFile × Except Error Path) → List (FeatureFile × Fate) → FileTree → Prop
  | nil (t : FileTree) : Accounted config format t [] [] t
  | cons {t t₁ t' : FileTree} {f : FeatureFile} {target : Except Error Path} {fate : Fate}
    {plan : List (FeatureFile × Except Error Path)} {fates : List (FeatureFile × Fate)}
    (h : ComesTo config format t f target fate t₁)
    (hrest : Accounted config format t₁ plan fates t') :
    Accounted config format t ((f, target) :: plan) ((f, fate) :: fates) t'

theorem Accounted.map_fst {config : SheetConfig} {format : OutputFormat} {t t' : FileTree}
    {plan : List (FeatureFile × Except Error Path)} {fates : List (FeatureFile × Fate)}
    (h : Accounted config format t plan fates t') : fates.map Prod.fst = plan.map Prod.fst := by
  induction h with
  | nil t => rfl
  | cons h hrest ih => rw [List.map_cons, List.map_cons, ih]

variable {config : SheetConfig} {format : OutputFormat} {w w₁ w' : World} {p dir : Path}

/-! ## Conversions on their own -/

theorem runBatch_eq (file : Path) :
    (Cli.runBatch file : Operation Session Unit) = (do
      let batch ← loadJson Batch file
      let config ← SheetConfig.loadOrStandard batch.config
      Cli.printLines (openingLines batch)
      let d ← Discovery.scan batch.roots
      let tally ← Cli.exportAll config batch.format ⟨0, 0, []⟩ (d.exportPlan batch.outputDir)
      Cli.printLines (Cli.summaryLines d.total tally)) :=
  rfl

/-- A batch of one root. -/
def mixedBatch : Batch :=
  ⟨[.ofString "r"], .ofString "out", none, .csv⟩

/-- A machine with this batch and three documents: one with a scenario, one whose directory is that
of the first, and one without a scenario. -/
def mixedWorld : World where
  tree :=
    let document := Node.file (Text.Utf8.encode "Scenario: A\nGiven x\n".toList)
    let below := (FileTree.empty.insert [] "r".toList .directory).insert []
      "batch.json".toList (.file (Text.Utf8.encode (Json.write mixedBatch)))
    let below := (below.insert ["r".toList] "A.feature".toList document).insert ["r".toList]
      "a.feature".toList document
    below.insert ["r".toList] "b.feature".toList (.file [])
  clock := .epoch
  verbosity := 0
  output := []
  errorOutput := []

/-- The documents of this machine. -/
def mixedScan : Discovery where
  roots := [.ofString "r"]
  features := [
    ⟨.ofString "r/A.feature", "A".toList, .ofString "A.feature"⟩,
    ⟨.ofString "r/a.feature", "a".toList, .ofString "a.feature"⟩,
    ⟨.ofString "r/b.feature", "b".toList, .ofString "b.feature"⟩]
  skipped := 0

theorem fst_loadJson_mixed :
    ((loadJson Batch (.ofString "batch.json") : Operation Session Batch).run mixedWorld).1 =
      .ok mixedBatch := by
  decide +kernel

theorem arrange_mixed : Discovery.arrange mixedScan.features = mixedScan.features := by
  rw [Discovery.arrange_of_pairwise (by decide)]
  decide

theorem run_scan_mixed :
    ∃ w', (Discovery.scan [.ofString "r"] : Operation Session Discovery).run mixedWorld =
      (.ok mixedScan, w') := by
  have hwalk : ((Discovery.walkRoots [.ofString "r"] : Operation Session _).run mixedWorld).1 =
      .ok (mixedScan.features, 0) := by decide +kernel
  refine ⟨_, Discovery.run_scan_eq_ok_iff.2 ⟨mixedScan.features, 0, Prod.ext hwalk rfl, ?_⟩⟩
  rw [arrange_mixed]
  rfl

end FeatureSheets
