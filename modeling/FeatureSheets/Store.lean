import FeatureSheets.Feature.Reader
import FeatureSheets.Json.Export
import FeatureSheets.Json.Sheet
import FeatureSheets.Platform

/-!
# Stored values

Values in files: documents, configurations, batches and manifests. What is stored as JSON is
written over many lines without a line feed at the end; a file that is read has to be UTF-8 all
through, and only a document may begin with a byte-order mark.
-/

namespace FeatureSheets

variable {m : Type → Type} [Monad m] [Platform m]

/-- The bytes of a file. -/
def readBytes (p : Path) : Operation m (List UInt8) :=
  Operation.ask (.fileRead p) (Platform.readFile p)

/-- The text of a file. -/
def readText (p : Path) : Operation m Text := do
  match Text.Utf8.decode (← readBytes p) with
  | .ok text => return text
  | .error _ => throw (.fileRead p .notText)

/-- Writes a text to a file. -/
def writeText (p : Path) (text : Text) : Operation m Unit :=
  Operation.ask .fileSystem (Platform.writeFile p (Text.Utf8.encode text))

/-- Reads a value that is stored as JSON. -/
def loadJson (α : Type) [JsonForm α] (p : Path) : Operation m α := do
  match Json.read? α (← readText p) with
  | some a => return a
  | none => throw .json

/-- Stores a value as JSON. -/
def saveJson {α : Type} [JsonForm α] (p : Path) (a : α) : Operation m Unit :=
  writeText p (Json.write a)

/-- Reads a configuration and checks it. -/
def SheetConfig.load (p : Path) : Operation m SheetConfig := do
  let c ← loadJson SheetConfig p
  match c.validate with
  | .ok () => return c
  | .error e => throw e

/-- Reads a configuration, or takes the standard one when there is no path. -/
def SheetConfig.loadOrStandard : Option Path → Operation m SheetConfig
  | some p => SheetConfig.load p
  | none => return .standard

/-- Reads a document. -/
def Feature.load (p : Path) : Operation m Feature := do
  match Feature.decode p.text (← readBytes p) with
  | .ok text =>
    Operation.sayAll (Feature.notes text)
    return Feature.parse text
  | .error e => throw e

/-- The names of sheets that had to be numbered. -/
def SheetName.notes (limit : Nat) (slots : List SheetName.Slot) : List Note :=
  (slots.filter fun s => 2 ≤ s.number).map fun s =>
    ⟨.debug, .sheet, "sheet name '".toList ++ s.base ++ "' already used, renamed to '".toList ++
      s.name limit ++ ['\'']⟩

/-- Reads a document and converts it. -/
def Conversion.load (config : SheetConfig) (p : Path) : Operation m Conversion := do
  let feature ← Feature.load p
  let c := Conversion.ofFeature config feature
  Operation.sayAll (SheetName.notes config.nameLimit
    (SheetName.slots config.nameLimit (c.rows.map ExportRow.sheetName)))
  Operation.say .info .pipeline ("converted '".toList ++ p.text ++ "': ".toList ++
    Text.ofNat c.rows.length ++ " scenarios into ".toList ++ Text.ofNat c.sheets.length ++
    " sheets".toList)
  return c

end FeatureSheets
