import FeatureSheets.Error
import FeatureSheets.Text.Lower

/-!
# Configuration

What is configured for sheets: the texts that go into their metadata columns, the limit on their
names, and which of two ways they are stored in. A batch names the directories whose documents are
converted together, and where to.
-/

namespace FeatureSheets

/-- Metadata and limits for building sheets. -/
structure SheetConfig where
  /-- Value of the column `Subject`. -/
  subject : Text
  /-- Value of the column `Type`. -/
  testType : Text
  /-- Value of the column `Status`. -/
  status : Text
  /-- Value of the column `Designer`. -/
  designer : Text
  /-- The greatest number of characters of a sheet name. -/
  maxSheetNameLen : UInt64
  deriving DecidableEq

namespace SheetConfig

/-- The configuration that holds where none is given. -/
def standard : SheetConfig where
  subject := "Flamingo\\Full Disclosure\\SSVP\\COMMON\\Automation".toList
  testType := "VAPI-XP-TEST".toList
  status := "Design".toList
  designer := "qcadmin".toList
  maxSheetNameLen := 31

instance : Inhabited SheetConfig := ⟨standard⟩

/-- The limit as a number. -/
def nameLimit (c : SheetConfig) : Nat :=
  c.maxSheetNameLen.toNat

/-- A configuration is fit for use when its limit leaves room to number repeated names. -/
def validate (c : SheetConfig) : Except Error Unit :=
  if c.maxSheetNameLen < minSheetNameLen then .error (.nameLimitTooShort c.maxSheetNameLen)
  else .ok ()

end SheetConfig

/-! ## Output formats -/

/-- How sheets are stored. -/
inductive OutputFormat where
  /-- One file of comma-separated values per sheet. -/
  | csv
  /-- One JSON file with every sheet. -/
  | json
  deriving DecidableEq, Repr, Inhabited

namespace OutputFormat

/-- The name of a format. -/
def name : OutputFormat → Text
  | .csv => "csv".toList
  | .json => "json".toList

/-- The format with this name, whatever its letter case. -/
def ofName (s : Text) : Except Error OutputFormat :=
  let s := Text.lower s
  if s = csv.name then .ok .csv
  else if s = json.name then .ok .json
  else .error (.unknownFormat s)

end OutputFormat

/-! ## Batches -/

/-- What a batch file says. -/
structure Batch where
  /-- The directories to scan. -/
  roots : List Path
  /-- The directory below which every document gets its own. -/
  outputDir : Path
  /-- The file with the sheet configuration, if there is one. -/
  config : Option Path
  /-- How sheets are stored. -/
  format : OutputFormat
  deriving DecidableEq

end FeatureSheets
