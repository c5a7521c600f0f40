import FeatureSheets.Path
import FeatureSheets.Text.Utf8

/-!
# Errors

Everything that can go wrong, by cause, and the wording of each cause. `FileFault` is what a file
system answers, `WalkFault` what goes wrong in a walk over directories, `Error` what an operation
of this library reports.
-/

namespace FeatureSheets

/-- Why a file system refuses an operation. -/
inductive FileFault where
  /-- Nothing is there. -/
  | missing
  /-- Something is there already. -/
  | occupied
  /-- The way leads through something that is no directory. -/
  | notDirectory
  /-- A file is asked for and a directory is there. -/
  | isDirectory
  /-- The way leads through too many links. -/
  | tooManyLinks
  /-- The path, or a name in it, is too long. -/
  | tooLong
  /-- The path holds the character NUL. -/
  | nulInPath
  /-- The content is no text. -/
  | notText
  /-- Any other reason, in the words of the system. -/
  | other (text : Text)
  deriving DecidableEq, Repr

/-- The wording of a fault. -/
def FileFault.message : FileFault → Text
  | .missing => "No such file or directory (os error 2)".toList
  | .occupied => "File exists (os error 17)".toList
  | .notDirectory => "Not a directory (os error 20)".toList
  | .isDirectory => "Is a directory (os error 21)".toList
  | .tooManyLinks => "Too many levels of symbolic links (os error 40)".toList
  | .tooLong => "File name too long (os error 36)".toList
  | .nulInPath => "file name contained an unexpected NUL byte".toList
  | .notText => "stream did not contain valid UTF-8".toList
  | .other text => text

/-- What goes wrong with one entry of a walk. -/
inductive WalkFault where
  /-- The entry cannot be looked at. -/
  | unreadable (path : Path) (fault : FileFault)
  /-- The entry is a directory that the walk is inside of. -/
  | loop (path ancestor : Path)
  deriving DecidableEq, Repr

/-- The wording of a walk's fault. -/
def WalkFault.message : WalkFault → Text
  | .unreadable path fault =>
    "IO error for operation on ".toList ++ path.text ++ ": ".toList ++ fault.message
  | .loop path ancestor =>
    "File system loop found: ".toList ++ path.text ++ " points to an ancestor ".toList ++
      ancestor.text

/-- The shortest limit on sheet names: room for a character, `_`, and two digits. -/
def minSheetNameLen : UInt64 := 4

/-- What an operation reports when it fails. -/
inductive Error where
  /-- A file cannot be read. -/
  | fileRead (path : Path) (fault : FileFault)
  /-- A document is not UTF-8. -/
  | malformedInput (source : Text) (fault : Text.Utf8.Fault)
  /-- A file for a sheet cannot be written. -/
  | sheetFile (path : Path) (fault : FileFault)
  /-- A row of a sheet has another number of cells than the row before. -/
  | unequalRows (path : Path) (found previous : Nat)
  /-- A directory to scan cannot be walked. -/
  | walk (fault : WalkFault)
  /-- A document has no scenario. -/
  | noScenarios (path : Path)
  /-- A sheet name is of no use as a file name. -/
  | invalidSheetName (name : Text)
  /-- The limit on sheet names is too short. -/
  | nameLimitTooShort (limit : UInt64)
  /-- Two features would be written to one directory. -/
  | outputCollision (path existing outputDir : Path)
  /-- An output format has no such name. -/
  | unknownFormat (name : Text)
  /-- The file system refuses. -/
  | fileSystem (fault : FileFault)
  /-- A text is not JSON, or not JSON of the type that is asked for. -/
  | json
  deriving DecidableEq, Repr

/-- The wording of an error. -/
def Error.message : Error → Text
  | .fileRead path fault =>
    "failed to read file '".toList ++ path.text ++ "': ".toList ++ fault.message
  | .malformedInput source fault =>
    "malformed input '".toList ++ source ++ "': ".toList ++ fault.message
  | .sheetFile path fault =>
    "CSV error in '".toList ++ path.text ++ "': ".toList ++ fault.message
  | .unequalRows path found previous =>
    "CSV error in '".toList ++ path.text ++ "': CSV error: found record with ".toList ++
      Text.ofNat found ++ " fields, but the previous record has ".toList ++
      Text.ofNat previous ++ " fields".toList
  | .walk fault => "failed to traverse directory: ".toList ++ fault.message
  | .noScenarios path => "no scenarios found in '".toList ++ path.text ++ ['\'']
  | .invalidSheetName name => "invalid sheet name: ".toList ++ name
  | .nameLimitTooShort limit =>
    "invalid config: max_sheet_name_len must be at least ".toList ++
      Text.ofNat minSheetNameLen.toNat ++ ", got ".toList ++ Text.ofNat limit.toNat
  | .outputCollision path existing outputDir =>
    ['\''] ++ path.text ++ "' would overwrite the export of '".toList ++ existing.text ++
      "' in '".toList ++ outputDir.text ++ ['\'']
  | .unknownFormat name =>
    "unknown output format '".toList ++ name ++ "', expected csv or json".toList
  | .fileSystem fault => "IO error: ".toList ++ fault.message
  | .json => "JSON error".toList

end FeatureSheets
