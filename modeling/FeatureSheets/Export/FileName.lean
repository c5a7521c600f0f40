import FeatureSheets.Error
import FeatureSheets.Text.Lower

/-!
# File names of sheets

A sheet's file is named for the sheet. Characters that a file name may not hold become `_`, and
dots and blanks at the end are dropped; a name of which nothing is left is refused. Names that
agree in lower case are told apart by the first free number from 2 on.
-/

namespace FeatureSheets.FileName

/-- Whether a character is a control character. -/
def isControl (c : Char) : Bool :=
  c.toNat < 0x20 || (0x7F ≤ c.toNat && c.toNat < 0xA0)

/-- The characters that a file name may not hold, controls apart. -/
def forbidden : List Char :=
  ['<', '>', '"', '|', '/', '\\', '?', '*', ':']

/-- The name with `_` for each character that a file name may not hold. -/
def sanitize (name : Text) : Text :=
  name.map fun c => if forbidden.contains c || isControl c then '_' else c

/-- The stem of the file for a sheet, unless nothing is left of the sheet's name. -/
def stem? (sheetName : Text) : Option Text :=
  match Text.trimEndBy (fun c => c == '.' || c == ' ') (sanitize sheetName) with
  | [] => none
  | s => some s

/-- The `n`-th stem to try. -/
def candidate (stem : Text) (n : Nat) : Text :=
  stem ++ '_' :: Text.ofNat n

/-- The first candidate from `n` on whose lower-case form is not used, among so many. -/
def firstFree (used : List Text) (stem : Text) : (tries : Nat) → (n : Nat) → Text
  | 0, n => candidate stem n
  | tries + 1, n =>
    if used.contains (Text.lower (candidate stem n)) then firstFree used stem tries (n + 1)
    else candidate stem n

/-- The stem itself, or the first free candidate. The candidates differ in lower case, so one of
as many as there are used stems, and one more, is free. -/
def unique (used : List Text) (stem : Text) : Text :=
  if used.contains (Text.lower stem) then firstFree used stem (used.length + 1) 2 else stem

/-- The stem that a sheet asks for, and the one that it gets. -/
structure Choice where
  /-- The stem of the sheet's name. -/
  wanted : Text
  /-- The stem of the file. -/
  chosen : Text
  deriving DecidableEq, Repr

/-- The name of the file. -/
def Choice.file (c : Choice) : Text :=
  c.chosen ++ ".csv".toList

/-- The choices for sheets whose names come after those that use up `used`. The first name that
is refused is the last that is looked at. -/
def choicesAfter (used : List Text) : List Text → List (Except Error Choice)
  | [] => []
  | name :: rest =>
    match stem? name with
    | none => [.error (.invalidSheetName name)]
    | some stem =>
      let chosen := unique used stem
      .ok ⟨stem, chosen⟩ :: choicesAfter (Text.lower chosen :: used) rest

/-- The choices for sheets by their names. -/
def choices (sheetNames : List Text) : List (Except Error Choice) :=
  choicesAfter [] sheetNames

end FeatureSheets.FileName
