import FeatureSheets.Text.Basic

/-!
# Comma-separated values

A table as text: a record per line, fields with commas between them. A field that holds a comma,
a quote or a line break stands in quotes, with its quotes doubled. A record of one empty field,
and one of no field, is written as a pair of quotes, so that no record is an empty line.

All records of a file have as many fields as the first. A record that breaks this rule ends the
file: its fields are there, but neither the line feed nor the quote that would have closed it.
-/

namespace FeatureSheets.Csv

/-- The characters for which a field is quoted. -/
def isSpecial (c : Char) : Bool :=
  c == ',' || c == '"' || c == '\r' || c == '\n'

/-- Whether a field is quoted. -/
def needsQuotes (field : Text) : Bool :=
  field.any isSpecial

/-- A text with its quotes doubled. -/
def doubleQuotes (s : Text) : Text :=
  s.flatMap fun c => if c = '"' then ['"', '"'] else [c]

/-- A field without the quote that closes it, if it has one. -/
def openField (field : Text) : Text :=
  if needsQuotes field then '"' :: doubleQuotes field else field

/-- The quote that closes a field, if it has one. -/
def closeField (field : Text) : Text :=
  if needsQuotes field then ['"'] else []

/-- A field. -/
def writeField (field : Text) : Text :=
  openField field ++ closeField field

/-- A record whose end is not reached: all but what closes it. -/
def openRecord : List Text → Text
  | [] => []
  | [field] => openField field
  | field :: rest => writeField field ++ ',' :: openRecord rest

/-- What closes a record. A record of which nothing is written yet gets a pair of quotes. -/
def closeRecord (record : List Text) : Text :=
  if openRecord record = [] then ['"', '"', '\n']
  else closeField (record.getLast?.getD []) ++ ['\n']

/-- A record. -/
def writeRecord (record : List Text) : Text :=
  openRecord record ++ closeRecord record

/-- A record with another number of fields than the first. -/
structure Unequal where
  /-- The number of its fields. -/
  found : Nat
  /-- The number of fields of the first record. -/
  previous : Nat
  deriving DecidableEq, Repr

/-- The text of records, all of which have to have `width` fields, and the first that has not. -/
def writeRecords (width : Nat) : List (List Text) → Text × Option Unequal
  | [] => ([], none)
  | record :: rest =>
    if record.length = width then
      let (text, unequal) := writeRecords width rest
      (writeRecord record ++ text, unequal)
    else (openRecord record, some ⟨record.length, width⟩)

/-- The text of a table, and its first record of another width than the first. -/
def write (table : List (List Text)) : Text × Option Unequal :=
  writeRecords (table.headD []).length table

end FeatureSheets.Csv
