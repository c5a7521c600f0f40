import FeatureSheets.Text.Basic

/-!
# Reading comma-separated values

From a text back to its table. A comma ends a field; a line feed, with or without a carriage
return before it, ends a record, and so does the end of the text. A field that begins with a quote
goes on to the next quote that is not doubled, whatever stands between. A quote inside a field
that began without one is refused, and so is anything but an end after a closing quote.

The text is read character by character; `Reading.feed` takes in one of them.
-/

namespace FeatureSheets.Csv

/-- Where a reader stands. -/
inductive Position where
  /-- Before a record. -/
  | record
  /-- Before a field of a record that has begun. -/
  | field
  /-- In a field that began without a quote. -/
  | bare
  /-- In a quoted field. -/
  | quoted
  /-- After a quote in a quoted field. -/
  | quote
  /-- After the carriage return that ends a record. -/
  | lineEnd
  deriving DecidableEq, Repr

/-- What was read so far. -/
structure Reading where
  /-- The records that are complete. -/
  records : List (List Text)
  /-- The complete fields of the record that has begun. -/
  fields : List Text
  /-- The beginning of the next field. -/
  field : Text
  /-- Where the reader stands. -/
  position : Position
  deriving DecidableEq, Repr

namespace Reading

/-- Nothing was read yet. -/
def start : Reading :=
  ⟨[], [], [], .record⟩

/-- Adds a character to the field. -/
def add (r : Reading) (c : Char) (position : Position) : Reading :=
  { r with field := r.field ++ [c], position }

/-- Ends the field. -/
def endField (r : Reading) : Reading :=
  { r with fields := r.fields ++ [r.field], field := [], position := .field }

/-- Ends the record. -/
def endRecord (r : Reading) : Reading :=
  ⟨r.records ++ [r.fields ++ [r.field]], [], [], .record⟩

/-- Takes in a character that ends something. -/
def separate? (r : Reading) (c : Char) : Option Reading :=
  if c = ',' then some r.endField
  else if c = '\n' then some r.endRecord
  else if c = '\r' then some { r with position := .lineEnd }
  else none

/-- Takes in a character. -/
def feed (r : Reading) (c : Char) : Option Reading :=
  match r.position with
  | .record | .field =>
    if c = '"' then some { r with position := .quoted }
    else some ((r.separate? c).getD (r.add c .bare))
  | .bare => if c = '"' then none else some ((r.separate? c).getD (r.add c .bare))
  | .quoted => if c = '"' then some { r with position := .quote } else some (r.add c .quoted)
  | .quote => if c = '"' then some (r.add c .quoted) else r.separate? c
  | .lineEnd => if c = '\n' then some r.endRecord else none

/-- Takes in characters in turn. -/
def feedAll (r : Reading) (s : Text) : Option Reading :=
  s.foldlM feed r

/-- The records when the text ends here. -/
def finish? (r : Reading) : Option (List (List Text)) :=
  match r.position with
  | .record => some r.records
  | .field | .bare | .quote => some r.endRecord.records
  | .quoted | .lineEnd => none

/-- Characters may be taken in by parts. -/
theorem feedAll_append (r : Reading) (s t : Text) :
    r.feedAll (s ++ t) = (r.feedAll s).bind (·.feedAll t) := by
  simp only [feedAll, List.foldlM_append]
  rfl

end Reading

/-- The table that a text spells out. -/
def read? (s : Text) : Option (List (List Text)) :=
  (Reading.start.feedAll s).bind Reading.finish?

end FeatureSheets.Csv
