import FeatureSheets.Csv.Reader
import FeatureSheets.Csv.Writer
import FeatureSheets.Proofs.Text.Fields

/-!
# Tables as comma-separated values and back

A written table reads back as the table it was (`read?_write`), when all its rows have the same
number of cells and at least one: a row without cells is written as a row of one empty cell. The
proof follows the writer: what a written field, a written record and a written table do to a
reader that stands before them.
-/

namespace FeatureSheets.Csv

open Text (joinWith)

/-- Whether all rows of a table have the same number of cells, and at least one. -/
def IsRectangular (table : List (List Text)) : Prop :=
  ∃ width, 0 < width ∧ ∀ row ∈ table, row.length = width

/-! ## Written records -/

/-- A record without its end, and the end of its last field, are its fields with commas between
them. -/
theorem openRecord_append_closeField {record : List Text} (h : record ≠ []) :
    openRecord record ++ closeField (record.getLast?.getD []) =
      joinWith ',' (record.map writeField) := by
  induction record with
  | nil => exact absurd rfl h
  | cons field rest ih =>
    cases rest with
    | nil =>
      rw [List.map_singleton, Text.joinWith_singleton]
      rfl
    | cons next rest =>
      rw [openRecord, List.append_assoc, List.cons_append, List.getLast?_cons_cons, ih (by simp),
        List.map_cons, List.map_cons, List.map_cons, Text.joinWith_cons_cons]
      simp

/-- Nothing is written of a record before its end only if it is one empty field. -/
theorem openRecord_eq_nil_iff {record : List Text} (h : record ≠ []) :
    openRecord record = [] ↔ record = [[]] := by
  cases record with
  | nil => exact absurd rfl h
  | cons field rest =>
    cases rest with
    | nil =>
      rw [openRecord, openField]
      split
      · rename_i hquotes
        refine ⟨fun h => absurd h (by simp), fun h => ?_⟩
        rw [List.cons.inj h |>.1] at hquotes
        cases hquotes
      · simp
    | cons next rest => simp [openRecord]

/-- A record is its fields with commas between them, and a line feed; but a record of one empty
field is a pair of quotes. -/
theorem writeRecord_eq {record : List Text} (h : record ≠ []) :
    writeRecord record =
      if record = [[]] then ['"', '"', '\n']
      else joinWith ',' (record.map writeField) ++ ['\n'] := by
  rw [writeRecord, closeRecord]
  by_cases hone : record = [[]]
  · rw [if_pos hone, hone]
    rfl
  · rw [if_neg fun hopen => hone ((openRecord_eq_nil_iff h).1 hopen), if_neg hone,
      ← List.append_assoc, openRecord_append_closeField h]

/-- A rectangular table is written record by record, and no record is refused. -/
theorem write_of_isRectangular {table : List (List Text)} (h : IsRectangular table) :
    write table = (table.flatMap writeRecord, none) := by
  obtain ⟨width, -, hwidth⟩ := h
  have hrecords : ∀ t : List (List Text), (∀ row ∈ t, row.length = width) →
      writeRecords width t = (t.flatMap writeRecord, none) := by
    intro t ht
    induction t with
    | nil => rfl
    | cons row t ih =>
      rw [writeRecords, if_pos (ht row (by simp)), ih fun r hr => ht r (by simp [hr])]
      rfl
  cases table with
  | nil => rfl
  | cons row table =>
    rw [write, List.headD_cons, hwidth row (by simp)]
    exact hrecords _ hwidth

/-! ## Reading a field -/

/-- Whether a reader stands before a field. -/
def Position.OpensField (p : Position) : Prop :=
  p = .record ∨ p = .field

/-- Whether a reader stands where a field may end. -/
def Position.EndsField (p : Position) : Prop :=
  p = .record ∨ p = .field ∨ p = .bare ∨ p = .quote

namespace Reading

variable {records : List (List Text)} {fields : List Text}

theorem feedAll_cons (r : Reading) (c : Char) (s : Text) :
    r.feedAll (c :: s) = (r.feed c).bind (·.feedAll s) :=
  List.foldlM_cons

/-- A comma ends the field. -/
theorem feed_comma {field : Text} {p : Position} (hp : Position.EndsField p) :
    feed ⟨records, fields, field, p⟩ ',' = some ⟨records, fields ++ [field], [], .field⟩ := by
  rcases hp with rfl | rfl | rfl | rfl <;> rfl

/-- A line feed ends the field and the record. -/
theorem feed_newline {field : Text} {p : Position} (hp : Position.EndsField p) :
    feed ⟨records, fields, field, p⟩ '\n' =
      some ⟨records ++ [fields ++ [field]], [], [], .record⟩ := by
  rcases hp with rfl | rfl | rfl | rfl <;> rfl

/-- Between quotes, doubled quotes read as the text they were. -/
theorem feedAll_doubleQuotes (field s : Text) :
    feedAll ⟨records, fields, field, .quoted⟩ (doubleQuotes s) =
      some ⟨records, fields, field ++ s, .quoted⟩ := by
  induction s generalizing field with
  | nil =>
    rw [List.append_nil]
    rfl
  | cons c s ih =>
    have hhead : feedAll ⟨records, fields, field, .quoted⟩
        (if c = '"' then ['"', '"'] else [c]) =
          some ⟨records, fields, field ++ [c], .quoted⟩ := by
      by_cases hc : c = '"'
      · rw [if_pos hc, hc]
        rfl
      · rw [if_neg hc, feedAll_cons, feed]
        simp only [if_neg hc]
        rfl
    rw [doubleQuotes, List.flatMap_cons, ← doubleQuotes, feedAll_append, hhead, Option.bind_some,
      ih, List.append_assoc]
    rfl

theorem not_isSpecial_iff {c : Char} :
    isSpecial c = false ↔ c ≠ ',' ∧ c ≠ '"' ∧ c ≠ '\r' ∧ c ≠ '\n' := by
  simp [isSpecial, and_assoc]

/-- A character that is not special is added to a field that began without a quote. -/
theorem feed_of_not_isSpecial {field : Text} {p : Position} {c : Char}
    (hp : Position.OpensField p ∨ p = .bare) (hc : isSpecial c = false) :
    feed ⟨records, fields, field, p⟩ c = some ⟨records, fields, field ++ [c], .bare⟩ := by
  obtain ⟨hcomma, hquote, hreturn, hnewline⟩ := not_isSpecial_iff.1 hc
  have hseparate : separate? ⟨records, fields, field, p⟩ c = none := by
    rw [separate?, if_neg hcomma, if_neg hnewline, if_neg hreturn]
  rw [feed]
  rcases hp with (rfl | rfl) | rfl <;> simp only [if_neg hquote, hseparate] <;> rfl

/-- Characters that are not special are added in turn. -/
theorem feedAll_bare {field s : Text} (hs : ∀ c ∈ s, isSpecial c = false) :
    feedAll ⟨records, fields, field, .bare⟩ s = some ⟨records, fields, field ++ s, .bare⟩ := by
  induction s generalizing field with
  | nil =>
    rw [List.append_nil]
    rfl
  | cons c s ih =>
    rw [feedAll_cons, feed_of_not_isSpecial (.inr rfl) (hs c (by simp)), Option.bind_some,
      ih fun d hd => hs d (by simp [hd]), List.append_assoc]
    rfl

/-- A written field reads as the field, and leaves the reader where the field may end. -/
theorem feedAll_writeField {p : Position} (hp : Position.OpensField p) (field : Text) :
    ∃ q, Position.EndsField q ∧ feedAll ⟨records, fields, [], p⟩ (writeField field) =
      some ⟨records, fields, field, q⟩ := by
  by_cases hquotes : needsQuotes field = true
  · refine ⟨.quote, by simp [Position.EndsField], ?_⟩
    have hopen : feed ⟨records, fields, [], p⟩ '"' = some ⟨records, fields, [], .quoted⟩ := by
      rcases hp with rfl | rfl <;> rfl
    rw [writeField, openField, closeField, if_pos hquotes, if_pos hquotes, List.cons_append,
      feedAll_cons, hopen, Option.bind_some, feedAll_append, feedAll_doubleQuotes,
      Option.bind_some]
    rfl
  · have hplain : ∀ c ∈ field, isSpecial c = false := by
      intro c hc
      simpa using fun h => hquotes (List.any_eq_true.2 ⟨c, hc, h⟩)
    rw [writeField, openField, closeField, if_neg hquotes, if_neg hquotes, List.append_nil]
    cases field with
    | nil =>
      refine ⟨p, ?_, rfl⟩
      rcases hp with rfl | rfl <;> simp [Position.EndsField]
    | cons c s =>
      refine ⟨.bare, by simp [Position.EndsField], ?_⟩
      rw [feedAll_cons, feed_of_not_isSpecial (.inl hp) (hplain c (by simp)), Option.bind_some,
        feedAll_bare fun d hd => hplain d (by simp [hd])]
      rfl

/-! ## Reading records and tables -/

/-- Written fields with commas between them, and a line feed, read as the rest of a record. -/
theorem feedAll_joinWith {p : Position} (hp : Position.OpensField p) {record : List Text}
    (h : record ≠ []) :
    feedAll ⟨records, fields, [], p⟩ (joinWith ',' (record.map writeField) ++ ['\n']) =
      some ⟨records ++ [fields ++ record], [], [], .record⟩ := by
  induction record generalizing fields p with
  | nil => exact absurd rfl h
  | cons field rest ih =>
    obtain ⟨q, hq, hfield⟩ : ∃ q, Position.EndsField q ∧
        feedAll ⟨records, fields, [], p⟩ (writeField field) = some ⟨records, fields, field, q⟩ :=
      feedAll_writeField hp field
    cases rest with
    | nil =>
      rw [List.map_singleton, Text.joinWith_singleton, feedAll_append, hfield, Option.bind_some,
        feedAll_cons, feed_newline hq]
      rfl
    | cons next rest =>
      rw [List.map_cons, List.map_cons, Text.joinWith_cons_cons, ← List.map_cons,
        List.append_assoc, feedAll_append, hfield, Option.bind_some, List.cons_append,
        feedAll_cons, feed_comma hq, Option.bind_some, ih (.inr rfl) (by simp)]
      simp

/-- A written record reads as the record. -/
theorem feedAll_writeRecord {record : List Text} (h : record ≠ []) :
    feedAll ⟨records, [], [], .record⟩ (writeRecord record) =
      some ⟨records ++ [record], [], [], .record⟩ := by
  rw [writeRecord_eq h]
  split
  · rename_i hone
    rw [hone]
    rfl
  · exact feedAll_joinWith (.inl rfl) h

/-- Written records read as the records, one after the other. -/
theorem feedAll_flatMap_writeRecord {table : List (List Text)} (h : ∀ row ∈ table, row ≠ []) :
    feedAll ⟨records, [], [], .record⟩ (table.flatMap writeRecord) =
      some ⟨records ++ table, [], [], .record⟩ := by
  induction table generalizing records with
  | nil =>
    rw [List.append_nil]
    rfl
  | cons row table ih =>
    rw [List.flatMap_cons, feedAll_append, feedAll_writeRecord (h row (by simp)),
      Option.bind_some, ih fun r hr => h r (by simp [hr]), List.append_assoc]
    rfl

end Reading

/-- A rectangular table reads back as it was. -/
theorem read?_write {table : List (List Text)} (h : IsRectangular table) :
    read? (write table).1 = some table := by
  have hne : ∀ row ∈ table, row ≠ [] := by
    obtain ⟨width, hpos, hwidth⟩ := h
    intro row hrow hnil
    have hlen := hwidth row hrow
    rw [hnil, List.length_nil] at hlen
    omega
  rw [write_of_isRectangular h, read?, Reading.start, Reading.feedAll_flatMap_writeRecord hne]
  rfl

end FeatureSheets.Csv
