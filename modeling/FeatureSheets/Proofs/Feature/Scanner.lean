import FeatureSheets.Feature.Scanner
import FeatureSheets.Proofs.Feature.Record
import FeatureSheets.Proofs.Feature.Steps
import FeatureSheets.Proofs.Feature.TableRow
import FeatureSheets.Row

/-!
# What holds between two lines

The parts of a scanner are held apart, but they fit together in every state that lines can lead to.
Something is collected exactly when there is a scenario to collect it for, so no step and no row is
lost for want of one, and the scenarios hold nothing but step lines, and cells and values of
tables (`Scanner.IsSound`). What one line does is said once, by the meaning of the line
(`Scanner.take`, `feed_eq_take`). From this the invariant and the way back to the reader
(`reader_take`) are read off case by case, and `isSound_ofLines` carries both through all lines.
-/

namespace FeatureSheets

open Text

/-! ## Collected values -/

/-- A value as it is collected: it is on one line and does not begin with the pipe that separates
its cells. -/
def IsCollected (value : Text) : Prop :=
  '\n' ∉ value ∧ value.head? ≠ some '|'

theorem isCell_nil : IsCell [] := by
  decide

theorem isCollected_of_isCell {cell : Text} (h : IsCell cell) : IsCollected cell :=
  ⟨h.1, fun hhead => h.2.1 (List.mem_of_head? hhead)⟩

/-- One more cell is put in place of an empty value or behind one that begins with something
else than a pipe. -/
theorem isCollected_joinCell {cell : Text} (hcell : IsCell cell) {old : Option Text}
    (hold : ∀ value ∈ old, IsCollected value) : IsCollected (Scenario.joinCell cell old) := by
  cases old with
  | none => exact isCollected_of_isCell hcell
  | some value =>
    cases value with
    | nil => exact isCollected_of_isCell hcell
    | cons c value =>
      obtain ⟨hline, hhead⟩ := hold (c :: value) rfl
      refine ⟨?_, hhead⟩
      show '\n' ∉ (c :: value) ++ '|' :: cell
      rw [List.mem_append, not_or]
      exact ⟨hline, List.not_mem_cons_of_ne_of_not_mem (by decide) hcell.1⟩

/-- Entries as tables give them. -/
structure Entries.IsSound (e : Entries) : Prop where
  /-- The names are cells. -/
  keys_isCell : ∀ name ∈ e.keys, IsCell name
  /-- The values are collected from cells. -/
  get?_isCollected : ∀ name value, e.get? name = some value → IsCollected value

namespace Entries.IsSound

theorem empty : Entries.empty.IsSound :=
  ⟨fun _ h => (List.not_mem_nil h).elim, fun _ _ h => by cases h⟩

/-- One more cell below a header. -/
theorem alter {e : Entries} (h : e.IsSound) {header cell : Text} (hheader : IsCell header)
    (hcell : IsCell cell) : (e.alter header (Scenario.joinCell cell)).IsSound := by
  constructor
  case keys_isCell =>
    rw [keys_alter]
    split
    · exact h.keys_isCell
    · rw [List.forall_mem_append, List.forall_mem_singleton]
      exact ⟨h.keys_isCell, hheader⟩
  case get?_isCollected =>
    intro name value hvalue
    rw [get?_alter] at hvalue
    split at hvalue
    · obtain rfl := Option.some.inj hvalue
      exact isCollected_joinCell hcell (h.get?_isCollected header)
    · exact h.get?_isCollected name value hvalue

theorem collect {e : Entries} (h : e.IsSound) {cells : List (Text × Text)}
    (hcells : ∀ cell ∈ cells, IsCell cell.1 ∧ IsCell cell.2) : (e.collect cells).IsSound := by
  induction cells generalizing e with
  | nil => exact h
  | cons cell cells ih =>
    rw [List.forall_mem_cons] at hcells
    exact ih (h.alter hcells.1.1 hcells.1.2) hcells.2

end Entries.IsSound

theorem ExampleTable.isCell_of_mem_rowCells {headers row : List Text}
    (hheaders : ∀ header ∈ headers, IsCell header) (hrow : ∀ cell ∈ row, IsCell cell) :
    ∀ entry ∈ rowCells headers row, IsCell entry.1 ∧ IsCell entry.2 := by
  rw [rowCells, List.forall_mem_map]
  rintro ⟨header, column⟩ hmem
  refine ⟨hheaders header (List.fst_mem_of_mem_zipIdx hmem), ?_⟩
  show IsCell (row[column]?.getD [])
  cases hcell : row[column]? with
  | none => exact isCell_nil
  | some cell => exact hrow cell (List.mem_of_getElem? hcell)

/-! ## Scenarios between two lines -/

/-- What holds of a scenario, complete or not. -/
structure Scenario.IsSound (r : Scenario) : Prop where
  /-- Its steps are step lines: on one line, without margins, and with a keyword. -/
  steps_isStepLine : ∀ step ∈ r.steps, IsStepLine step
  /-- It has values only where an `Examples:` line was seen. -/
  hasExamples_of_examples : r.examples.isEmpty = false → r.hasExamples = true
  /-- Its examples are given by tables. -/
  examples_isSound : r.examples.IsSound

namespace Scenario.IsSound

variable {r : Scenario}

theorem named (name : Text) : (Scenario.named name).IsSound where
  steps_isStepLine := fun _ h => (List.not_mem_nil h).elim
  hasExamples_of_examples := fun h => by cases h
  examples_isSound := .empty

theorem addStep (h : r.IsSound) {line : Text} (hline : IsStepLine line) :
    (r.addStep line).IsSound where
  steps_isStepLine := by
    rw [Scenario.addStep, List.forall_mem_append, List.forall_mem_singleton]
    exact ⟨h.steps_isStepLine, hline⟩
  hasExamples_of_examples := h.hasExamples_of_examples
  examples_isSound := h.examples_isSound

theorem openTable (h : r.IsSound) : { r with hasExamples := true }.IsSound where
  steps_isStepLine := h.steps_isStepLine
  hasExamples_of_examples := fun _ => rfl
  examples_isSound := h.examples_isSound

/-- A row is added where an `Examples:` line was seen. -/
theorem addRow (h : r.IsSound) (hexamples : r.hasExamples = true) {headers row : List Text}
    (hheaders : ∀ header ∈ headers, IsCell header) (hrow : ∀ cell ∈ row, IsCell cell) :
    (r.addRow headers row).IsSound := by
  rw [Scenario.addRow_eq]
  exact {
    steps_isStepLine := h.steps_isStepLine
    hasExamples_of_examples := fun _ => hexamples
    examples_isSound :=
      h.examples_isSound.collect (ExampleTable.isCell_of_mem_rowCells hheaders hrow) }

/-- The row of a scenario has the examples for its parameters, if there are any. -/
theorem parameters_ofScenario (h : r.IsSound) (title : Text) :
    (ExportRow.ofScenario title r).parameters =
      if r.examples.isEmpty then none else some r.examples := by
  rw [ExportRow.ofScenario]
  cases hempty : r.examples.isEmpty with
  | true => simp
  | false => simp [h.hasExamples_of_examples hempty]

end Scenario.IsSound

namespace Scanner

/-! ## What a line does -/

/-- Takes in a line by its meaning. -/
def take (s : Scanner) : Line → Scanner
  | .feature title => { s with title }
  | .scenario name => s.startScenario name
  | .examples => s.openTable
  | .step line => if s.mode = .steps then s.addStep line else s
  | .row line => if s.mode = .table then s.addRow line else s
  | .silent => s

/-- Which lines a scanner looks at depends on its mode, but what a line means does not: no step
begins with the sign of a tag or with a pipe. -/
theorem feed_eq_take (s : Scanner) (line : Text) : s.feed line = s.take (Line.ofTrimmed line) := by
  cases line with
  | nil => rfl
  | cons c rest =>
    by_cases hhash : c = '#'
    · simp only [feed, Line.ofTrimmed, if_pos hhash, take]
    rw [Line.ofTrimmed_of_head? rfl hhash, feed, if_neg hhash]
    have hhead : (c :: rest).head? = some c := rfl
    generalize c :: rest = line at hhead ⊢
    -- the words that open something are asked for in every mode
    cases after? Line.featureWord line with
    | some title => rfl
    | none =>
      cases afterAny? Line.scenarioWords line with
      | some name => rfl
      | none =>
        cases (after? Line.examplesWord line).isSome with
        | true => rfl
        | false =>
          simp only [Bool.false_eq_true, if_false]
          -- here the mode decides whether steps or rows are asked for
          cases hstep : (Keyword.split? line).isSome with
          | true =>
            obtain ⟨k, hk⟩ := Line.head?_of_split? hstep
            have hno : c ≠ '@' ∧ c ≠ '|' := by
              rw [hhead] at hk
              constructor <;> rintro rfl <;> cases k <;> cases hk
            simp only [if_neg hno.1, if_neg hno.2, if_true, take]
            cases s.mode <;> rfl
          | false =>
            by_cases hpipe : c = '|'
            · have hat : c ≠ '@' := by rw [hpipe]; decide
              simp only [if_neg hat, if_pos hpipe, Bool.false_eq_true, if_false, take]
              cases s.mode <;> rfl
            · simp only [if_neg hpipe, Bool.false_eq_true, if_false, take]
              cases s.mode <;> exact ite_self s

/-! ## The parts fit together -/

/-- What holds of a scanner between two lines. -/
structure IsSound (s : Scanner) : Prop where
  /-- Nothing is collected exactly where there is no scenario to collect it for. -/
  mode_eq_nothing_iff : s.mode = .nothing ↔ s.current = none
  /-- A table belongs to a scenario that has seen an `Examples:` line. -/
  hasExamples_of_table : s.mode = .table → ∀ r ∈ s.current, r.hasExamples = true
  /-- The headers are cells, also those that an earlier table has left. -/
  headers_isCell : ∀ header ∈ s.headers, IsCell header
  /-- Every scenario is sound, complete or not. -/
  records_isSound : ∀ r ∈ s.records, r.IsSound

variable {s : Scanner}

theorem isSound_start : start.IsSound where
  mode_eq_nothing_iff := iff_of_true rfl rfl
  hasExamples_of_table := nofun
  headers_isCell := nofun
  records_isSound := nofun

theorem mem_records_of_current {r : Scenario} (h : s.current = some r) : r ∈ s.records := by
  rw [records, h]
  simp

namespace IsSound

/-- Where something is collected, there is a scenario for it. -/
theorem exists_current (h : s.IsSound) (hmode : s.mode ≠ .nothing) : ∃ r, s.current = some r :=
  Option.ne_none_iff_exists'.1 fun hnone => hmode (h.mode_eq_nothing_iff.2 hnone)

/-- A scenario may take the place of the current one, if it is sound and remembers that an
`Examples:` line was seen. -/
theorem setCurrent (h : s.IsSound) {r r' : Scenario} (hr : s.current = some r) (hr' : r'.IsSound)
    (hexamples : r.hasExamples = true → r'.hasExamples = true) :
    { s with current := some r' }.IsSound where
  mode_eq_nothing_iff := by
    rw [h.mode_eq_nothing_iff, hr]
    exact iff_of_false nofun nofun
  hasExamples_of_table := by
    intro hmode r'' hr''
    obtain rfl := Option.some.inj hr''
    exact hexamples (h.hasExamples_of_table hmode r hr)
  headers_isCell := h.headers_isCell
  records_isSound := by
    rw [records, List.forall_mem_append]
    refine ⟨fun r'' hr'' => h.records_isSound r'' (List.mem_append_left _ hr''), ?_⟩
    rw [Option.toList_some, List.forall_mem_singleton]
    exact hr'

theorem startScenario (h : s.IsSound) (name : Text) : (s.startScenario name).IsSound where
  mode_eq_nothing_iff := iff_of_false nofun nofun
  hasExamples_of_table := nofun
  headers_isCell := h.headers_isCell
  records_isSound := by
    show ∀ r ∈ s.records ++ (some (Scenario.named name)).toList, r.IsSound
    rw [List.forall_mem_append, Option.toList_some, List.forall_mem_singleton]
    exact ⟨h.records_isSound, .named name⟩

theorem openTable (h : s.IsSound) : s.openTable.IsSound := by
  rw [Scanner.openTable]
  cases hr : s.current with
  | none => exact h
  | some r =>
    have hsound := (h.records_isSound r (mem_records_of_current hr)).openTable
    exact {
      mode_eq_nothing_iff := iff_of_false nofun nofun
      hasExamples_of_table := by
        intro _ r' hr'
        obtain rfl := Option.some.inj hr'
        rfl
      headers_isCell := nofun
      records_isSound := (h.setCurrent hr hsound fun _ => rfl).records_isSound }

theorem addStep (h : s.IsSound) {line : Text} (hline : IsStepLine line) :
    (s.addStep line).IsSound := by
  rw [Scanner.addStep]
  cases hr : s.current with
  | none => exact h
  | some r =>
    have hsound := (h.records_isSound r (mem_records_of_current hr)).addStep hline
    exact h.setCurrent hr hsound id

theorem addRow (h : s.IsSound) (hmode : s.mode = .table) {line : Text} (hn : '\n' ∉ line) :
    (s.addRow line).IsSound := by
  have hcells : ∀ cell ∈ TableRow.cells line, IsCell cell :=
    fun _ => TableRow.isCell_of_mem_cells hn
  rw [Scanner.addRow]
  split
  · exact ⟨h.mode_eq_nothing_iff, h.hasExamples_of_table, hcells, h.records_isSound⟩
  · cases hr : s.current with
    | none => exact h
    | some r =>
      have hsound := (h.records_isSound r (mem_records_of_current hr)).addRow
        (h.hasExamples_of_table hmode r hr) h.headers_isCell hcells
      exact h.setCurrent hr hsound id

/-- One line keeps the parts together. -/
theorem feed (h : s.IsSound) {line : Text} (hn : '\n' ∉ line) (htrim : trimLine line = line) :
    (s.feed line).IsSound := by
  rw [feed_eq_take]
  have hbegins := Line.beginsAs_ofTrimmed line
  cases hl : Line.ofTrimmed line with
  | feature title =>
    exact ⟨h.mode_eq_nothing_iff, h.hasExamples_of_table, h.headers_isCell, h.records_isSound⟩
  | scenario name => exact h.startScenario name
  | examples => exact h.openTable
  | step step =>
    rw [hl] at hbegins
    obtain ⟨rfl, hsplit⟩ := hbegins
    rw [take]
    split
    · exact h.addStep ⟨hn, htrim, hsplit⟩
    · exact h
  | row row =>
    rw [hl] at hbegins
    obtain ⟨rfl, -⟩ := hbegins
    rw [take]
    split
    · rename_i hmode
      exact h.addRow hmode hn
    · exact h
  | silent => exact h

end IsSound

/-! ## The same pass as the reader's -/

/-- What is being collected, with the scenario and the headers it is collected for. -/
def collecting (s : Scanner) : Collecting :=
  match s.mode, s.current with
  | .steps, some r => .steps r
  | .table, some r => .table r s.headers
  | _, _ => .nothing

/-- The reader at the same place. -/
def reader (s : Scanner) : Reader :=
  ⟨s.title, s.finished, s.collecting⟩

/-- Between two lines there are three cases. -/
theorem IsSound.mode_cases (h : s.IsSound) :
    (s.mode = .nothing ∧ s.current = none) ∨
      ∃ r, s.current = some r ∧ (s.mode = .steps ∨ s.mode = .table) := by
  cases hmode : s.mode with
  | nothing => exact Or.inl ⟨rfl, h.mode_eq_nothing_iff.1 hmode⟩
  | steps =>
    obtain ⟨r, hr⟩ := h.exists_current (by simp [hmode])
    exact Or.inr ⟨r, hr, Or.inl rfl⟩
  | table =>
    obtain ⟨r, hr⟩ := h.exists_current (by simp [hmode])
    exact Or.inr ⟨r, hr, Or.inr rfl⟩

/-- A line does to the reader what it does to the scanner. -/
theorem reader_take (h : s.IsSound) (l : Line) : (s.take l).reader = s.reader.feed l := by
  have hcases := h.mode_cases
  obtain ⟨mode, title, finished, current, headers⟩ := s
  rcases hcases with ⟨rfl, rfl⟩ | ⟨r, rfl, rfl | rfl⟩
  · cases l <;> rfl
  · -- headers that an earlier table has left are of no account
    cases l <;> rfl
  · cases l with
    | row line => cases headers <;> rfl
    | _ => rfl

/-- The reader has the scenarios of the scanner. -/
theorem scenarios_reader (h : s.IsSound) : s.reader.scenarios = s.records := by
  have hcases := h.mode_cases
  obtain ⟨mode, title, finished, current, headers⟩ := s
  rcases hcases with ⟨rfl, rfl⟩ | ⟨r, rfl, rfl | rfl⟩ <;> rfl

/-- Lines keep the parts together, and the reader goes along. -/
theorem IsSound.feedAll (h : s.IsSound) {lines : List Text}
    (hlines : ∀ line ∈ lines, '\n' ∉ line ∧ trimLine line = line) :
    (s.feedAll lines).IsSound ∧
      (s.feedAll lines).reader = s.reader.feedAll (lines.map Line.ofTrimmed) := by
  induction lines generalizing s with
  | nil => exact ⟨h, rfl⟩
  | cons line lines ih =>
    obtain ⟨hline, hlines⟩ := List.forall_mem_cons.1 hlines
    obtain ⟨hsound, hreader⟩ := ih (h.feed hline.1 hline.2) hlines
    refine ⟨hsound, hreader.trans ?_⟩
    rw [feed_eq_take, reader_take h]
    rfl

/-! ## No line is lost for want of a scenario -/

/-- Where steps are collected a step line is added to a scenario, and where a table is collected
a row gives its headers or is added to a scenario. -/
structure LosesNoLine (s : Scanner) : Prop where
  /-- A step line is added to the current scenario. -/
  feed_step : s.mode = .steps → ∀ line, (Keyword.split? line).isSome →
    ∃ r, s.current = some r ∧ s.feed line = { s with current := some (r.addStep line) }
  /-- A first row gives the headers, below a current scenario. -/
  feed_headers : s.mode = .table → s.headers = [] → ∀ line, line.head? = some '|' →
    s.current.isSome ∧ s.feed line = { s with headers := TableRow.cells line }
  /-- A row below headers is added to the current scenario. -/
  feed_row : s.mode = .table → s.headers ≠ [] → ∀ line, line.head? = some '|' →
    ∃ r, s.current = some r ∧
      s.feed line = { s with current := some (r.addRow s.headers (TableRow.cells line)) }

theorem IsSound.losesNoLine (h : s.IsSound) : s.LosesNoLine where
  feed_step := by
    intro hmode line hline
    obtain ⟨r, hr⟩ := h.exists_current (by simp [hmode])
    refine ⟨r, hr, ?_⟩
    rw [feed_eq_take, Line.ofTrimmed_of_split? hline, take, if_pos hmode, Scanner.addStep, hr]
  feed_headers := by
    intro hmode hheaders line hline
    obtain ⟨r, hr⟩ := h.exists_current (by simp [hmode])
    rw [feed_eq_take, Line.ofTrimmed_of_pipe hline, take, if_pos hmode, Scanner.addRow,
      if_pos hheaders, hr]
    exact ⟨rfl, rfl⟩
  feed_row := by
    intro hmode hheaders line hline
    obtain ⟨r, hr⟩ := h.exists_current (by simp [hmode])
    refine ⟨r, hr, ?_⟩
    rw [feed_eq_take, Line.ofTrimmed_of_pipe hline, take, if_pos hmode, Scanner.addRow,
      if_neg hheaders, hr]

/-- **The parts of a scanner fit together.** After any lines, something is collected exactly when
there is a scenario for it, and no step and no row that comes next is lost for want of one. Every
scenario, complete or not, has examples only where an `Examples:` line was seen, so its row has
them for its parameters whenever there are any; its steps are step lines, the names of its examples
are cells, and no value begins with a pipe. And the reader is at the same place, with the same
scenarios. -/
theorem isSound_ofLines {lines : List Text} (h : ∀ line ∈ lines, '\n' ∉ line) :
    (ofLines lines).IsSound ∧ (ofLines lines).LosesNoLine ∧
      (∀ r ∈ (ofLines lines).records, ∀ title, (ExportRow.ofScenario title r).parameters =
        if r.examples.isEmpty then none else some r.examples) ∧
      (ofLines lines).reader = Reader.start.feedAll (lines.map Line.read) ∧
      (Reader.start.feedAll (lines.map Line.read)).scenarios = (ofLines lines).records := by
  have htrimmed : ∀ line ∈ lines.map trimLine, '\n' ∉ line ∧ trimLine line = line := by
    rw [List.forall_mem_map]
    exact fun line hline => ⟨fun hmem => h line hline (mem_of_mem_trimBy hmem), trimBy_trimBy _ _⟩
  obtain ⟨hsound, hreader⟩ := isSound_start.feedAll htrimmed
  refine ⟨hsound, hsound.losesNoLine,
    fun r hr title => (hsound.records_isSound r hr).parameters_ofScenario title, ?_⟩
  rw [List.map_map] at hreader
  change (ofLines lines).reader = Reader.start.feedAll (lines.map Line.read) at hreader
  rw [← hreader]
  exact ⟨rfl, scenarios_reader hsound⟩

/-- A table row and a step before any scenario, a second scenario that begins with the headers of
the first one's table left over, and an empty row in front of new headers. -/
theorem isSound_ofLines_leftover :
    let lines : List Text := ["| lost |".toList, "Given lost".toList, "Scenario: A".toList,
      "Examples:".toList, "| a | b |".toList, "| | 1".toList, "\uFEFF Scenario Outline: B".toList,
      "When\u3000<a> ".toList, "Examples:".toList, "|".toList, "| c |".toList]
    (∀ line ∈ lines, '\n' ∉ line) ∧
      ((ofLines lines).IsSound ∧ (ofLines lines).LosesNoLine ∧
        (∀ r ∈ (ofLines lines).records, ∀ title, (ExportRow.ofScenario title r).parameters =
          if r.examples.isEmpty then none else some r.examples) ∧
        (ofLines lines).reader = Reader.start.feedAll (lines.map Line.read) ∧
        (Reader.start.feedAll (lines.map Line.read)).scenarios = (ofLines lines).records) ∧
      (ofLines lines).mode = .table ∧ (ofLines lines).headers = ["c".toList] ∧
      (ofLines lines).records.map Scenario.steps = [[], ["When\u3000<a>".toList]] := by
  intro lines
  have h : ∀ line ∈ lines, '\n' ∉ line := by decide
  exact ⟨h, isSound_ofLines h, by decide, by decide, by decide⟩

end Scanner

end FeatureSheets
