import FeatureSheets.Proofs.Feature.Line
import FeatureSheets.Proofs.Slices
import Mathlib.Data.List.Forall2

/-!
# What a document records

A document is read in one pass with a state; this module says what comes out of the pass without
the state. The scenarios of a document are those of its slices, each from one scenario line up to
the next (`scenarios_feedAll`), and a slice gives the one scenario `Scenario.ofLines`: its steps
are the step lines before its first `Examples:` line, and its examples the cells of its tables,
collected in order (`scenario?_feedAll_steps`). `forall₂_isRecordOf` states both for a document
as it is written.
-/

namespace FeatureSheets

/-! ## Tables -/

/-- An example table as it is read: the headers, and the rows below them. -/
structure ExampleTable where
  /-- The headers; none where no row has a cell. -/
  headers : List Text
  /-- The rows below the headers. -/
  rows : List (List Text)
  deriving DecidableEq, Repr

namespace ExampleTable

/-- The table of some rows. The first row with a cell names the headers. -/
def ofRows (rows : List (List Text)) : ExampleTable where
  headers := (rows.dropWhile List.isEmpty).headD []
  rows := (rows.dropWhile List.isEmpty).tail

/-- The cells of a row with the headers above them; a cell is empty where the row is too short. -/
def rowCells (headers row : List Text) : List (Text × Text) :=
  headers.zipIdx.map fun h => (h.1, row[h.2]?.getD [])

/-- The cells below the headers, row by row. -/
def cells (t : ExampleTable) : List (Text × Text) :=
  t.rows.flatMap (rowCells t.headers)

theorem ofRows_nil_cons (rows : List (List Text)) : ofRows ([] :: rows) = ofRows rows :=
  rfl

theorem ofRows_cons {headers : List Text} (h : headers ≠ []) (rows : List (List Text)) :
    ofRows (headers :: rows) = ⟨headers, rows⟩ := by
  cases headers with
  | nil => exact absurd rfl h
  | cons a headers => rfl

theorem cells_ofRows_singleton (headers : List Text) : (ofRows [headers]).cells = [] := by
  cases headers <;> rfl

/-- A row below headers gives its cells first. -/
theorem cells_ofRows_cons_cons {headers : List Text} (h : headers ≠ []) (row : List Text)
    (rows : List (List Text)) :
    (ofRows (headers :: row :: rows)).cells =
      rowCells headers row ++ (ofRows (headers :: rows)).cells := by
  rw [ofRows_cons h, ofRows_cons h]
  rfl

end ExampleTable

/-- Collects cells in turn, each under its header. -/
def Entries.collect (e : Entries) (cells : List (Text × Text)) : Entries :=
  cells.foldl (fun e cell => e.alter cell.1 (Scenario.joinCell cell.2)) e

theorem Entries.collect_append (e : Entries) (a b : List (Text × Text)) :
    e.collect (a ++ b) = (e.collect a).collect b :=
  List.foldl_append

theorem Scenario.addRow_eq (s : Scenario) (headers row : List Text) :
    s.addRow headers row =
      { s with examples := s.examples.collect (ExampleTable.rowCells headers row) } := by
  rw [addRow, Entries.collect, ExampleTable.rowCells, List.foldl_map]

/-! ## The record of a slice -/

/-- The tables of some lines, one for each `Examples:` line. -/
def tablesOf (lines : List Line) : List ExampleTable :=
  (slicesAt Line.isExamples lines).map fun block => .ofRows (block.filterMap Line.cells?)

/-- An `Examples:` line opens the table of the rows up to the next one. -/
theorem tablesOf_cons_examples (lines : List Line) :
    tablesOf (.examples :: lines) =
      .ofRows ((lines.takeWhile fun l => !l.isExamples).filterMap Line.cells?) ::
        tablesOf lines := by
  rw [tablesOf, slicesAt_cons_of_pos rfl]
  rfl

/-- Any other line belongs to the table before it, if there is one. -/
theorem tablesOf_cons_of_neg {l : Line} (h : l.isExamples = false) (lines : List Line) :
    tablesOf (l :: lines) = tablesOf lines := by
  rw [tablesOf, slicesAt_cons_of_neg h, tablesOf]

/-- The scenario that is named on a line and told on the lines after it. -/
def Scenario.ofLines (name : Text) (lines : List Line) : Scenario where
  name := name
  steps := (lines.takeWhile fun l => !l.isExamples).filterMap Line.step?
  examples := Entries.empty.collect ((tablesOf lines).flatMap ExampleTable.cells)
  hasExamples := lines.any Line.isExamples

namespace Collecting

/-- Takes in one line that opens no scenario. -/
def feed (c : Collecting) : Line → Collecting
  | .examples => c.openTable
  | .step line => c.addStep line
  | .row line => c.addRow line
  | _ => c

/-- Takes in lines in turn, none of which opens a scenario. -/
def feedAll (c : Collecting) (lines : List Line) : Collecting :=
  lines.foldl feed c

/-- Before the first scenario line there is nothing to collect for. -/
theorem feedAll_nothing (lines : List Line) : nothing.feedAll lines = nothing := by
  induction lines with
  | nil => rfl
  | cons l lines ih =>
    rw [feedAll, List.foldl_cons, ← feedAll]
    cases l <;> exact ih

/-- The rows of a table that is open, below the headers it has so far, come first; the tables of
the lines to come follow. -/
theorem scenario?_feedAll_table (s : Scenario) (headers : List Text) (lines : List Line) :
    ((table s headers).feedAll lines).scenario? = some
      { s with
        examples := s.examples.collect
          ((ExampleTable.ofRows (headers ::
            (lines.takeWhile fun l => !l.isExamples).filterMap Line.cells?)).cells ++
              (tablesOf lines).flatMap ExampleTable.cells)
        hasExamples := s.hasExamples || lines.any Line.isExamples } := by
  -- both the scenario and the headers change on the way, so the claim is for all of them
  induction lines generalizing s headers with
  | nil => simp [feedAll, scenario?, tablesOf, slicesAt, ExampleTable.cells_ofRows_singleton,
      Entries.collect]
  | cons l lines ih =>
    rw [feedAll, List.foldl_cons, ← feedAll]
    cases l with
    | examples =>
      rw [show (table s headers).feed .examples = table { s with hasExamples := true } [] from rfl,
        ih, ExampleTable.ofRows_nil_cons, tablesOf_cons_examples]
      simp [Line.isExamples, ExampleTable.cells_ofRows_singleton]
    | row line =>
      rw [tablesOf_cons_of_neg rfl]
      by_cases h : headers = []
      · -- the row names the headers
        subst h
        rw [show (table s []).feed (.row line) = table s (TableRow.cells line) from rfl, ih]
        simp [Line.isExamples, Line.cells?, ExampleTable.ofRows_nil_cons]
      · rw [show (table s headers).feed (.row line) =
            table (s.addRow headers (TableRow.cells line)) headers by
          cases headers with
          | nil => exact absurd rfl h
          | cons a headers => rfl, ih, Scenario.addRow_eq]
        simp [Line.isExamples, Line.cells?, ExampleTable.cells_ofRows_cons_cons h,
          Entries.collect_append]
    | _ =>
      rw [tablesOf_cons_of_neg rfl]
      exact ih s headers

/-- Steps are taken in up to the first `Examples:` line, and tables from there on. -/
theorem scenario?_feedAll_steps (s : Scenario) (lines : List Line) :
    ((steps s).feedAll lines).scenario? = some
      { s with
        steps := s.steps ++ (lines.takeWhile fun l => !l.isExamples).filterMap Line.step?
        examples := s.examples.collect ((tablesOf lines).flatMap ExampleTable.cells)
        hasExamples := s.hasExamples || lines.any Line.isExamples } := by
  induction lines generalizing s with
  | nil => simp [feedAll, scenario?, tablesOf, slicesAt, Entries.collect]
  | cons l lines ih =>
    rw [feedAll, List.foldl_cons, ← feedAll]
    cases l with
    | examples =>
      -- from here on the table lemma has the rest
      rw [show (steps s).feed .examples = table { s with hasExamples := true } [] from rfl,
        scenario?_feedAll_table, ExampleTable.ofRows_nil_cons, tablesOf_cons_examples]
      simp [Line.isExamples]
    | step line =>
      rw [tablesOf_cons_of_neg rfl,
        show (steps s).feed (.step line) = steps (s.addStep line) from rfl, ih]
      simp [Line.isExamples, Line.step?, Scenario.addStep]
    | _ =>
      rw [tablesOf_cons_of_neg rfl]
      exact ih s

end Collecting

/-! ## The records of a document -/

namespace Reader

/-- A line that opens no scenario changes what is being collected, and completes nothing. -/
theorem feed_of_not_isScenario (r : Reader) {l : Line} (h : l.isScenario = false) :
    (r.feed l).finished = r.finished ∧ (r.feed l).collecting = r.collecting.feed l := by
  cases l with
  | scenario name => cases h
  | _ => exact ⟨rfl, rfl⟩

/-- Lines that open no scenario change what is being collected, and complete nothing. -/
theorem feedAll_of_forall (r : Reader) {lines : List Line}
    (h : ∀ l ∈ lines, l.isScenario = false) :
    (r.feedAll lines).finished = r.finished ∧
      (r.feedAll lines).collecting = r.collecting.feedAll lines := by
  induction lines generalizing r with
  | nil => exact ⟨rfl, rfl⟩
  | cons l lines ih =>
    obtain ⟨hfin, hcol⟩ := r.feed_of_not_isScenario (h l (by simp))
    obtain ⟨hfin', hcol'⟩ := ih (r.feed l) fun l' hl' => h l' (by simp [hl'])
    exact ⟨hfin'.trans hfin, hcol'.trans (by rw [hcol]; rfl)⟩

theorem scenario?_collecting_feed_scenario (r : Reader) (name : Text) (lines : List Line) :
    ((r.feed (.scenario name)).collecting.feedAll lines).scenario? =
      some (.ofLines name lines) := by
  rw [show (r.feed (.scenario name)).collecting = .steps (.named name) from rfl,
    Collecting.scenario?_feedAll_steps]
  simp [Scenario.named, Scenario.ofLines]

/-- A slice is read to one scenario. -/
theorem scenarios_feedAll_slice (name : Text) {lines : List Line}
    (h : ∀ l ∈ lines, l.isScenario = false) :
    (start.feedAll (.scenario name :: lines)).scenarios = [.ofLines name lines] := by
  rw [feedAll, List.foldl_cons, ← feedAll]
  obtain ⟨hfin, hcol⟩ := (start.feed (.scenario name)).feedAll_of_forall h
  rw [scenarios, hfin, hcol, scenario?_collecting_feed_scenario]
  rfl

/-- What is being collected is completed by the lines before the next scenario line; from there
on every slice has its own scenarios, whatever was read before it. -/
theorem scenarios_feedAll (r : Reader) (lines : List Line) :
    (r.feedAll lines).scenarios =
      r.finished ++
        ((r.collecting.feedAll (lines.takeWhile fun l => !l.isScenario)).scenario?).toList ++
        (slicesAt Line.isScenario lines).flatMap fun slice =>
          (start.feedAll slice).scenarios := by
  -- a reader in any state: only the front of the lines can see which
  induction lines generalizing r with
  | nil => simp [feedAll, Collecting.feedAll, scenarios, slicesAt]
  | cons l lines ih =>
    rw [feedAll, List.foldl_cons, ← feedAll, ih]
    cases h : l.isScenario with
    | false =>
      obtain ⟨hfin, hcol⟩ := r.feed_of_not_isScenario h
      rw [hfin, hcol, slicesAt_cons_of_neg h, List.takeWhile_cons_of_pos (by simp [h])]
      rfl
    | true =>
      obtain ⟨name, rfl⟩ := Line.isScenario_iff.1 h
      have hrest : ∀ l ∈ lines.takeWhile fun l => !l.isScenario, l.isScenario = false :=
        fun l hl => by simpa using List.mem_takeWhile_imp hl
      rw [slicesAt_cons_of_pos h, List.flatMap_cons, scenarios_feedAll_slice name hrest,
        scenario?_collecting_feed_scenario, List.takeWhile_cons_of_neg (by simp [h])]
      simp [feed, scenarios, Collecting.feedAll]

/-- What was read before a scenario line does not reach beyond it. -/
theorem scenarios_feedAll_cons_of_isScenario (r : Reader) {l : Line} (h : l.isScenario = true)
    (lines : List Line) :
    (r.feedAll (l :: lines)).scenarios =
      r.scenarios ++ (start.feedAll (l :: lines)).scenarios := by
  rw [scenarios_feedAll, scenarios_feedAll start, List.takeWhile_cons_of_neg (by simp [h])]
  simp [Collecting.feedAll, scenarios, start, Collecting.scenario?]

end Reader

/-- The scenario `s` is what a slice of a document's lines tells: the first line names it, and
no later line opens another one. -/
def IsRecordOf (slice : List Text) (s : Scenario) : Prop :=
  ∃ name first rest, slice = first :: rest ∧ Line.read first = .scenario name ∧
    (∀ line ∈ rest, Line.opensScenario line = false) ∧ s = .ofLines name (rest.map Line.read)

namespace Feature

/-- What some lines of a document say on their own. -/
def ofLines (lines : List Text) : Feature :=
  (Reader.start.feedAll (lines.map Line.read)).result

theorem parse_eq_ofLines (text : Text) : parse text = ofLines text.lines :=
  rfl

/-- A slice on its own has one scenario, its record. -/
theorem scenarios_ofLines_of_isRecordOf {slice : List Text} {s : Scenario}
    (h : IsRecordOf slice s) : (ofLines slice).scenarios = [s] := by
  obtain ⟨name, first, rest, rfl, hname, hrest, rfl⟩ := h
  have hread : ∀ l ∈ rest.map Line.read, l.isScenario = false := by
    intro l hl
    obtain ⟨line, hline, rfl⟩ := List.mem_map.1 hl
    rw [Line.isScenario_read, hrest line hline]
  rw [ofLines, List.map_cons, hname]
  exact Reader.scenarios_feedAll_slice name hread

theorem exists_isRecordOf {lines slice : List Text}
    (h : slice ∈ slicesAt Line.opensScenario lines) : ∃ s, IsRecordOf slice s := by
  obtain ⟨first, rest, rfl, hfirst, hrest⟩ := exists_cons_of_mem_slicesAt h
  rw [← Line.isScenario_read] at hfirst
  obtain ⟨name, hname⟩ := Line.isScenario_iff.1 hfirst
  exact ⟨_, name, first, rest, rfl, hname, hrest, rfl⟩

/-- The scenarios of a document are those of its slices. -/
theorem scenarios_ofLines (lines : List Text) :
    (ofLines lines).scenarios =
      (slicesAt Line.opensScenario lines).flatMap fun slice => (ofLines slice).scenarios := by
  have hread : Line.isScenario ∘ Line.read = Line.opensScenario :=
    funext Line.isScenario_read
  have hfront : (Reader.start.collecting.feedAll
      ((lines.map Line.read).takeWhile fun l => !l.isScenario)).scenario? = none := by
    rw [show Reader.start.collecting = .nothing from rfl, Collecting.feedAll_nothing]
    rfl
  rw [ofLines, Reader.result, Reader.scenarios_feedAll, hfront, slicesAt_map, hread,
    List.flatMap_map]
  rfl

/-- Each slice of a document has its record, in order, and there are no other scenarios. -/
theorem forall₂_isRecordOf (text : Text) :
    List.Forall₂ IsRecordOf (slicesAt Line.opensScenario text.lines)
      (parse text).scenarios := by
  rw [parse_eq_ofLines, scenarios_ofLines]
  have hslices : ∀ slice ∈ slicesAt Line.opensScenario text.lines, ∃ s, IsRecordOf slice s :=
    fun _ => exists_isRecordOf
  generalize slicesAt Line.opensScenario text.lines = slices at hslices
  induction slices with
  | nil => exact .nil
  | cons slice slices ih =>
    obtain ⟨s, hs⟩ := hslices slice (by simp)
    rw [List.flatMap_cons, scenarios_ofLines_of_isRecordOf hs]
    exact .cons hs (ih fun slice' h => hslices slice' (by simp [h]))

/-- Every scenario is the record of a slice. -/
theorem exists_slice_of_mem_scenarios {text : Text} {s : Scenario}
    (h : s ∈ (parse text).scenarios) :
    ∃ slice ∈ slicesAt Line.opensScenario text.lines, IsRecordOf slice s := by
  rw [parse_eq_ofLines, scenarios_ofLines] at h
  obtain ⟨slice, hslice, hs⟩ := List.mem_flatMap.1 h
  obtain ⟨s', hs'⟩ := exists_isRecordOf hslice
  rw [scenarios_ofLines_of_isRecordOf hs', List.mem_singleton] at hs
  exact ⟨slice, hslice, hs ▸ hs'⟩

end Feature

end FeatureSheets
