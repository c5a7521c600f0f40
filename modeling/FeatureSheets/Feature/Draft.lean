import FeatureSheets.Keyword

/-!
# Drafts

A document before it is written: a title and scenarios with their steps and example tables.
`Draft.text` writes it down line by line, each line as far indented as the writer likes.

A draft is well formed when what it writes can be told apart again: titles, names and steps stand
on one line and have no margins of their own, and cells have neither blanks at their ends nor
pipes.
-/

namespace FeatureSheets

/-- An example table. -/
structure DraftTable where
  /-- The headers. -/
  headers : List Text
  /-- The values, row by row. -/
  rows : List (List Text)
  deriving DecidableEq, Repr

/-- A scenario with its tables. -/
structure DraftScenario where
  /-- The title. -/
  name : Text
  /-- The steps, each with its keyword. -/
  steps : List (Keyword × Text)
  /-- The example tables. -/
  tables : List DraftTable
  deriving DecidableEq, Repr

/-- A document. -/
structure Draft where
  /-- The title. -/
  title : Text
  /-- The scenarios in order. -/
  scenarios : List DraftScenario
  deriving DecidableEq, Repr

/-! ## Writing -/

/-- The line of a step. -/
def draftStep (step : Keyword × Text) : Text :=
  step.1.word ++ ' ' :: step.2

/-- A table row: every cell between two pipes. -/
def draftRow (cells : List Text) : Text :=
  '|' :: cells.flatMap fun cell => ' ' :: cell ++ [' ', '|']

/-- The lines of a table. -/
def DraftTable.lines (t : DraftTable) : List Text :=
  "Examples:".toList :: draftRow t.headers :: t.rows.map draftRow

/-- The lines of a scenario. -/
def DraftScenario.lines (s : DraftScenario) : List Text :=
  ("Scenario Outline: ".toList ++ s.name) :: s.steps.map draftStep ++
    s.tables.flatMap DraftTable.lines

namespace Draft

/-- The lines of a document. -/
def lines (d : Draft) : List Text :=
  ("Feature: ".toList ++ d.title) :: d.scenarios.flatMap DraftScenario.lines

/-- The text of a document whose line `i` is indented by `indent i`. -/
def text (indent : Nat → Text) (d : Draft) : Text :=
  Text.joinWith '\n' (d.lines.mapIdx fun i line => indent i ++ line)

end Draft

/-! ## Well-formed drafts -/

/-- A text on one line that has no margins. -/
def IsPhrase (s : Text) : Prop :=
  '\n' ∉ s ∧ Text.trimLine s = s

instance (s : Text) : Decidable (IsPhrase s) :=
  inferInstanceAs (Decidable (_ ∧ _))

/-- A text that fits between two pipes and has no blanks at its ends. -/
def IsCell (s : Text) : Prop :=
  '\n' ∉ s ∧ '|' ∉ s ∧ Text.trim s = s

instance (s : Text) : Decidable (IsCell s) :=
  inferInstanceAs (Decidable (_ ∧ _ ∧ _))

/-- A table with headers and with rows as wide as they are. -/
structure DraftTable.IsWellFormed (t : DraftTable) : Prop where
  /-- There is a header. -/
  headers_ne_nil : t.headers ≠ []
  /-- Every header is a cell. -/
  headers_isCell : ∀ h ∈ t.headers, IsCell h
  /-- Every row has a value for each header. -/
  rows_length : ∀ row ∈ t.rows, row.length = t.headers.length
  /-- Every value is a cell. -/
  rows_isCell : ∀ row ∈ t.rows, ∀ cell ∈ row, IsCell cell

instance (t : DraftTable) : Decidable t.IsWellFormed :=
  decidable_of_iff
    (t.headers ≠ [] ∧ (∀ h ∈ t.headers, IsCell h) ∧
      (∀ row ∈ t.rows, row.length = t.headers.length) ∧ ∀ row ∈ t.rows, ∀ cell ∈ row, IsCell cell)
    ⟨fun h => ⟨h.1, h.2.1, h.2.2.1, h.2.2.2⟩, fun h => ⟨h.1, h.2, h.3, h.4⟩⟩

/-- A scenario of phrases. -/
structure DraftScenario.IsWellFormed (s : DraftScenario) : Prop where
  /-- The title is a phrase. -/
  name_isPhrase : IsPhrase s.name
  /-- Every step is a phrase, keyword and all; so its text is not blank. -/
  steps_isPhrase : ∀ step ∈ s.steps, IsPhrase (draftStep step)
  /-- Every table is well formed. -/
  tables_isWellFormed : ∀ t ∈ s.tables, t.IsWellFormed

instance (s : DraftScenario) : Decidable s.IsWellFormed :=
  decidable_of_iff
    (IsPhrase s.name ∧ (∀ step ∈ s.steps, IsPhrase (draftStep step)) ∧
      ∀ t ∈ s.tables, t.IsWellFormed)
    ⟨fun h => ⟨h.1, h.2.1, h.2.2⟩, fun h => ⟨h.1, h.2, h.3⟩⟩

/-- A document of well-formed scenarios. -/
structure Draft.IsWellFormed (d : Draft) : Prop where
  /-- The title is a phrase. -/
  title_isPhrase : IsPhrase d.title
  /-- Every scenario is well formed. -/
  scenarios_isWellFormed : ∀ s ∈ d.scenarios, s.IsWellFormed

instance (d : Draft) : Decidable d.IsWellFormed :=
  decidable_of_iff (IsPhrase d.title ∧ ∀ s ∈ d.scenarios, s.IsWellFormed)
    ⟨fun h => ⟨h.1, h.2⟩, fun h => ⟨h.1, h.2⟩⟩

end FeatureSheets
