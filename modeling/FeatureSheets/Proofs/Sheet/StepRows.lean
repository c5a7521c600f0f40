import FeatureSheets.Conversion
import FeatureSheets.Proofs.Feature.Steps
import Mathlib.Algebra.GroupWithZero.Nat

/-!
# From steps to rows

The steps of a scenario are joined into one text, cut into lines again and tabulated. For the
steps that a document records this loses nothing: they are step lines, so they are cut where they
were joined and none of them is dropped as blank (`writtenSteps_ofScenario`). Every step has its
row, in order (`convert_keeps_steps`), and the row splits it just where the document was split
when it was read (`rows_agree_with_steps`).
-/

namespace FeatureSheets

open Text

/-! ## Rows and sheets one by one -/

/-- What holds of every step line and its row, whatever its index and its group, holds of the
lines and rows in order. -/
theorem forall₂_stepRowsFrom {R : Text → List Text → Prop} {config : SheetConfig}
    {parameters : Option Entries} {lines : List Text}
    (h : ∀ line ∈ lines, ∀ index group,
      R line (stepRow config parameters index line (Step.cells group line)))
    (index : Nat) (group : Option Keyword) :
    List.Forall₂ R lines (stepRowsFrom config parameters index group lines) := by
  induction lines generalizing index group with
  | nil => exact .nil
  | cons line rest ih =>
    rw [stepRowsFrom]
    exact .cons (h line (by simp) index group) (ih (fun l hl => h l (by simp [hl])) _ _)

/-- The first column holds the step lines. -/
theorem map_stepText_stepRowsFrom (config : SheetConfig) (parameters : Option Entries)
    (index : Nat) (group : Option Keyword) (lines : List Text) :
    ((stepRowsFrom config parameters index group lines).map
      fun row => row[Column.stepText.index]?) = lines.map some := by
  induction lines generalizing index group with
  | nil => rfl
  | cons line rest ih =>
    rw [stepRowsFrom, List.map_cons, List.map_cons, ih]
    rfl

/-- What holds of every scenario and its sheet, whatever the name of the sheet, holds of the
scenarios of a document and the sheets of its conversion in order. -/
theorem forall₂_sheets_convert {R : Scenario → Sheet → Prop} (config : SheetConfig) (text : Text)
    (h : ∀ s ∈ (Feature.parse text).scenarios, ∀ name,
      R s (Sheet.ofRow config name (.ofScenario (Feature.parse text).title s))) :
    List.Forall₂ R (Feature.parse text).scenarios (convert config text).sheets := by
  rw [convert, Conversion.ofFeature]
  simp only [Feature.rows, buildSheets, List.zipWith_map_right]
  exact forall₂_zipWith_right (by simp [SheetName.length_names]) h

/-! ## The steps of a row -/

/-- Joining step lines and cutting them again gives the step lines. -/
theorem writtenSteps_ofScenario (title : Text) {s : Scenario}
    (h : ∀ step ∈ s.steps, IsStepLine step) :
    (ExportRow.ofScenario title s).writtenSteps = s.steps := by
  rw [ExportRow.writtenSteps, ExportRow.stepLines, ExportRow.ofScenario]
  by_cases hs : s.steps = []
  · -- no steps are joined to one empty line, which is blank
    rw [hs]
    rfl
  · rw [lines_joinWith hs fun step hstep => (h step hstep).not_mem, List.filter_eq_self]
    intro step hstep
    rw [(h step hstep).isBlankText_eq_false]
    rfl

theorem stepRows_ofRow_ofScenario (config : SheetConfig) (name title : Text) {s : Scenario}
    (h : ∀ step ∈ s.steps, IsStepLine step) :
    (Sheet.ofRow config name (.ofScenario title s)).stepRows =
      stepRowsFrom config (ExportRow.ofScenario title s).parameters 0 none s.steps := by
  rw [Sheet.stepRows, Sheet.ofRow, writtenSteps_ofScenario title h, List.tail_cons]

theorem Conversion.totalSteps_eq (c : Conversion) :
    c.totalSteps = (c.sheets.map Sheet.stepCount).sum := by
  rw [totalSteps, List.sum_eq_foldl, List.foldl_map]

/-- A sheet keeps the steps of its scenario: one row for each, with the step in its first
column. -/
structure KeepsSteps (s : Scenario) (sheet : Sheet) : Prop where
  /-- The first column, read from top to bottom, is the list of the steps. -/
  column : (sheet.stepRows.map fun row => row[Column.stepText.index]?) = s.steps.map some
  /-- There are as many rows as steps. -/
  stepCount_eq : sheet.stepCount = s.steps.length
  /-- Without steps there are only the headers, and only then. -/
  headers_only : s.steps = [] ↔ sheet.rows = [Column.headers]

theorem keepsSteps_ofRow (config : SheetConfig) (name title : Text) {s : Scenario}
    (h : ∀ step ∈ s.steps, IsStepLine step) :
    KeepsSteps s (Sheet.ofRow config name (.ofScenario title s)) := by
  have hrows := stepRows_ofRow_ofScenario config name title h
  have hcount : (Sheet.ofRow config name (.ofScenario title s)).stepCount = s.steps.length := by
    rw [Sheet.stepCount, hrows, length_stepRowsFrom]
  refine ⟨by rw [hrows, map_stepText_stepRowsFrom], hcount, ?_⟩
  rw [← List.length_eq_zero_iff, ← hcount, Sheet.stepCount, List.length_eq_zero_iff]
  show _ ↔ Column.headers :: _ = [Column.headers]
  simp [Sheet.ofRow, Sheet.stepRows]

/-- **No step is lost, added, split or moved.** A document has one row and one sheet for each
scenario, in order, and each sheet keeps the steps of its scenario. -/
theorem convert_keeps_steps (config : SheetConfig) (text : Text) :
    (convert config text).rows = (Feature.parse text).scenarios.map
        (.ofScenario (Feature.parse text).title) ∧
      List.Forall₂ KeepsSteps (Feature.parse text).scenarios (convert config text).sheets ∧
      (convert config text).totalSteps =
        ((Feature.parse text).scenarios.map fun s => s.steps.length).sum := by
  have hkeeps : List.Forall₂ KeepsSteps (Feature.parse text).scenarios
      (convert config text).sheets :=
    forall₂_sheets_convert config text fun s hs name =>
      keepsSteps_ofRow config name _ fun _ => isStepLine_of_mem_steps hs
  refine ⟨rfl, hkeeps, ?_⟩
  have hcounts : List.Forall₂ (· = ·) ((convert config text).sheets.map Sheet.stepCount)
      ((Feature.parse text).scenarios.map fun s => s.steps.length) :=
    List.forall₂_map_left_iff.2 (List.forall₂_map_right_iff.2
      (hkeeps.flip.imp fun _ _ h => h.stepCount_eq))
  rw [List.forall₂_eq_eq_eq] at hcounts
  rw [Conversion.totalSteps_eq, hcounts]

/-! ## Two ways to recognise a step -/

namespace Step

/-- A keyword is found in front of a text in any letter case, its own included. -/
theorem afterFolded?_append (p s : Text) : afterFolded? p (p ++ s) = some s := by
  induction p with
  | nil => rfl
  | cons a p ih => rw [List.cons_append, afterFolded?, if_pos rfl, ih]

/-- A text that begins with another letter, in any case, does not follow the keyword. -/
theorem afterFolded?_eq_none {p s : Text} {a c : Char} (hp : p.head? = some a)
    (hs : s.head? = some c) (h : a.toLower ≠ c.toLower) : afterFolded? p s = none := by
  cases p with
  | nil => cases hp
  | cons a' p =>
    cases s with
    | nil => cases hs
    | cons c' s =>
      obtain rfl : a' = a := Option.some.inj hp
      obtain rfl : c' = c := Option.some.inj hs
      rw [afterFolded?, if_neg h]

/-- No two keywords begin with the same letter in whatever case. -/
theorem exists_head?_toLower_ne {k l : Keyword} (h : l ≠ k) :
    ∃ a c, l.word.head? = some a ∧ k.word.head? = some c ∧ a.toLower ≠ c.toLower := by
  cases l <;> cases k <;> first | exact absurd rfl h | exact ⟨_, _, rfl, rfl, by decide⟩

/-- **The recognisers agree.** On one line, what begins with an exact keyword and white space is
split in the same way when any letter case would do. -/
theorem keyed?_of_split? {line r : Text} {k : Keyword} (hn : '\n' ∉ line)
    (h : Keyword.split? line = some (k, r)) : keyed? line = some (k.word, r) := by
  obtain ⟨c, rest, rfl, hc, rfl⟩ := Keyword.split?_eq_some_iff.1 h
  obtain ⟨b, hb, hblank⟩ := k.exists_head?_word
  have hs : (k.word ++ c :: rest).head? = some b := by
    rw [List.head?_append, hb]
    rfl
  -- the text goes on to the end of the line
  have htext : (trimStart rest).takeWhile (· != '\n') = trimStart rest := by
    rw [List.takeWhile_eq_self_iff]
    intro d hd
    have hmem : d ∈ k.word ++ c :: rest :=
      List.mem_append_right _ (List.mem_cons_of_mem _ ((List.dropWhile_suffix _).subset hd))
    simpa using fun e : d = '\n' => hn (e ▸ hmem)
  have hk : keyedBy? (k.word ++ c :: rest) k = some (k.word, trimStart rest) := by
    rw [keyedBy?, afterFolded?_append]
    simp [hc, htext]
  rw [keyed?, trimStart_eq_self hs hblank]
  refine findSome?_eq_some_of_forall k.mem_all hk fun l _ => ?_
  by_cases hlk : l = k
  · exact Or.inr (hlk ▸ hk)
  · left
    obtain ⟨a, c', ha, hc', hne⟩ := exists_head?_toLower_ne hlk
    obtain rfl : c' = b := Option.some.inj (hc'.symm.trans hb)
    rw [keyedBy?, afterFolded?_eq_none ha hs hne]

/-- The cells of a keyed line are its keyword and, in one of two columns, its text. -/
theorem cells_of_keyed? {line r : Text} {k : Keyword} (h : keyed? line = some (k.word, r))
    (group : Option Keyword) :
    cells group line = ⟨k.word, [], r⟩ ∨ cells group line = ⟨k.word, r, noExpectation⟩ := by
  rw [cells, h]
  dsimp only
  split
  · exact Or.inl rfl
  · exact Or.inr rfl

end Step

/-- A row tells a step as the document does: both split it into the keyword `k` and the text `r`,
the keyword stands in the row as it is spelled, and the text in the column it belongs to. -/
def TellsStep (line : Text) (row : List Text) : Prop :=
  ∃ k r, Keyword.split? line = some (k, r) ∧ Step.keyed? line = some (k.word, r) ∧ r ≠ [] ∧
    row[Column.gwt.index]? = some k.word ∧
    (row[Column.expected.index]? = some r ∧ row[Column.description.index]? = some [] ∨
      row[Column.description.index]? = some r ∧
        row[Column.expected.index]? = some Step.noExpectation)

theorem tellsStep_stepRow {line : Text} (h : IsStepLine line) (config : SheetConfig)
    (parameters : Option Entries) (index : Nat) (group : Option Keyword) :
    TellsStep line (stepRow config parameters index line (Step.cells group line)) := by
  obtain ⟨⟨k, r⟩, hr⟩ := Option.isSome_iff_exists.1 h.isSome_split?
  have hkeyed := Step.keyed?_of_split? h.not_mem hr
  refine ⟨k, r, hr, hkeyed, h.text_ne_nil hr, ?_⟩
  rcases Step.cells_of_keyed? hkeyed group with hc | hc <;> rw [hc]
  · exact ⟨rfl, Or.inl ⟨rfl, rfl⟩⟩
  · exact ⟨rfl, Or.inr ⟨rfl, rfl⟩⟩

/-- No keyword is spelled like the label of a line without one. -/
theorem word_ne_unkeyedLabel (k : Keyword) : k.word ≠ Step.unkeyedLabel := by
  cases k <;> decide

/-- **A step is split once.** On the sheets of a document every row tells its step as the document
does, and none has the label of a line without a keyword. -/
theorem rows_agree_with_steps (config : SheetConfig) (text : Text) :
    List.Forall₂ (fun s sheet => List.Forall₂ TellsStep s.steps sheet.stepRows ∧
        ∀ row ∈ sheet.stepRows, row[Column.gwt.index]? ≠ some Step.unkeyedLabel)
      (Feature.parse text).scenarios (convert config text).sheets := by
  refine forall₂_sheets_convert config text fun s hs name => ?_
  have hsteps : ∀ step ∈ s.steps, IsStepLine step := fun _ => isStepLine_of_mem_steps hs
  rw [stepRows_ofRow_ofScenario config name _ hsteps]
  have htells : List.Forall₂ TellsStep s.steps (stepRowsFrom config
      (ExportRow.ofScenario (Feature.parse text).title s).parameters 0 none s.steps) :=
    forall₂_stepRowsFrom
      (fun step hstep index group => tellsStep_stepRow (hsteps step hstep) config _ index group) 0
      none
  refine ⟨htells, fun row hrow hlabel => ?_⟩
  obtain ⟨step, -, k, r, -, -, -, hgwt, -⟩ := exists_of_mem_right htells hrow
  rw [hgwt] at hlabel
  exact word_ne_unkeyedLabel k (Option.some.inj hlabel)

end FeatureSheets
