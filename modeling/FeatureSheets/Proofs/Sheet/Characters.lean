import FeatureSheets.Proofs.Feature.Examples
import FeatureSheets.Proofs.Feature.Locality
import FeatureSheets.Proofs.Sheet.Name
import FeatureSheets.Proofs.Sheet.StepRows

/-!
# Characters of a sheet

Where the characters of a sheet come from. On its way to the sheets a document is cut, trimmed and
joined again, and what is added on the way is written in plain characters. So every control
character on a sheet is one of the document (`isDrawn_of_mem_sheets`).
-/

namespace FeatureSheets

open Text

/-- Whether every character of a text is one of the source, or no control character. -/
def IsDrawnFrom (source s : Text) : Prop :=
  ∀ c ∈ s, c ∈ source ∨ ' ' ≤ c

variable {source s t : Text}

namespace IsDrawnFrom

theorem of_subset (h : IsDrawnFrom source s) (hts : t ⊆ s) : IsDrawnFrom source t :=
  fun c hc => h c (hts hc)

theorem of_subset_source (h : s ⊆ source) : IsDrawnFrom source s :=
  fun _ hc => Or.inl (h hc)

/-- A text of plain characters may be added anywhere. -/
theorem of_forall_le (h : ∀ c ∈ s, ' ' ≤ c) : IsDrawnFrom source s :=
  fun c hc => Or.inr (h c hc)

theorem of_all (h : s.all (' ' ≤ ·) = true) : IsDrawnFrom source s :=
  of_forall_le fun c hc => of_decide_eq_true (List.all_eq_true.1 h c hc)

theorem nil : IsDrawnFrom source [] :=
  of_forall_le nofun

theorem append (hs : IsDrawnFrom source s) (ht : IsDrawnFrom source t) :
    IsDrawnFrom source (s ++ t) := by
  intro c hc
  exact (List.mem_append.1 hc).elim (hs c) (ht c)

theorem joinWith {sep : Char} (hsep : ' ' ≤ sep) {parts : List Text}
    (h : ∀ part ∈ parts, IsDrawnFrom source part) : IsDrawnFrom source (joinWith sep parts) := by
  intro c hc
  rcases eq_or_exists_of_mem_joinWith hc with rfl | ⟨part, hpart, hc⟩
  · exact Or.inr hsep
  · exact h part hpart c hc

theorem trim (h : IsDrawnFrom source s) : IsDrawnFrom source (Text.trim s) :=
  h.of_subset fun _ hc => mem_of_mem_trimBy hc

theorem splitOn (h : IsDrawnFrom source s) {sep : Char} {field : Text}
    (hfield : field ∈ s.splitOn sep) : IsDrawnFrom source field :=
  h.of_subset (subset_of_mem_splitOn hfield)

theorem ofNat (n : Nat) : IsDrawnFrom source (Text.ofNat n) :=
  of_forall_le fun _ hc => le_of_mem_ofNat hc

end IsDrawnFrom

/-! ## The document -/

/-- The title after a word is a part of the line. -/
theorem Line.IsTitled.subset {word line title : Text} (h : IsTitled word line title) :
    title ⊆ line := by
  obtain ⟨r, hr, rfl⟩ := h
  intro c hc
  apply mem_of_mem_trimBy (p := isMargin)
  rw [← trimLine, hr]
  exact List.mem_append_right _ (mem_of_mem_trimBy hc)

/-- The title of a document is a part of it. -/
theorem Feature.isDrawnFrom_title (text : Text) : IsDrawnFrom text (parse text).title := by
  rcases isLastTitle_parse text with ⟨htitle, -⟩ | ⟨before, line, after, hlines, htitle, -⟩
  · rw [htitle]
    exact .nil
  · have hline : line ∈ text.lines := by
      rw [hlines]
      simp
    exact (IsDrawnFrom.of_subset_source (subset_of_mem_splitOn hline)).of_subset htitle.subset

/-- What is drawn from a document for a scenario: its title, its steps and the values of its
examples. -/
structure Scenario.IsDrawn (text : Text) (s : Scenario) : Prop where
  /-- The title is drawn from the document. -/
  name : IsDrawnFrom text s.name
  /-- The steps are drawn from the document. -/
  steps : ∀ step ∈ s.steps, IsDrawnFrom text step
  /-- The values of the examples are drawn from the document. -/
  values : ∀ header value, s.examples.get? header = some value → IsDrawnFrom text value

theorem Feature.isDrawn_of_mem_scenarios {text : Text} {s : Scenario}
    (h : s ∈ (parse text).scenarios) : s.IsDrawn text := by
  obtain ⟨slice, hslice, hrec⟩ := exists_slice_of_mem_scenarios h
  have hlines : ∀ line ∈ slice, line ⊆ text := by
    intro line hline
    exact subset_of_mem_splitOn (mem_of_mem_slicesAt hslice hline)
  have hvalues := (collectsExamples_of_isRecordOf hrec).get?_eq
  constructor
  case name =>
    obtain ⟨name, first, rest, rfl, hname, -, rfl⟩ := hrec
    obtain ⟨word, -, htitle⟩ := Line.read_eq_scenario_iff.1 hname
    have hfirst : first ⊆ text := hlines first (by simp)
    exact (IsDrawnFrom.of_subset_source hfirst).of_subset htitle.subset
  case steps =>
    obtain ⟨name, first, rest, rfl, -, -, rfl⟩ := hrec
    intro step hstep
    obtain ⟨line, hline, hread⟩ := Scenario.exists_line_of_mem_steps hstep
    obtain ⟨rfl, -⟩ := Line.read_eq_step_iff.1 hread
    have htext : line ⊆ text := hlines line (by simp [hline])
    exact (IsDrawnFrom.of_subset_source htext).of_subset fun c hc => mem_of_mem_trimBy hc
  case values =>
    intro header value hvalue
    -- a value is joined from the cells below its header, of which a missing one is empty
    rw [hvalues, Option.ite_none_right_eq_some] at hvalue
    obtain rfl := Option.some.inj hvalue.2
    apply IsDrawnFrom.joinWith (by decide)
    intro cell hcell
    rcases eq_nil_or_exists_line ((List.dropWhile_sublist _).subset hcell) with
      hnil | ⟨line, hline, hcell⟩
    · rw [hnil]
      exact .nil
    · apply IsDrawnFrom.of_subset_source
      intro c hc
      exact hlines line hline (mem_of_mem_trimBy (TableRow.subset_of_mem_cells hcell hc))

/-! ## The cells of a step -/

namespace Step

/-- What follows a keyword is a part of the line. -/
theorem subset_of_afterFolded? {p line rest : Text} (h : afterFolded? p line = some rest) :
    rest ⊆ line := by
  induction p generalizing line with
  | nil =>
    obtain rfl := Option.some.inj h
    exact List.Subset.refl _
  | cons a p ih =>
    cases line with
    | nil => cases h
    | cons c line =>
      rw [afterFolded?, Option.ite_none_right_eq_some] at h
      intro d hd
      exact List.mem_cons_of_mem c (ih h.2 hd)

theorem subset_trimStart (line : Text) : trimStart line ⊆ line :=
  (List.dropWhile_sublist _).subset

/-- A keyword and the text after it are parts of the line. -/
theorem subset_of_keyed? {line label text : Text} (h : keyed? line = some (label, text)) :
    label ⊆ line ∧ text ⊆ line := by
  obtain ⟨k, -, hk⟩ := List.exists_of_findSome?_eq_some h
  rw [keyedBy?] at hk
  split at hk
  · rename_i c rest hafter
    rw [Option.ite_none_right_eq_some] at hk
    obtain ⟨rfl, rfl⟩ := Prod.mk.inj (Option.some.inj hk.2)
    constructor
    · intro d hd
      exact subset_trimStart line (List.mem_of_mem_take hd)
    · intro d hd
      have hrest : d ∈ rest := subset_trimStart rest ((List.takeWhile_prefix _).subset hd)
      exact subset_trimStart line (subset_of_afterFolded? hafter (List.mem_cons_of_mem c hrest))
  · cases hk

/-- What a sheet says about a step is drawn from the step. -/
theorem isDrawnFrom_cells (group : Option Keyword) {line : Text} (h : IsDrawnFrom source line) :
    IsDrawnFrom source (cells group line).label ∧
      IsDrawnFrom source (cells group line).description ∧
      IsDrawnFrom source (cells group line).expected := by
  have hnone : IsDrawnFrom source noExpectation := .of_all (by decide)
  have hunkeyed : IsDrawnFrom source unkeyedLabel := .of_all (by decide)
  rw [cells]
  cases hkeyed : keyed? line with
  | none => exact ⟨hunkeyed, h.trim, .nil⟩
  | some keyed =>
    obtain ⟨hlabel, htext⟩ := subset_of_keyed? hkeyed
    dsimp only
    split
    · exact ⟨h.of_subset hlabel, .nil, h.of_subset htext⟩
    · exact ⟨h.of_subset hlabel, h.of_subset htext, hnone⟩

/-- The values to try are drawn from the values of the examples. -/
theorem isDrawnFrom_testInput (line : Text) {parameters : Option Entries}
    (h : ∀ name value, parameters.bind (·.get? name) = some value → IsDrawnFrom source value) :
    IsDrawnFrom source (testInput line parameters) := by
  rw [testInput]
  split
  · exact .nil
  · rename_i value hvalue
    obtain ⟨name, -, hvalue⟩ := Option.bind_eq_some_iff.1 hvalue
    apply IsDrawnFrom.joinWith (by decide)
    intro part hpart
    exact (h name value hvalue).splitOn (List.mem_eraseDups.1 hpart)

end Step

/-! ## Sheets -/

/-- Whether the texts of a configuration are drawn from a source. -/
structure SheetConfig.IsDrawn (source : Text) (config : SheetConfig) : Prop where
  /-- The subject. -/
  subject : IsDrawnFrom source config.subject
  /-- The type of test. -/
  testType : IsDrawnFrom source config.testType
  /-- The status. -/
  status : IsDrawnFrom source config.status
  /-- The designer. -/
  designer : IsDrawnFrom source config.designer

/-- The standard configuration has no control characters. -/
theorem SheetConfig.isDrawn_standard : standard.IsDrawn source where
  subject := .of_all (by decide)
  testType := .of_all (by decide)
  status := .of_all (by decide)
  designer := .of_all (by decide)

/-- The cells of a row are drawn from its step, the examples and the configuration. -/
theorem isDrawnFrom_stepRow {config : SheetConfig} (hconfig : config.IsDrawn source)
    {parameters : Option Entries}
    (hvalues : ∀ name value, parameters.bind (·.get? name) = some value →
      IsDrawnFrom source value)
    {line : Text} (hline : IsDrawnFrom source line) (index : Nat) (group : Option Keyword) :
    ∀ cell ∈ stepRow config parameters index line (Step.cells group line),
      IsDrawnFrom source cell := by
  obtain ⟨hlabel, hdescription, hexpected⟩ := Step.isDrawnFrom_cells group hline
  have hnumber : IsDrawnFrom source (stepNumber index) :=
    .append (.of_all (by decide)) (.ofNat _)
  have honce : ∀ value, IsDrawnFrom source value →
      IsDrawnFrom source (if index = 0 then value else []) := by
    intro value hvalue
    split
    · exact hvalue
    · exact .nil
  simp only [stepRow, List.forall_mem_cons]
  exact ⟨hline, hnumber, hlabel, hdescription, hexpected, Step.isDrawnFrom_testInput line hvalues,
    honce _ hconfig.subject, .nil, honce _ hconfig.testType, honce _ hconfig.status,
    honce _ hconfig.designer, nofun⟩

namespace SheetName

/-- Only plain characters take the place of those that are forbidden. -/
theorem isDrawnFrom_base (limit index : Nat) {wanted : Text} (h : IsDrawnFrom source wanted) :
    IsDrawnFrom source (base limit index wanted) := by
  have hfallback : IsDrawnFrom source (fallback index) :=
    .append (.of_all (by decide)) (.ofNat _)
  have hname : IsDrawnFrom source (if wanted = [] then fallback index else wanted) := by
    split
    · exact hfallback
    · exact h
  intro c hc
  obtain ⟨d, hd, rfl⟩ := List.mem_map.1 (List.mem_of_mem_take hc)
  -- a character that is forbidden becomes a plain one, and the others stay
  split
  · exact Or.inr (by decide)
  · exact hname d hd

theorem isDrawnFrom_numbered (limit n : Nat) {b : Text} (h : IsDrawnFrom source b) :
    IsDrawnFrom source (numbered limit n b) := by
  rw [numbered]
  split
  · exact h
  · have hsuffix : IsDrawnFrom source (suffix n) :=
      .append (s := ['_']) (.of_all (by decide)) (.ofNat n)
    have hfront : IsDrawnFrom source (b.take (limit - (suffix n).length)) :=
      h.of_subset fun _ => List.mem_of_mem_take
    exact (hfront.append hsuffix).of_subset fun _ => List.mem_of_mem_take

theorem isDrawnFrom_of_mem_names {limit : Nat} {wanted : List Text}
    (h : ∀ name ∈ wanted, IsDrawnFrom source name) :
    ∀ name ∈ names limit wanted, IsDrawnFrom source name := by
  -- whatever bases came earlier, a slot has the base of its own name
  have hslots : ∀ earlier, ∀ slot ∈ slotsAfter limit earlier wanted,
      IsDrawnFrom source slot.base := by
    induction wanted with
    | nil => exact nofun
    | cons first wanted ih =>
      intro earlier
      rw [slotsAfter, List.forall_mem_cons]
      rw [List.forall_mem_cons] at h
      exact ⟨isDrawnFrom_base limit _ h.1, ih h.2 _⟩
  rw [names, List.forall_mem_map]
  intro slot hslot
  exact isDrawnFrom_numbered limit slot.number (hslots [] slot hslot)

end SheetName

/-- Whether the name and the cells of a sheet are drawn from a source. -/
structure Sheet.IsDrawn (source : Text) (sheet : Sheet) : Prop where
  /-- The name. -/
  name : IsDrawnFrom source sheet.name
  /-- The cells, those of the headers included. -/
  cells : ∀ row ∈ sheet.rows, ∀ cell ∈ row, IsDrawnFrom source cell

/-- The names of the sheets are drawn from the titles of the scenarios. -/
theorem isDrawnFrom_name_of_mem_sheets {config : SheetConfig} {text : Text} {sheet : Sheet}
    (h : sheet ∈ (convert config text).sheets) : IsDrawnFrom text sheet.name := by
  have hname : sheet.name ∈ (convert config text).sheets.map Sheet.name :=
    List.mem_map_of_mem h
  rw [convert, Conversion.ofFeature, map_name_buildSheets] at hname
  apply SheetName.isDrawnFrom_of_mem_names _ _ hname
  rw [Feature.rows, List.map_map, List.forall_mem_map]
  intro s hs
  have htitle := (Feature.isDrawn_of_mem_scenarios hs).name
  have hfront : IsDrawnFrom text (s.name.takeWhile (· != '-')) :=
    htitle.of_subset (List.takeWhile_prefix _).subset
  exact hfront.trim

/-- Every control character on a sheet is one of the document. -/
theorem isDrawn_of_mem_sheets {config : SheetConfig} {text : Text}
    (hconfig : config.IsDrawn text) {sheet : Sheet}
    (h : sheet ∈ (convert config text).sheets) : sheet.IsDrawn text := by
  refine ⟨isDrawnFrom_name_of_mem_sheets h, ?_⟩
  have hrows : List.Forall₂ (fun _ sheet => ∀ row ∈ Sheet.rows sheet, ∀ cell ∈ row,
      IsDrawnFrom text cell) (Feature.parse text).scenarios (convert config text).sheets := by
    apply forall₂_sheets_convert
    intro s hs name
    have hdrawn := Feature.isDrawn_of_mem_scenarios hs
    have hvalues : ∀ header value,
        (ExportRow.ofScenario (Feature.parse text).title s).parameters.bind (·.get? header) =
          some value → IsDrawnFrom text value := by
      intro header value hvalue
      obtain ⟨entries, hentries, hvalue⟩ := Option.bind_eq_some_iff.1 hvalue
      rw [ExportRow.ofScenario, Option.ite_none_right_eq_some] at hentries
      obtain rfl := Option.some.inj hentries.2
      exact hdrawn.values header value hvalue
    -- the values of the parameters that a step names stand in its row
    have hsteps := forall₂_stepRowsFrom (R := fun _ row => ∀ cell ∈ row, IsDrawnFrom text cell)
      (fun step hstep index group =>
        isDrawnFrom_stepRow hconfig hvalues (hdrawn.steps step hstep) index group) 0 none
    rw [Sheet.ofRow, writtenSteps_ofScenario _ fun _ => isStepLine_of_mem_steps hs,
      List.forall_mem_cons]
    constructor
    · have hheaders : ∀ header ∈ Column.headers, header.all (' ' ≤ ·) = true := by decide
      intro header hheader
      exact .of_all (hheaders header hheader)
    · intro row hrow
      obtain ⟨step, -, hcells⟩ := exists_of_mem_right hsteps hrow
      exact hcells
  obtain ⟨s, -, hcells⟩ := exists_of_mem_right hrows h
  exact hcells

end FeatureSheets
