import FeatureSheets.Proofs.Feature.Steps
import Mathlib.Data.Set.Subsingleton

/-!
# Which lines are recorded

Reading carries a state from line to line; what it does with a step line can be told without the
state, by looking back. The line is recorded when the last scenario line before it has no
`Examples:` line after it, and then it is recorded for that scenario (`IsCaptured`).
`Feature.parse_captures_steps` says so of every document, together with what a scenario knows of
its `Examples:` lines.

Titles, comments, tags, table rows and free text are of no account. `Reader.outline` forgets what
such lines leave in the state, and no step of reading asks for what it forgets.
-/

namespace FeatureSheets

/-! ## Step lines -/

namespace Line

/-- A step line, margins aside: an exact keyword, white space and whatever follows. -/
def IsStep (line : Text) : Prop :=
  ∃ (k : Keyword) (c : Char) (rest : Text),
    Text.trimLine line = k.word ++ c :: rest ∧ Text.isBlank c = true

theorem step?_eq_some_iff {l : Line} {step : Text} : l.step? = some step ↔ l = .step step := by
  cases l <;> simp [step?]

theorem isStep_iff {line : Text} : IsStep line ↔ (Keyword.split? (Text.trimLine line)).isSome := by
  rw [Option.isSome_iff_exists]
  constructor
  · rintro ⟨k, c, rest, hline, hc⟩
    exact ⟨(k, Text.trimStart rest), Keyword.split?_eq_some_iff.2 ⟨c, rest, hline, hc, rfl⟩⟩
  · rintro ⟨⟨k, r⟩, h⟩
    obtain ⟨c, rest, hline, hc, -⟩ := Keyword.split?_eq_some_iff.1 h
    exact ⟨k, c, rest, hline, hc⟩

theorem step?_read_eq_some_iff {line step : Text} :
    (read line).step? = some step ↔ IsStep line ∧ step = Text.trimLine line := by
  rw [step?_eq_some_iff, read_eq_step_iff, isStep_iff, and_comm]

theorem isSome_step?_read_iff {line : Text} : (read line).step?.isSome = true ↔ IsStep line := by
  rw [Option.isSome_iff_exists]
  refine ⟨fun ⟨_, h⟩ => (step?_read_eq_some_iff.1 h).1, fun h => ?_⟩
  exact ⟨_, step?_read_eq_some_iff.2 ⟨h, rfl⟩⟩

theorem IsStep.read_eq {line : Text} (h : IsStep line) :
    read line = .step (Text.trimLine line) :=
  step?_eq_some_iff.1 (step?_read_eq_some_iff.2 ⟨h, rfl⟩)

theorem IsStep.opensScenario_eq_false {line : Text} (h : IsStep line) :
    opensScenario line = false := by
  rw [← isScenario_read, h.read_eq]
  rfl

theorem IsStep.opensExamples_eq_false {line : Text} (h : IsStep line) :
    opensExamples line = false := by
  rw [← isExamples_read, h.read_eq]
  rfl

theorem opensScenario_eq_false_of_opensExamples {line : Text} (h : opensExamples line = true) :
    opensScenario line = false := by
  rw [← isScenario_read, read_eq_examples_iff.2 h]
  rfl

end Line

/-! ## Looking back -/

/-- Of the lines before the one at `i`, the last that opens a scenario is the one at `opener`. -/
structure StandsIn (lines : List Text) (opener i : Nat) : Prop where
  /-- The scenario is opened before. -/
  lt : opener < i
  /-- A scenario is opened there. -/
  opens : ∃ line, lines[opener]? = some line ∧ Line.opensScenario line = true
  /-- No other one is opened in between. -/
  last : ∀ n line, opener < n → n < i → lines[n]? = some line → Line.opensScenario line = false

/-- The line at `i` is to be recorded for the scenario that the line at `opener` opens. -/
structure IsCaptured (lines : List Text) (opener i : Nat) : Prop where
  /-- It is a step line. -/
  isStep : ∃ line, lines[i]? = some line ∧ Line.IsStep line
  /-- It stands in that scenario. -/
  standsIn : StandsIn lines opener i
  /-- No table is opened in between. -/
  no_table : ∀ n line, opener < n → n < i → lines[n]? = some line → Line.opensExamples line = false

/-- The scenario `s` is the one that the line at `opener` opens, and it has what the lines after it
are to give it. -/
structure CapturesSteps (lines : List Text) (opener : Nat) (s : Scenario) : Prop where
  /-- The line names the scenario. -/
  title : ∃ line, lines[opener]? = some line ∧
    ∃ word ∈ Line.scenarioWords, Line.IsTitled word line s.name
  /-- The steps are the captured lines without their margins, each once and in order. -/
  steps : ∃ positions : List Nat, positions.Pairwise (· < ·) ∧
    (∀ i, i ∈ positions ↔ IsCaptured lines opener i) ∧
    List.Forall₂ (fun i step => ∃ line, lines[i]? = some line ∧ step = Text.trimLine line)
      positions s.steps
  /-- An `Examples:` line was seen when one stands in the scenario. -/
  hasExamples : s.hasExamples = true ↔
    ∃ i line, StandsIn lines opener i ∧ lines[i]? = some line ∧ Line.opensExamples line = true

/-- A line stands in one scenario only. -/
theorem StandsIn.opener_le {lines : List Text} {opener opener' i : Nat}
    (h : StandsIn lines opener i) (h' : StandsIn lines opener' i) : opener' ≤ opener := by
  by_contra hlt
  obtain ⟨line, hline, hopens⟩ := h'.opens
  have hnot := h.last opener' line (by omega) h'.lt hline
  rw [hopens] at hnot
  cases hnot

theorem subsingleton_isCaptured (lines : List Text) (i : Nat) :
    {opener | IsCaptured lines opener i}.Subsingleton := fun _ h _ h' =>
  Nat.le_antisymm (h'.standsIn.opener_le h.standsIn) (h.standsIn.opener_le h'.standsIn)

/-! ## The lines of a scenario by their positions -/

section

variable {lines : List Text} {opener : Nat} {first : Text}

/-- The lines after the one at `opener`, up to the first that opens a scenario or a table. -/
def stepBlock (lines : List Text) (opener : Nat) : List Text :=
  (lines.drop (opener + 1)).takeWhile fun line =>
    !Line.opensExamples line && !Line.opensScenario line

theorem mem_findIdxs_stepBlock_iff (hfirst : lines[opener]? = some first)
    (hopens : Line.opensScenario first = true) {i : Nat} :
    i ∈ (stepBlock lines opener).findIdxs (fun line => (Line.read line).step?.isSome)
      (opener + 1) ↔ IsCaptured lines opener i := by
  rw [mem_findIdxs_iff]
  constructor
  · rintro ⟨hi, line, hline, hstep⟩
    obtain ⟨hline, -, hbefore⟩ := (getElem?_takeWhile_drop_eq_some_iff hi).1 hline
    simp only [Bool.and_eq_true, Bool.not_eq_true'] at hbefore
    exact {
      isStep := ⟨line, hline, Line.isSome_step?_read_iff.1 hstep⟩
      standsIn := ⟨hi, ⟨first, hfirst, hopens⟩, fun n b hn hni hb => (hbefore n b hn hni hb).2⟩
      no_table := fun n b hn hni hb => (hbefore n b hn hni hb).1 }
  · rintro ⟨⟨line, hline, hstep⟩, ⟨hi, -, hlast⟩, htable⟩
    refine ⟨hi, line, (getElem?_takeWhile_drop_eq_some_iff hi).2 ⟨hline, ?_, ?_⟩,
      Line.isSome_step?_read_iff.2 hstep⟩
    · -- a step line opens nothing itself
      rw [hstep.opensScenario_eq_false, hstep.opensExamples_eq_false]
      rfl
    · intro n b hn hni hb
      rw [hlast n b hn hni hb, htable n b hn hni hb]
      rfl

theorem forall₂_findIdxs_stepBlock (lines : List Text) (opener : Nat) :
    List.Forall₂ (fun i step => ∃ line, lines[i]? = some line ∧ step = Text.trimLine line)
      ((stepBlock lines opener).findIdxs (fun line => (Line.read line).step?.isSome) (opener + 1))
      ((stepBlock lines opener).filterMap fun line => (Line.read line).step?) := by
  refine (forall₂_findIdxs_filterMap _ _ (opener + 1)).imp ?_
  rintro i step ⟨hi, line, hline, hstep⟩
  exact ⟨line, ((getElem?_takeWhile_drop_eq_some_iff hi).1 hline).1,
    (Line.step?_read_eq_some_iff.1 hstep).2⟩

/-- The scenario that is named on a line takes its steps from the lines after it up to the first
that opens a scenario or a table. -/
theorem steps_ofLines_eq (name : Text) (lines : List Text) (opener : Nat) :
    (Scenario.ofLines name (((lines.drop (opener + 1)).takeWhile fun line =>
      !Line.opensScenario line).map Line.read)).steps =
      (stepBlock lines opener).filterMap fun line => (Line.read line).step? := by
  have hread : (fun l : Line => !l.isExamples) ∘ Line.read =
      fun line => !Line.opensExamples line :=
    funext fun line => by rw [Function.comp_apply, Line.isExamples_read]
  rw [Scenario.ofLines, List.takeWhile_map, hread, List.takeWhile_takeWhile, List.filterMap_map,
    stepBlock]
  simp only [Bool.decide_and, Bool.decide_coe]
  rfl

theorem hasExamples_ofLines_iff (hfirst : lines[opener]? = some first)
    (hopens : Line.opensScenario first = true) (name : Text) :
    (Scenario.ofLines name (((lines.drop (opener + 1)).takeWhile fun line =>
      !Line.opensScenario line).map Line.read)).hasExamples = true ↔
      ∃ i line, StandsIn lines opener i ∧ lines[i]? = some line ∧
        Line.opensExamples line = true := by
  have hany : (Scenario.ofLines name (((lines.drop (opener + 1)).takeWhile fun line =>
      !Line.opensScenario line).map Line.read)).hasExamples = true ↔
      ∃ line ∈ (lines.drop (opener + 1)).takeWhile fun line => !Line.opensScenario line,
        Line.opensExamples line = true := by
    simp [Scenario.ofLines, Line.isExamples_read]
  rw [hany]
  constructor
  · rintro ⟨line, hmem, hline⟩
    obtain ⟨n, hn⟩ := List.mem_iff_getElem?.1 hmem
    have hi : opener + 1 ≤ opener + 1 + n := Nat.le_add_right _ _
    rw [← Nat.add_sub_cancel_left (n := opener + 1) (m := n),
      getElem?_takeWhile_drop_eq_some_iff hi] at hn
    simp only [Bool.not_eq_true'] at hn
    exact ⟨opener + 1 + n, line, ⟨hi, ⟨first, hfirst, hopens⟩, hn.2.2⟩, hn.1, hline⟩
  · rintro ⟨i, line, ⟨hi, -, hlast⟩, hget, hline⟩
    refine ⟨line, List.mem_of_getElem? ((getElem?_takeWhile_drop_eq_some_iff hi).2
      ⟨hget, ?_, fun n b hn hni hb => ?_⟩), hline⟩
    · rw [Line.opensScenario_eq_false_of_opensExamples hline]
      rfl
    · rw [hlast n b hn hni hb]
      rfl

/-- The record of a slice captures the steps of the slice. -/
theorem capturesSteps_of_isRecordOf {s : Scenario} (hfirst : lines[opener]? = some first)
    (h : IsRecordOf (first :: (lines.drop (opener + 1)).takeWhile fun line =>
      !Line.opensScenario line) s) : CapturesSteps lines opener s := by
  obtain ⟨name, first', rest, hslice, hname, -, rfl⟩ := h
  obtain ⟨rfl, rfl⟩ := List.cons.inj hslice
  have hopens : Line.opensScenario first = true := by
    rw [← Line.isScenario_read, hname]
    rfl
  exact {
    title := ⟨first, hfirst, Line.read_eq_scenario_iff.1 hname⟩
    steps := by
      rw [steps_ofLines_eq]
      exact ⟨_, List.pairwise_findIdxs, fun i => mem_findIdxs_stepBlock_iff hfirst hopens,
        forall₂_findIdxs_stepBlock lines opener⟩
    hasExamples := hasExamples_ofLines_iff hfirst hopens name }

end

/-- The scenarios of a document belong to its scenario lines in order, and each captures its
steps. -/
theorem Feature.forall₂_capturesSteps (text : Text) :
    List.Forall₂ (CapturesSteps text.lines) (text.lines.findIdxs Line.opensScenario)
      (parse text).scenarios := by
  refine forall₂_trans (forall₂_findIdxs_slicesAt Line.opensScenario text.lines)
    (forall₂_isRecordOf text) ?_
  rintro opener slice s ⟨first, hfirst, rfl⟩ hrecord
  exact capturesSteps_of_isRecordOf hfirst hrecord

/-! ## Lines of no account -/

namespace Line

/-- Whether a line opens a scenario or a table, or is a step. -/
def isGuiding : Line → Bool
  | .scenario _ | .examples | .step _ => true
  | .feature _ | .row _ | .silent => false

/-- Whether a line, margins aside, opens a scenario or a table, or is a step line. -/
def guides (line : Text) : Bool :=
  opensScenario line || opensExamples line || (Keyword.split? (Text.trimLine line)).isSome

theorem isGuiding_read (line : Text) : (read line).isGuiding = guides line := by
  have hstep : (read line).step?.isSome = (Keyword.split? (Text.trimLine line)).isSome := by
    rw [Bool.eq_iff_iff, isSome_step?_read_iff, isStep_iff]
  rw [guides, ← isScenario_read, ← isExamples_read, ← hstep]
  cases read line <;> rfl

end Line

/-- The scenario without the values of its tables. -/
def Scenario.outline (s : Scenario) : Scenario :=
  { s with examples := .empty }

theorem Scenario.map_outline_map_outline (l : List Scenario) :
    (l.map outline).map outline = l.map outline := by
  rw [List.map_map]
  rfl

/-- What is collected, without the headers and the values of tables. -/
def Collecting.outline : Collecting → Collecting
  | .nothing => .nothing
  | .steps s => .steps s.outline
  | .table s _ => .table s.outline []

namespace Collecting

theorem outline_addRow (c : Collecting) (line : Text) : (c.addRow line).outline = c.outline := by
  cases c with
  | nothing => rfl
  | steps s => rfl
  | table s headers => cases headers <;> rfl

theorem outline_addStep (c : Collecting) (line : Text) :
    (c.outline.addStep line).outline = (c.addStep line).outline := by
  cases c <;> rfl

theorem outline_openTable (c : Collecting) : c.outline.openTable.outline = c.openTable.outline := by
  cases c <;> rfl

end Collecting

namespace Reader

/-- The state of reading without the title and without what tables say. -/
def outline (r : Reader) : Reader where
  title := []
  finished := r.finished.map Scenario.outline
  collecting := r.collecting.outline

theorem scenarios_outline (r : Reader) :
    r.outline.scenarios = r.scenarios.map Scenario.outline := by
  obtain ⟨title, finished, collecting⟩ := r
  cases collecting <;> simp [scenarios, outline, Collecting.outline, Collecting.scenario?]

theorem outline_feed_of_not_isGuiding (r : Reader) {l : Line} (h : l.isGuiding = false) :
    (r.feed l).outline = r.outline := by
  cases l with
  | feature title => rfl
  | row line => simp only [feed, outline, Collecting.outline_addRow]
  | silent => rfl
  | _ => cases h

/-- A line that guides asks for nothing that is forgotten. -/
theorem outline_feed_outline (r : Reader) {l : Line} (h : l.isGuiding = true) :
    (r.outline.feed l).outline = (r.feed l).outline := by
  cases l with
  | scenario name =>
    show Reader.mk [] (r.outline.scenarios.map Scenario.outline) _ =
      ⟨[], r.scenarios.map Scenario.outline, _⟩
    rw [scenarios_outline, Scenario.map_outline_map_outline]
    rfl
  | examples =>
    show Reader.mk [] ((r.finished.map Scenario.outline).map Scenario.outline)
      r.collecting.outline.openTable.outline = _
    rw [Scenario.map_outline_map_outline, Collecting.outline_openTable]
    rfl
  | step line =>
    show Reader.mk [] ((r.finished.map Scenario.outline).map Scenario.outline)
      (r.collecting.outline.addStep line).outline = _
    rw [Scenario.map_outline_map_outline, Collecting.outline_addStep]
    rfl
  | _ => cases h

/-- A step of two readings that differ in what is forgotten. -/
theorem outline_feed_congr {r r' : Reader} (h : r.outline = r'.outline) (l : Line) :
    (r.feed l).outline = (r'.feed l).outline := by
  cases hl : l.isGuiding with
  | false => rw [r.outline_feed_of_not_isGuiding hl, r'.outline_feed_of_not_isGuiding hl, h]
  | true => rw [← r.outline_feed_outline hl, ← r'.outline_feed_outline hl, h]

theorem outline_feedAll_congr {r r' : Reader} (h : r.outline = r'.outline) (lines : List Line) :
    (r.feedAll lines).outline = (r'.feedAll lines).outline := by
  induction lines generalizing r r' with
  | nil => exact h
  | cons l lines ih => exact ih (outline_feed_congr h l)

/-- Lines that guide nothing may be left out. -/
theorem outline_feedAll_filter (r : Reader) (lines : List Line) :
    (r.feedAll (lines.filter Line.isGuiding)).outline = (r.feedAll lines).outline := by
  induction lines generalizing r with
  | nil => rfl
  | cons l lines ih =>
    cases hl : l.isGuiding with
    | true =>
      rw [List.filter_cons_of_pos hl]
      exact ih (r.feed l)
    | false =>
      rw [List.filter_cons_of_neg (by simp [hl])]
      calc (r.feedAll (lines.filter Line.isGuiding)).outline
          = (r.feedAll lines).outline := ih r
        _ = ((r.feed l).feedAll lines).outline :=
          outline_feedAll_congr (r.outline_feed_of_not_isGuiding hl).symm lines

end Reader

namespace Feature

/-- Documents with the same guiding lines record the same, the values of tables aside. -/
theorem outline_eq_of_filter_guides {text text' : Text}
    (h : text.lines.filter Line.guides = text'.lines.filter Line.guides) :
    (parse text).scenarios.map Scenario.outline =
      (parse text').scenarios.map Scenario.outline := by
  have hguides : Line.isGuiding ∘ Line.read = Line.guides := funext Line.isGuiding_read
  have houtline : ∀ t : Text, (parse t).scenarios.map Scenario.outline =
      (Reader.start.feedAll ((t.lines.filter Line.guides).map Line.read)).outline.scenarios := by
    intro t
    rw [← hguides, ← List.filter_map, Reader.outline_feedAll_filter, Reader.scenarios_outline]
    rfl
  rw [houtline text, houtline text', h]

/-- **Steps are captured by looking back.** The scenarios of a document belong to the lines that
open one, in order. Each has the step lines below its own line and above the next scenario line,
up to the first `Examples:` line, trimmed, each once and in order; and it knows whether there is
such a line. No line is captured for two scenarios. What is recorded is settled by the lines that
open a scenario or a table and the step lines alone, whatever other lines stand between them. -/
theorem parse_captures_steps :
    (∀ text : Text,
      List.Forall₂ (CapturesSteps text.lines) (text.lines.findIdxs Line.opensScenario)
          (parse text).scenarios ∧
        ∀ i, {opener | IsCaptured text.lines opener i}.Subsingleton) ∧
      ∀ text text' : Text, text.lines.filter Line.guides = text'.lines.filter Line.guides →
        (parse text).scenarios.map Scenario.outline =
          (parse text').scenarios.map Scenario.outline :=
  ⟨fun text => ⟨forall₂_capturesSteps text, subsingleton_isCaptured text.lines⟩,
    fun _ _ => outline_eq_of_filter_guides⟩

/-- A title, a comment, a tag, table rows and free text put between the lines of a document. -/
theorem parse_captures_steps_between :
    let text : Text := ("Given lost\nExamples:\nScenario: A\nGiven a\nWhen b\nExamples:\n" ++
      "Then late").toList
    let text' : Text := ("Given lost\nExamples:\n| x |\nScenario: A\nGiven a\nFeature: F\n" ++
      "# And no\n@tag\n| y |\ngiven up\nWhen b\nExamples:\nFeature: G\n| z |\n| 1 |\n" ++
      "Then late").toList
    text.lines.filter Line.guides = text'.lines.filter Line.guides ∧
      (parse text).scenarios.map Scenario.outline =
        (parse text').scenarios.map Scenario.outline := by
  intro text text'
  have h : text.lines.filter Line.guides = text'.lines.filter Line.guides := by decide +kernel
  exact ⟨h, parse_captures_steps.2 text text' h⟩

end Feature

end FeatureSheets
