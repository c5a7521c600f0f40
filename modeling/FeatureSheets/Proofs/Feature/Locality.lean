import FeatureSheets.Proofs.Feature.Record

/-!
# Reading is local

A document is read slice by slice: a scenario depends on the lines from its own scenario line up
to the next one and on nothing else, and documents may be put one after the other where a scenario
line begins the second. Only the title is shared: the last line that gives one gives it for the
whole document.
-/

namespace FeatureSheets

/-! ## The title -/

/-- `title` is what the last `Feature:` line says, or nothing where there is no such line. -/
def IsLastTitle (lines : List Text) (title : Text) : Prop :=
  (title = [] ∧ ∀ line ∈ lines, Line.opensWith Line.featureWord line = false) ∨
    ∃ before line after, lines = before ++ line :: after ∧
      Line.IsTitled Line.featureWord line title ∧
      ∀ l ∈ after, Line.opensWith Line.featureWord l = false

namespace Reader

theorem title_feed_of_not_opens (r : Reader) {line : Text}
    (h : Line.opensWith Line.featureWord line = false) :
    (r.feed (Line.read line)).title = r.title := by
  cases hl : Line.read line with
  | feature title =>
    obtain ⟨rest, hrest, -⟩ := Line.read_eq_feature_iff.1 hl
    rw [Line.opensWith_iff.2 ⟨rest, hrest⟩] at h
    cases h
  | _ => rfl

/-- The title is the one there was, unless a line gives another; then the last line counts. -/
theorem title_feedAll (r : Reader) (lines : List Text) :
    ((r.feedAll (lines.map Line.read)).title = r.title ∧
      ∀ line ∈ lines, Line.opensWith Line.featureWord line = false) ∨
    ∃ before line after, lines = before ++ line :: after ∧
      Line.IsTitled Line.featureWord line (r.feedAll (lines.map Line.read)).title ∧
      ∀ l ∈ after, Line.opensWith Line.featureWord l = false := by
  induction lines generalizing r with
  | nil => exact Or.inl ⟨rfl, by simp⟩
  | cons line lines ih =>
    rw [List.map_cons, feedAll, List.foldl_cons, ← feedAll]
    rcases ih (r.feed (Line.read line)) with ⟨htitle, hnone⟩ | ⟨before, l, after, hl, htitle, hnone⟩
    · cases h : Line.opensWith Line.featureWord line with
      | false =>
        rw [r.title_feed_of_not_opens h] at htitle
        refine Or.inl ⟨htitle, fun l hl => ?_⟩
        rcases List.mem_cons.1 hl with rfl | hl
        · exact h
        · exact hnone l hl
      | true =>
        -- this line gives the title, and no later one does
        obtain ⟨rest, hrest⟩ := Line.opensWith_iff.1 h
        have hread : Line.read line = .feature (Text.trim rest) :=
          Line.read_eq_feature_iff.2 ⟨rest, hrest, rfl⟩
        refine Or.inr ⟨[], line, lines, rfl, ?_, hnone⟩
        rw [htitle, hread]
        exact ⟨rest, hrest, rfl⟩
    · exact Or.inr ⟨line :: before, l, after, by rw [hl]; rfl, htitle, hnone⟩

end Reader

/-! ## The scenarios -/

namespace Feature

theorem isLastTitle_parse (text : Text) : IsLastTitle text.lines (parse text).title :=
  Reader.start.title_feedAll text.lines

/-- A document that is put together from lines is read line by line. -/
theorem parse_joinWith {lines : List Text} (hne : lines ≠ []) (h : ∀ line ∈ lines, '\n' ∉ line) :
    parse (Text.joinWith '\n' lines) = ofLines lines := by
  rw [parse_eq_ofLines, Text.lines_joinWith hne h]

/-- A line that says nothing may stand at the end. -/
theorem ofLines_append_silent (lines : List Text) {line : Text} (h : Line.read line = .silent) :
    ofLines (lines ++ [line]) = ofLines lines := by
  rw [ofLines, List.map_append, Reader.feedAll_append, List.map_singleton, h]
  rfl

/-- Lines may be put before a scenario line without any effect on the scenarios after it. -/
theorem scenarios_ofLines_append (before : List Text) {first : Text}
    (h : Line.opensScenario first = true) (rest : List Text) :
    (ofLines (before ++ first :: rest)).scenarios =
      (ofLines before).scenarios ++ (ofLines (first :: rest)).scenarios := by
  rw [← Line.isScenario_read] at h
  rw [ofLines, List.map_append, List.map_cons, Reader.feedAll_append]
  exact Reader.scenarios_feedAll_cons_of_isScenario _ h _

/-- A document of which every line is ended, or an empty one, may be put before a document that
begins with a scenario line. -/
theorem scenarios_parse_append {before after : Text}
    (hbefore : before = [] ∨ before.getLast? = some '\n')
    (hafter : ∃ first rest, after.lines = first :: rest ∧ Line.opensScenario first = true) :
    (parse (before ++ after)).scenarios =
      (parse before).scenarios ++ (parse after).scenarios := by
  rcases hbefore with rfl | hbefore
  · rfl
  · obtain ⟨first, rest, hlines, hfirst⟩ := hafter
    obtain ⟨body, rfl⟩ := List.getLast?_eq_some_iff.1 hbefore
    rw [parse_eq_ofLines, parse_eq_ofLines (body ++ ['\n']), parse_eq_ofLines after,
      List.append_assoc, List.singleton_append, Text.lines_append_cons, Text.lines_append_newline,
      ofLines_append_silent _ rfl, hlines, scenarios_ofLines_append _ hfirst]

/-- A slice, read as a document of its own, has the one scenario `s`, and its first line names
it. -/
structure TellsAlone (slice : List Text) (s : Scenario) : Prop where
  /-- The first line opens the scenario, and no other line opens one. -/
  opens : ∃ first rest, slice = first :: rest ∧
    (∃ word ∈ Line.scenarioWords, Line.IsTitled word first s.name) ∧
    ∀ line ∈ rest, Line.opensScenario line = false
  /-- The document of the slice's lines has this scenario. -/
  alone : (parse (Text.joinWith '\n' slice)).scenarios = [s]

theorem tellsAlone_of_isRecordOf {text : Text} {slice : List Text} {s : Scenario}
    (hslice : slice ∈ slicesAt Line.opensScenario text.lines) (h : IsRecordOf slice s) :
    TellsAlone slice s where
  opens := by
    obtain ⟨name, first, rest, hs, hname, hrest, rfl⟩ := h
    exact ⟨first, rest, hs, Line.read_eq_scenario_iff.1 hname, hrest⟩
  alone := by
    have hne : slice ≠ [] := by
      obtain ⟨_, first, rest, rfl, -⟩ := h
      exact List.cons_ne_nil first rest
    have hlines : ∀ line ∈ slice, '\n' ∉ line := fun line hline =>
      Text.not_mem_of_mem_lines (mem_of_mem_slicesAt hslice hline)
    rw [parse_joinWith hne hlines, scenarios_ofLines_of_isRecordOf h]

/-- Every slice of a document tells its scenario as it would on its own. -/
theorem forall₂_tellsAlone (text : Text) :
    List.Forall₂ TellsAlone (slicesAt Line.opensScenario text.lines)
      (parse text).scenarios := by
  refine List.forall₂_iff_zip.2 ⟨(forall₂_isRecordOf text).length_eq, fun {slice s} h => ?_⟩
  exact tellsAlone_of_isRecordOf (List.of_mem_zip h).1
    ((List.forall₂_iff_zip.1 (forall₂_isRecordOf text)).2 h)

/-! ## Slice by slice -/

/-- **Reading is local to slices.** The slices of a document and the lines before the first of
them are the document; there is one scenario for each line that opens one, told by its slice
alone; the title is the last one given; and a document that begins with a scenario line may be
put after any other whose last line is ended. -/
theorem parse_slicewise :
    (∀ text : Text,
      (text.lines.takeWhile fun line => !Line.opensScenario line) ++
          (slicesAt Line.opensScenario text.lines).flatten = text.lines ∧
        (parse text).scenarioCount = text.lines.countP Line.opensScenario ∧
        List.Forall₂ TellsAlone (slicesAt Line.opensScenario text.lines)
          (parse text).scenarios ∧
        IsLastTitle text.lines (parse text).title) ∧
      ∀ before after : Text, (before = [] ∨ before.getLast? = some '\n') →
        (∃ first rest, after.lines = first :: rest ∧ Line.opensScenario first = true) →
        (parse (before ++ after)).scenarios =
          (parse before).scenarios ++ (parse after).scenarios := by
  refine ⟨fun text => ⟨takeWhile_append_flatten_slicesAt _ _, ?_, forall₂_tellsAlone text,
    isLastTitle_parse text⟩, fun before after => scenarios_parse_append⟩
  rw [scenarioCount, ← (forall₂_tellsAlone text).length_eq, length_slicesAt]

/-- An open table and a line without a scenario before it do not reach the second document. -/
theorem parse_slicewise_open_table :
    let before : Text := "Given lost\nScenario: A\nGiven a\nExamples:\n| x |\n".toList
    let after : Text := "Scenario: B\n| y |\nWhen b".toList
    before.getLast? = some '\n' ∧
      (∃ first rest, after.lines = first :: rest ∧ Line.opensScenario first = true) ∧
      (parse (before ++ after)).scenarios =
        (parse before).scenarios ++ (parse after).scenarios := by
  have hbefore : "Given lost\nScenario: A\nGiven a\nExamples:\n| x |\n".toList.getLast? =
      some '\n' := by decide
  have hafter : ∃ first rest, Text.lines "Scenario: B\n| y |\nWhen b".toList = first :: rest ∧
      Line.opensScenario first = true :=
    ⟨"Scenario: B".toList, ["| y |".toList, "When b".toList], by decide, by decide⟩
  exact ⟨hbefore, hafter, parse_slicewise.2 _ _ (Or.inr hbefore) hafter⟩

end Feature

end FeatureSheets
