import FeatureSheets.Feature.Reader
import FeatureSheets.Proofs.Text.Fields

/-!
# What a line says

The rules that give a line its meaning are tried in order, but the order is of no consequence: no
two words that open a line begin with the same letter, except those that open a scenario. So a
line is a title, a scenario, a table, a step or a row exactly when it begins as one
(`ofTrimmed_eq_iff`), whatever the rules before it ask.

`opensWith` looks at a line as it stands in the document, margins and all.
-/

namespace FeatureSheets

open Text

/-! ## First letters -/

/-- A text that follows a keyword begins with the first letter of the keyword. -/
theorem Text.head?_of_after? {p s r : Text} {c : Char} (hp : p.head? = some c)
    (h : after? p s = some r) : s.head? = some c := by
  rw [after?_eq_some_iff] at h
  rw [h, List.head?_append, hp]
  rfl

/-- A text that begins with another letter than the keyword does not follow it. -/
theorem Text.after?_eq_none {p s : Text} {a c : Char} (hp : p.head? = some a)
    (hs : s.head? = some c) (h : c ≠ a) : after? p s = none := by
  cases hr : after? p s with
  | none => rfl
  | some r =>
    rw [head?_of_after? hp hr] at hs
    exact absurd (Option.some.inj hs).symm h

namespace Line

theorem head?_of_mem_scenarioWords {word : Text} (h : word ∈ scenarioWords) :
    word.head? = some 'S' := by
  rw [scenarioWords, List.mem_cons, List.mem_singleton] at h
  rcases h with rfl | rfl <;> decide

theorem afterAny?_scenarioWords_eq_none {line : Text} {c : Char} (hs : line.head? = some c)
    (h : c ≠ 'S') : afterAny? scenarioWords line = none := by
  rw [afterAny?, List.findSome?_eq_none_iff]
  exact fun word hword => after?_eq_none (head?_of_mem_scenarioWords hword) hs h

/-- No line begins with both of the words that open a scenario. -/
theorem afterAny?_scenarioWords_eq_some_iff {line r : Text} :
    afterAny? scenarioWords line = some r ↔ ∃ word ∈ scenarioWords, line = word ++ r := by
  rw [afterAny?, scenarioWords, List.findSome?_cons]
  cases h : after? "Scenario:".toList line with
  | some r' =>
    -- the second word differs from the first in its ninth letter
    have hno : ∀ r, line ≠ "Scenario Outline:".toList ++ r := by
      intro r hr
      rw [after?_eq_some_iff, hr] at h
      exact absurd (congrArg (·[8]?) h) (by simp)
    rw [after?_eq_some_iff] at h
    simp only [List.mem_cons, List.not_mem_nil, or_false, exists_eq_or_imp, exists_eq_left]
    constructor
    · intro hr
      exact Or.inl (by rw [h, Option.some.inj hr])
    · rintro (hr | hr)
      · rw [h, List.append_cancel_left_eq] at hr
        rw [hr]
      · exact absurd hr (hno r)
  | none =>
    have hno : line ≠ "Scenario:".toList ++ r := by
      intro hr
      rw [after?_eq_some_iff.2 hr] at h
      cases h
    simp only [List.findSome?_cons, List.findSome?_nil, List.mem_cons, List.not_mem_nil, or_false,
      exists_eq_or_imp, exists_eq_left, hno, false_or]
    rw [← after?_eq_some_iff]
    cases after? "Scenario Outline:".toList line <;> simp

/-- A step line begins with the first letter of a keyword. -/
theorem head?_of_split? {line : Text} (h : (Keyword.split? line).isSome) :
    ∃ k : Keyword, line.head? = k.word.head? := by
  obtain ⟨step, hstep⟩ := Option.isSome_iff_exists.1 h
  obtain ⟨k, -, hk⟩ := List.exists_of_findSome?_eq_some hstep
  refine ⟨k, ?_⟩
  cases hr : after? k.word line with
  | none => simp [Keyword.textAfter?, hr] at hk
  | some r => cases k <;> exact head?_of_after? rfl hr

/-! ## The rules in order -/

/-- The rules for a line that is no comment. -/
theorem ofTrimmed_of_head? {line : Text} {c : Char} (hs : line.head? = some c) (hc : c ≠ '#') :
    ofTrimmed line =
      if let some title := after? featureWord line then .feature (trim title)
      else if let some title := afterAny? scenarioWords line then .scenario (trim title)
      else if (after? examplesWord line).isSome then .examples
      else if (Keyword.split? line).isSome then .step line
      else if c = '|' then .row line
      else .silent := by
  cases line with
  | nil => cases hs
  | cons c' s =>
    obtain rfl : c' = c := Option.some.inj hs
    exact if_neg hc

theorem ofTrimmed_featureWord_append (r : Text) :
    ofTrimmed (featureWord ++ r) = .feature (trim r) := by
  have hs : (featureWord ++ r).head? = some 'F' := rfl
  rw [ofTrimmed_of_head? hs (by decide), after?_eq_some_iff.2 rfl]

theorem ofTrimmed_scenarioWord_append {word : Text} (h : word ∈ scenarioWords) (r : Text) :
    ofTrimmed (word ++ r) = .scenario (trim r) := by
  have hs : (word ++ r).head? = some 'S' := by
    rw [List.head?_append, head?_of_mem_scenarioWords h]
    rfl
  have hr : afterAny? scenarioWords (word ++ r) = some r :=
    afterAny?_scenarioWords_eq_some_iff.2 ⟨word, h, rfl⟩
  rw [ofTrimmed_of_head? hs (by decide), after?_eq_none (a := 'F') rfl hs (by decide), hr]

theorem ofTrimmed_examplesWord_append (r : Text) :
    ofTrimmed (examplesWord ++ r) = .examples := by
  have hs : (examplesWord ++ r).head? = some 'E' := rfl
  rw [ofTrimmed_of_head? hs (by decide), after?_eq_none (a := 'F') rfl hs (by decide),
    afterAny?_scenarioWords_eq_none hs (by decide), after?_eq_some_iff.2 rfl]
  rfl

theorem ofTrimmed_of_split? {line : Text} (h : (Keyword.split? line).isSome) :
    ofTrimmed line = .step line := by
  obtain ⟨k, hk⟩ := head?_of_split? h
  obtain ⟨c, hs, hc⟩ : ∃ c, line.head? = some c ∧ c ≠ '#' ∧ c ≠ 'F' ∧ c ≠ 'S' ∧ c ≠ 'E' := by
    cases k <;> exact ⟨_, hk, by decide⟩
  obtain ⟨hhash, hF, hS, hE⟩ := hc
  rw [ofTrimmed_of_head? hs hhash, after?_eq_none (a := 'F') rfl hs hF,
    afterAny?_scenarioWords_eq_none hs hS, after?_eq_none (a := 'E') rfl hs hE]
  simp [h]

theorem ofTrimmed_of_pipe {line : Text} (hs : line.head? = some '|') :
    ofTrimmed line = .row line := by
  have hstep : (Keyword.split? line).isSome = false := by
    cases h : (Keyword.split? line).isSome with
    | false => rfl
    | true =>
      obtain ⟨k, hk⟩ := head?_of_split? h
      rw [hs] at hk
      cases k <;> cases hk
  rw [ofTrimmed_of_head? hs (by decide), after?_eq_none (a := 'F') rfl hs (by decide),
    afterAny?_scenarioWords_eq_none hs (by decide), after?_eq_none (a := 'E') rfl hs (by decide)]
  simp [hstep]

/-! ## A line means what it begins as -/

/-- What a line begins as, if it means `l`. -/
def BeginsAs (line : Text) : Line → Prop
  | .feature title => ∃ r, line = featureWord ++ r ∧ title = trim r
  | .scenario title => ∃ word ∈ scenarioWords, ∃ r, line = word ++ r ∧ title = trim r
  | .examples => ∃ r, line = examplesWord ++ r
  | .step l => l = line ∧ (Keyword.split? line).isSome
  | .row l => l = line ∧ line.head? = some '|'
  | .silent => True

theorem beginsAs_ofTrimmed (line : Text) : BeginsAs line (ofTrimmed line) := by
  unfold ofTrimmed
  split
  · trivial
  · -- one rule after the other; the last two bring their own test
    split
    · trivial
    · split
      · rename_i title htitle
        exact ⟨title, after?_eq_some_iff.1 htitle, rfl⟩
      · split
        · rename_i title htitle
          obtain ⟨word, hword, hline⟩ := afterAny?_scenarioWords_eq_some_iff.1 htitle
          exact ⟨word, hword, title, hline, rfl⟩
        · split
          · rename_i hexamples
            obtain ⟨r, hr⟩ := Option.isSome_iff_exists.1 hexamples
            exact ⟨r, after?_eq_some_iff.1 hr⟩
          · split
            · rename_i hstep
              exact ⟨rfl, hstep⟩
            · split
              · rename_i hpipe
                exact ⟨rfl, congrArg some hpipe⟩
              · trivial

theorem ofTrimmed_eq_of_beginsAs {line : Text} {l : Line} (hl : l ≠ .silent)
    (h : BeginsAs line l) : ofTrimmed line = l := by
  cases l with
  | feature title =>
    obtain ⟨r, rfl, rfl⟩ := h
    exact ofTrimmed_featureWord_append r
  | scenario title =>
    obtain ⟨word, hword, r, rfl, rfl⟩ := h
    exact ofTrimmed_scenarioWord_append hword r
  | examples =>
    obtain ⟨r, rfl⟩ := h
    exact ofTrimmed_examplesWord_append r
  | step l =>
    obtain ⟨rfl, hstep⟩ := h
    exact ofTrimmed_of_split? hstep
  | row l =>
    obtain ⟨rfl, hpipe⟩ := h
    exact ofTrimmed_of_pipe hpipe
  | silent => exact absurd rfl hl

/-- A line that says something means what it begins as, whatever the rules before ask. -/
theorem ofTrimmed_eq_iff {line : Text} {l : Line} (hl : l ≠ .silent) :
    ofTrimmed line = l ↔ BeginsAs line l := by
  constructor
  · intro h
    rw [← h]
    exact beginsAs_ofTrimmed line
  · exact ofTrimmed_eq_of_beginsAs hl

/-! ## Lines as they stand in the document -/

/-- Whether a line, its margins aside, begins with `word`. -/
def opensWith (word line : Text) : Bool :=
  word.isPrefixOf (trimLine line)

/-- Whether a line opens a scenario. -/
def opensScenario (line : Text) : Bool :=
  scenarioWords.any (opensWith · line)

/-- Whether a line opens an example table. -/
def opensExamples (line : Text) : Bool :=
  opensWith examplesWord line

/-- `title` stands after `word` on a line, with nothing but blanks around it. -/
def IsTitled (word line title : Text) : Prop :=
  ∃ r, trimLine line = word ++ r ∧ title = trim r

theorem opensWith_iff {word line : Text} :
    opensWith word line = true ↔ ∃ r, trimLine line = word ++ r := by
  rw [opensWith, List.isPrefixOf_iff_prefix]
  exact exists_congr fun r => eq_comm

theorem read_eq_feature_iff {line title : Text} :
    read line = .feature title ↔ IsTitled featureWord line title :=
  ofTrimmed_eq_iff nofun

theorem read_eq_scenario_iff {line title : Text} :
    read line = .scenario title ↔ ∃ word ∈ scenarioWords, IsTitled word line title :=
  ofTrimmed_eq_iff nofun

theorem read_eq_examples_iff {line : Text} :
    read line = .examples ↔ opensExamples line = true := by
  rw [opensExamples, opensWith_iff]
  exact ofTrimmed_eq_iff nofun

theorem read_eq_step_iff {line step : Text} :
    read line = .step step ↔ step = trimLine line ∧ (Keyword.split? (trimLine line)).isSome :=
  ofTrimmed_eq_iff nofun

theorem read_eq_row_iff {line row : Text} :
    read line = .row row ↔ row = trimLine line ∧ opensWith ['|'] line = true := by
  rw [opensWith_iff]
  have hpipe : (trimLine line).head? = some '|' ↔ ∃ r, trimLine line = '|' :: r :=
    List.head?_eq_some_iff
  rw [read, ofTrimmed_eq_iff (by simp), BeginsAs, hpipe]
  rfl

/-- Whether a line opens a scenario. -/
def isScenario : Line → Bool
  | .scenario _ => true
  | _ => false

/-- Whether a line opens an example table. -/
def isExamples : Line → Bool
  | .examples => true
  | _ => false

/-- The step of a line. -/
def step? : Line → Option Text
  | .step line => some line
  | _ => none

/-- The cells of a table row. -/
def cells? : Line → Option (List Text)
  | .row line => some (TableRow.cells line)
  | _ => none

/-- A line is read without its margins. -/
theorem read_append_append {a b : Text} (line : Text) (ha : ∀ c ∈ a, isMargin c = true)
    (hb : ∀ c ∈ b, isMargin c = true) : read (a ++ line ++ b) = read line := by
  rw [read, trimLine, trimBy_append_append line ha hb]
  rfl

theorem isScenario_iff {l : Line} : l.isScenario = true ↔ ∃ title, l = .scenario title := by
  cases l <;> simp [isScenario]

theorem isScenario_read (line : Text) : (read line).isScenario = opensScenario line := by
  rw [Bool.eq_iff_iff, isScenario_iff, opensScenario, List.any_eq_true]
  constructor
  · rintro ⟨title, h⟩
    obtain ⟨word, hword, r, hr, -⟩ := read_eq_scenario_iff.1 h
    exact ⟨word, hword, opensWith_iff.2 ⟨r, hr⟩⟩
  · rintro ⟨word, hword, h⟩
    obtain ⟨r, hr⟩ := opensWith_iff.1 h
    exact ⟨trim r, read_eq_scenario_iff.2 ⟨word, hword, r, hr, rfl⟩⟩

theorem isExamples_iff {l : Line} : l.isExamples = true ↔ l = .examples := by
  cases l <;> simp [isExamples]

theorem isExamples_read (line : Text) : (read line).isExamples = opensExamples line := by
  rw [Bool.eq_iff_iff, isExamples_iff, read_eq_examples_iff]

end Line

end FeatureSheets
