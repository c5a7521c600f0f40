import FeatureSheets.Proofs.Feature.Record
import FeatureSheets.Proofs.Lists

/-!
# Recorded steps

A step line is an exact keyword, white space and a text (`Keyword.split?_eq_some_iff`). What a
document records as a step is such a line without its margins: it stands on one line, it is not
blank, and the text after the white space is not empty (`isStepLine_of_mem_steps`).
-/

namespace FeatureSheets

open Text

namespace Keyword

/-! ## Exact keywords -/

theorem mem_all (k : Keyword) : k ∈ all := by
  cases k <;> decide

/-- No two keywords begin with the same letter. -/
theorem eq_of_head?_word {k l : Keyword} (h : k.word.head? = l.word.head?) : k = l := by
  cases k <;> cases l <;> first | rfl | exact absurd h (by decide)

theorem exists_head?_word (k : Keyword) : ∃ c, k.word.head? = some c ∧ isBlank c = false := by
  cases k <;> exact ⟨_, rfl, by decide⟩

theorem textAfter?_eq_some_iff {k : Keyword} {line r : Text} :
    k.textAfter? line = some r ↔
      ∃ c rest, line = k.word ++ c :: rest ∧ isBlank c = true ∧ r = trimStart rest := by
  constructor
  · intro h
    rw [textAfter?] at h
    split at h
    · rename_i c rest hr
      split at h
      · rename_i hc
        exact ⟨c, rest, after?_eq_some_iff.1 hr, hc, (Option.some.inj h).symm⟩
      · cases h
    · cases h
  · rintro ⟨c, rest, hline, hc, rfl⟩
    rw [textAfter?, after?_eq_some_iff.2 hline]
    simp [hc]

/-- A step line begins with its keyword, and at least one white space follows. -/
theorem split?_eq_some_iff {line r : Text} {k : Keyword} :
    split? line = some (k, r) ↔
      ∃ c rest, line = k.word ++ c :: rest ∧ isBlank c = true ∧ r = trimStart rest := by
  rw [← textAfter?_eq_some_iff]
  constructor
  · intro h
    obtain ⟨l, -, hl⟩ := List.exists_of_findSome?_eq_some h
    obtain ⟨r', hr', he⟩ := Option.map_eq_some_iff.1 hl
    cases he
    exact hr'
  · intro h
    refine findSome?_eq_some_of_forall (mem_all k) (by rw [h]; rfl) fun l _ => ?_
    by_cases hlk : l = k
    · exact Or.inr (by rw [hlk, h]; rfl)
    · -- another keyword begins with another letter
      left
      obtain ⟨c, rest, hline, -, -⟩ := textAfter?_eq_some_iff.1 h
      obtain ⟨a, ha, -⟩ := exists_head?_word l
      obtain ⟨b, hb, -⟩ := exists_head?_word k
      have hba : b ≠ a := by
        rintro rfl
        exact hlk (eq_of_head?_word (ha.trans hb.symm))
      have hs : line.head? = some b := by
        rw [hline, List.head?_append, hb]
        rfl
      rw [textAfter?, after?_eq_none ha hs hba]
      rfl

end Keyword

/-! ## Step lines -/

/-- A line as it is recorded for a step. -/
structure IsStepLine (line : Text) : Prop where
  /-- It is one line. -/
  not_mem : '\n' ∉ line
  /-- It has no margins. -/
  trimLine_eq : trimLine line = line
  /-- It begins with a keyword and white space. -/
  isSome_split? : (Keyword.split? line).isSome

namespace IsStepLine

variable {line r : Text} {k : Keyword}

/-- The text of a step is not empty, for the white space before it is no margin. -/
theorem text_ne_nil (h : IsStepLine line) (hr : Keyword.split? line = some (k, r)) : r ≠ [] := by
  rintro rfl
  obtain ⟨c, rest, hline, hc, hrest⟩ := Keyword.split?_eq_some_iff.1 hr
  have hblank : ∀ d ∈ c :: rest, isBlank d = true := by
    intro d hd
    rcases List.mem_cons.1 hd with rfl | hd
    · exact hc
    · exact List.dropWhile_eq_nil_iff.1 hrest.symm d hd
  obtain ⟨d, hd⟩ : ∃ d, (c :: rest).getLast? = some d :=
    ⟨_, List.getLast?_eq_some_getLast (List.cons_ne_nil c rest)⟩
  have hlast : (trimBy isMargin line).getLast? = some d := by
    rw [← trimLine, h.trimLine_eq, hline, List.getLast?_append, hd]
    rfl
  have hmargin := getLast?_trimBy hlast
  rw [isMargin, hblank d (List.mem_of_getLast? hd)] at hmargin
  cases hmargin

/-- A step line is not blank. -/
theorem isBlankText_eq_false (h : IsStepLine line) : isBlankText line = false := by
  obtain ⟨⟨k, r⟩, hr⟩ := Option.isSome_iff_exists.1 h.isSome_split?
  obtain ⟨c, rest, hline, -, -⟩ := Keyword.split?_eq_some_iff.1 hr
  obtain ⟨a, ha, hblank⟩ := k.exists_head?_word
  have hmem : a ∈ line := by
    rw [hline]
    exact List.mem_append_left _ (List.mem_of_head? ha)
  rw [isBlankText, List.all_eq_false]
  exact ⟨a, hmem, by simp [hblank]⟩

end IsStepLine

/-! ## What is recorded -/

/-- A line of a document that is read as a step is recorded as a step line. -/
theorem isStepLine_of_read {line step : Text} (hn : '\n' ∉ line)
    (h : Line.read line = .step step) : IsStepLine step := by
  obtain ⟨rfl, hsplit⟩ := Line.read_eq_step_iff.1 h
  exact ⟨fun hmem => hn (mem_of_mem_trimBy hmem), trimBy_trimBy _ _, hsplit⟩

/-- A step of a record is what a line is read as. -/
theorem Scenario.exists_line_of_mem_steps {name : Text} {lines : List Text} {step : Text}
    (h : step ∈ (ofLines name (lines.map Line.read)).steps) :
    ∃ line ∈ lines, Line.read line = .step step := by
  obtain ⟨l, hl, hstep⟩ := List.mem_filterMap.1 h
  obtain ⟨line, hline, rfl⟩ := List.mem_map.1 ((List.takeWhile_prefix _).subset hl)
  refine ⟨line, hline, ?_⟩
  cases hread : Line.read line <;> rw [hread] at hstep <;> cases hstep
  rfl

/-- Every step that a document records is a step line. -/
theorem isStepLine_of_mem_steps {text : Text} {s : Scenario}
    (hs : s ∈ (Feature.parse text).scenarios) {step : Text} (hstep : step ∈ s.steps) :
    IsStepLine step := by
  obtain ⟨slice, hslice, hrec⟩ := Feature.exists_slice_of_mem_scenarios hs
  obtain ⟨name, first, rest, rfl, -, -, rfl⟩ := hrec
  obtain ⟨line, hline, hread⟩ := Scenario.exists_line_of_mem_steps hstep
  have hn : '\n' ∉ line :=
    not_mem_of_mem_lines (mem_of_mem_slicesAt hslice (List.mem_cons_of_mem _ hline))
  exact isStepLine_of_read hn hread

end FeatureSheets
