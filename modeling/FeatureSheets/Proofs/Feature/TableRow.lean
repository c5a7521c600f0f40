import FeatureSheets.Feature.Draft
import FeatureSheets.Feature.Line
import FeatureSheets.Proofs.Lists
import FeatureSheets.Proofs.Text.Fields

/-!
# Rows cut at their pipes

Whether a row is framed is asked of its cells, after they are trimmed, and not of its pipes. For a
line without margins that begins with a pipe it comes to the same (`isFramed_iff_getLast?`): an
outer cell is blank only where nothing stands outside the pipe, because the line would end in a
blank otherwise. From there on cells can be counted by pipes, and a row that is written cell by
cell, with any blanks around them, is read back (`cells_cut_at_pipes`).
-/

namespace FeatureSheets.TableRow

open Text

/-! ## Cells -/

theorem mem_rawCells_of_mem_cells {line cell : Text} (h : cell ∈ cells line) :
    cell ∈ rawCells line := by
  change cell ∈ if isFramed (rawCells line) then _ else _ at h
  split at h
  · exact List.mem_of_mem_tail ((List.dropLast_sublist _).subset h)
  · exact h

/-- No cell of a row holds a `|`. -/
theorem not_mem_of_mem_cells {line cell : Text} (h : cell ∈ cells line) : '|' ∉ cell := by
  obtain ⟨field, hfield, rfl⟩ := List.mem_map.1 (mem_rawCells_of_mem_cells h)
  intro hmem
  exact not_mem_of_mem_splitOn hfield (mem_of_mem_trimBy hmem)

theorem subset_of_mem_cells {line cell : Text} (h : cell ∈ cells line) : cell ⊆ line := by
  obtain ⟨field, hfield, rfl⟩ := List.mem_map.1 (mem_rawCells_of_mem_cells h)
  intro c hc
  exact subset_of_mem_splitOn hfield (mem_of_mem_trimBy hc)

theorem trim_of_mem_cells {line cell : Text} (h : cell ∈ cells line) : trim cell = cell := by
  obtain ⟨field, -, rfl⟩ := List.mem_map.1 (mem_rawCells_of_mem_cells h)
  exact trimBy_trimBy isBlank field

/-- The cells of a row on one line. -/
theorem isCell_of_mem_cells {line cell : Text} (hn : '\n' ∉ line) (h : cell ∈ cells line) :
    IsCell cell :=
  ⟨fun hmem => hn (subset_of_mem_cells h hmem), not_mem_of_mem_cells h, trim_of_mem_cells h⟩

/-! ## Frames -/

theorem isFramed_cons_concat (inner : List Text) (last : Text) :
    isFramed ([] :: (inner ++ [last])) = decide (last = []) := by
  simp [isFramed, List.getLast?_cons, beq_eq_decide]

/-- A frame has two outer cells, both empty. -/
theorem exists_eq_of_isFramed {raw : List Text} (h : isFramed raw = true) :
    ∃ inner, raw = [] :: (inner ++ [[]]) := by
  simp only [isFramed, Bool.and_eq_true, decide_eq_true_eq, beq_iff_eq] at h
  obtain ⟨⟨hlength, hfirst⟩, hlast⟩ := h
  obtain ⟨rest, rfl⟩ := List.head?_eq_some_iff.1 hfirst
  have hne : rest ≠ [] := by
    rintro rfl
    simp at hlength
  obtain ⟨inner, last, rfl⟩ := (List.eq_nil_or_concat rest).resolve_left hne
  refine ⟨inner, ?_⟩
  rw [List.concat_eq_append, ← List.cons_append, List.getLast?_concat] at hlast
  rw [List.concat_eq_append, Option.some.inj hlast]

theorem cells_of_rawCells_eq {line : Text} {inner : List Text}
    (h : rawCells line = [] :: (inner ++ [[]])) : cells line = inner := by
  show (if isFramed (rawCells line) then _ else _) = inner
  rw [h, isFramed_cons_concat, if_pos (by simp)]
  simp

/-- From a frame the two outer cells are taken, and there are two to take. -/
theorem rawCells_of_isFramed {line : Text} (h : isFramed (rawCells line) = true) :
    rawCells line = [] :: (cells line ++ [[]]) := by
  obtain ⟨inner, hinner⟩ := exists_eq_of_isFramed h
  rw [cells_of_rawCells_eq hinner, hinner]

theorem cells_of_not_isFramed {line : Text} (h : isFramed (rawCells line) = false) :
    cells line = rawCells line := by
  show (if isFramed (rawCells line) then _ else _) = _
  rw [h, if_neg (by simp)]

theorem length_rawCells (line : Text) : (rawCells line).length = line.count '|' + 1 := by
  rw [rawCells, List.length_map, length_splitOn]

/-! ## Rows as they are read -/

/-- A line that is read as a table row: it has no margins and begins with a pipe. -/
structure IsRowLine (line : Text) : Prop where
  /-- It has no margins. -/
  trimLine_eq : trimLine line = line
  /-- It begins with a pipe. -/
  head?_eq : line.head? = some '|'

instance (line : Text) : Decidable (IsRowLine line) :=
  decidable_of_iff (trimLine line = line ∧ line.head? = some '|')
    ⟨fun h => ⟨h.1, h.2⟩, fun h => ⟨h.1, h.2⟩⟩

/-- A text that begins with a pipe is cut into an empty field, and a last one that begins behind
its last pipe. -/
theorem exists_splitOn_pipe_eq (s : Text) :
    ∃ front last, ('|' :: s).splitOn '|' = [] :: (front ++ [last]) ∧ '|' ∉ last ∧
      ∃ before, '|' :: s = before ++ '|' :: last := by
  obtain ⟨front, last, hs⟩ :=
    (List.eq_nil_or_concat (s.splitOn '|')).resolve_left (List.splitOn_ne_nil '|' s)
  rw [List.concat_eq_append] at hs
  have hfields : ('|' :: s).splitOn '|' = [] :: (front ++ [last]) := by
    rw [List.splitOn_cons_eq_if_modifyHead, if_pos (by decide), hs]
  refine ⟨front, last, hfields, ?_, joinWith '|' ([] :: front), ?_⟩
  · exact not_mem_of_mem_splitOn (s := s) (by simp [hs])
  · -- what is cut is joined again
    rw [← joinWith_append_singleton (List.cons_ne_nil [] front), List.cons_append, ← hfields]
    exact (List.intercalate_splitOn '|').symm

/-- The first cell of a row is empty, and the last one is empty only where a pipe ends the row. -/
theorem IsRowLine.exists_rawCells_eq {line : Text} (h : IsRowLine line) :
    ∃ inner last, rawCells line = [] :: (inner ++ [last]) ∧
      (last = [] ↔ line.getLast? = some '|') := by
  obtain ⟨s, rfl⟩ := List.head?_eq_some_iff.1 h.head?_eq
  obtain ⟨front, last, hfields, hpipe, before, hline⟩ := exists_splitOn_pipe_eq s
  refine ⟨front.map trim, trim last, ?_, ?_⟩
  · rw [rawCells, hfields, List.map_cons, List.map_append]
    rfl
  -- the line ends as its last field does, and with the pipe before it where the field is empty
  rw [hline, List.getLast?_append, List.getLast?_cons]
  cases hlast : last.getLast? with
  | none =>
    rw [List.getLast?_eq_none_iff.1 hlast]
    exact iff_of_true rfl rfl
  | some c =>
    have hmem : c ∈ last := List.mem_of_getLast? hlast
    have hend : (trimBy isMargin ('|' :: s)).getLast? = some c := by
      rw [← trimLine, h.trimLine_eq, hline, List.getLast?_append, List.getLast?_cons, hlast]
      rfl
    have hblank : isBlank c = false := (Bool.or_eq_false_iff.1 (getLast?_trimBy hend)).1
    refine iff_of_false (fun hnil => ?_) fun hc => ?_
    · rw [forall_of_trimBy_eq_nil hnil c hmem] at hblank
      cases hblank
    · obtain rfl : c = '|' := Option.some.inj hc
      exact hpipe hmem

/-- A row is framed exactly when a pipe ends it. -/
theorem IsRowLine.isFramed_iff_getLast? {line : Text} (h : IsRowLine line) :
    isFramed (rawCells line) = true ↔ line.getLast? = some '|' := by
  obtain ⟨inner, last, hraw, hlast⟩ := h.exists_rawCells_eq
  rw [hraw, isFramed_cons_concat, decide_eq_true_eq, hlast]

/-! ## Rows as they are written -/

/-- Whether a text is a cell with blanks around it. -/
def IsPadded (cell text : Text) : Prop :=
  ∃ before after, text = before ++ cell ++ after ∧ (∀ c ∈ before, isBlank c = true) ∧
    ∀ c ∈ after, isBlank c = true

/-- A row of texts with a pipe between any two and around all of them. -/
def frame (texts : List Text) : Text :=
  '|' :: joinWith '|' texts ++ ['|']

theorem trim_of_isPadded {cell text : Text} (h : IsPadded cell text) : trim text = trim cell := by
  obtain ⟨before, after, rfl, hbefore, hafter⟩ := h
  exact trimBy_append_append cell hbefore hafter

theorem map_trim_of_isPadded {row texts : List Text} (h : List.Forall₂ IsPadded row texts) :
    texts.map trim = row.map trim := by
  induction h with
  | nil => rfl
  | cons hcell _ ih => rw [List.map_cons, List.map_cons, trim_of_isPadded hcell, ih]

/-- Blanks bring in no pipe. -/
theorem not_mem_of_isPadded {cell text : Text} (hcell : '|' ∉ cell) (h : IsPadded cell text) :
    '|' ∉ text := by
  obtain ⟨before, after, rfl, hbefore, hafter⟩ := h
  have hpipe : isBlank '|' = false := by decide
  rw [List.mem_append, List.mem_append, not_or, not_or]
  refine ⟨⟨fun hmem => ?_, hcell⟩, fun hmem => ?_⟩
  · rw [hbefore _ hmem] at hpipe
    cases hpipe
  · rw [hafter _ hmem] at hpipe
    cases hpipe

/-- A frame is a line that is read as a row. -/
theorem isRowLine_frame (texts : List Text) : IsRowLine (frame texts) := by
  have hpipe : isMargin '|' = false := by decide
  refine ⟨trimBy_eq_self ?_ ?_, rfl⟩
  · intro c hc
    obtain rfl : '|' = c := Option.some.inj hc
    exact hpipe
  · intro c hc
    rw [frame, List.getLast?_concat] at hc
    obtain rfl : '|' = c := Option.some.inj hc
    exact hpipe

theorem rawCells_frame {texts : List Text} (hne : texts ≠ []) (h : ∀ text ∈ texts, '|' ∉ text) :
    rawCells (frame texts) = [] :: (texts.map trim ++ [[]]) := by
  have hfields : (frame texts).splitOn '|' = [] :: (texts ++ [[]]) := by
    rw [frame, List.cons_append, List.splitOn_cons_eq_if_modifyHead, if_pos (by decide),
      List.splitOn_append_cons_self, splitOn_joinWith hne h]
    rfl
  rw [rawCells, hfields, List.map_cons, List.map_append]
  rfl

/-- Cells that are written into a frame are read back, whatever blanks stand around them. -/
theorem cells_frame {row texts : List Text} (hne : row ≠ []) (hcells : ∀ cell ∈ row, IsCell cell)
    (hpadded : List.Forall₂ IsPadded row texts) : cells (frame texts) = row := by
  have htexts : texts ≠ [] := by
    rintro rfl
    cases hpadded
    exact hne rfl
  have hpipes : ∀ text ∈ texts, '|' ∉ text := by
    intro text htext
    obtain ⟨cell, hcell, hpad⟩ := exists_of_mem_right hpadded htext
    exact not_mem_of_isPadded (hcells cell hcell).2.1 hpad
  have hrow : row.map trim = row := by
    rw [List.map_congr_left fun cell hcell => (hcells cell hcell).2.2, List.map_id']
  rw [cells_of_rawCells_eq (rawCells_frame htexts hpipes), map_trim_of_isPadded hpadded, hrow]

/-! ## The rule by pipes -/

/-- What a row is cut into, said by its pipes. -/
structure IsCutAtPipes (line : Text) : Prop where
  /-- It is a frame exactly when a pipe ends it. -/
  isFramed_iff : isFramed (rawCells line) = true ↔ line.getLast? = some '|'
  /-- The two outer cells are dropped exactly then, and both are empty. -/
  drops_iff : rawCells line = [] :: (cells line ++ [[]]) ↔ line.getLast? = some '|'
  /-- In a frame there is one cell less than there are pipes. -/
  length_of_framed : line.getLast? = some '|' → (cells line).length + 1 = line.count '|'
  /-- Without a frame nothing is dropped; there is one cell more, and the first one is empty. -/
  of_unframed : line.getLast? ≠ some '|' →
    cells line = rawCells line ∧ (cells line).length = line.count '|' + 1 ∧
      (cells line).head? = some []
  /-- Every cell is trimmed and holds no pipe. -/
  trimmed : ∀ cell ∈ cells line, trim cell = cell ∧ '|' ∉ cell

theorem IsRowLine.isCutAtPipes {line : Text} (h : IsRowLine line) : IsCutAtPipes line := by
  have hlength := length_rawCells line
  have hframed : line.getLast? = some '|' → rawCells line = [] :: (cells line ++ [[]]) :=
    fun hlast => rawCells_of_isFramed (h.isFramed_iff_getLast?.2 hlast)
  have hunframed : line.getLast? ≠ some '|' → cells line = rawCells line := by
    intro hlast
    rw [Ne, ← h.isFramed_iff_getLast?, Bool.not_eq_true] at hlast
    exact cells_of_not_isFramed hlast
  constructor
  case isFramed_iff => exact h.isFramed_iff_getLast?
  case drops_iff =>
    refine ⟨fun hdrops => ?_, hframed⟩
    by_contra hlast
    -- the cells would be fewer than they are
    have hcount := congrArg List.length hdrops
    rw [hunframed hlast, List.length_cons, List.length_append, List.length_singleton] at hcount
    omega
  case length_of_framed =>
    intro hlast
    rw [hframed hlast] at hlength
    simpa using hlength
  case of_unframed =>
    intro hlast
    obtain ⟨inner, last, hraw, -⟩ := h.exists_rawCells_eq
    rw [hunframed hlast]
    exact ⟨rfl, hlength, by rw [hraw]; rfl⟩
  case trimmed =>
    intro cell hcell
    exact ⟨trim_of_mem_cells hcell, not_mem_of_mem_cells hcell⟩

/-- **Rows are cut at their pipes.** A line without margins that begins with a pipe is a frame when
a pipe ends it, a bare pipe included, and then its two outer cells are dropped; its cells are
counted by its pipes. Whatever the line, where outer cells are dropped there are two of them. Cells
that are written into a frame, with any blanks around them, are read back. -/
theorem cells_cut_at_pipes :
    (∀ line, IsRowLine line → IsCutAtPipes line) ∧
      (isFramed (rawCells ['|']) = true ∧ cells ['|'] = []) ∧
      (∀ line, isFramed (rawCells line) = true → rawCells line = [] :: (cells line ++ [[]])) ∧
      ∀ row texts, row ≠ [] → (∀ cell ∈ row, IsCell cell) → List.Forall₂ IsPadded row texts →
        IsRowLine (frame texts) ∧ cells (frame texts) = row :=
  ⟨fun _ => IsRowLine.isCutAtPipes, ⟨by decide, by decide⟩, fun _ => rawCells_of_isFramed,
    fun _ texts hne hcells hpadded => ⟨isRowLine_frame texts, cells_frame hne hcells hpadded⟩⟩

/-- A row without its last pipe, with a byte-order mark and blanks next to its pipes; two bare
pipes; and a row of an empty cell, a cell of two words and a byte-order mark. -/
theorem cells_cut_at_pipes_marks :
    let line : Text := "|\uFEFF |\u3000a|| b".toList
    let row : List Text := ["".toList, "a b".toList, "\uFEFF".toList]
    let texts : List Text := ["\t".toList, "a b\u3000".toList, " \uFEFF".toList]
    (IsRowLine line ∧ IsCutAtPipes line) ∧
      (isFramed (rawCells ['|', '|']) = true ∧
        rawCells ['|', '|'] = [] :: (cells ['|', '|'] ++ [[]])) ∧
      (row ≠ [] ∧ (∀ cell ∈ row, IsCell cell) ∧ List.Forall₂ IsPadded row texts) ∧
      IsRowLine (frame texts) ∧ cells (frame texts) = row := by
  intro line row texts
  have hline : IsRowLine line := by decide
  have hcells : ∀ cell ∈ row, IsCell cell := by decide
  have hblank : isBlank '\t' = true ∧ isBlank '\u3000' = true ∧ isBlank ' ' = true := by decide
  have hpadded : List.Forall₂ IsPadded row texts :=
    .cons ⟨['\t'], [], rfl, List.forall_mem_singleton.2 hblank.1, by simp⟩
      (.cons ⟨[], ['\u3000'], rfl, by simp, List.forall_mem_singleton.2 hblank.2.1⟩
        (.cons ⟨[' '], [], rfl, List.forall_mem_singleton.2 hblank.2.2, by simp⟩ .nil))
  have hframed : isFramed (rawCells ['|', '|']) = true := by decide
  exact ⟨⟨hline, cells_cut_at_pipes.1 line hline⟩,
    ⟨hframed, cells_cut_at_pipes.2.2.1 _ hframed⟩, ⟨by decide, hcells, hpadded⟩,
    cells_cut_at_pipes.2.2.2 row texts (by decide) hcells hpadded⟩

end FeatureSheets.TableRow
