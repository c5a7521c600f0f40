import FeatureSheets.Proofs.Sheet.Name

/-!
# Sheets of more rows

Rows are tabulated from the first to the last, and all that rows hand on to those after them is
their base names (`slotsAfter_append`). So rows that are added leave the sheets before them as they
are, a row gets the step rows that it gets alone, and a name is told by the names that are asked
for up to its row (`sheets_by_row`).
-/

namespace FeatureSheets

namespace SheetName

/-- All that the later rows are told of the earlier ones is their base names. -/
theorem slotsAfter_append (limit : Nat) (earlier xs ys : List Text) :
    slotsAfter limit earlier (xs ++ ys) =
      slotsAfter limit earlier xs ++
        slotsAfter limit (earlier ++ basesFrom limit earlier.length xs) ys := by
  induction xs generalizing earlier with
  | nil => simp [slotsAfter, basesFrom]
  | cons w xs ih =>
    have hlen : (earlier ++ [base limit earlier.length w]).length = earlier.length + 1 := by
      simp
    rw [List.cons_append, slotsAfter, ih, hlen, slotsAfter, basesFrom_cons, List.append_assoc]
    rfl

theorem names_append (limit : Nat) (xs ys : List Text) :
    names limit (xs ++ ys) =
      names limit xs ++ (slotsAfter limit (bases limit xs) ys).map (Slot.name limit) := by
  rw [names, slots, slotsAfter_append, List.map_append, List.nil_append]
  rfl

/-- The name of a row is told by the names that are asked for up to it. -/
theorem getElem?_names_take (limit : Nat) (wanted : List Text) (i : Nat) :
    (names limit (wanted.take (i + 1)))[i]? = (names limit wanted)[i]? := by
  by_cases hi : i < wanted.length
  · have hlen : i < (names limit (wanted.take (i + 1))).length := by
      rw [length_names, List.length_take]
      omega
    have happend := names_append limit (wanted.take (i + 1)) (wanted.drop (i + 1))
    rw [List.take_append_drop] at happend
    rw [happend, List.getElem?_append_left hlen]
  · rw [List.take_of_length_le (by omega)]

end SheetName

variable {config : SheetConfig}

/-- Rows that are added leave the sheets of those before them as they are. -/
theorem buildSheets_isPrefix (config : SheetConfig) (xs ys : List ExportRow) :
    buildSheets config xs <+: buildSheets config (xs ++ ys) := by
  have hlen : (SheetName.names config.nameLimit (xs.map ExportRow.sheetName)).length =
      xs.length := by
    rw [SheetName.length_names, List.length_map]
  rw [buildSheets, buildSheets, List.map_append, SheetName.names_append,
    List.zipWith_append hlen]
  exact List.prefix_append _ _

/-- The sheet of a row is made of the row and its name. -/
theorem exists_getElem?_buildSheets (config : SheetConfig) {rows : List ExportRow} {i : Nat}
    {r : ExportRow} (h : rows[i]? = some r) :
    ∃ name, (buildSheets config rows)[i]? = some (Sheet.ofRow config name r) := by
  obtain ⟨hi, -⟩ := List.getElem?_eq_some_iff.1 h
  have hlen : i < (SheetName.names config.nameLimit (rows.map ExportRow.sheetName)).length := by
    rwa [SheetName.length_names, List.length_map]
  have hname := List.getElem?_eq_getElem hlen
  rw [buildSheets, List.getElem?_zipWith, h, hname]
  exact ⟨_, rfl⟩

/-- The name of a sheet is told by the limit and by the names that are asked for up to its row. -/
theorem name_congr {config' : SheetConfig} {rows rows' : List ExportRow} {i : Nat}
    (hlimit : config.maxSheetNameLen = config'.maxSheetNameLen)
    (hwanted : (rows.take (i + 1)).map ExportRow.sheetName =
      (rows'.take (i + 1)).map ExportRow.sheetName) :
    (buildSheets config rows)[i]?.map Sheet.name =
      (buildSheets config' rows')[i]?.map Sheet.name := by
  have hsame : config.nameLimit = config'.nameLimit := congrArg UInt64.toNat hlimit
  rw [← List.getElem?_map, ← List.getElem?_map, map_name_buildSheets, map_name_buildSheets,
    ← SheetName.getElem?_names_take, ← SheetName.getElem?_names_take config'.nameLimit,
    ← List.map_take, ← List.map_take, hwanted, hsame]

/-- **Sheets are built row by row.** The sheets of more rows begin with those of the first ones.
The rows of a sheet are those of the sheet that its row gets alone. The name of a sheet is the same
for all rows that ask for the same names up to it, whatever else they hold and whatever the
configuration says beside the limit. -/
theorem sheets_by_row (config : SheetConfig) :
    (∀ xs ys : List ExportRow, buildSheets config xs <+: buildSheets config (xs ++ ys)) ∧
    (∀ (rows : List ExportRow) (i : Nat) (r : ExportRow), rows[i]? = some r →
      ∃ sheet alone, (buildSheets config rows)[i]? = some sheet ∧
        buildSheets config [r] = [alone] ∧ sheet.rows = alone.rows) ∧
    ∀ (config' : SheetConfig) (rows rows' : List ExportRow) (i : Nat),
      config.maxSheetNameLen = config'.maxSheetNameLen →
      (rows.take (i + 1)).map ExportRow.sheetName =
        (rows'.take (i + 1)).map ExportRow.sheetName →
      (buildSheets config rows)[i]?.map Sheet.name =
        (buildSheets config' rows')[i]?.map Sheet.name := by
  refine ⟨buildSheets_isPrefix config, fun rows i r hr => ?_, fun _ _ _ _ => name_congr⟩
  obtain ⟨name, hsheet⟩ := exists_getElem?_buildSheets config hr
  exact ⟨_, _, hsheet, rfl, rfl⟩

/-- Rows that agree in nothing but the names that the first two of them ask for, tabulated with
another designer: the second sheet has the same name. -/
theorem sheets_by_row_edited :
    let config : SheetConfig := { SheetConfig.standard with designer := "jdoe".toList }
    let row (name step : String) : ExportRow := ⟨[], [], step.toList, none, name.toList⟩
    let rows := [row "A" "Given x", row "A" "Then y"]
    let edited := [row "A" "", row "A" "When z", row "A" "But z"]
    (rows[1]? = some (row "A" "Then y") ∧
      ∃ sheet alone, (buildSheets .standard rows)[1]? = some sheet ∧
        buildSheets .standard [row "A" "Then y"] = [alone] ∧ sheet.rows = alone.rows) ∧
    (rows.take 2).map ExportRow.sheetName = (edited.take 2).map ExportRow.sheetName ∧
    (buildSheets .standard rows)[1]?.map Sheet.name = some "A_2".toList ∧
    (buildSheets config edited)[1]?.map Sheet.name = some "A_2".toList := by
  intro config row rows edited
  obtain ⟨-, halone, hname⟩ := sheets_by_row .standard
  have hwanted : (rows.take 2).map ExportRow.sheetName =
      (edited.take 2).map ExportRow.sheetName := rfl
  have hsecond : (buildSheets .standard rows)[1]?.map Sheet.name = some "A_2".toList := by
    decide +kernel
  refine ⟨⟨rfl, halone rows 1 _ rfl⟩, hwanted, hsecond, ?_⟩
  rw [← hname config rows edited 1 rfl hwanted]
  exact hsecond

end FeatureSheets
