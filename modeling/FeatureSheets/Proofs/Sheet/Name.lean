import FeatureSheets.Conversion
import FeatureSheets.Proofs.Text.Decimal

/-!
# Names of sheets that share a base

The rows that share a base name are numbered, and a number takes the place of the end of the base
where the limit leaves no room beside it. Two numbered names of one base always differ, for a text
ends in one number only. The bare name of the first row is safe as long as the base does not fill
the limit, or does not end in the number of another row (`numbered_eq_iff`);
`sheetName_eq_iff` says so of the sheets, and `sheetName_eq_iff_ab_3` has a base that does both.
-/

namespace FeatureSheets

namespace SheetName

/-! ## Base names and numbers -/

/-- The base names of rows that come after `start` others. -/
def basesFrom (limit start : Nat) (wanted : List Text) : List Text :=
  (wanted.zipIdx start).map fun w => base limit w.2 w.1

/-- The base names of all rows, by the names they ask for. -/
def bases (limit : Nat) (wanted : List Text) : List Text :=
  basesFrom limit 0 wanted

theorem basesFrom_cons (limit start : Nat) (w : Text) (rest : List Text) :
    basesFrom limit start (w :: rest) = base limit start w :: basesFrom limit (start + 1) rest :=
  rfl

theorem length_basesFrom (limit start : Nat) (wanted : List Text) :
    (basesFrom limit start wanted).length = wanted.length := by
  simp [basesFrom]

/-- A base name is no longer than the limit. -/
theorem length_le_of_mem_basesFrom {limit start : Nat} {wanted : List Text} {b : Text}
    (h : b ∈ basesFrom limit start wanted) : b.length ≤ limit := by
  obtain ⟨w, -, rfl⟩ := List.mem_map.1 h
  exact List.length_take_le limit _

/-- The number of a row counts the rows before it that have the same base. -/
theorem getElem?_slotsAfter (limit : Nat) (earlier wanted : List Text) (i : Nat) :
    (slotsAfter limit earlier wanted)[i]? =
      (basesFrom limit earlier.length wanted)[i]?.map fun b =>
        ⟨b, (earlier ++ (basesFrom limit earlier.length wanted).take i).count b + 1⟩ := by
  induction wanted generalizing earlier i with
  | nil => rfl
  | cons w rest ih =>
    rw [slotsAfter, basesFrom_cons]
    cases i with
    | zero => simp
    | succ i =>
      have hlen : (earlier ++ [base limit earlier.length w]).length = earlier.length + 1 := by
        simp
      have hrest := ih (earlier ++ [base limit earlier.length w]) i
      rw [hlen] at hrest
      simpa using hrest

/-- The name of a row with the base `b`. -/
theorem getElem?_names {limit : Nat} {wanted : List Text} {i : Nat} {b : Text}
    (h : (bases limit wanted)[i]? = some b) :
    (names limit wanted)[i]? =
      some (numbered limit (((bases limit wanted).take i).count b + 1) b) := by
  have hslot := getElem?_slotsAfter limit [] wanted i
  have h' : (basesFrom limit ([] : List Text).length wanted)[i]? = some b := h
  rw [h', Option.map_some, List.nil_append] at hslot
  rw [names, slots, List.getElem?_map, hslot]
  rfl

theorem count_take_succ {l : List Text} {b : Text} {i : Nat} (h : l[i]? = some b) :
    (l.take (i + 1)).count b = (l.take i).count b + 1 := by
  obtain ⟨hi, hb⟩ := List.getElem?_eq_some_iff.1 h
  rw [List.take_succ_eq_append_getElem hi, List.count_append, hb, List.count_singleton_self]

/-- A row counts among the rows before a later one. -/
theorem count_take_lt {l : List Text} {b : Text} {i j : Nat} (hij : i < j)
    (h : l[i]? = some b) : (l.take i).count b < (l.take j).count b := by
  have hnext := count_take_succ h
  have hmore : (l.take (i + 1)).count b ≤ (l.take j).count b := by
    have hprefix : l.take (i + 1) <+: l.take j := List.take_prefix_take_left (by omega)
    exact hprefix.sublist.count_le b
  omega

/-! ## Numbered names -/

/-- From the second row on, the name ends in the number, if the limit leaves room for it. -/
theorem numbered_of_two_le {limit n : Nat} {b : Text} (hn : 2 ≤ n)
    (hroom : (suffix n).length ≤ limit) :
    numbered limit n b = b.take (limit - (suffix n).length) ++ suffix n := by
  have hone : ¬n ≤ 1 := by omega
  have hlen : (b.take (limit - (suffix n).length)).length ≤ limit - (suffix n).length :=
    List.length_take_le _ b
  rw [numbered, if_neg hone, List.take_of_length_le]
  rw [List.length_append]
  omega

/-- A base is its own name with a number only where it fills the limit and ends in that number. -/
theorem eq_take_append_suffix_iff {limit n : Nat} {b : Text} (hb : b.length ≤ limit)
    (hroom : (suffix n).length ≤ limit) :
    b = b.take (limit - (suffix n).length) ++ suffix n ↔
      b.length = limit ∧ suffix n <:+ b := by
  have hpos : 0 < (suffix n).length := Nat.succ_pos _
  constructor
  · intro h
    have hlen := congrArg List.length h
    rw [List.length_append, List.length_take] at hlen
    refine ⟨by omega, b.take (limit - (suffix n).length), h.symm⟩
  · rintro ⟨hfull, front, rfl⟩
    have hfront : front.length = limit - (suffix n).length := by
      rw [List.length_append] at hfull
      omega
    rw [← hfront, List.take_left]

/-- Two rows with one base have the same name only where the first one keeps the bare base, and
the base fills the limit and ends in the number of the other. -/
theorem numbered_eq_iff {limit m n : Nat} {b : Text} (hm : 1 ≤ m) (hmn : m < n)
    (hb : b.length ≤ limit) (hroom : ∀ k, 0 < k → k ≤ n → (suffix k).length ≤ limit) :
    numbered limit m b = numbered limit n b ↔
      m = 1 ∧ b.length = limit ∧ suffix n <:+ b := by
  have hn : numbered limit n b = b.take (limit - (suffix n).length) ++ suffix n :=
    numbered_of_two_le (by omega) (hroom n (by omega) (Nat.le_refl n))
  by_cases hone : m = 1
  · subst hone
    have hbare : numbered limit 1 b = b := if_pos (Nat.le_refl 1)
    rw [hbare, hn, eq_take_append_suffix_iff hb (hroom n (by omega) (Nat.le_refl n))]
    simp
  · constructor
    · intro h
      -- both names end in a number, and a text ends in one number only
      have hm : numbered limit m b = b.take (limit - (suffix m).length) ++ suffix m :=
        numbered_of_two_le (by omega) (hroom m (by omega) (by omega))
      have hends : suffix m <:+ numbered limit n b := by
        rw [← h, hm]
        exact List.suffix_append _ _
      have hends' : suffix n <:+ numbered limit n b := by
        rw [hn]
        exact List.suffix_append _ _
      exact absurd (Text.eq_of_isSuffix_of_isSuffix hends hends') (by omega)
    · rintro ⟨h, -⟩
      exact absurd h hone

/-- Numbers below the power of ten leave room for the `_` beside their digits. -/
theorem length_suffix_le {limit n : Nat} (hn : 0 < n) (h : n < 10 ^ (limit - 1)) :
    (suffix n).length ≤ limit := by
  have hlimit : 0 < limit - 1 := by
    apply Nat.pos_of_ne_zero
    intro hzero
    rw [hzero, pow_zero] at h
    omega
  have hdigits := Text.length_ofNat_le hlimit h
  rw [suffix, List.length_cons]
  omega

end SheetName

/-! ## Names of sheets -/

/-- The base names that rows ask for, in order. -/
def baseNames (config : SheetConfig) (rows : List ExportRow) : List Text :=
  SheetName.bases config.nameLimit (rows.map ExportRow.sheetName)

theorem map_name_buildSheets (config : SheetConfig) (rows : List ExportRow) :
    (buildSheets config rows).map Sheet.name =
      SheetName.names config.nameLimit (rows.map ExportRow.sheetName) := by
  have hlen : (SheetName.names config.nameLimit (rows.map ExportRow.sheetName)).length =
      rows.length := by
    rw [SheetName.length_names, List.length_map]
  rw [buildSheets, List.map_zipWith]
  generalize SheetName.names config.nameLimit (rows.map ExportRow.sheetName) = names at hlen
  induction names generalizing rows with
  | nil => rfl
  | cons name names ih =>
    obtain ⟨row, rows, rfl⟩ := List.exists_cons_of_length_eq_add_one hlen.symm
    rw [List.zipWith_cons_cons, ih rows (Nat.succ.inj hlen)]
    rfl

/-- The name of the sheet of a row with the base `b`. -/
theorem name_of_getElem?_buildSheets {config : SheetConfig} {rows : List ExportRow} {i : Nat}
    {b : Text} {sheet : Sheet} (hb : (baseNames config rows)[i]? = some b)
    (hsheet : (buildSheets config rows)[i]? = some sheet) :
    sheet.name =
      SheetName.numbered config.nameLimit (((baseNames config rows).take i).count b + 1) b := by
  have hname := SheetName.getElem?_names hb
  rw [← map_name_buildSheets, List.getElem?_map, hsheet] at hname
  exact Option.some.inj hname

/-- **A repeated name is told apart by its number, but for one kind of base.** Of two rows with
the same base name, among fewer rows than a power of ten leaves room for, the sheets have the same
name exactly when the earlier row is the first with this base, the base fills the limit, and it
ends in `_` and the number of the later row. -/
theorem sheetName_eq_iff {config : SheetConfig} {rows : List ExportRow}
    (hfew : rows.length < 10 ^ (config.nameLimit - 1)) {i j : Nat} {b : Text}
    {sheet sheet' : Sheet} (hij : i < j)
    (hi : (baseNames config rows)[i]? = some b) (hj : (baseNames config rows)[j]? = some b)
    (hsheet : (buildSheets config rows)[i]? = some sheet)
    (hsheet' : (buildSheets config rows)[j]? = some sheet') :
    sheet.name = sheet'.name ↔
      b ∉ (baseNames config rows).take i ∧ b.length = config.nameLimit ∧
        SheetName.suffix (((baseNames config rows).take j).count b + 1) <:+ b := by
  have hcount := SheetName.count_take_lt hij hi
  have hlen : (baseNames config rows).length = rows.length := by
    rw [baseNames, SheetName.bases, SheetName.length_basesFrom, List.length_map]
  have hjlen : j < rows.length := by
    obtain ⟨hj, -⟩ := List.getElem?_eq_some_iff.1 hj
    omega
  have hbase : b.length ≤ config.nameLimit :=
    SheetName.length_le_of_mem_basesFrom (List.mem_of_getElem? hi)
  -- the rows before the later one are fewer than the power of ten
  have hle : ((baseNames config rows).take j).count b ≤ j :=
    Nat.le_trans List.count_le_length (List.length_take_le j _)
  have hroom : ∀ k, 0 < k → k ≤ ((baseNames config rows).take j).count b + 1 →
      (SheetName.suffix k).length ≤ config.nameLimit := by
    intro k hpos hk
    apply SheetName.length_suffix_le hpos
    omega
  rw [name_of_getElem?_buildSheets hi hsheet, name_of_getElem?_buildSheets hj hsheet',
    SheetName.numbered_eq_iff (by omega) (by omega) hbase hroom]
  have hfirst : ((baseNames config rows).take i).count b + 1 = 1 ↔
      b ∉ (baseNames config rows).take i := by
    rw [Nat.add_eq_right, List.count_eq_zero]
  rw [hfirst]

/-- Three rows with one base that ends in a number, but leaves the limit one character. -/
theorem sheetName_eq_iff_ab_3 :
    let config : SheetConfig := { SheetConfig.standard with maxSheetNameLen := 5 }
    let row : ExportRow := ⟨[], [], [], none, "ab_3".toList⟩
    ∃ sheet sheet' : Sheet,
      [row, row, row].length < 10 ^ (config.nameLimit - 1) ∧
        (baseNames config [row, row, row])[0]? = some "ab_3".toList ∧
        (baseNames config [row, row, row])[2]? = some "ab_3".toList ∧
        (buildSheets config [row, row, row])[0]? = some sheet ∧
        (buildSheets config [row, row, row])[2]? = some sheet' ∧ sheet.name ≠ sheet'.name := by
  intro config row
  have hfew : [row, row, row].length < 10 ^ (config.nameLimit - 1) := by decide
  have hi : (baseNames config [row, row, row])[0]? = some "ab_3".toList := by decide
  have hj : (baseNames config [row, row, row])[2]? = some "ab_3".toList := by decide
  have hshort : ¬"ab_3".toList.length = config.nameLimit := by decide
  refine ⟨_, _, hfew, hi, hj, rfl, rfl, fun h => ?_⟩
  exact hshort ((sheetName_eq_iff hfew (by omega) hi hj rfl rfl).1 h).2.1

/-- A title of thirty-one characters that ends in the number of its second use: both sheets have
it for their name. -/
theorem sheetName_repeated :
    let title : Text := "Checkout with a saved address_2".toList
    let text : Text := "Scenario: ".toList ++ title ++ "\nScenario: ".toList ++ title
    SheetConfig.standard.validate.isOk = true ∧
      (convert .standard text).rows.length < 10 ^ (SheetConfig.standard.nameLimit - 1) ∧
      baseNames .standard (convert .standard text).rows = [title, title] ∧
      (convert .standard text).sheets.map Sheet.name = [title, title] := by
  decide +kernel

end FeatureSheets
