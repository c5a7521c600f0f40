import FeatureSheets.Proofs.Json.Forms
import FeatureSheets.Proofs.Sheet.Characters
import FeatureSheets.Proofs.Text.Utf8
import FeatureSheets.Workbook

/-!
# What a host sees

A host hands in bytes without a zero byte, and sees of the workbook what the conversion of their
text is (`showsConversion_ofBytes?`). Nothing is hidden from it on account of its characters: the
text has no NUL, so the sheets have none, and JSON on one line has no control character at all.
-/

namespace FeatureSheets

open Text

/-! ## JSON on one line -/

namespace Json

variable {source : Text}

/-- Control characters are escaped. -/
theorem isDrawnFrom_quote (s : Text) : IsDrawnFrom source (quote s) := by
  have hdigit : ∀ n < 16, ' ' ≤ Nat.digitChar n := by decide
  -- a short escape is a backslash and a letter; the long ones end in hexadecimal digits
  have hpair : ∀ c d : Char, ' ' ≤ c → ' ' ≤ d → ∀ e ∈ [c, d], ' ' ≤ e := by
    intro c d hc hd
    simp [hc, hd]
  have hescape : ∀ d, ∀ c ∈ escapeChar d, ' ' ≤ c := by
    intro d
    unfold escapeChar
    split
    all_goals try exact hpair _ _ (by decide) (by decide)
    split
    · rename_i hlow
      simp only [List.forall_mem_cons]
      exact ⟨by decide, by decide, by decide, by decide, hdigit _ (by omega), hdigit _ (by omega),
        nofun⟩
    · rename_i hhigh
      rw [List.forall_mem_singleton]
      have hblank : (' ' : Char).toNat ≤ d.toNat := Nat.le_of_not_lt hhigh
      exact hblank
  apply IsDrawnFrom.of_forall_le
  intro c hc
  rw [quote, List.cons_append, List.mem_cons, List.mem_append, List.mem_singleton] at hc
  rcases hc with rfl | hc | rfl
  · decide
  · obtain ⟨d, -, hc⟩ := List.mem_flatMap.1 hc
    exact hescape d c hc
  · decide

theorem isDrawnFrom_enclose (depth : Nat) {first last : Char} (hfirst : ' ' ≤ first)
    (hlast : ' ' ≤ last) {items : List Text} (h : ∀ item ∈ items, IsDrawnFrom source item) :
    IsDrawnFrom source (enclose .compact depth first last items) := by
  have hopen : IsDrawnFrom source [first] := .of_forall_le (by simpa using hfirst)
  have hclose : IsDrawnFrom source [last] := .of_forall_le (by simpa using hlast)
  cases items with
  | nil => exact hopen.append hclose
  | cons item items => exact (hopen.append (.joinWith (by decide) h)).append hclose

/-- A value on one line has no control character. -/
theorem isDrawnFrom_writeAt_compact (v : Json) (depth : Nat) :
    IsDrawnFrom source (writeAt .compact depth v) := by
  have hnull : IsDrawnFrom source "null".toList := .of_all (by decide)
  have htrue : IsDrawnFrom source "true".toList := .of_all (by decide)
  have hfalse : IsDrawnFrom source "false".toList := .of_all (by decide)
  induction v using inductionOn generalizing depth with
  | null => exact hnull
  | otherNumber => exact hnull
  | brokenText => exact hnull
  | bool b =>
    cases b with
    | true => exact htrue
    | false => exact hfalse
  | natural n => exact .ofNat n
  | text s => exact isDrawnFrom_quote s
  | array items ih =>
    rw [writeAt_array]
    apply isDrawnFrom_enclose depth (by decide) (by decide)
    -- the induction on the value gives the items, one on the list takes them in turn
    induction items with
    | nil => exact nofun
    | cons v items ih' =>
      rw [writeItems_cons, List.forall_mem_cons]
      exact ⟨ih v (by simp) _, ih' fun u hu => ih u (by simp [hu])⟩
  | object members ih =>
    rw [writeAt_object]
    apply isDrawnFrom_enclose depth (by decide) (by decide)
    induction members with
    | nil => exact nofun
    | cons m members ih' =>
      have hcolon : IsDrawnFrom source (colon .compact) := .of_all (by decide)
      rw [writeMembers_cons, List.forall_mem_cons]
      exact ⟨((isDrawnFrom_quote _).append hcolon).append (ih m (by simp) _),
        ih' fun u hu => ih u (by simp [hu])⟩

end Json

/-! ## Texts that are taken out -/

/-- What is drawn from a text without NUL can be taken out. -/
theorem hostText?_of_isDrawnFrom {text s : Text} (htext : '\x00' ∉ text)
    (h : IsDrawnFrom text s) : hostText? s = some s := by
  have hnul : '\x00' ∉ s := by
    intro hmem
    rcases h _ hmem with hsource | hblank
    · exact htext hsource
    · exact absurd hblank (by decide)
  rw [hostText?, if_neg (by simpa using hnul)]

/-! ## The answers -/

/-- Whether a host is shown a conversion: every answer is what the conversion has there, and a text
is missing only where the position is out of range. -/
structure ShowsConversion (w : Option Workbook) (c : Conversion) : Prop where
  /-- The title is shown. -/
  featureName : WorkbookQuery.featureName.answer w = .text (some c.featureName)
  /-- The sheets are counted. -/
  sheetCount : WorkbookQuery.sheetCount.answer w = .count c.sheets.length
  /-- The name of a sheet is shown. -/
  sheetName : ∀ i, (WorkbookQuery.sheetName i).answer w = .text (c.sheets[i]?.map Sheet.name)
  /-- The rows of a sheet are counted. -/
  rowCount : ∀ i, (WorkbookQuery.rowCount i).answer w =
    .count ((c.sheets[i]?.map fun s => s.rows.length).getD 0)
  /-- A cell is shown. -/
  cell : ∀ i j k, (WorkbookQuery.cell i j k).answer w =
    .text (c.sheets[i]?.bind fun s => s.rows[j]?.bind fun row => row[k]?)
  /-- There is no name where there is no sheet, and only there. -/
  sheetName_eq_none_iff : ∀ i, (WorkbookQuery.sheetName i).answer w = .text none ↔
    ¬i < c.sheets.length
  /-- There is no cell where there is none on the sheet, and only there. -/
  cell_eq_none_iff : ∀ i j k, (WorkbookQuery.cell i j k).answer w = .text none ↔
    ¬∃ (hi : i < c.sheets.length) (hj : j < c.sheets[i].rows.length),
      k < c.sheets[i].rows[j].length
  /-- The JSON text is one of the sheets. -/
  json : ∃ s, WorkbookQuery.json.answer w = .text (some s) ∧
    Json.read? (List Sheet) s = some c.sheets

/-- The answer where there is no workbook. -/
def WorkbookQuery.missing : WorkbookQuery → WorkbookAnswer
  | .sheetCount | .rowCount _ => .count 0
  | .featureName | .sheetName _ | .cell .. | .json => .text none

theorem WorkbookQuery.answer_none (q : WorkbookQuery) : q.answer none = q.missing := by
  cases q <;> rfl

/-- The document of a memory area ends before the zero byte. -/
theorem takeWhile_append_zero {bytes : List UInt8} (h : 0 ∉ bytes) (rest : List UInt8) :
    (bytes ++ 0 :: rest).takeWhile (· != 0) = bytes := by
  rw [List.takeWhile_append_of_pos, List.takeWhile_cons_of_neg (by simp), List.append_nil]
  intro b hb
  simpa using fun e : b = 0 => h (e ▸ hb)

/-- A text whose bytes are not zero has no NUL. -/
theorem not_mem_of_zero_not_mem_encode {text : Text} (h : 0 ∉ Utf8.encode text) :
    '\x00' ∉ text := by
  intro hmem
  have hzero : (0 : UInt8) ∈ String.utf8EncodeChar '\x00' := by decide
  exact h (List.mem_flatMap.2 ⟨_, hmem, hzero⟩)

namespace Workbook

variable {w : Workbook}

/-- Whether every name and every cell can be taken out. -/
def IsHosted (w : Workbook) : Prop :=
  ∀ sheet ∈ w.sheets, hostText? sheet.name = some sheet.name ∧
    ∀ row ∈ sheet.rows, ∀ cell ∈ row, hostText? cell = some cell

theorem sheetName?_eq (h : w.IsHosted) (i : Nat) :
    w.sheetName? i = w.sheets[i]?.map Sheet.name := by
  rw [sheetName?]
  cases hi : w.sheets[i]? with
  | none => rfl
  | some sheet => exact (h sheet (List.mem_of_getElem? hi)).1

theorem cell?_eq (h : w.IsHosted) (i j k : Nat) :
    w.cell? i j k = w.sheets[i]?.bind fun sheet => sheet.rows[j]?.bind fun row => row[k]? := by
  rw [cell?]
  cases hi : w.sheets[i]? with
  | none => rfl
  | some sheet =>
    have hcells := (h sheet (List.mem_of_getElem? hi)).2
    rw [Option.bind_some, Option.bind_some]
    cases hj : sheet.rows[j]? with
    | none => rfl
    | some row =>
      rw [Option.bind_some, Option.bind_some]
      cases hk : row[k]? with
      | none => rfl
      | some cell => exact hcells row (List.mem_of_getElem? hj) cell (List.mem_of_getElem? hk)

/-- There is no cell where there is no sheet, no row or no column, and only there. -/
theorem bind_getElem?_eq_none_iff {sheets : List Sheet} {i j k : Nat} :
    (sheets[i]?.bind fun sheet => sheet.rows[j]?.bind fun row => row[k]?) = none ↔
      ¬∃ (hi : i < sheets.length) (hj : j < sheets[i].rows.length),
        k < sheets[i].rows[j].length := by
  by_cases hi : i < sheets.length
  · rw [List.getElem?_eq_getElem hi, Option.bind_some]
    by_cases hj : j < sheets[i].rows.length
    · rw [List.getElem?_eq_getElem hj, Option.bind_some, List.getElem?_eq_none_iff]
      simp [hi, hj]
    · simp [hj]
  · simp [hi]

/-- An area that begins with the bytes of a text holds the conversion of the text. -/
theorem ofBytes?_encode {text : Text} (h : 0 ∉ Utf8.encode text) (rest : List UInt8) :
    ofBytes? (Utf8.encode text ++ 0 :: rest) =
      some ⟨(convert .standard text).featureName, (convert .standard text).sheets⟩ := by
  rw [ofBytes?, takeWhile_append_zero h, Utf8.decode_encode]

/-- An area holds no workbook where its first bytes are those of no text, and only there. -/
theorem ofBytes?_eq_none_iff {bytes : List UInt8} (h : 0 ∉ bytes) (rest : List UInt8) :
    ofBytes? (bytes ++ 0 :: rest) = none ↔ ¬∃ text, Utf8.encode text = bytes := by
  constructor
  · rintro hnone ⟨text, rfl⟩
    rw [ofBytes?_encode h] at hnone
    cases hnone
  · intro hnot
    rw [ofBytes?, takeWhile_append_zero h]
    cases hread : Utf8.decode bytes with
    | error fault => rfl
    | ok text => exact absurd ⟨text, Utf8.decode_eq_ok_iff.1 hread⟩ hnot

theorem isHosted_convert {text : Text} (h : '\x00' ∉ text) :
    IsHosted ⟨(convert .standard text).featureName, (convert .standard text).sheets⟩ := by
  intro sheet hsheet
  have hdrawn := isDrawn_of_mem_sheets SheetConfig.isDrawn_standard hsheet
  refine ⟨hostText?_of_isDrawnFrom h hdrawn.name, ?_⟩
  intro row hrow cell hcell
  exact hostText?_of_isDrawnFrom h (hdrawn.cells row hrow cell hcell)

end Workbook

/-- The workbook of a text without NUL shows its conversion. -/
theorem showsConversion_convert {text : Text} (h : '\x00' ∉ text) :
    ShowsConversion (some ⟨(convert .standard text).featureName, (convert .standard text).sheets⟩)
      (convert .standard text) := by
  have hhosted := Workbook.isHosted_convert h
  have htitle := hostText?_of_isDrawnFrom h (Feature.isDrawnFrom_title text)
  constructor
  case featureName => exact congrArg WorkbookAnswer.text htitle
  case sheetCount => rfl
  case sheetName => exact fun i => congrArg WorkbookAnswer.text (Workbook.sheetName?_eq hhosted i)
  case rowCount => exact fun i => rfl
  case cell => exact fun i j k => congrArg WorkbookAnswer.text (Workbook.cell?_eq hhosted i j k)
  case sheetName_eq_none_iff =>
    intro i
    show WorkbookAnswer.text (Workbook.sheetName? _ i) = _ ↔ _
    rw [Workbook.sheetName?_eq hhosted, WorkbookAnswer.text.injEq, Option.map_eq_none_iff,
      List.getElem?_eq_none_iff, Nat.not_lt]
  case cell_eq_none_iff =>
    intro i j k
    show WorkbookAnswer.text (Workbook.cell? _ i j k) = _ ↔ _
    rw [Workbook.cell?_eq hhosted, WorkbookAnswer.text.injEq]
    exact Workbook.bind_getElem?_eq_none_iff
  case json =>
    have hstored : Json.IsStored (convert .standard text).sheets :=
      Json.isStored_list fun sheet _ => Json.isStored_sheet sheet
    refine ⟨(toJson (convert .standard text).sheets).compact, ?_, ?_⟩
    · exact congrArg WorkbookAnswer.text
        (hostText?_of_isDrawnFrom h (Json.isDrawnFrom_writeAt_compact _ 0))
    · have hparse := Json.parse?_writeAt .compact hstored.spelled (s := []) nofun
      rw [List.append_nil] at hparse
      rw [Json.read?, Json.compact, hparse]
      exact hstored.to?_toJson

/-- **A host sees the conversion.** Bytes without a zero byte give a workbook if and only if they
are those of a text, and then the host is shown the conversion of the text with the standard
configuration. Without a workbook every text is missing and every count is 0. -/
theorem showsConversion_ofBytes? {bytes : List UInt8} (h : 0 ∉ bytes) (rest : List UInt8) :
    (Workbook.ofBytes? (bytes ++ 0 :: rest) = none ↔ ¬∃ text, Utf8.encode text = bytes) ∧
      (∀ text, Utf8.encode text = bytes →
        ShowsConversion (Workbook.ofBytes? (bytes ++ 0 :: rest)) (convert .standard text)) ∧
      ∀ q : WorkbookQuery, q.answer none = q.missing := by
  refine ⟨Workbook.ofBytes?_eq_none_iff h rest, ?_, WorkbookQuery.answer_none⟩
  rintro text rfl
  rw [Workbook.ofBytes?_encode h rest]
  exact showsConversion_convert (not_mem_of_zero_not_mem_encode h)

/-- A document with a control character in a cell, and with more bytes behind its end. -/
theorem showsConversion_ofBytes?_bell :
    let text : Text := "Scenario: A\nGiven <x>\nExamples:\n| x |\n| \x07 |".toList
    let bytes : List UInt8 := Utf8.encode text
    0 ∉ bytes ∧ Utf8.encode text = bytes ∧
      ShowsConversion (Workbook.ofBytes? (bytes ++ [0, 0xFF])) (convert .standard text) := by
  intro text bytes
  have hzero : 0 ∉ bytes := by decide
  exact ⟨hzero, rfl, (showsConversion_ofBytes? hzero [0xFF]).2.1 text rfl⟩

end FeatureSheets
