import FeatureSheets.Proofs.Export.Attempt
import FeatureSheets.Proofs.Export.Choices
import FeatureSheets.Proofs.Sheet.NameLimit
import FeatureSheets.Proofs.Sheet.Shape

/-!
# Documents that cannot be exported as tables

A file name is left of every sheet name that is more than dots and blanks (`stem?_eq_none_iff`), and
a number is more (`not_isDotsAndSpaces_numbered`). So the first row that has such a base is refused
under that very base, and no other row is. An export to tables writes the sheets before it and ends
there, if the machine does not refuse anything first (`tables_refused_iff`). A workbook needs no
file names.
-/

namespace FeatureSheets

/-! ## Names of which nothing is left -/

/-- Whether a text is made of dots and blanks. -/
def Text.IsDotsAndSpaces (s : Text) : Prop :=
  ∀ c ∈ s, c = '.' ∨ c = ' '

/-- Dots and blanks are kept, and no other character becomes one. -/
theorem FileName.isDotsAndSpaces_sanitize_iff {name : Text} :
    (sanitize name).IsDotsAndSpaces ↔ name.IsDotsAndSpaces := by
  rw [Text.IsDotsAndSpaces, sanitize, List.forall_mem_map]
  refine forall₂_congr fun c _ => ?_
  split
  · rename_i hreplaced
    constructor
    · intro h
      exact absurd h (by decide)
    · intro h
      have hkept : (forbidden.contains c || isControl c) = false := by
        rcases h with rfl | rfl <;> decide
      rw [hkept] at hreplaced
      cases hreplaced
  · rfl

/-- Nothing is left of names that are made of dots and blanks, and of no others. -/
theorem FileName.stem?_eq_none_iff {name : Text} : stem? name = none ↔ name.IsDotsAndSpaces := by
  have htrim : stem? name = none ↔
      Text.trimEndBy (fun c => c == '.' || c == ' ') (sanitize name) = [] := by
    rw [stem?]
    cases Text.trimEndBy (fun c => c == '.' || c == ' ') (sanitize name) <;> simp
  rw [htrim, Text.trimEndBy_eq_nil_iff, ← isDotsAndSpaces_sanitize_iff]
  simp [Text.IsDotsAndSpaces]

/-- A number is neither a dot nor a blank, and some of it is there wherever the base is. -/
theorem SheetName.not_isDotsAndSpaces_numbered {limit : Nat} {b : Text} (n : Nat)
    (hb : b.length ≤ limit) (h : ¬b.IsDotsAndSpaces) : ¬(numbered limit n b).IsDotsAndSpaces := by
  rw [numbered]
  split
  · exact h
  · have hlimit : 0 < limit := by
      apply Nat.pos_of_ne_zero
      rintro rfl
      obtain rfl := List.eq_nil_of_length_eq_zero (Nat.le_zero.1 hb)
      exact h (List.forall_mem_nil _)
    have hsuffix : 0 < (suffix n).length := Nat.succ_pos _
    have hfront : (b.take (limit - (suffix n).length)).length < limit :=
      Nat.lt_of_le_of_lt (List.length_take_le _ b) (by omega)
    -- the cut falls behind the `_`
    have hmem : '_' ∈ (b.take (limit - (suffix n).length) ++ suffix n).take limit := by
      apply List.mem_of_getElem?
      rw [List.getElem?_take_of_lt hfront, suffix, List.getElem?_append_right (Nat.le_refl _),
        Nat.sub_self]
      rfl
    intro hdots
    exact absurd (hdots '_' hmem) (by decide)

/-- The first of some base names that is made of dots and blanks, at its position. -/
structure IsFirstRefused (bases : List Text) (i : Nat) (b : Text) : Prop where
  getElem? : bases[i]? = some b
  isDotsAndSpaces : b.IsDotsAndSpaces
  before : ∀ b' ∈ bases.take i, ¬b'.IsDotsAndSpaces

theorem exists_isFirstRefused {bases : List Text} {b : Text} (hb : b ∈ bases)
    (h : b.IsDotsAndSpaces) : ∃ i b, IsFirstRefused bases i b := by
  classical
  have hex : ∃ (i : Nat) (b : Text), bases[i]? = some b ∧ b.IsDotsAndSpaces := by
    obtain ⟨i, hi⟩ := List.getElem?_of_mem hb
    exact ⟨i, b, hi, h⟩
  obtain ⟨b, hb, h⟩ := Nat.find_spec hex
  refine ⟨Nat.find hex, b, hb, h, fun b' hb' hdots => ?_⟩
  obtain ⟨j, hj, hget⟩ := List.mem_take_iff_getElem.1 hb'
  have hlt : j < Nat.find hex := Nat.lt_of_lt_of_le hj (Nat.min_le_left _ _)
  exact Nat.find_min hex hlt ⟨b', hget ▸ List.getElem?_eq_getElem _, hdots⟩

/-! ## Sheets whose names are refused -/

/-- The base names of the scenarios of a document: what their titles ask for, or else their
number, as far as a spreadsheet takes it. -/
def scenarioBases (config : SheetConfig) (f : Feature) : List Text :=
  f.scenarios.zipIdx.map fun s => SheetName.base config.nameLimit s.2 (sheetNameFor s.1.name)

theorem baseNames_rows (config : SheetConfig) (f : Feature) :
    baseNames config f.rows = scenarioBases config f := by
  rw [baseNames, SheetName.bases, SheetName.basesFrom, Feature.rows, List.map_map,
    List.zipIdx_map, List.map_map]
  rfl

/-- A sheet whose base name is more than dots and blanks has a file name. -/
theorem stem?_name_ne_none {config : SheetConfig} {rows : List ExportRow} {i : Nat} {b : Text}
    {sheet : Sheet} (hb : (baseNames config rows)[i]? = some b) (h : ¬b.IsDotsAndSpaces)
    (hsheet : (buildSheets config rows)[i]? = some sheet) : FileName.stem? sheet.name ≠ none := by
  rw [Ne, FileName.stem?_eq_none_iff, name_of_getElem?_buildSheets hb hsheet]
  exact SheetName.not_isDotsAndSpaces_numbered _
    (SheetName.length_le_of_mem_basesFrom (List.mem_of_getElem? hb)) h

/-- The first sheet whose base name is dots and blanks alone has that base for its name. -/
theorem IsFirstRefused.name_eq {config : SheetConfig} {rows : List ExportRow} {i : Nat} {b : Text}
    {sheet : Sheet} (h : IsFirstRefused (baseNames config rows) i b)
    (hsheet : (buildSheets config rows)[i]? = some sheet) : sheet.name = b := by
  -- no row before it has this base, so it is not numbered
  have hnew : b ∉ (baseNames config rows).take i := fun hmem => h.before b hmem h.isDotsAndSpaces
  rw [name_of_getElem?_buildSheets h.getElem? hsheet, List.count_eq_zero.2 hnew]
  rfl

theorem length_baseNames (config : SheetConfig) (rows : List ExportRow) :
    (baseNames config rows).length = rows.length := by
  rw [baseNames, SheetName.length_bases, List.length_map]

theorem stem?_ne_none_of_mem_take {config : SheetConfig} {rows : List ExportRow} {i : Nat}
    (h : ∀ b ∈ (baseNames config rows).take i, ¬b.IsDotsAndSpaces) :
    ∀ s ∈ (buildSheets config rows).take i, FileName.stem? s.name ≠ none := by
  intro s hs
  obtain ⟨j, hj, rfl⟩ := List.mem_take_iff_getElem.1 hs
  have hjs : j < (buildSheets config rows).length := by omega
  have hjb : j < (baseNames config rows).length := by
    rwa [length_baseNames, ← length_buildSheets config rows]
  have hmem : (baseNames config rows)[j] ∈ (baseNames config rows).take i :=
    List.mem_take_iff_getElem.2 ⟨j, by omega, rfl⟩
  exact stem?_name_ne_none (List.getElem?_eq_getElem hjb) (h _ hmem)
    (List.getElem?_eq_getElem hjs)

/-! ## Runs that end at a name -/

/-- Whether an error says that a machine refused a file or a directory. -/
def Error.isOfMachine : Error → Bool
  | .sheetFile .. | .fileSystem _ => true
  | .fileRead .. | .malformedInput .. | .unequalRows .. | .walk _ | .noScenarios _
  | .invalidSheetName _ | .nameLimitTooShort _ | .outputCollision .. | .unknownFormat _
  | .json => false

/-- Whether an error says that a machine refused a file or a directory. -/
def Error.IsOfMachine (e : Error) : Prop :=
  e.isOfMachine = true

namespace Operation

variable {α β : Type} {x : Operation Session α} {f : α → Operation Session β} {e : Error}
  {left left' : World → World → Prop}

/-- Whether an operation always fails: with `e`, and then it has left what is told, or before that
because the machine refused something. -/
def EndsIn (e : Error) (left : World → World → Prop) (x : Operation Session α) : Prop :=
  ∀ w r w', x.run w = (r, w') →
    (∃ e', r = .error e' ∧ e'.IsOfMachine) ∨ r = .error e ∧ left w w'

theorem endsIn_throw (hleft : ∀ w, left w w) : (throw e : Operation Session α).EndsIn e left := by
  intro w r w' h
  cases h
  exact .inr ⟨rfl, hleft w⟩

/-- What comes after the end is not done. -/
theorem EndsIn.bind_left (h : x.EndsIn e left) : (x >>= f).EndsIn e left := by
  intro w r w' hrun
  rcases run_bind_eq_iff.1 hrun with ⟨e', hx, rfl⟩ | ⟨a, w₁, hx, -⟩
  · exact (h w _ w' hx).imp (fun ⟨e'', he, hmachine⟩ => ⟨e', rfl, Except.error.inj he ▸ hmachine⟩)
      fun ⟨he, hleft⟩ => ⟨congrArg Except.error (Except.error.inj he), hleft⟩
  · rcases h w _ w₁ hx with ⟨e', he, -⟩ | ⟨he, -⟩ <;> cases he

/-- What comes before the end is done, unless the machine refuses it. -/
theorem EndsIn.bind_right (hx : x.FailsWith Error.IsOfMachine)
    (hf : ∀ a, (f a).EndsIn e left)
    (hleft : ∀ a w w₁ w', x.run w = (.ok a, w₁) → left w₁ w' → left' w w') :
    (x >>= f).EndsIn e left' := by
  intro w r w' hrun
  rcases run_bind_eq_iff.1 hrun with ⟨e', hfirst, rfl⟩ | ⟨a, w₁, hfirst, hrest⟩
  · exact .inl ⟨e', rfl, hx w e' w' hfirst⟩
  · exact (hf a w₁ r w' hrest).imp_right fun ⟨he, hend⟩ => ⟨he, hleft a w w₁ w' hfirst hend⟩

end Operation

variable {w w' : World} {dir : Path} {sheets : List Sheet}

theorem failsWith_writeCsv_isOfMachine {s : Sheet} (h : Csv.IsRectangular s.rows) (p : Path) :
    (s.writeCsv p : Operation Session Unit).FailsWith Error.IsOfMachine := by
  intro w e w' hrun
  obtain ⟨fault, rfl⟩ := failsWith_writeCsv_of_isRectangular h p w e w' hrun
  rfl

/-- An export to tables of sheets that all have file names fails where the machine refuses
something, and nowhere else. -/
theorem failsWith_writeFiles (hrows : ∀ s ∈ sheets, Csv.IsRectangular s.rows)
    (hnames : ∀ s ∈ sheets, FileName.stem? s.name ≠ none) :
    (writeFiles sheets dir .csv : Operation Session _).FailsWith Error.IsOfMachine := by
  obtain ⟨cs, hcs⟩ := FileName.exists_choicesAfter_eq [] (List.forall_mem_map.2 hnames)
  refine Operation.FailsWith.bind ?_ fun _ => Operation.failsWith_pure _
  refine failsWith_writeChosen (fun x hx => ?_) fun x hx e he => ?_
  · exact failsWith_writeCsv_isOfMachine (hrows x.1 (List.of_mem_zip hx).1)
  · -- no choice is refused
    have hmem := (List.of_mem_zip hx).2
    rw [FileName.choices, hcs, he] at hmem
    obtain ⟨c, -, hc⟩ := List.mem_map.1 hmem
    cases hc

/-- The sheets before one that has no file name are paired with the choices for them. -/
theorem zip_choices_of_refused {i : Nat} {s : Sheet}
    (hbefore : ∀ s ∈ sheets.take i, FileName.stem? s.name ≠ none) (hi : sheets[i]? = some s)
    (hs : FileName.stem? s.name = none) :
    ∃ chosen : List (Sheet × FileName.Choice), chosen.map Prod.fst = sheets.take i ∧
      FileName.choices ((sheets.take i).map Sheet.name) = chosen.map (fun x => .ok x.2) ∧
      sheets.zip (FileName.choices (sheets.map Sheet.name)) =
        chosen.map (fun x => (x.1, .ok x.2)) ++ [(s, .error (.invalidSheetName s.name))] := by
  obtain ⟨cs, hcs⟩ := FileName.exists_choicesAfter_eq [] (List.forall_mem_map.2 hbefore)
  have hlen : cs.length = (sheets.take i).length := by
    rw [FileName.length_of_choicesAfter_eq hcs, List.length_map]
  have hsplit : sheets = sheets.take i ++ s :: sheets.drop (i + 1) := by
    obtain ⟨hlt, rfl⟩ := List.getElem?_eq_some_iff.1 hi
    rw [List.getElem_cons_drop, List.take_append_drop]
  -- the names after the refused one are not looked at
  have hchoices : FileName.choices (sheets.map Sheet.name) =
      cs.map .ok ++ [.error (.invalidSheetName s.name)] := by
    conv => lhs; rw [hsplit]
    rw [FileName.choices, List.map_append, FileName.choicesAfter_append hcs, List.map_cons]
    simp only [FileName.choicesAfter, hs]
  refine ⟨(sheets.take i).zip cs, List.map_fst_zip hlen.ge, ?_, ?_⟩
  · rw [FileName.choices, hcs]
    conv => lhs; rw [← List.map_snd_zip hlen.le]
    rw [List.map_map]
    rfl
  · rw [hchoices]
    conv => lhs; rw [hsplit]
    rw [List.zip_append (by rw [List.length_map, hlen]), List.zip_map_right,
      List.zip_cons_cons, List.zip_nil_right]
    rfl

/-- Sheets that come before one that is refused are written, one after another. -/
theorem endsIn_writeChosen {chosen : List (Sheet × FileName.Choice)} {s : Sheet} {e : Error}
    (hrows : ∀ x ∈ chosen, Csv.IsRectangular x.1.rows) :
    (writeChosen dir (chosen.map (fun x => (x.1, .ok x.2)) ++ [(s, .error e)]) :
      Operation Session _).EndsIn e
        fun w w' => w.tree.writeAll dir (chosen.map tableFile) = .ok w'.tree := by
  induction chosen with
  | nil => exact Operation.endsIn_throw fun _ => rfl
  | cons x chosen ih =>
    obtain ⟨s', choice⟩ := x
    rw [List.forall_mem_cons] at hrows
    have hcsv := failsWith_writeCsv_isOfMachine hrows.1 (dir.join ⟨choice.file⟩)
    have hwritten : ∀ (u : Unit) (w w₁ w' : World),
        (s'.writeCsv (dir.join ⟨choice.file⟩) : Operation Session Unit).run w = (.ok u, w₁) →
        w₁.tree.writeAll dir (chosen.map tableFile) = .ok w'.tree →
        w.tree.writeAll dir (((s', choice) :: chosen).map tableFile) = .ok w'.tree :=
      fun _ w w₁ w' hwrite hrest =>
        FileTree.writeAll_cons_eq_ok_iff.2 ⟨w₁.tree, writeFile_of_writeCsv hwrite, hrest⟩
    have hall : (do
        s'.writeCsv (dir.join ⟨choice.file⟩)
        return (dir.join ⟨choice.file⟩, .ofSheet ⟨choice.file⟩ s') :: (← writeChosen dir
          (chosen.map (fun x => (x.1, .ok x.2)) ++ [(s, .error e)])) :
          Operation Session (List (Path × ManifestEntry))).EndsIn e fun w w' =>
            w.tree.writeAll dir (((s', choice) :: chosen).map tableFile) = .ok w'.tree :=
      Operation.EndsIn.bind_right hcsv (fun _ => (ih hrows.2).bind_left) hwritten
    intro w r w' hrun
    obtain ⟨w₁, hquiet, hrun⟩ := exists_of_writeChosen_cons hrun
    have hend := hall w₁ r w' hrun
    simp only [hquiet] at hend
    exact hend

/-- What an export to tables has left that ends at a sheet: the sheets before it in the files that
are chosen for them, and nothing else. -/
def LeavesTables (w w' : World) (dir : Path) (sheets : List Sheet) : Prop :=
  ∃ chosen : List (Sheet × FileName.Choice), chosen.map Prod.fst = sheets ∧
    FileName.choices (sheets.map Sheet.name) = chosen.map (fun x => .ok x.2) ∧
    w.tree.Puts w'.tree dir (chosen.map tableFile)

/-- An export to tables ends at the first sheet that has no file name, when those before it are
written. -/
theorem endsIn_writeSheets {i : Nat} {s : Sheet} {source : ExportSource}
    (hrows : ∀ s ∈ sheets, Csv.IsRectangular s.rows)
    (hbefore : ∀ s ∈ sheets.take i, FileName.stem? s.name ≠ none) (hi : sheets[i]? = some s)
    (hs : FileName.stem? s.name = none) :
    (writeSheets sheets dir .csv source : Operation Session ExportResult).EndsIn
      (.invalidSheetName s.name) fun w w' => LeavesTables w w' dir (sheets.take i) := by
  obtain ⟨chosen, hsheets, hchoices, hzip⟩ := zip_choices_of_refused hbefore hi hs
  have hchosen : ∀ x ∈ chosen, Csv.IsRectangular x.1.rows := by
    intro x hx
    have hmem : x.1 ∈ sheets.take i := hsheets ▸ List.mem_map_of_mem hx
    exact hrows x.1 (List.mem_of_mem_take hmem)
  have hfiles : (writeCsvFiles sheets dir : Operation Session _).EndsIn
      (.invalidSheetName s.name)
      fun w w' => w.tree.writeAll dir (chosen.map tableFile) = .ok w'.tree := by
    rw [writeCsvFiles, hzip]
    exact endsIn_writeChosen hchosen
  have hfault : ∀ f, (Error.fileSystem f).IsOfMachine := fun _ => rfl
  refine Operation.EndsIn.bind_right (Operation.failsWith_ask hfault _)
    (fun _ => hfiles.bind_left.bind_left) fun _ w w₁ w' hmake hall => ?_
  have hgrows := grows_makeDirectories dir.chain w
  rw [Operation.run_ask_eq_ok_iff.1 hmake] at hgrows
  exact ⟨chosen, hsheets, hchoices, w₁.tree, hgrows, hall⟩

/-! ## Exports of documents -/

section

variable {config : SheetConfig} {rows : List ExportRow} {source : ExportSource}

/-- Rows fail with the first base name that is made of dots and blanks. -/
theorem IsFirstRefused.endsIn_writeSheets {i : Nat} {b : Text}
    (hfirst : IsFirstRefused (baseNames config rows) i b) :
    ((buildSheets config rows).map Sheet.name)[i]? = some b ∧
      (writeSheets (buildSheets config rows) dir .csv source :
        Operation Session ExportResult).EndsIn (.invalidSheetName b)
          fun w w' => LeavesTables w w' dir ((buildSheets config rows).take i) := by
  have hrows : ∀ s ∈ buildSheets config rows, Csv.IsRectangular s.rows :=
    fun _ => isRectangular_of_mem_buildSheets
  have hi : i < (buildSheets config rows).length := by
    rw [length_buildSheets, ← length_baseNames config rows]
    exact (List.getElem?_eq_some_iff.1 hfirst.getElem?).1
  have hsheet := List.getElem?_eq_getElem hi
  have hname := hfirst.name_eq hsheet
  have hstem : FileName.stem? (buildSheets config rows)[i].name = none := by
    rw [hname, FileName.stem?_eq_none_iff]
    exact hfirst.isDotsAndSpaces
  constructor
  · rw [List.getElem?_map, hsheet, Option.map_some, hname]
  · rw [← hname]
    exact FeatureSheets.endsIn_writeSheets hrows (stem?_ne_none_of_mem_take hfirst.before) hsheet
      hstem

/-- Rows without such a base fail where the machine refuses something, and nowhere else. -/
theorem failsWith_writeSheets_of_baseNames
    (h : ∀ b ∈ baseNames config rows, ¬b.IsDotsAndSpaces) :
    (writeSheets (buildSheets config rows) dir .csv source :
      Operation Session ExportResult).FailsWith Error.IsOfMachine := by
  have hnames : ∀ s ∈ buildSheets config rows, FileName.stem? s.name ≠ none := by
    have htake := stem?_ne_none_of_mem_take (i := rows.length)
      fun b (hb : b ∈ (baseNames config rows).take _) => h b (List.mem_of_mem_take hb)
    rwa [← length_buildSheets config rows, List.take_length] at htake
  have hfault : ∀ f, (Error.fileSystem f).IsOfMachine := fun _ => rfl
  exact failsWith_writeSheets_of_writeFiles hfault
    (failsWith_writeFiles (fun _ => isRectangular_of_mem_buildSheets) hnames)

end

/-- **When a document cannot be exported as tables.** If the machine refuses nothing, an export to
tables fails just when the base name of some scenario is made of dots and blanks. The error then
names the first such sheet, and the sheets before it have been written. A workbook is refused by
the machine alone. -/
theorem tables_refused_iff {config : SheetConfig} {text : Text} {source : ExportSource}
    {r : Except Error ExportResult}
    (h : (writeSheets (convert config text).sheets dir .csv source :
      Operation Session ExportResult).run w = (r, w'))
    (hmachine : ∀ e, r = .error e → ¬e.IsOfMachine) :
    ((∃ e, r = .error e) ↔
      ∃ b ∈ scenarioBases config (Feature.parse text), b.IsDotsAndSpaces) ∧
    (∀ e, r = .error e → ∃ i b, IsFirstRefused (scenarioBases config (Feature.parse text)) i b ∧
      ((convert config text).sheets.map Sheet.name)[i]? = some b ∧ e = .invalidSheetName b ∧
      LeavesTables w w' dir ((convert config text).sheets.take i)) ∧
    (writeSheets (convert config text).sheets dir .json source :
      Operation Session ExportResult).FailsWith fun e => ∃ fault, e = .fileSystem fault := by
  have hbases : scenarioBases config (Feature.parse text) =
      baseNames config (convert config text).rows := (baseNames_rows _ _).symm
  have hjson : (writeSheets (convert config text).sheets dir .json source :
      Operation Session ExportResult).FailsWith fun e => ∃ fault, e = .fileSystem fault :=
    failsWith_writeSheets_of_writeFiles (fun f => ⟨f, rfl⟩)
      (failsWith_writeFiles_json fun f => ⟨f, rfl⟩)
  rw [hbases, ← and_assoc]
  refine ⟨?_, hjson⟩
  by_cases hex : ∃ b ∈ baseNames config (convert config text).rows, b.IsDotsAndSpaces
  · obtain ⟨b₀, hb₀, hdots₀⟩ := hex
    obtain ⟨i, b, hfirst⟩ := exists_isFirstRefused hb₀ hdots₀
    obtain ⟨hname, hends⟩ := hfirst.endsIn_writeSheets
    rcases hends w r w' h with ⟨e, he, hrefused⟩ | ⟨he, hleaves⟩
    · exact absurd hrefused (hmachine e he)
    · refine ⟨⟨fun _ => ⟨b₀, hb₀, hdots₀⟩, fun _ => ⟨_, he⟩⟩, fun e he' => ?_⟩
      obtain rfl : Error.invalidSheetName b = e := Except.error.inj (he.symm.trans he')
      exact ⟨i, b, hfirst, hname, rfl, hleaves⟩
  · have hbase : ∀ b ∈ baseNames config (convert config text).rows, ¬b.IsDotsAndSpaces :=
      fun b hb hdots => hex ⟨b, hb, hdots⟩
    have hnone : ∀ e, r ≠ .error e := by
      rintro e rfl
      exact hmachine e rfl (failsWith_writeSheets_of_baseNames hbase w e w' h)
    exact ⟨⟨fun ⟨e, he⟩ => absurd he (hnone e), fun hb => absurd hb hex⟩,
      fun e he => absurd he (hnone e)⟩

/-- A document whose second scenario is called by dots and a blank. -/
def dottedDocument : Text :=
  "Scenario: A\nGiven x\nScenario: . .\nGiven y\nScenario: B\nGiven z".toList

/-- The document is refused at this scenario, and those before it are written. -/
theorem tables_refused_iff_dotted :
    ∃ r w', (writeSheets (convert .standard dottedDocument).sheets (.ofString "out") .csv
        ⟨[], none⟩ : Operation Session ExportResult).run bareWorld = (r, w') ∧
      (∀ e, r = .error e → ¬e.IsOfMachine) ∧ r = .error (.invalidSheetName ". .".toList) ∧
      (∃ b ∈ scenarioBases .standard (Feature.parse dottedDocument), b.IsDotsAndSpaces) ∧
      ∃ i, IsFirstRefused (scenarioBases .standard (Feature.parse dottedDocument)) i
          ". .".toList ∧
        LeavesTables bareWorld w' (.ofString "out")
          ((convert .standard dottedDocument).sheets.take i) := by
  have hfails : ((writeSheets (convert .standard dottedDocument).sheets (.ofString "out") .csv
      ⟨[], none⟩ : Operation Session ExportResult).run bareWorld).1 =
        .error (.invalidSheetName ". .".toList) := by decide +kernel
  generalize hrun : (writeSheets (convert .standard dottedDocument).sheets (.ofString "out") .csv
      ⟨[], none⟩ : Operation Session ExportResult).run bareWorld = run at hfails
  obtain ⟨r, w'⟩ := run
  simp only at hfails
  have hmachine : ∀ e, r = .error e → ¬e.IsOfMachine := by
    intro e he
    rw [hfails] at he
    obtain rfl := Except.error.inj he
    exact Bool.false_ne_true
  obtain ⟨hiff, hall, -⟩ := tables_refused_iff hrun hmachine
  obtain ⟨i, b, hfirst, -, hb, hleaves⟩ := hall _ hfails
  rw [← Error.invalidSheetName.inj hb] at hfirst
  exact ⟨r, w', rfl, hmachine, hfails, hiff.1 ⟨_, hfails⟩, i, hfirst, hleaves⟩

end FeatureSheets
