import FeatureSheets.Proofs.Export.Write

/-!
# What an export leaves, whatever comes of it

An export to tables writes its sheets one after another until a file name or a file is refused
(`writtenTables`). So an export that fails has left what it wrote before, and no manifest of it
(`writeSheets_eq_error`); only one that comes to a result writes its manifest.
-/

namespace FeatureSheets

variable {w w' : World} {dir : Path} {sheets : List Sheet} {format : OutputFormat}

/-! ## Sheets one after another -/

/-- The sheets that are written to tables, until a file name or a file is refused. -/
def writtenTables (t : FileTree) (dir : Path) :
    List (Sheet × Except Error FileName.Choice) → List (Sheet × FileName.Choice)
  | [] | (_, .error _) :: _ => []
  | (s, .ok choice) :: rest =>
    match t.writeFile (dir.join ⟨choice.file⟩) (Text.Utf8.encode (Csv.write s.rows).1) with
    | .ok t' => (s, choice) :: writtenTables t' dir rest
    | .error _ => []

/-- The sheets are written in order, and none is left out before the last that is written. -/
theorem writtenTables_isPrefix (t : FileTree) (dir : Path)
    (l : List (Sheet × Except Error FileName.Choice)) :
    (writtenTables t dir l).map (fun x => (x.1, Except.ok x.2)) <+: l := by
  induction l generalizing t with
  | nil => exact List.prefix_rfl
  | cons x l ih =>
    obtain ⟨s, choice⟩ := x
    cases choice with
    | error e => exact List.nil_prefix
    | ok choice =>
      rw [writtenTables]
      split
      · exact List.cons_prefix_cons.2 ⟨rfl, ih _⟩
      · exact List.nil_prefix

/-- A sheet with as many cells in each row is only refused by the machine. -/
theorem writeFile_of_writeCsv_error {s : Sheet} {p : Path} {e : Error}
    (hrows : Csv.IsRectangular s.rows)
    (h : (s.writeCsv p : Operation Session Unit).run w = (.error e, w')) :
    w' = w ∧ ∃ fault,
      w.tree.writeFile p (Text.Utf8.encode (Csv.write s.rows).1) = .error fault := by
  rw [Sheet.writeCsv, Csv.write_of_isRectangular hrows] at h
  rw [Csv.write_of_isRectangular hrows]
  rcases Operation.run_bind_eq_iff.1 h with ⟨_, hask, -⟩ | ⟨_, w₁, -, hsay⟩
  · exact Operation.writeFile_of_run_ask_error hask
  · cases hsay

theorem writeAll_writtenTables {l : List (Sheet × Except Error FileName.Choice)}
    {r : Except Error (List (Path × ManifestEntry))}
    (hrows : ∀ x ∈ l, Csv.IsRectangular x.1.rows)
    (h : (writeChosen dir l : Operation Session _).run w = (r, w')) :
    w.tree.writeAll dir ((writtenTables w.tree dir l).map tableFile) = .ok w'.tree := by
  induction l generalizing w r with
  | nil =>
    obtain rfl : w = w' := congrArg Prod.snd h
    rfl
  | cons x l ih =>
    obtain ⟨s, choice⟩ := x
    rw [List.forall_mem_cons] at hrows
    cases choice with
    | error e =>
      obtain rfl : w = w' := congrArg Prod.snd h
      rfl
    | ok choice =>
      obtain ⟨w₁, hquiet, h⟩ := exists_of_writeChosen_cons h
      rw [← hquiet, writtenTables]
      rcases Operation.run_bind_eq_iff.1 h with ⟨e, hcsv, -⟩ | ⟨_, w₂, hcsv, h⟩
      · -- the first file is refused
        obtain ⟨rfl, fault, hrefused⟩ := writeFile_of_writeCsv_error hrows.1 hcsv
        rw [hrefused]
        rfl
      · have hwrite := writeFile_of_writeCsv hcsv
        obtain ⟨r', hrest⟩ := Operation.exists_of_run_bind (fun _ _ => rfl) h
        rw [hwrite]
        exact FileTree.writeAll_cons_eq_ok_iff.2 ⟨w₂.tree, hwrite, ih hrows.2 hrest⟩

/-! ## The files of sheets -/

/-- The sheets that an export writes to tables in a tree that has its directory. -/
def exportedTables (t : FileTree) (dir : Path) (sheets : List Sheet) :
    List (Sheet × FileName.Choice) :=
  writtenTables t dir (sheets.zip (FileName.choices (sheets.map Sheet.name)))

/-- The files that it writes for its sheets. -/
def dataFiles (t : FileTree) (dir : Path) (sheets : List Sheet) :
    OutputFormat → List (Text × List UInt8)
  | .csv => (exportedTables t dir sheets).map tableFile
  | .json =>
    let workbook := textFile workbookFile.text (workbookText sheets)
    match t.writeFile (dir.join workbookFile) workbook.2 with
    | .ok _ => [workbook]
    | .error _ => []

theorem writeAll_dataFiles {r : Except Error (List Path × List ManifestEntry)}
    (hrows : ∀ s ∈ sheets, Csv.IsRectangular s.rows)
    (h : (writeFiles sheets dir format : Operation Session _).run w = (r, w')) :
    w.tree.writeAll dir (dataFiles w.tree dir sheets format) = .ok w'.tree := by
  cases format with
  | csv =>
    obtain ⟨r', hchosen⟩ := Operation.exists_of_run_bind (fun _ _ => rfl) h
    exact writeAll_writtenTables (fun x hx => hrows x.1 (List.of_mem_zip hx).1) hchosen
  | json =>
    obtain ⟨r', hbook⟩ := Operation.exists_of_run_bind (fun _ _ => rfl) h
    obtain ⟨r'', htext⟩ := Operation.exists_of_run_bind (fun _ _ => rfl) hbook
    cases r'' with
    | ok _ =>
      have hwrite := writeFile_of_writeText htext
      rw [dataFiles, textFile, hwrite]
      exact FileTree.writeAll_cons_eq_ok_iff.2 ⟨_, hwrite, rfl⟩
    | error e =>
      obtain ⟨rfl, fault, hrefused⟩ := Operation.writeFile_of_run_ask_error htext
      rw [dataFiles, textFile, hrefused]
      rfl

/-- The sheets that are written to tables have stems of their own. -/
theorem nodup_exportedTables (t : FileTree) (dir : Path) (sheets : List Sheet) :
    (∀ x ∈ exportedTables t dir sheets, x.1 ∈ sheets ∧ FileName.IsStem x.2.chosen) ∧
      ((exportedTables t dir sheets).map fun x => x.2.file).Nodup := by
  have hprefix : (exportedTables t dir sheets).map (fun x => (x.1, Except.ok x.2)) <+:
      sheets.zip (FileName.choices (sheets.map Sheet.name)) := writtenTables_isPrefix t dir _
  have hchoices : ((exportedTables t dir sheets).map Prod.snd).map .ok <+:
      FileName.choices (sheets.map Sheet.name) := by
    have hsnd := hprefix.map Prod.snd
    rw [map_snd_zip_choices, List.map_map] at hsnd
    rwa [List.map_map]
  -- as the sheets are a prefix of those with a choice, their choices are a prefix of all choices
  obtain ⟨hstems, hnodup⟩ := FileName.nodup_of_prefix_choicesAfter hchoices
  constructor
  · intro x hx
    have hzip := hprefix.subset (List.mem_map_of_mem hx)
    exact ⟨(List.of_mem_zip hzip).1, (hstems x.2 (List.mem_map_of_mem hx)).1⟩
  · rw [List.map_map] at hnodup
    exact nodup_files hnodup

/-- The files of sheets have proper names of their own. -/
theorem nodup_dataFiles (t : FileTree) (dir : Path) (sheets : List Sheet) (format : OutputFormat) :
    (∀ file ∈ dataFiles t dir sheets format,
      isName file.1 = true ∧ file.1 ≠ manifestFile.text) ∧
      ((dataFiles t dir sheets format).map Prod.fst).Nodup := by
  cases format with
  | csv =>
    obtain ⟨hstems, hnodup⟩ := nodup_exportedTables t dir sheets
    rw [dataFiles, List.forall_mem_map, List.map_map]
    exact ⟨fun x hx => ⟨FileName.isName_file (hstems x hx).2, file_ne_manifestFile x.2⟩, hnodup⟩
  | json =>
    rw [dataFiles]
    split
    · simp only [List.forall_mem_singleton, List.map_singleton, List.nodup_singleton, and_true]
      exact ⟨isName_workbookFile, show workbookFile.text ≠ manifestFile.text by decide⟩
    · simp

/-! ## Exports that fail -/

/-- Sheets fail with what one of them fails with, or with what its name is refused for. -/
theorem failsWith_writeChosen {P : Error → Prop}
    {l : List (Sheet × Except Error FileName.Choice)}
    (hcsv : ∀ x ∈ l, ∀ p, (x.1.writeCsv p : Operation Session Unit).FailsWith P)
    (hrefused : ∀ x ∈ l, ∀ e, x.2 = .error e → P e) :
    (writeChosen dir l : Operation Session _).FailsWith P := by
  induction l with
  | nil => exact Operation.failsWith_pure _
  | cons x l ih =>
    obtain ⟨s, choice⟩ := x
    rw [List.forall_mem_cons] at hcsv hrefused
    cases choice with
    | error e => exact Operation.failsWith_throw (hrefused.1 e rfl)
    | ok c =>
      have hrest : (do
          s.writeCsv (dir.join ⟨c.file⟩)
          return (dir.join ⟨c.file⟩, .ofSheet ⟨c.file⟩ s) :: (← writeChosen dir l) :
            Operation Session (List (Path × ManifestEntry))).FailsWith P :=
        (hcsv.1 _).bind fun _ => (ih hcsv.2 hrefused.2).bind fun _ => Operation.failsWith_pure _
      rw [writeChosen]
      split
      · exact (Operation.failsWith_lift _).bind fun _ => hrest
      · exact hrest

/-- A workbook is refused by the machine alone. -/
theorem failsWith_writeFiles_json {P : Error → Prop} (hP : ∀ fault, P (.fileSystem fault)) :
    (writeFiles sheets dir .json : Operation Session _).FailsWith P := by
  have hbook : (writeWorkbook sheets dir : Operation Session _).FailsWith P :=
    (Operation.failsWith_ask hP _).bind fun _ => Operation.failsWith_pure _
  exact hbook.bind fun _ => Operation.failsWith_pure _

/-- An export fails with what its files fail with, or where the machine refuses the directory or
the manifest. -/
theorem failsWith_writeSheets_of_writeFiles {P : Error → Prop} {source : ExportSource}
    (hP : ∀ fault, P (.fileSystem fault))
    (hfiles : (writeFiles sheets dir format : Operation Session _).FailsWith P) :
    (writeSheets sheets dir format source : Operation Session ExportResult).FailsWith P := by
  apply (Operation.failsWith_ask hP _).bind
  intro _
  apply hfiles.bind
  intro (files, entries)
  exact (Operation.failsWith_lift _).bind fun now =>
    (Operation.failsWith_ask hP _).bind fun _ => Operation.failsWith_pure _

/-- An export that fails has made directories only, or has its directory and wrote the files of
its sheets as far as it came. -/
theorem writeSheets_eq_error {source : ExportSource} {e : Error}
    (hrows : ∀ s ∈ sheets, Csv.IsRectangular s.rows)
    (h : (writeSheets sheets dir format source : Operation Session ExportResult).run w =
      (.error e, w')) :
    (∃ fault, (makeDirectories dir.chain : Session _) w = (.error fault, w')) ∨
      ∃ w₁, (makeDirectories dir.chain : Session _) w = (.ok (), w₁) ∧
        w₁.tree.writeAll dir (dataFiles w₁.tree dir sheets format) = .ok w'.tree := by
  rcases Operation.run_bind_eq_iff.1 h with ⟨_, hmake, -⟩ | ⟨_, w₁, hmake, h⟩
  · obtain ⟨answer, hmake, hrefused⟩ := Operation.run_ask_eq_iff.1 hmake
    cases answer with
    | ok _ => cases hrefused
    | error fault => exact .inl ⟨fault, hmake⟩
  refine .inr ⟨w₁, Operation.run_ask_eq_ok_iff.1 hmake, ?_⟩
  -- the files are refused, or else the manifest, which then is not written
  rcases Operation.run_bind_eq_iff.1 h with ⟨_, hfiles, -⟩ | ⟨_, w₂, hfiles, h⟩
  · exact writeAll_dataFiles hrows hfiles
  rcases Operation.run_bind_eq_iff.1 h with ⟨_, hnow, -⟩ | ⟨now, w₃, hnow, h⟩
  · cases hnow
  obtain rfl : w₂ = w₃ := congrArg Prod.snd (Operation.run_lift_eq_ok_iff.1 hnow)
  rcases Operation.run_bind_eq_iff.1 h with ⟨_, hsave, -⟩ | ⟨_, w₄, -, hpure⟩
  · obtain ⟨rfl, -⟩ := Operation.writeFile_of_run_ask_error hsave
    exact writeAll_dataFiles hrows hfiles
  · cases hpure

/-- An export that fails has put some files in its directory, and all that it could if there was a
manifest before. -/
theorem exists_puts_of_error {source : ExportSource} {e : Error}
    (hrows : ∀ s ∈ sheets, Csv.IsRectangular s.rows)
    (h : (writeSheets sheets dir format source : Operation Session ExportResult).run w =
      (.error e, w')) :
    ∃ files, w.tree.Puts w'.tree dir files ∧
      (∀ file ∈ files, isName file.1 = true ∧ file.1 ≠ manifestFile.text) ∧
      (files.map Prod.fst).Nodup ∧
      ((∃ content, w.tree.readFile (dir.join manifestFile) = .ok content) →
        files = dataFiles w.tree dir sheets format) := by
  -- the directory of a manifest is there
  have hthere : (∃ content, w.tree.readFile (dir.join manifestFile) = .ok content) →
      (makeDirectories dir.chain : Session _) w = (.ok (), w) := by
    rintro ⟨content, hread⟩
    obtain ⟨⟨key, hlead⟩, place, hplace⟩ :=
      FileTree.exists_leadsTo_of_readFile isName_manifestFile hread
    exact makeDirectories_of_leadsTo hlead isName_manifestFile hplace
  have hgrows := grows_makeDirectories dir.chain w
  rcases writeSheets_eq_error hrows h with ⟨fault, hmake⟩ | ⟨w₁, hmake, hall⟩
  · rw [hmake] at hgrows
    refine ⟨[], ⟨w'.tree, hgrows, rfl⟩, by simp, List.nodup_nil, fun hread => ?_⟩
    cases hmake.symm.trans (hthere hread)
  · rw [hmake] at hgrows
    obtain ⟨hnames, hnodup⟩ := nodup_dataFiles w₁.tree dir sheets format
    refine ⟨_, ⟨w₁.tree, hgrows, hall⟩, hnames, hnodup, fun hread => ?_⟩
    cases hmake.symm.trans (hthere hread)
    rfl

/-! ## Exports that come to a result -/

/-- Whether an export in a format may store a sheet in a file. -/
def IsListed : OutputFormat → Path → Prop
  | .csv, p => ∃ c : FileName.Choice, FileName.IsStem c.chosen ∧ p = ⟨c.file⟩
  | .json, p => p = workbookFile

theorem IsListed.isName {p : Path} (h : IsListed format p) : isName p.text = true := by
  cases format with
  | csv =>
    obtain ⟨c, hc, rfl⟩ := h
    exact FileName.isName_file hc
  | json =>
    rw [IsListed] at h
    rw [h]
    exact isName_workbookFile

/-- The manifest of an export says in which format it was. -/
theorem format_of_writeSheets {source : ExportSource} {result : ExportResult}
    (h : (writeSheets sheets dir format source : Operation Session ExportResult).run w =
      (.ok result, w')) : result.manifest.format = format := by
  obtain ⟨_, w₁, -, h⟩ := Operation.run_bind_eq_ok_iff.1 h
  obtain ⟨_, w₂, -, h⟩ := Operation.run_bind_eq_ok_iff.1 h
  obtain ⟨now, w₃, -, h⟩ := Operation.run_bind_eq_ok_iff.1 h
  obtain ⟨_, w₄, -, h⟩ := Operation.run_bind_eq_ok_iff.1 h
  obtain ⟨rfl, -⟩ := Operation.run_pure_eq_ok_iff.1 h
  rfl

/-- An export that comes to a result has put the files of its sheets in its directory, and then a
manifest that lists each with the steps of its sheet. -/
theorem exists_puts_of_ok {source : ExportSource} {result : ExportResult}
    (h : (writeSheets sheets dir format source : Operation Session ExportResult).run w =
      (.ok result, w')) :
    ∃ files, w.tree.Puts w'.tree dir
        (files ++ [textFile manifestFile.text (Json.write result.manifest)]) ∧
      (∀ file ∈ files, isName file.1 = true ∧ file.1 ≠ manifestFile.text) ∧
      (files.map Prod.fst).Nodup ∧
      ∀ e ∈ result.manifest.sheets, IsListed format e.file ∧
        ∃ s ∈ sheets, e.steps = .ofNat s.stepCount ∧ ∃ file ∈ files, file.1 = e.file.text ∧
          (format = .csv → file.2 = Text.Utf8.encode (Csv.write s.rows).1) := by
  obtain ⟨w₁, w₂, paths, hmake, hfiles, hmanifest, -⟩ := exists_of_writeSheets h
  cases format with
  | csv =>
    obtain ⟨chosen, rfl, hstems, hnodup, hall, -, hentries⟩ := exists_chosen_of_writeFiles hfiles
    refine ⟨chosen.map tableFile,
      ⟨w₁.tree, hmake, FileTree.writeAll_append_eq_ok_iff.2 ⟨w₂.tree, hall, hmanifest⟩⟩,
      ?_, ?_, ?_⟩
    · rw [List.forall_mem_map]
      exact fun x hx => ⟨FileName.isName_file (hstems x hx), file_ne_manifestFile x.2⟩
    · rw [List.map_map]
      exact nodup_files hnodup
    · rw [hentries, List.forall_mem_map]
      intro x hx
      exact ⟨⟨x.2, hstems x hx, rfl⟩, x.1, List.mem_map_of_mem hx, rfl,
        tableFile x, List.mem_map_of_mem hx, rfl, fun _ => rfl⟩
  | json =>
    obtain ⟨hall, -, hentries⟩ := writeAll_of_writeFiles hfiles
    refine ⟨[textFile workbookFile.text (workbookText sheets)],
      ⟨w₁.tree, hmake, FileTree.writeAll_append_eq_ok_iff.2 ⟨w₂.tree, hall, hmanifest⟩⟩,
      ?_, List.nodup_singleton _, ?_⟩
    · rw [List.forall_mem_singleton]
      exact ⟨isName_workbookFile, show workbookFile.text ≠ manifestFile.text by decide⟩
    · rw [hentries, List.forall_mem_map]
      exact fun s hs => ⟨rfl, s, hs, rfl, _, List.mem_singleton_self _, rfl, nofun⟩

end FeatureSheets
