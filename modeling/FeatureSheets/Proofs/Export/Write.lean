import FeatureSheets.Export.Write
import FeatureSheets.Proofs.Csv.RoundTrip
import FeatureSheets.Proofs.Export.Directory
import FeatureSheets.Proofs.Export.FileName
import FeatureSheets.Proofs.FileTree.Change
import FeatureSheets.Proofs.Json.Forms
import FeatureSheets.Proofs.Lists
import FeatureSheets.Proofs.Session
import FeatureSheets.Proofs.Text.Utf8
import FeatureSheets.Sheet.Build
import Mathlib.Data.List.Forall2

/-!
# Exports read back

What an export that comes to a result has left behind. It made directories, wrote files of
different names to one of them, and then the manifest (`exists_of_writeSheets`). Each of them can
be read at the end of the call (`readFile_of_export`), and what is read is what was exported
(`writeSheets_readBack`). Only a link in the output directory could lead two names to one file.
-/

namespace FeatureSheets

variable {w w' : World}

/-! ## The tables of sheets -/

theorem length_of_mem_stepRowsFrom {config : SheetConfig} {parameters : Option Entries}
    {index : Nat} {group : Option Keyword} {lines : List Text} {row : List Text}
    (h : row ∈ stepRowsFrom config parameters index group lines) :
    row.length = Column.headers.length := by
  induction lines generalizing index group with
  | nil => cases h
  | cons line rest ih =>
    rcases List.mem_cons.1 h with rfl | h
    · exact length_stepRow ..
    · exact ih h

/-- A sheet that was built is the sheet of a row. -/
theorem exists_of_mem_buildSheets {config : SheetConfig} {rows : List ExportRow} {s : Sheet}
    (h : s ∈ buildSheets config rows) : ∃ r ∈ rows, ∃ name, s = Sheet.ofRow config name r := by
  have hbuilt : List.Forall₂ (fun r s => ∃ name, s = Sheet.ofRow config name r) rows
      (buildSheets config rows) :=
    forall₂_zipWith_right (by simp [SheetName.length_names]) fun _ _ name => ⟨name, rfl⟩
  exact exists_of_mem_right hbuilt h

/-- The sheets of rows have a cell in each column. -/
theorem isRectangular_of_mem_buildSheets {config : SheetConfig} {rows : List ExportRow}
    {s : Sheet} (h : s ∈ buildSheets config rows) : Csv.IsRectangular s.rows := by
  obtain ⟨r, -, name, rfl⟩ := exists_of_mem_buildSheets h
  refine ⟨Column.headers.length, by decide, fun row hrow => ?_⟩
  rcases List.mem_cons.1 hrow with rfl | hrow
  · rfl
  · exact length_of_mem_stepRowsFrom hrow

/-! ## Texts in files -/

theorem tree_of_say {level : Level} {origin : Origin} {message : Text}
    (h : (Operation.say level origin message : Operation Session Unit).run w = (.ok (), w')) :
    w'.tree = w.tree := by
  obtain rfl : _ = w' := congrArg Prod.snd (Operation.run_lift_eq_ok_iff.1 h)
  show (if _ then _ else w : World).tree = w.tree
  split <;> rfl

/-- What is said before something is done changes no file. -/
theorem exists_of_say_bind {α : Type} {level : Level} {origin : Origin} {message : Text}
    {f : Unit → Operation Session α} {r : Except Error α}
    (h : (Operation.say level origin message >>= f).run w = (r, w')) :
    ∃ w₁, w₁.tree = w.tree ∧ (f ()).run w₁ = (r, w') := by
  rcases Operation.run_bind_eq_iff.1 h with ⟨e, hsay, -⟩ | ⟨_, w₁, hsay, hf⟩
  · cases hsay
  · exact ⟨w₁, tree_of_say hsay, hf⟩

theorem writeFile_of_writeText {p : Path} {text : Text}
    (h : (writeText p text : Operation Session Unit).run w = (.ok (), w')) :
    w.tree.writeFile p (Text.Utf8.encode text) = .ok w'.tree := by
  obtain ⟨tree, hwrite, rfl⟩ := Session.change_eq_ok_iff.1 (Operation.run_ask_eq_ok_iff.1 h)
  exact hwrite

/-- A sheet that was written to a file is the content of the file. -/
theorem writeFile_of_writeCsv {s : Sheet} {p : Path}
    (h : (s.writeCsv p : Operation Session Unit).run w = (.ok (), w')) :
    w.tree.writeFile p (Text.Utf8.encode (Csv.write s.rows).1) = .ok w'.tree := by
  rw [Sheet.writeCsv] at h
  rcases hwritten : Csv.write s.rows with ⟨text, unequal⟩
  simp only [hwritten] at h ⊢
  obtain ⟨_, w₁, hask, h⟩ := Operation.run_bind_eq_ok_iff.1 h
  obtain ⟨tree, hwrite, rfl⟩ := Session.change_eq_ok_iff.1 (Operation.run_ask_eq_ok_iff.1 hask)
  cases unequal with
  | some u => exact absurd h Operation.run_throw_ne_ok
  | none => exact hwrite.trans (congrArg Except.ok (tree_of_say h).symm)

/-- A text is read where its bytes are. -/
theorem run_readText {p : Path} {text : Text}
    (h : w.tree.readFile p = .ok (Text.Utf8.encode text)) :
    (readText p : Operation Session Text).run w = (.ok text, w) := by
  have hbytes : (readBytes p : Operation Session _).run w = (.ok (Text.Utf8.encode text), w) :=
    Operation.run_ask_eq_ok_iff.2 (Session.look_eq_iff.2 ⟨h, rfl⟩)
  refine Operation.run_bind_eq_ok_iff.2 ⟨_, w, hbytes, ?_⟩
  rw [Text.Utf8.decode_encode]
  rfl

theorem readFile_of_readText {p : Path} {text : Text}
    (h : (readText p : Operation Session Text).run w = (.ok text, w')) :
    w.tree.readFile p = .ok (Text.Utf8.encode text) := by
  obtain ⟨bytes, w₁, hbytes, h⟩ := Operation.run_bind_eq_ok_iff.1 h
  have hread := (Session.look_eq_iff.1 (Operation.run_ask_eq_ok_iff.1 hbytes)).1
  cases hdecode : Text.Utf8.decode bytes with
  | error fault =>
    rw [hdecode] at h
    exact absurd h Operation.run_throw_ne_ok
  | ok decoded =>
    rw [hdecode] at h
    obtain ⟨rfl, -⟩ := Operation.run_pure_eq_ok_iff.1 h
    rw [hread, Text.Utf8.decode_eq_ok_iff.1 hdecode]

/-- A value is read where its stored text is. -/
theorem run_loadJson {α : Type} [JsonForm α] {p : Path} {text : Text} {a : α}
    (h : w.tree.readFile p = .ok (Text.Utf8.encode text)) (hread : Json.read? α text = some a) :
    (loadJson α p : Operation Session α).run w = (.ok a, w) := by
  refine Operation.run_bind_eq_ok_iff.2 ⟨text, w, run_readText h, ?_⟩
  rw [hread]
  rfl

theorem exists_of_loadJson {α : Type} [JsonForm α] {p : Path} {a : α}
    (h : (loadJson α p : Operation Session α).run w = (.ok a, w')) :
    ∃ text, w.tree.readFile p = .ok (Text.Utf8.encode text) ∧ Json.read? α text = some a := by
  obtain ⟨text, w₁, htext, h⟩ := Operation.run_bind_eq_ok_iff.1 h
  refine ⟨text, readFile_of_readText htext, ?_⟩
  cases hread : Json.read? α text with
  | none =>
    rw [hread] at h
    exact absurd h Operation.run_throw_ne_ok
  | some b =>
    rw [hread] at h
    obtain ⟨rfl, -⟩ := Operation.run_pure_eq_ok_iff.1 h
    rfl

/-! ## The files of an export -/

/-- A file of a text. -/
def textFile (name text : Text) : Text × List UInt8 :=
  (name, Text.Utf8.encode text)

/-- The file for a sheet, named as was chosen for it. -/
def tableFile (x : Sheet × FileName.Choice) : Text × List UInt8 :=
  textFile x.2.file (Csv.write x.1.rows).1

/-- What the manifest says about the sheet. -/
def tableEntry (x : Sheet × FileName.Choice) : ManifestEntry :=
  .ofSheet ⟨x.2.file⟩ x.1

/-- A sheet with a choice is written before the others; what is said about the choice changes no
file. -/
theorem exists_of_writeChosen_cons {dir : Path} {s : Sheet} {choice : FileName.Choice}
    {l : List (Sheet × Except Error FileName.Choice)}
    {r : Except Error (List (Path × ManifestEntry))}
    (h : (writeChosen dir ((s, .ok choice) :: l) : Operation Session _).run w = (r, w')) :
    ∃ w₁, w₁.tree = w.tree ∧ (do
      s.writeCsv (dir.join ⟨choice.file⟩)
      return (dir.join ⟨choice.file⟩, .ofSheet ⟨choice.file⟩ s) :: (← writeChosen dir l) :
        Operation Session (List (Path × ManifestEntry))).run w₁ = (r, w') := by
  rw [writeChosen] at h
  split at h
  · exact exists_of_say_bind h
  · exact ⟨w, rfl, h⟩

/-- Sheets are written to their files in turn when no choice was refused. -/
theorem writeAll_of_writeChosen {dir : Path} {l : List (Sheet × Except Error FileName.Choice)}
    {written : List (Path × ManifestEntry)}
    (h : (writeChosen dir l : Operation Session _).run w = (.ok written, w')) :
    ∃ chosen : List (Sheet × FileName.Choice),
      l = chosen.map (fun x => (x.1, .ok x.2)) ∧
      written = chosen.map (fun x => (dir.join ⟨x.2.file⟩, tableEntry x)) ∧
      w.tree.writeAll dir (chosen.map tableFile) = .ok w'.tree := by
  induction l generalizing w written with
  | nil =>
    obtain ⟨rfl, rfl⟩ := Operation.run_pure_eq_ok_iff.1 h
    exact ⟨[], rfl, rfl, rfl⟩
  | cons x l ih =>
    obtain ⟨s, choice⟩ := x
    cases choice with
    | error e => exact absurd h Operation.run_throw_ne_ok
    | ok choice =>
      obtain ⟨w₁, hquiet, h⟩ := exists_of_writeChosen_cons h
      obtain ⟨_, w₂, hcsv, h⟩ := Operation.run_bind_eq_ok_iff.1 h
      obtain ⟨rest, w₃, hrest, h⟩ := Operation.run_bind_eq_ok_iff.1 h
      obtain ⟨rfl, rfl⟩ := Operation.run_pure_eq_ok_iff.1 h
      obtain ⟨chosen, rfl, rfl, hall⟩ := ih hrest
      refine ⟨(s, choice) :: chosen, rfl, rfl, ?_⟩
      rw [List.map_cons, FileTree.writeAll_cons_eq_ok_iff]
      exact ⟨w₂.tree, hquiet ▸ writeFile_of_writeCsv hcsv, hall⟩

/-- The choices end at the first that is refused, so there are no more of them than sheets. -/
theorem map_snd_zip_choices (sheets : List Sheet) :
    (sheets.zip (FileName.choices (sheets.map Sheet.name))).map Prod.snd =
      FileName.choices (sheets.map Sheet.name) := by
  apply List.map_snd_zip
  rw [FileName.choices]
  simpa using FileName.length_choicesAfter_le [] (sheets.map Sheet.name)

/-- When no choice was refused, every sheet has one, and they differ in lower case. -/
theorem choices_of_zip_eq {sheets : List Sheet} {chosen : List (Sheet × FileName.Choice)}
    (h : sheets.zip (FileName.choices (sheets.map Sheet.name)) =
      chosen.map fun x => (x.1, .ok x.2)) :
    chosen.map Prod.fst = sheets ∧ (∀ x ∈ chosen, FileName.IsStem x.2.chosen) ∧
      (chosen.map fun x => Text.lower x.2.chosen).Nodup := by
  have hchoices : FileName.choices (sheets.map Sheet.name) = (chosen.map Prod.snd).map .ok := by
    have hsnd := congrArg (List.map Prod.snd) h
    rw [map_snd_zip_choices, List.map_map] at hsnd
    rw [hsnd, List.map_map]
    rfl
  have hlen := FileName.length_of_choicesAfter_eq hchoices
  have hprefix : (chosen.map Prod.snd).map .ok <+: FileName.choices (sheets.map Sheet.name) :=
    hchoices ▸ List.prefix_rfl
  obtain ⟨hstems, hnodup⟩ := FileName.nodup_of_prefix_choicesAfter hprefix
  refine ⟨?_, fun x hx => (hstems x.2 (List.mem_map_of_mem hx)).1, ?_⟩
  · have hge : sheets.length ≤ (FileName.choices (sheets.map Sheet.name)).length := by
      rw [hchoices, List.length_map, hlen, List.length_map]
    have hfst := congrArg (List.map Prod.fst) h
    rw [List.map_fst_zip hge, List.map_map] at hfst
    exact hfst.symm
  · rwa [List.map_map] at hnodup

theorem isName_manifestFile : isName manifestFile.text = true := by
  decide

theorem isName_workbookFile : isName workbookFile.text = true := by
  decide

theorem getLast?_file (c : FileName.Choice) : c.file.getLast? = some 'v' := by
  rw [FileName.Choice.file, List.getLast?_append]
  rfl

/-- No sheet gets the file of the manifest. -/
theorem file_ne_manifestFile (c : FileName.Choice) : c.file ≠ manifestFile.text := by
  intro h
  have hlast := getLast?_file c
  rw [h] at hlast
  cases hlast

/-- Nor that of a workbook. -/
theorem file_ne_workbookFile (c : FileName.Choice) : c.file ≠ workbookFile.text := by
  intro h
  have hlast := getLast?_file c
  rw [h] at hlast
  cases hlast

/-- Stems that differ in lower case are stems of different files. -/
theorem nodup_files {chosen : List (Sheet × FileName.Choice)}
    (h : (chosen.map fun x => Text.lower x.2.chosen).Nodup) :
    (chosen.map fun x => x.2.file).Nodup := by
  rw [List.Nodup, List.pairwise_map] at h ⊢
  refine h.imp fun hne heq => hne ?_
  rw [List.append_cancel_right heq]

/-- An export to tables writes every sheet to the file that was chosen for it. -/
theorem exists_chosen_of_writeFiles {sheets : List Sheet} {dir : Path} {paths : List Path}
    {entries : List ManifestEntry}
    (h : (writeFiles sheets dir .csv : Operation Session _).run w = (.ok (paths, entries), w')) :
    ∃ chosen : List (Sheet × FileName.Choice), chosen.map Prod.fst = sheets ∧
      (∀ x ∈ chosen, FileName.IsStem x.2.chosen) ∧
      (chosen.map fun x => Text.lower x.2.chosen).Nodup ∧
      w.tree.writeAll dir (chosen.map tableFile) = .ok w'.tree ∧
      paths = chosen.map (fun x => dir.join ⟨x.2.file⟩) ∧
      entries = chosen.map tableEntry := by
  obtain ⟨written, w₁, hchosen, h⟩ := Operation.run_bind_eq_ok_iff.1 h
  obtain ⟨hpair, rfl⟩ := Operation.run_pure_eq_ok_iff.1 h
  obtain ⟨chosen, hzip, rfl, hall⟩ := writeAll_of_writeChosen hchosen
  obtain ⟨hsheets, hstems, hnodup⟩ := choices_of_zip_eq hzip
  rw [List.map_map, List.map_map] at hpair
  obtain ⟨hpaths, hentries⟩ := Prod.mk.inj hpair
  exact ⟨chosen, hsheets, hstems, hnodup, hall, hpaths.symm, hentries.symm⟩

/-- An export to a workbook writes all sheets to one file. -/
theorem writeAll_of_writeFiles {sheets : List Sheet} {dir : Path} {paths : List Path}
    {entries : List ManifestEntry}
    (h : (writeFiles sheets dir .json : Operation Session _).run w = (.ok (paths, entries), w')) :
    w.tree.writeAll dir [textFile workbookFile.text (workbookText sheets)] = .ok w'.tree ∧
      paths = [dir.join workbookFile] ∧ entries = sheets.map (.ofSheet workbookFile) := by
  obtain ⟨⟨p, told⟩, w₁, hbook, h⟩ := Operation.run_bind_eq_ok_iff.1 h
  obtain ⟨hpair, rfl⟩ := Operation.run_pure_eq_ok_iff.1 h
  obtain ⟨hpaths, hentries⟩ := Prod.mk.inj hpair
  obtain ⟨_, w₂, htext, hbook⟩ := Operation.run_bind_eq_ok_iff.1 hbook
  obtain ⟨hpair, rfl⟩ := Operation.run_pure_eq_ok_iff.1 hbook
  obtain ⟨rfl, rfl⟩ := Prod.mk.inj hpair
  refine ⟨?_, hpaths.symm, hentries.symm⟩
  rw [FileTree.writeAll_cons_eq_ok_iff]
  exact ⟨w₂.tree, writeFile_of_writeText htext, rfl⟩

/-- An export that comes to a result makes its directory, writes its files, and then the
manifest. -/
theorem exists_of_writeSheets {sheets : List Sheet} {dir : Path} {format : OutputFormat}
    {source : ExportSource} {result : ExportResult}
    (h : (writeSheets sheets dir format source : Operation Session ExportResult).run w =
      (.ok result, w')) :
    ∃ w₁ w₂ paths, w.tree.Grows w₁.tree ∧
      (writeFiles sheets dir format : Operation Session _).run w₁ =
        (.ok (paths, result.manifest.sheets), w₂) ∧
      w₂.tree.writeAll dir [textFile manifestFile.text (Json.write result.manifest)] =
        .ok w'.tree ∧
      result.filesWritten = paths ++ [dir.join manifestFile] := by
  -- one world for each of the steps: the directory, the files, the time, the manifest
  obtain ⟨_, w₁, hmake, h⟩ := Operation.run_bind_eq_ok_iff.1 h
  have hgrows := grows_makeDirectories dir.chain w
  rw [Operation.run_ask_eq_ok_iff.1 hmake] at hgrows
  obtain ⟨⟨paths, entries⟩, w₂, hfiles, h⟩ := Operation.run_bind_eq_ok_iff.1 h
  obtain ⟨now, w₃, hnow, h⟩ := Operation.run_bind_eq_ok_iff.1 h
  obtain rfl : w₂ = w₃ := congrArg Prod.snd (Operation.run_lift_eq_ok_iff.1 hnow)
  obtain ⟨_, w₄, hsave, h⟩ := Operation.run_bind_eq_ok_iff.1 h
  obtain ⟨rfl, rfl⟩ := Operation.run_pure_eq_ok_iff.1 h
  refine ⟨w₁, w₂, paths, hgrows, hfiles, ?_, rfl⟩
  rw [FileTree.writeAll_cons_eq_ok_iff]
  exact ⟨w₄.tree, writeFile_of_writeText hsave, rfl⟩

/-! ## Reading back -/

/-- Files that are not called like the manifest have names of their own beside it. -/
theorem nodup_append_manifest {files : List (Text × List UInt8)} (manifest : Text)
    (hnames : ∀ file ∈ files, isName file.1 = true ∧ file.1 ≠ manifestFile.text)
    (hnodup : (files.map Prod.fst).Nodup) :
    (∀ file ∈ files ++ [textFile manifestFile.text manifest], isName file.1 = true) ∧
      ((files ++ [textFile manifestFile.text manifest]).map Prod.fst).Nodup := by
  constructor
  · intro file hfile
    rcases List.mem_append.1 hfile with hfile | hfile
    · exact (hnames file hfile).1
    · rw [List.mem_singleton.1 hfile]
      exact isName_manifestFile
  · rw [List.map_append, List.map_singleton]
    refine List.nodup_append.2 ⟨hnodup, List.nodup_singleton _, fun a ha b hb => ?_⟩
    obtain ⟨file, hfile, rfl⟩ := List.mem_map.1 ha
    rw [List.mem_singleton.1 hb]
    exact (hnames file hfile).2

/-- What an export wrote can be read at its end, if no link stood in its directory. -/
theorem readFile_of_export {t t₁ t₂ t' : FileTree} {dir : Path}
    {files : List (Text × List UInt8)} {manifest : Text}
    (hlinks : ∀ key, t'.resolve .look (dir.join ⟨['.']⟩) = .ok (.directory key) →
      t.IsLinkFree key)
    (hmake : t.Grows t₁) (hfiles : t₁.writeAll dir files = .ok t₂)
    (hmanifest : t₂.writeAll dir [textFile manifestFile.text manifest] = .ok t')
    (hnames : ∀ file ∈ files, isName file.1 = true ∧ file.1 ≠ manifestFile.text)
    (hnodup : (files.map Prod.fst).Nodup) :
    t'.readFile (dir.join manifestFile) = .ok (Text.Utf8.encode manifest) ∧
      ∀ file ∈ files, t'.readFile (dir.join ⟨file.1⟩) = .ok file.2 := by
  have hall : t₁.writeAll dir (files ++ [textFile manifestFile.text manifest]) = .ok t' :=
    FileTree.writeAll_append_eq_ok_iff.2 ⟨t₂, hfiles, hmanifest⟩
  have hextends : t.Extends t' := hmake.toExtends.trans (FileTree.extends_of_writeAll hall)
  obtain ⟨hname, hdistinct⟩ := nodup_append_manifest manifest hnames hnodup
  have hread := FileTree.readFile_of_writeAll hname hdistinct
    (fun key hkey => hextends.isLinkFree_iff.2 (hlinks key hkey)) hall
  exact ⟨hread (textFile manifestFile.text manifest) (by simp),
    fun file hfile => hread file (List.mem_append_left _ hfile)⟩

/-- Whether the file at a path holds a text that reads as the table. -/
def HoldsTable (w : World) (p : Path) (table : List (List Text)) : Prop :=
  ∃ text, (readText p : Operation Session Text).run w = (.ok text, w) ∧
    Csv.read? text = some table

/-- What a machine holds after sheets were exported to a table each. -/
structure HoldsTables (w : World) (dir : Path) (sheets : List Sheet) (r : ExportResult) :
    Prop where
  /-- The files are named for stems that differ in lower case. -/
  stems : ∃ stems : List Text,
    r.manifest.sheets.map ManifestEntry.file = stems.map (fun s => ⟨s ++ ".csv".toList⟩) ∧
      (stems.map Text.lower).Nodup
  /-- No two sheets share a file. -/
  nodup : (r.manifest.sheets.map ManifestEntry.file).Nodup
  /-- No sheet is in the file of the manifest. -/
  ne_manifest : ∀ e ∈ r.manifest.sheets, e.file ≠ manifestFile
  /-- The file of every sheet reads as the rows of the sheet. -/
  tables : List.Forall₂ (fun e s => HoldsTable w (dir.join e.file) s.rows)
    r.manifest.sheets sheets
  /-- The files were written, and the manifest last. -/
  written : r.filesWritten =
    r.manifest.sheets.map (fun e => dir.join e.file) ++ [dir.join manifestFile]

/-- What a machine holds after sheets were exported to a workbook. -/
structure HoldsWorkbook (w : World) (dir : Path) (sheets : List Sheet) (r : ExportResult) :
    Prop where
  /-- All sheets are in the workbook. -/
  file : ∀ e ∈ r.manifest.sheets, e.file = workbookFile
  /-- The workbook is read as the sheets. -/
  workbook : (loadJson (List Sheet) (dir.join workbookFile) : Operation Session _).run w =
    (.ok sheets, w)
  /-- The workbook was written, and then the manifest. -/
  written : r.filesWritten = [dir.join workbookFile, dir.join manifestFile]

/-- What a machine holds after sheets were exported in a format. -/
def HoldsExport (w : World) (dir : Path) (sheets : List Sheet) (r : ExportResult) :
    OutputFormat → Prop
  | .csv => HoldsTables w dir sheets r
  | .json => HoldsWorkbook w dir sheets r

/-- Tables that can be read in the files that were chosen for them are held. -/
theorem holdsTables_of_readFile {dir : Path} {chosen : List (Sheet × FileName.Choice)}
    {r : ExportResult} (hrows : ∀ x ∈ chosen, Csv.IsRectangular x.1.rows)
    (hnodup : (chosen.map fun x => Text.lower x.2.chosen).Nodup)
    (hread : ∀ file ∈ chosen.map tableFile, w.tree.readFile (dir.join ⟨file.1⟩) = .ok file.2)
    (hentries : r.manifest.sheets = chosen.map tableEntry)
    (hwritten : r.filesWritten =
      chosen.map (fun x => dir.join ⟨x.2.file⟩) ++ [dir.join manifestFile]) :
    HoldsTables w dir (chosen.map Prod.fst) r := by
  constructor
  case stems =>
    refine ⟨chosen.map fun x => x.2.chosen, ?_, ?_⟩
    · rw [hentries, List.map_map, List.map_map]
      rfl
    · rwa [List.map_map]
  case nodup =>
    have hinj : Function.Injective Path.mk := fun _ _ => Path.mk.inj
    have hpaths := (nodup_files hnodup).map hinj
    rw [List.map_map] at hpaths
    rw [hentries, List.map_map]
    exact hpaths
  case ne_manifest =>
    rw [hentries, List.forall_mem_map]
    exact fun x _ h => file_ne_manifestFile x.2 (congrArg Path.text h)
  case tables =>
    rw [hentries, List.forall₂_map_left_iff, List.forall₂_map_right_iff, List.forall₂_same]
    intro x hx
    have htable := hread (tableFile x) (List.mem_map_of_mem hx)
    exact ⟨_, run_readText htable, Csv.read?_write (hrows x hx)⟩
  case written =>
    rw [hwritten, hentries, List.map_map]
    rfl

/-- Sheets that can be read in the workbook are held. -/
theorem holdsWorkbook_of_readFile {dir : Path} {sheets : List Sheet} {r : ExportResult}
    (hread : w.tree.readFile (dir.join workbookFile) =
      .ok (Text.Utf8.encode (workbookText sheets)))
    (hentries : r.manifest.sheets = sheets.map (.ofSheet workbookFile))
    (hwritten : r.filesWritten = [dir.join workbookFile, dir.join manifestFile]) :
    HoldsWorkbook w dir sheets r := by
  refine ⟨?_, ?_, hwritten⟩
  · rw [hentries, List.forall_mem_map]
    exact fun s _ => rfl
  · have hstored : Json.IsStored sheets :=
      Json.isStored_list fun s _ => Json.isStored_sheet s
    have hblank : ∀ c ∈ ['\n'], Json.isSpace c = true := by
      rw [List.forall_mem_singleton]
      rfl
    exact run_loadJson hread (Json.read?_write_append hstored hblank)

/-- Sheets that were exported can be read back in full, if no link stood in the directory that
they were exported to. -/
theorem writeSheets_readBack {sheets : List Sheet} {dir : Path} {format : OutputFormat}
    {source : ExportSource} {result : ExportResult}
    (hrows : ∀ s ∈ sheets, Csv.IsRectangular s.rows)
    (hlinks : ∀ key, w'.tree.resolve .look (dir.join ⟨['.']⟩) = .ok (.directory key) →
      w.tree.IsLinkFree key)
    (h : (writeSheets sheets dir format source : Operation Session ExportResult).run w =
      (.ok result, w')) :
    result.manifest.sheets.map (fun e => (e.name, e.steps)) =
        sheets.map (fun s => (s.name, .ofNat s.stepCount)) ∧
      (readText (dir.join manifestFile) : Operation Session Text).run w' =
        (.ok (Json.write result.manifest), w') ∧
      HoldsExport w' dir sheets result format := by
  obtain ⟨w₁, w₂, paths, hmake, hfiles, hmanifest, hwritten⟩ := exists_of_writeSheets h
  cases format with
  | csv =>
    obtain ⟨chosen, rfl, hstems, hnodup, hall, rfl, hentries⟩ :=
      exists_chosen_of_writeFiles hfiles
    have hnames : ∀ file ∈ chosen.map tableFile,
        isName file.1 = true ∧ file.1 ≠ manifestFile.text := by
      rw [List.forall_mem_map]
      exact fun x hx => ⟨FileName.isName_file (hstems x hx), file_ne_manifestFile x.2⟩
    have hdistinct : ((chosen.map tableFile).map Prod.fst).Nodup := by
      rw [List.map_map]
      exact nodup_files hnodup
    rw [List.forall_mem_map] at hrows
    -- no table writes over another one, nor the manifest over any
    obtain ⟨htold, hread⟩ := readFile_of_export hlinks hmake hall hmanifest hnames hdistinct
    refine ⟨?_, run_readText htold,
      holdsTables_of_readFile hrows hnodup hread hentries hwritten⟩
    rw [hentries, List.map_map, List.map_map]
    rfl
  | json =>
    obtain ⟨hall, rfl, hentries⟩ := writeAll_of_writeFiles hfiles
    have hnames : ∀ file ∈ [textFile workbookFile.text (workbookText sheets)],
        isName file.1 = true ∧ file.1 ≠ manifestFile.text := by
      rw [List.forall_mem_singleton]
      exact ⟨isName_workbookFile, show workbookFile.text ≠ manifestFile.text by decide⟩
    obtain ⟨htold, hread⟩ :=
      readFile_of_export hlinks hmake hall hmanifest hnames (List.nodup_singleton _)
    refine ⟨?_, run_readText htold,
      holdsWorkbook_of_readFile (hread _ (List.mem_singleton_self _)) hentries hwritten⟩
    rw [hentries, List.map_map]
    rfl

/-- A machine without files. -/
def bareWorld : World :=
  ⟨.empty, .epoch, 0, [], []⟩

/-- Sheets whose names meet in lower case, and meet the name that one of them gets for it. -/
def meetingSheets : List Sheet :=
  buildSheets .standard <| ["A", "a", "A_2"].map fun name =>
    ⟨[], name.toList, "Given \"x\",\r\n y".toList, none, name.toList⟩

/-- The paths that an export of these sheets writes. -/
def meetingPaths : List Path :=
  [.ofString "out/A.csv", .ofString "out/a_2.csv", .ofString "out/A_2_2.csv",
    .ofString "out/manifest.json"]

theorem run_writeSheets_meeting :
    ∃ result w', (writeSheets meetingSheets (.ofString "out") .csv ⟨[], none⟩ :
      Operation Session ExportResult).run bareWorld = (.ok result, w') ∧
        result.filesWritten = meetingPaths := by
  have hpaths : ((writeSheets meetingSheets (.ofString "out") .csv ⟨[], none⟩ :
      Operation Session ExportResult).run bareWorld).1.toOption.map
        ExportResult.filesWritten = some meetingPaths := by decide +kernel
  exact Operation.exists_run_of_map_toOption hpaths

theorem isLinkFree_bareWorld (key : Key) : bareWorld.tree.IsLinkFree key := by
  intro name target
  simp [bareWorld, FileTree.get?, FileTree.empty, lookupNode]

theorem writeSheets_readBack_meeting :
    ∃ result w', (∀ s ∈ meetingSheets, Csv.IsRectangular s.rows) ∧
      (∀ key, w'.tree.resolve .look ((Path.ofString "out").join ⟨['.']⟩) = .ok (.directory key) →
        bareWorld.tree.IsLinkFree key) ∧
      (writeSheets meetingSheets (.ofString "out") .csv ⟨[], none⟩ :
        Operation Session ExportResult).run bareWorld = (.ok result, w') ∧
      result.filesWritten = meetingPaths ∧
      HoldsExport w' (.ofString "out") meetingSheets result .csv := by
  obtain ⟨result, w', hrun, hpaths⟩ := run_writeSheets_meeting
  have hrows : ∀ s ∈ meetingSheets, Csv.IsRectangular s.rows :=
    fun _ => isRectangular_of_mem_buildSheets
  have hlinks := fun key (_ : w'.tree.resolve .look ((Path.ofString "out").join ⟨['.']⟩) =
    .ok (.directory key)) => isLinkFree_bareWorld key
  have hread := writeSheets_readBack hrows hlinks hrun
  exact ⟨result, w', hrows, hlinks, hrun, hpaths, hread.2.2⟩

end FeatureSheets
