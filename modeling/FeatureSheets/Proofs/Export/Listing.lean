import FeatureSheets.Proofs.Export.Attempt
import FeatureSheets.Proofs.Json.Manifest

/-!
# What a manifest lists

A manifest that can be read is one that an export wrote, and the files that it lists are in its
directory (`IsCovered`). Files that are put beside it leave it and the files that it lists, or
replace some of them (`IsCovered.puts`); a manifest that is put after its files takes its place
(`IsCovered.complete`).
-/

namespace FeatureSheets

/-! ## Manifests that are there -/

/-- Whether the manifest in a directory reads as `m`. -/
def HoldsManifest (w : World) (dir : Path) (m : Manifest) : Prop :=
  (loadJson Manifest (dir.join manifestFile) : Operation Session Manifest).run w = (.ok m, w)

/-- Whether the manifest in a directory, if there is one, lists files that are there. -/
def ListsFiles (w : World) (dir : Path) : Prop :=
  ∀ content, w.tree.readFile (dir.join manifestFile) = .ok content →
    ∃ m, HoldsManifest w dir m ∧
      ∀ e ∈ m.sheets, ∃ listed, w.tree.readFile (dir.join e.file) = .ok listed

/-- Whether each table that the manifest in a directory lists has a record for the headers and one
for each of the steps that the manifest counts. -/
def CountsSteps (w : World) (dir : Path) : Prop :=
  ∀ m, HoldsManifest w dir m → m.format = .csv → ∀ e ∈ m.sheets,
    ∃ header steps, HoldsTable w (dir.join e.file) (header :: steps) ∧
      e.steps = .ofNat steps.length

section Reading

variable {w : World} {dir : Path}

theorem holdsManifest_iff {m : Manifest} : HoldsManifest w dir m ↔ ∃ text,
    w.tree.readFile (dir.join manifestFile) = .ok (Text.Utf8.encode text) ∧
      Json.read? Manifest text = some m :=
  ⟨exists_of_loadJson, fun ⟨_, hread, htext⟩ => run_loadJson hread htext⟩

theorem holdsTable_iff {p : Path} {table : List (List Text)} : HoldsTable w p table ↔ ∃ text,
    w.tree.readFile p = .ok (Text.Utf8.encode text) ∧ Csv.read? text = some table :=
  ⟨fun ⟨text, hread, htext⟩ => ⟨text, readFile_of_readText hread, htext⟩,
    fun ⟨text, hread, htext⟩ => ⟨text, run_readText hread, htext⟩⟩

/-- A manifest that was written is the one that is held. -/
theorem holdsManifest_iff_eq {m m' : Manifest}
    (h : w.tree.readFile (dir.join manifestFile) = .ok (Text.Utf8.encode (Json.write m))) :
    HoldsManifest w dir m' ↔ m' = m := by
  have hread : Json.read? Manifest (Json.write m ++ []) = some m :=
    Json.read?_write_append (Json.isStored_manifest m) (by simp)
  rw [List.append_nil] at hread
  rw [HoldsManifest, run_loadJson h hread]
  constructor
  · intro heq
    cases heq
    rfl
  · rintro rfl
    rfl

/-- A table that was written is the one that is held. -/
theorem holdsTable_iff_eq {p : Path} {table table' : List (List Text)}
    (hrows : Csv.IsRectangular table)
    (h : w.tree.readFile p = .ok (Text.Utf8.encode (Csv.write table).1)) :
    HoldsTable w p table' ↔ table' = table := by
  rw [HoldsTable, run_readText h]
  constructor
  · rintro ⟨text, heq, hread⟩
    cases heq
    rw [Csv.read?_write hrows] at hread
    exact (Option.some.inj hread).symm
  · rintro rfl
    exact ⟨_, rfl, Csv.read?_write hrows⟩

/-- How a manifest that lists one table is seen to count other steps than the table has. -/
theorem not_countsSteps_of_read {e : ManifestEntry} {n : Nat}
    (hmanifest : ((loadJson Manifest (dir.join manifestFile) : Operation Session _).run
      w).1.toOption.map (fun m => (m.format, m.sheets)) = some (.csv, [e]))
    (htable : ((readText (dir.join e.file) : Operation Session _).run w).1.toOption.map
      (fun text => (Csv.read? text).map List.length) = some (some (n + 1)))
    (hsteps : e.steps ≠ .ofNat n) : ¬CountsSteps w dir := by
  intro hcounts
  obtain ⟨m, hm, hlisted⟩ := Option.map_eq_some_iff.1 hmanifest
  obtain ⟨hcsv, hsheets⟩ := Prod.mk.inj hlisted
  have hholds : HoldsManifest w dir m :=
    holdsManifest_iff.2 (exists_of_loadJson (Prod.ext (Operation.eq_ok_of_toOption hm) rfl))
  have he : e ∈ m.sheets := by simp [hsheets]
  obtain ⟨header, steps, ⟨text, hread, hrecords⟩, hcount⟩ := hcounts m hholds hcsv e he
  rw [hread] at htable
  have hlength : (Csv.read? text).map List.length = some (n + 1) := Option.some.inj htable
  rw [hrecords] at hlength
  have hn : steps.length = n := Nat.succ.inj (Option.some.inj hlength)
  exact hsteps (hn ▸ hcount)

end Reading

/-! ## What a manifest lists -/

/-- Whether the sheets of a manifest are in files of the directory at `key`. -/
def ListsIn (t : FileTree) (dir : Path) (key : Key) (m : Manifest) : Prop :=
  ∀ e ∈ m.sheets, IsListed m.format e.file ∧ FileTree.IsUsable dir e.file.text ∧
    ∃ content, t.get? (key ++ [e.file.text]) = some (.file content)

/-- Whether a tree has come from `t₀` so that any manifest in the directory, which was not there,
lists files of the directory. -/
structure IsCovered (t₀ : FileTree) (dir : Path) (t : FileTree) : Prop where
  /-- Directories and links are as they were. -/
  extended : t₀.Extends t
  /-- The file of the manifest is one that an export wrote. -/
  covered : ∀ key content, t₀.get? key = none →
    t.get? (key ++ [manifestFile.text]) = some (.file content) →
      t.LeadsTo dir key ∧ ∃ m : Manifest,
        content = Text.Utf8.encode (Json.write m) ∧ ListsIn t dir key m

section Covered

variable {t₀ t t' : FileTree} {dir : Path} {files : List (Text × List UInt8)}

/-- At first there is no manifest. -/
theorem isCovered_refl (t : FileTree) (dir : Path) : IsCovered t dir t := by
  refine ⟨.refl t, fun key content hnone hget => ?_⟩
  rw [FileTree.get?_append_of_none hnone] at hget
  cases hget

theorem manifestFile_not_mem
    (h : ∀ file ∈ files, isName file.1 = true ∧ file.1 ≠ manifestFile.text) :
    manifestFile.text ∉ files.map Prod.fst := by
  intro hmem
  obtain ⟨file, hfile, heq⟩ := List.mem_map.1 hmem
  exact (h file hfile).2 heq

/-- Files beside the manifest leave it, and leave what it lists or replace it. -/
theorem IsCovered.puts (h : IsCovered t₀ dir t) (hunmade : t₀.IsUnmade dir)
    (hputs : t.Puts t' dir files)
    (hnames : ∀ file ∈ files, isName file.1 = true ∧ file.1 ≠ manifestFile.text)
    (hnodup : (files.map Prod.fst).Nodup) : IsCovered t₀ dir t' := by
  have hname : ∀ file ∈ files, isName file.1 = true := fun file hfile => (hnames file hfile).1
  have hmanifest := manifestFile_not_mem hnames
  refine ⟨h.extended.trans hputs.extends, fun key content hnone hget => ?_⟩
  rw [hputs.get?_eq_file_iff hunmade h.extended hname fun _ => hmanifest] at hget
  obtain ⟨hlead, m, hcontent, hlists⟩ := h.covered key content hnone hget
  have hlead' := hputs.extends.leadsTo hlead
  refine ⟨hlead', m, hcontent, fun e he => ?_⟩
  obtain ⟨hlisted, husable, listed, hfile⟩ := hlists e he
  refine ⟨hlisted, husable, ?_⟩
  -- a listed file is replaced or left, and in both cases one is there
  by_cases hmem : e.file.text ∈ files.map Prod.fst
  · obtain ⟨file, hfile, heq⟩ := List.mem_map.1 hmem
    rw [← heq]
    exact ⟨file.2, (hputs.get?_of_mem hunmade h.extended hname hnodup hlead' file hfile).2⟩
  · exact ⟨listed, (hputs.get?_eq_file_iff hunmade h.extended hname fun _ => hmem).2 hfile⟩

/-- A manifest that is put after the files that it lists takes the place of the one before. -/
theorem IsCovered.complete {m : Manifest} (h : IsCovered t₀ dir t) (hunmade : t₀.IsUnmade dir)
    (hputs : t.Puts t' dir (files ++ [textFile manifestFile.text (Json.write m)]))
    (hnames : ∀ file ∈ files, isName file.1 = true ∧ file.1 ≠ manifestFile.text)
    (hnodup : (files.map Prod.fst).Nodup)
    (hlisted : ∀ e ∈ m.sheets, IsListed m.format e.file ∧ ∃ file ∈ files, file.1 = e.file.text) :
    IsCovered t₀ dir t' := by
  obtain ⟨hname, hdistinct⟩ := nodup_append_manifest (Json.write m) hnames hnodup
  refine ⟨h.extended.trans hputs.extends, fun key content hnone hget => ?_⟩
  by_cases hlead : t'.LeadsTo dir key
  · have hput := hputs.get?_of_mem hunmade h.extended hname hdistinct hlead
    obtain ⟨-, hput'⟩ := hput (textFile manifestFile.text (Json.write m)) (by simp)
    refine ⟨hlead, m, ?_, fun e he => ?_⟩
    · cases hget.symm.trans hput'
      rfl
    · obtain ⟨hlist, file, hfile, heq⟩ := hlisted e he
      obtain ⟨husable, hstands⟩ := hput file (List.mem_append_left _ hfile)
      rw [heq] at husable hstands
      exact ⟨hlist, husable, file.2, hstands⟩
  · -- a manifest elsewhere was there before, so the directory would be there
    rw [hputs.get?_eq_file_iff hunmade h.extended hname fun hlead' => absurd hlead' hlead] at hget
    exact absurd (hputs.extends.leadsTo (h.covered key content hnone hget).1) hlead

/-- A manifest that can be read is one that an export wrote. -/
theorem IsCovered.exists_manifest {content : List UInt8} (h : IsCovered t₀ dir t)
    (hunmade : t₀.IsUnmade dir) (hread : t.readFile (dir.join manifestFile) = .ok content) :
    ∃ key, t.LeadsTo dir key ∧ ∃ m : Manifest,
      content = Text.Utf8.encode (Json.write m) ∧ ListsIn t dir key m := by
  obtain ⟨⟨key, hlead⟩, -⟩ := FileTree.exists_leadsTo_of_readFile isName_manifestFile hread
  have hget := (hunmade.readFile_eq_ok_iff h.extended hlead isName_manifestFile).1 hread
  obtain ⟨-, hm⟩ := h.covered key content (hunmade t key h.extended hlead) hget.2
  exact ⟨key, hlead, hm⟩

/-- Files beside it leave what is read under a name, in a directory that was there. -/
theorem IsCovered.readFile_iff {key : Key} {name : Text} {content : List UInt8}
    (h : IsCovered t₀ dir t) (hunmade : t₀.IsUnmade dir) (hputs : t.Puts t' dir files)
    (hnames : ∀ file ∈ files, isName file.1 = true) (hlead : t.LeadsTo dir key)
    (hname : isName name = true) (hother : name ∉ files.map Prod.fst) :
    t'.readFile (dir.join ⟨name⟩) = .ok content ↔ t.readFile (dir.join ⟨name⟩) = .ok content := by
  rw [hunmade.readFile_eq_ok_iff h.extended hlead hname,
    hunmade.readFile_eq_ok_iff (h.extended.trans hputs.extends) (hputs.extends.leadsTo hlead) hname,
    hputs.get?_eq_file_iff hunmade h.extended hnames fun _ => hother]

/-- Files beside it leave the manifest. -/
theorem IsCovered.readFile_manifestFile_iff {content : List UInt8} (h : IsCovered t₀ dir t)
    (hunmade : t₀.IsUnmade dir) (hputs : t.Puts t' dir files)
    (hnames : ∀ file ∈ files, isName file.1 = true ∧ file.1 ≠ manifestFile.text) :
    t'.readFile (dir.join manifestFile) = .ok content ↔
      t.readFile (dir.join manifestFile) = .ok content := by
  have hname : ∀ file ∈ files, isName file.1 = true := fun file hfile => (hnames file hfile).1
  have hmanifest := manifestFile_not_mem hnames
  have hiff : ∀ {key}, t.LeadsTo dir key → (t'.readFile (dir.join manifestFile) = .ok content ↔
      t.readFile (dir.join manifestFile) = .ok content) := fun hlead =>
    h.readFile_iff hunmade hputs hname hlead isName_manifestFile hmanifest
  constructor
  · intro hread
    have hextended := h.extended.trans hputs.extends
    obtain ⟨⟨key, hlead⟩, -⟩ := FileTree.exists_leadsTo_of_readFile isName_manifestFile hread
    have hget := ((hunmade.readFile_eq_ok_iff hextended hlead isName_manifestFile).1 hread).2
    -- the manifest was in its place before, and so was the directory
    rw [hputs.get?_eq_file_iff hunmade h.extended hname fun _ => hmanifest] at hget
    exact (hiff (h.covered key content (hunmade t' key hextended hlead) hget).1).1 hread
  · intro hread
    obtain ⟨⟨key, hlead⟩, -⟩ := FileTree.exists_leadsTo_of_readFile isName_manifestFile hread
    exact (hiff hlead).2 hread

end Covered

/-- The files that a manifest lists can be read. -/
theorem IsCovered.listsFiles {t₀ : FileTree} {dir : Path} {w : World}
    (h : IsCovered t₀ dir w.tree) (hunmade : t₀.IsUnmade dir) : ListsFiles w dir := by
  intro content hread
  obtain ⟨key, hlead, m, rfl, hlists⟩ := h.exists_manifest hunmade hread
  refine ⟨m, (holdsManifest_iff_eq hread).2 rfl, fun e he => ?_⟩
  obtain ⟨hlisted, husable, listed, hget⟩ := hlists e he
  exact ⟨listed, (hunmade.readFile_eq_ok_iff h.extended hlead hlisted.isName).2 ⟨husable, hget⟩⟩

section Tables

variable {t₀ : FileTree} {dir : Path} {w : World}

/-- What is held is the table of a sheet that was put there. -/
theorem holdsTable_iff_of_puts {t : FileTree} {files : List (Text × List UInt8)}
    {file : Text × List UInt8} {s : Sheet} {table : List (List Text)} (hunmade : t₀.IsUnmade dir)
    (hextended : t₀.Extends t) (hputs : t.Puts w.tree dir files)
    (hnames : ∀ file ∈ files, isName file.1 = true) (hnodup : (files.map Prod.fst).Nodup)
    (hfile : file ∈ files) (hrows : Csv.IsRectangular s.rows)
    (hcontent : file.2 = Text.Utf8.encode (Csv.write s.rows).1)
    (hlead : ∃ key, w.tree.LeadsTo dir key) :
    HoldsTable w (dir.join ⟨file.1⟩) table ↔ table = s.rows := by
  obtain ⟨key, hlead⟩ := hlead
  have hstands := hputs.get?_of_mem hunmade hextended hnames hnodup hlead file hfile
  rw [hcontent] at hstands
  exact holdsTable_iff_eq hrows ((hunmade.readFile_eq_ok_iff (hextended.trans hputs.extends) hlead
    (hnames file hfile)).2 hstands)

/-- An export that fails puts other files in the place of tables only where it puts tables. -/
theorem exists_of_mem_dataFiles {t : FileTree} {sheets : List Sheet} {format : OutputFormat}
    {p : Path} (hlisted : IsListed .csv p)
    (hmem : p.text ∈ (dataFiles t dir sheets format).map Prod.fst) :
    format = .csv ∧ ∃ x ∈ exportedTables t dir sheets, p = ⟨x.2.file⟩ := by
  cases format with
  | csv =>
    rw [dataFiles, List.map_map] at hmem
    obtain ⟨x, hx, heq⟩ := List.mem_map.1 hmem
    exact ⟨rfl, x, hx, congrArg Path.mk heq.symm⟩
  | json =>
    obtain ⟨choice, -, rfl⟩ := hlisted
    rw [dataFiles] at hmem
    split at hmem
    · exact absurd (List.mem_singleton.1 hmem) (file_ne_workbookFile choice)
    · cases hmem

end Tables

end FeatureSheets
