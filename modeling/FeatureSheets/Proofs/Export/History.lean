import FeatureSheets.Proofs.Export.Listing
import Mathlib.Data.List.Induction

/-!
# Exports one after another

What the manifest of a directory says after any number of exports to the directory, failed ones
among them. The files that it lists are always there, and so are the tables of the right lengths
until an export fails that has put another table in the place of one that is listed
(`exportAll_manifest`). One export keeps the invariant of a listing (`isCovered_run`), and the
lengths unless it spoils the manifest (`countsSteps_run_iff`); the rest is induction.
-/

namespace FeatureSheets

/-! ## Histories -/

/-- An export in a history: rows that are built to sheets, and how these are exported. -/
structure ExportCall where
  /-- The configuration that the sheets are built with. -/
  config : SheetConfig
  /-- The rows that are built to sheets. -/
  rows : List ExportRow
  /-- The format. -/
  format : OutputFormat
  /-- Where the rows come from. -/
  source : ExportSource
  /-- The moment of the export. -/
  time : Timestamp

namespace ExportCall

/-- The sheets that are exported. -/
def sheets (c : ExportCall) : List Sheet :=
  buildSheets c.config c.rows

/-- The result of the export, and the machine after it. -/
def run (c : ExportCall) (dir : Path) (w : World) : Except Error ExportResult × World :=
  (writeSheets c.sheets dir c.format c.source : Operation Session ExportResult).run
    { w with clock := c.time }

end ExportCall

/-- The machine after exports to a directory, whatever came of each. -/
def exportAll (dir : Path) (w : World) (calls : List ExportCall) : World :=
  calls.foldl (fun w c => (c.run dir w).2) w

/-- Whether an export fails when it has put a table in the place of one with another number of
steps that the manifest lists. -/
def ExportCall.Spoils (c : ExportCall) (dir : Path) (w : World) : Prop :=
  c.format = .csv ∧ (∃ e, (c.run dir w).1 = .error e) ∧
    ∃ m, HoldsManifest w dir m ∧ m.format = .csv ∧
      ∃ e ∈ m.sheets, ∃ x ∈ exportedTables w.tree dir c.sheets,
        e.file = ⟨x.2.file⟩ ∧ e.steps ≠ .ofNat x.1.stepCount

theorem ExportCall.not_spoils_of_isOk {c : ExportCall} {dir : Path} {w : World}
    (h : (c.run dir w).1.isOk = true) : ¬c.Spoils dir w := by
  rintro ⟨-, ⟨e, hrun⟩, -⟩
  rw [hrun] at h
  cases h

theorem ExportCall.not_spoils_of_exportedTables {c : ExportCall} {dir : Path} {w : World}
    (h : exportedTables w.tree dir c.sheets = []) : ¬c.Spoils dir w := by
  rintro ⟨-, -, _, -, -, _, -, x, hx, -⟩
  rw [h] at hx
  cases hx

/-- The first row of a sheet that was built holds the headers. -/
theorem rows_eq_of_mem_buildSheets {config : SheetConfig} {rows : List ExportRow} {s : Sheet}
    (h : s ∈ buildSheets config rows) : s.rows = Column.headers :: s.stepRows := by
  obtain ⟨r, -, name, rfl⟩ := exists_of_mem_buildSheets h
  rfl

/-! ## One export -/

section Call

variable {t₀ : FileTree} {dir : Path} {w : World} {c : ExportCall}

theorem ExportCall.isRectangular (c : ExportCall) : ∀ s ∈ c.sheets, Csv.IsRectangular s.rows :=
  fun _ => isRectangular_of_mem_buildSheets

/-- An export that fails has put some files, and all that it could if there was a manifest. -/
theorem ExportCall.exists_puts {e : Error} (hrun : (c.run dir w).1 = .error e) :
    ∃ files, w.tree.Puts (c.run dir w).2.tree dir files ∧
      (∀ file ∈ files, isName file.1 = true ∧ file.1 ≠ manifestFile.text) ∧
      (files.map Prod.fst).Nodup ∧
      ((∃ content, w.tree.readFile (dir.join manifestFile) = .ok content) →
        files = dataFiles w.tree dir c.sheets c.format) := by
  have h : (writeSheets c.sheets dir c.format c.source : Operation Session ExportResult).run
      { w with clock := c.time } = (.error e, (c.run dir w).2) := Prod.ext hrun rfl
  have hputs := exists_puts_of_error c.isRectangular h
  exact hputs

/-- No export leaves a manifest that lists what is not there. -/
theorem isCovered_run (h : IsCovered t₀ dir w.tree) (hunmade : t₀.IsUnmade dir)
    (c : ExportCall) : IsCovered t₀ dir (c.run dir w).2.tree := by
  cases hrun : (c.run dir w).1 with
  | error e =>
    obtain ⟨files, hputs, hnames, hnodup, -⟩ := ExportCall.exists_puts hrun
    exact h.puts hunmade hputs hnames hnodup
  | ok result =>
    have hformat : result.manifest.format = c.format := format_of_writeSheets (Prod.ext hrun rfl)
    obtain ⟨files, hputs, hnames, hnodup, hlisted⟩ := exists_puts_of_ok (Prod.ext hrun rfl)
    refine h.complete hunmade hputs hnames hnodup fun e he => ?_
    obtain ⟨hlist, s, -, -, file, hfile, heq, -⟩ := hlisted e he
    rw [hformat]
    exact ⟨hlist, file, hfile, heq⟩

/-- An export that fails leaves the manifest. -/
theorem holdsManifest_run_iff (h : IsCovered t₀ dir w.tree) (hunmade : t₀.IsUnmade dir)
    {e : Error} (hrun : (c.run dir w).1 = .error e) {m : Manifest} :
    HoldsManifest (c.run dir w).2 dir m ↔ HoldsManifest w dir m := by
  obtain ⟨files, hputs, hnames, -⟩ := ExportCall.exists_puts hrun
  rw [holdsManifest_iff, holdsManifest_iff]
  exact exists_congr fun text =>
    and_congr_left' (h.readFile_manifestFile_iff hunmade hputs hnames)

/-- After an export that comes to a result, its tables have the lengths that its manifest
counts. -/
theorem countsSteps_of_ok (h : IsCovered t₀ dir w.tree) (hunmade : t₀.IsUnmade dir)
    {result : ExportResult} (hrun : (c.run dir w).1 = .ok result) :
    CountsSteps (c.run dir w).2 dir := by
  obtain ⟨files, hputs, hnames, hnodup, hlisted⟩ := exists_puts_of_ok (Prod.ext hrun rfl)
  obtain ⟨hname, hdistinct⟩ := nodup_append_manifest (Json.write result.manifest) hnames hnodup
  intro m hm hcsv e he
  obtain ⟨text, htext, -⟩ := holdsManifest_iff.1 hm
  obtain ⟨⟨key, hlead⟩, -⟩ := FileTree.exists_leadsTo_of_readFile isName_manifestFile htext
  -- the manifest is the one of this export
  have hstands := hputs.get?_of_mem hunmade h.extended hname hdistinct hlead
    (textFile manifestFile.text (Json.write result.manifest)) (by simp)
  have hread := (hunmade.readFile_eq_ok_iff (h.extended.trans hputs.extends) hlead
    isName_manifestFile).2 hstands
  obtain rfl : m = result.manifest := (holdsManifest_iff_eq hread).1 hm
  obtain ⟨-, s, hs, hsteps, file, hfile, heq, hcontent⟩ := hlisted e he
  have hformat : result.manifest.format = c.format := format_of_writeSheets (Prod.ext hrun rfl)
  have htable := (holdsTable_iff_of_puts hunmade h.extended hputs hname hdistinct
    (List.mem_append_left _ hfile) (c.isRectangular s hs) (hcontent (hformat.symm.trans hcsv))
    ⟨key, hlead⟩).2 (rows_eq_of_mem_buildSheets hs).symm
  rw [heq] at htable
  exact ⟨Column.headers, s.stepRows, htable, hsteps⟩

/-- What an export that fails leaves in the place of a listed table. -/
theorem holdsTable_of_error (h : IsCovered t₀ dir w.tree) (hunmade : t₀.IsUnmade dir) {e : Error}
    (hrun : (c.run dir w).1 = .error e) (hformat : c.format = .csv) {content : List UInt8}
    (hread : w.tree.readFile (dir.join manifestFile) = .ok content)
    {x : Sheet × FileName.Choice} (hx : x ∈ exportedTables w.tree dir c.sheets)
    {table : List (List Text)} :
    HoldsTable (c.run dir w).2 (dir.join ⟨x.2.file⟩) table ↔
      table = Column.headers :: x.1.stepRows := by
  obtain ⟨files, hputs, hnames, hnodup, hfiles⟩ := ExportCall.exists_puts hrun
  have hput : tableFile x ∈ files := by
    rw [hfiles ⟨_, hread⟩, hformat]
    exact List.mem_map_of_mem hx
  obtain ⟨⟨key, hlead⟩, -⟩ := FileTree.exists_leadsTo_of_readFile isName_manifestFile hread
  have hlead' : ∃ key, (c.run dir w).2.tree.LeadsTo dir key :=
    ⟨key, hputs.extends.leadsTo hlead⟩
  have hsheet : x.1 ∈ c.sheets := ((nodup_exportedTables w.tree dir c.sheets).1 x hx).1
  have hrows : x.1.rows = Column.headers :: x.1.stepRows := rows_eq_of_mem_buildSheets hsheet
  have hname : ∀ file ∈ files, isName file.1 = true := fun file hfile => (hnames file hfile).1
  show HoldsTable _ (dir.join ⟨(tableFile x).1⟩) table ↔ _
  rw [holdsTable_iff_of_puts hunmade h.extended hputs hname hnodup hput
    (c.isRectangular x.1 hsheet) rfl hlead', hrows]

/-- An export that fails leaves the tables of the right lengths, unless it spoils one. -/
theorem countsSteps_of_error (h : IsCovered t₀ dir w.tree) (hunmade : t₀.IsUnmade dir)
    (hcounts : CountsSteps w dir) (hspoils : ¬c.Spoils dir w) {err : Error}
    (hrun : (c.run dir w).1 = .error err) : CountsSteps (c.run dir w).2 dir := by
  intro m hm hcsv e he
  rw [holdsManifest_run_iff h hunmade hrun] at hm
  obtain ⟨text, hread, -⟩ := holdsManifest_iff.1 hm
  obtain ⟨key, hlead, m', hwritten, hlists⟩ := h.exists_manifest hunmade hread
  rw [hwritten] at hread
  obtain rfl : m = m' := (holdsManifest_iff_eq hread).1 hm
  obtain ⟨hlisted, -, -⟩ := hlists e he
  obtain ⟨files, hputs, hnames, -, hfiles⟩ := ExportCall.exists_puts hrun
  by_cases hmem : e.file.text ∈ files.map Prod.fst
  · -- the table was replaced, by one of the same length
    rw [hfiles ⟨_, hread⟩] at hmem
    obtain ⟨hformat, x, hx, hfile⟩ := exists_of_mem_dataFiles (hcsv ▸ hlisted) hmem
    refine ⟨Column.headers, x.1.stepRows, ?_, ?_⟩
    · rw [hfile]
      exact (holdsTable_of_error h hunmade hrun hformat hread hx).2 rfl
    · by_contra hsteps
      exact hspoils ⟨hformat, ⟨err, hrun⟩, m, hm, hcsv, e, he, x, hx, hfile, hsteps⟩
  · obtain ⟨header, steps, htable, hsteps⟩ := hcounts m hm hcsv e he
    refine ⟨header, steps, ?_, hsteps⟩
    rw [holdsTable_iff] at htable ⊢
    obtain ⟨text, hread, htext⟩ := htable
    have hname : ∀ file ∈ files, isName file.1 = true := fun file hfile => (hnames file hfile).1
    exact ⟨text, (h.readFile_iff hunmade hputs hname hlead hlisted.isName hmem).2 hread, htext⟩

/-- An export that spoils the manifest leaves a table of another length than it counts. -/
theorem not_countsSteps_of_spoils (h : IsCovered t₀ dir w.tree) (hunmade : t₀.IsUnmade dir)
    (hspoils : c.Spoils dir w) : ¬CountsSteps (c.run dir w).2 dir := by
  obtain ⟨hformat, ⟨err, hrun⟩, m, hm, hcsv, e, he, x, hx, hfile, hne⟩ := hspoils
  intro hcounts
  obtain ⟨text, hread, -⟩ := holdsManifest_iff.1 hm
  obtain ⟨header, steps, htable, hsteps⟩ :=
    hcounts m ((holdsManifest_run_iff h hunmade hrun).2 hm) hcsv e he
  rw [hfile, holdsTable_of_error h hunmade hrun hformat hread hx] at htable
  obtain ⟨-, rfl⟩ := List.cons.inj htable
  exact hne hsteps

/-- The tables have the lengths that the manifest counts until an export spoils it. -/
theorem countsSteps_run_iff (h : IsCovered t₀ dir w.tree) (hunmade : t₀.IsUnmade dir)
    (hcounts : CountsSteps w dir) : CountsSteps (c.run dir w).2 dir ↔ ¬c.Spoils dir w := by
  constructor
  · intro hcounts' hspoils
    exact not_countsSteps_of_spoils h hunmade hspoils hcounts'
  · intro hspoils
    cases hrun : (c.run dir w).1 with
    | error e => exact countsSteps_of_error h hunmade hcounts hspoils hrun
    | ok result => exact countsSteps_of_ok h hunmade hrun

end Call

/-! ## Any number of exports -/

theorem exportAll_take_succ (dir : Path) (w : World) {calls : List ExportCall} {n : Nat}
    {c : ExportCall} (h : calls[n]? = some c) :
    exportAll dir w (calls.take (n + 1)) = (c.run dir (exportAll dir w (calls.take n))).2 := by
  rw [List.take_add_one, h, exportAll, List.foldl_append]
  rfl

theorem isCovered_exportAll {dir : Path} {w : World} (hunmade : w.tree.IsUnmade dir)
    (calls : List ExportCall) : IsCovered w.tree dir (exportAll dir w calls).tree := by
  induction calls using List.reverseRecOn with
  | nil => exact isCovered_refl w.tree dir
  | append_singleton calls c ih =>
    rw [exportAll, List.foldl_append]
    exact isCovered_run ih hunmade c

/-- **A manifest lists what is there, and counts it until an export spoils it.** After every export
to a directory that was not there before, failed or not, the files that the manifest lists are
there. The tables have the lengths that it counts after every one of them if and only if none
spoils the manifest. -/
theorem exportAll_manifest {dir : Path} {w : World} (hunmade : w.tree.IsUnmade dir)
    (calls : List ExportCall) :
    (∀ n, ListsFiles (exportAll dir w (calls.take n)) dir) ∧
      ((∀ n, CountsSteps (exportAll dir w (calls.take n)) dir) ↔
        ∀ n (c : ExportCall), calls[n]? = some c → ¬c.Spoils dir (exportAll dir w (calls.take n))) := by
  have hcovered := fun n => isCovered_exportAll hunmade (calls.take n)
  refine ⟨fun n => (hcovered n).listsFiles hunmade, fun hcounts n c hc => ?_, fun hspoils n => ?_⟩
  · rw [← countsSteps_run_iff (hcovered n) hunmade (hcounts n), ← exportAll_take_succ dir w hc]
    exact hcounts (n + 1)
  · induction n with
    | zero =>
      -- there is no manifest yet
      intro m hm
      obtain ⟨text, hread, -⟩ := holdsManifest_iff.1 hm
      obtain ⟨key, hlead, -⟩ := (hcovered 0).exists_manifest hunmade hread
      have hget := ((hunmade.readFile_eq_ok_iff (.refl _) hlead isName_manifestFile).1 hread).2
      rw [FileTree.get?_append_of_none (hunmade _ key (.refl _) hlead)] at hget
      cases hget
    | succ n ih =>
      cases hc : calls[n]? with
      | none =>
        have hlen := List.getElem?_eq_none_iff.1 hc
        rw [List.take_of_length_le (by omega)]
        rwa [List.take_of_length_le (by omega)] at ih
      | some c =>
        rw [exportAll_take_succ dir w hc, countsSteps_run_iff (hcovered n) hunmade ih]
        exact hspoils n c hc

/-! ## Two histories -/

/-- The directory of the histories. -/
def outDirectory : Path :=
  .ofString "out"

theorem isUnmade_outDirectory : bareWorld.tree.IsUnmade outDirectory := by
  have hname : isName "out".toList = true := by decide
  have hempty : ∀ key, bareWorld.tree.get? (key ++ ["out".toList]) = none := by
    intro key
    simp [bareWorld, FileTree.get?, FileTree.empty, lookupNode]
  exact FileTree.isUnmade_join (p := ⟨[]⟩) hname fun _ key _ _ => hempty key

/-- An export of scenarios to tables, each with its step lines. -/
def ExportCall.ofScenarios (scenarios : List (String × String)) : ExportCall where
  config := .standard
  rows := scenarios.map fun (name, steps) => ⟨[], name.toList, steps.toList, none, name.toList⟩
  format := .csv
  source := ⟨[], none⟩
  time := .epoch

/-- Exports of which the second fails at its first sheet, which has no file name. -/
def steadyCalls : List ExportCall :=
  [.ofScenarios [("A", "Given x")], .ofScenarios [("..", "Given z"), ("A", "Given x\nGiven y")]]

theorem exportAll_manifest_steady :
    bareWorld.tree.IsUnmade outDirectory ∧
      (∀ n, ListsFiles (exportAll outDirectory bareWorld (steadyCalls.take n)) outDirectory) ∧
      ∀ n, CountsSteps (exportAll outDirectory bareWorld (steadyCalls.take n)) outDirectory := by
  obtain ⟨hlists, hcounts⟩ := exportAll_manifest isUnmade_outDirectory steadyCalls
  refine ⟨isUnmade_outDirectory, hlists, hcounts.2 fun n c hc => ?_⟩
  have hlen : n < 2 := (List.getElem?_eq_some_iff.1 hc).1
  obtain rfl | rfl : n = 0 ∨ n = 1 := by omega
  · obtain rfl := Option.some.inj hc
    exact ExportCall.not_spoils_of_isOk (by decide +kernel)
  · obtain rfl := Option.some.inj hc
    exact ExportCall.not_spoils_of_exportedTables (by decide +kernel)

/-- Exports of which the second fails when it has put a sheet in the place of the first one's. -/
def spoilingCalls : List ExportCall :=
  [.ofScenarios [("A", "Given x")], .ofScenarios [("A", "Given x\nGiven y"), ("..", "Given z")]]

theorem exportAll_spoiled :
    bareWorld.tree.IsUnmade outDirectory ∧
      ¬∀ n, CountsSteps (exportAll outDirectory bareWorld (spoilingCalls.take n)) outDirectory := by
  refine ⟨isUnmade_outDirectory, fun hcounts => ?_⟩
  have hmanifest : ((loadJson Manifest (outDirectory.join manifestFile) : Operation Session _).run
      (exportAll outDirectory bareWorld (spoilingCalls.take 2))).1.toOption.map
        (fun m => (m.format, m.sheets)) = some (.csv, [⟨['A'], .ofString "A.csv", 1⟩]) := by
    decide +kernel
  have htable : ((readText (outDirectory.join (.ofString "A.csv")) : Operation Session _).run
      (exportAll outDirectory bareWorld (spoilingCalls.take 2))).1.toOption.map
        (fun text => (Csv.read? text).map List.length) = some (some 3) := by
    decide +kernel
  -- the manifest counts one step, and the table has two
  exact not_countsSteps_of_read hmanifest htable (by decide) (hcounts 2)

end FeatureSheets
