import FeatureSheets.Proofs.Export.Write
import FeatureSheets.Proofs.FileTree.Written
import FeatureSheets.Proofs.Json.Manifest

/-!
# Stored types

Every type that is stored survives it: its values are read back from their stored texts, and what
is read from any other text is stored in a form of its own that does not change any more
(`Survives`). It is enough that every value is stored (`IsStored`), which is said here of each
type in turn, from the parts of a record to the record. A configuration that was saved is loaded
again unless its limit is too short (`stored_types_survive`).
-/

namespace FeatureSheets

/-! ## Entries -/

/-- A new key comes last. -/
theorem alterEntry_of_not_mem {key : Text} {l : List (Text × Text)} (h : key ∉ l.map Prod.fst)
    (f : Option Text → Text) : alterEntry key f l = l ++ [(key, f none)] := by
  induction l with
  | nil => rfl
  | cons e l ih =>
    rw [List.map_cons, List.mem_cons, not_or] at h
    rw [alterEntry, if_neg (Ne.symm h.1), ih h.2, List.cons_append]

/-- Entries with new keys come last, in their order. -/
theorem Entries.toList_foldl_insert {e : Entries} {l : List (Text × Text)}
    (h : ((e.toList ++ l).map Prod.fst).Nodup) :
    (l.foldl (fun e p => e.insert p.1 p.2) e).toList = e.toList ++ l := by
  induction l generalizing e with
  | nil => rw [List.foldl_nil, List.append_nil]
  | cons p l ih =>
    have hnew : p.1 ∉ e.toList.map Prod.fst := by
      rw [List.map_append, List.nodup_append] at h
      exact fun hmem => h.2.2 _ hmem _ (List.mem_map_of_mem List.mem_cons_self) rfl
    have hinsert : (e.insert p.1 p.2).toList = e.toList ++ [p] :=
      alterEntry_of_not_mem hnew _
    rw [List.foldl_cons, ih, hinsert, List.append_assoc, List.singleton_append]
    rwa [hinsert, List.append_assoc, List.singleton_append]

/-- Entries are what their list spells out. -/
theorem Entries.ofList_toList (e : Entries) : ofList e.toList = e := by
  have hlist : (ofList e.toList).toList = e.toList := toList_foldl_insert e.nodup_keys
  cases hof : ofList e.toList
  rw [hof] at hlist
  cases e
  cases hlist
  rfl

namespace Json

theorem isStored_bool (b : Bool) : IsStored b :=
  ⟨trivial, rfl⟩

theorem isStored_entries (e : Entries) : IsStored e := by
  constructor
  · show (record (e.toList.map fun p => (p.1, .text p.2))).IsSpelled
    rw [isSpelled_record_iff, List.forall_mem_map]
    exact fun _ _ => trivial
  · have hentries : ∀ l : List (Text × Text),
        ((l.map fun p => (p.1, text p.2)).map fun m => (some m.1, m.2)).mapM entry? = some l := by
      intro l
      induction l with
      | nil => rfl
      | cons p l ih =>
        rw [List.map_cons, List.map_cons, List.mapM_cons, ih]
        rfl
    show ((((e.toList.map fun p => (p.1, text p.2)).map fun m => (some m.1, m.2)).mapM
      entry?).map Entries.ofList) = some e
    rw [hentries, Option.map_some, Entries.ofList_toList]

/-- A value is stored as an optional one is, unless it is stored as none at all. -/
theorem to?_option {α : Type} [JsonForm α] {a : α} (h : IsStored a) (hnull : toJson a ≠ .null) :
    to? (Option α) (toJson a) = some (some a) := by
  have hto : ∀ v : Json, v ≠ .null → to? (Option α) v = (to? α v).map some := by
    intro v hv
    cases v <;> first | exact absurd rfl hv | rfl
  rw [hto _ hnull, h.to?_toJson, Option.map_some]

theorem isStored_scenario (s : Scenario) : IsStored s := by
  have hname := isStored_text s.name
  have hsteps : IsStored s.steps := isStored_list fun step _ => isStored_text step
  have hexamples := isStored_entries s.examples
  have hhas := isStored_bool s.hasExamples
  constructor
  · show (record _).IsSpelled
    rw [isSpelled_record_iff]
    simp [hname.spelled, hsteps.spelled, hexamples.spelled, hhas.spelled]
  · show ((to? Text (toJson s.name)).bind fun name =>
      (to? (List Text) (toJson s.steps)).bind fun steps =>
        (to? Entries (toJson s.examples)).bind fun examples =>
          (to? Bool (toJson s.hasExamples)).bind fun hasExamples =>
            some (Scenario.mk name steps examples hasExamples)) = some s
    rw [hname.to?_toJson, hsteps.to?_toJson, hexamples.to?_toJson, hhas.to?_toJson]
    rfl

theorem isStored_feature (f : Feature) : IsStored f := by
  have htitle := isStored_text f.title
  have hscenarios : IsStored f.scenarios := isStored_list fun s _ => isStored_scenario s
  constructor
  · show (record _).IsSpelled
    rw [isSpelled_record_iff]
    simp [htitle.spelled, hscenarios.spelled]
  · show ((to? Text (toJson f.title)).bind fun title =>
      (to? (List Scenario) (toJson f.scenarios)).bind fun scenarios =>
        some (Feature.mk title scenarios)) = some f
    rw [htitle.to?_toJson, hscenarios.to?_toJson]
    rfl

/-- The form of a row, whether it has parameters or not; parameters without entries are not left
out. -/
theorem isStored_exportRow (r : ExportRow) : IsStored r := by
  have hfeature := isStored_text r.feature
  have hscenario := isStored_text r.scenario
  have hsteps := isStored_text r.steps
  have hsheetName := isStored_text r.sheetName
  obtain ⟨feature, scenario, steps, parameters, sheetName⟩ := r
  constructor
  · show (record _).IsSpelled
    rw [isSpelled_record_iff]
    cases parameters with
    | none =>
      simp [optionalMember, hfeature.spelled, hscenario.spelled, hsteps.spelled,
        hsheetName.spelled]
    | some e =>
      simp [optionalMember, hfeature.spelled, hscenario.spelled, hsteps.spelled,
        hsheetName.spelled, (isStored_entries e).spelled]
  · have hread : ∀ field : Option Json, default? none field = some parameters →
        ((to? Text (toJson feature)).bind fun feature => (to? Text (toJson scenario)).bind
          fun scenario => (to? Text (toJson steps)).bind fun steps =>
            (default? none field).bind fun parameters => (to? Text (toJson sheetName)).bind
              fun sheetName => some (ExportRow.mk feature scenario steps parameters sheetName)) =
          some (ExportRow.mk feature scenario steps parameters sheetName) := by
      intro field hfield
      rw [hfeature.to?_toJson, hscenario.to?_toJson, hsteps.to?_toJson, hsheetName.to?_toJson,
        hfield]
      rfl
    cases parameters with
    | none => exact hread none rfl
    | some e =>
      have hnull : toJson e ≠ .null := by
        intro h
        cases h
      exact hread (some (toJson e)) (to?_option (isStored_entries e) hnull)

theorem isStored_sheetConfig (c : SheetConfig) : IsStored c := by
  have hsubject := isStored_text c.subject
  have htestType := isStored_text c.testType
  have hstatus := isStored_text c.status
  have hdesigner := isStored_text c.designer
  have hlimit := isStored_uInt64 c.maxSheetNameLen
  constructor
  · show (record _).IsSpelled
    rw [isSpelled_record_iff]
    simp [hsubject.spelled, htestType.spelled, hstatus.spelled, hdesigner.spelled,
      hlimit.spelled]
  · show ((to? Text (toJson c.subject)).bind fun subject =>
      (to? Text (toJson c.testType)).bind fun testType =>
        (to? Text (toJson c.status)).bind fun status =>
          (to? Text (toJson c.designer)).bind fun designer =>
            (to? UInt64 (toJson c.maxSheetNameLen)).bind fun limit =>
              some (SheetConfig.mk subject testType status designer limit)) = some c
    rw [hsubject.to?_toJson, htestType.to?_toJson, hstatus.to?_toJson, hdesigner.to?_toJson,
      hlimit.to?_toJson]
    rfl

theorem isStored_conversion (c : Conversion) : IsStored c := by
  have hname := isStored_text c.featureName
  have hrows : IsStored c.rows := isStored_list fun r _ => isStored_exportRow r
  have hsheets : IsStored c.sheets := isStored_list fun s _ => isStored_sheet s
  constructor
  · show (record _).IsSpelled
    rw [isSpelled_record_iff]
    simp [hname.spelled, hrows.spelled, hsheets.spelled]
  · show ((to? Text (toJson c.featureName)).bind fun featureName =>
      (to? (List ExportRow) (toJson c.rows)).bind fun rows =>
        (to? (List Sheet) (toJson c.sheets)).bind fun sheets =>
          some (Conversion.mk featureName rows sheets)) = some c
    rw [hname.to?_toJson, hrows.to?_toJson, hsheets.to?_toJson]
    rfl

theorem isStored_featureFile (f : FeatureFile) : IsStored f := by
  have hpath := isStored_path f.path
  have hstem := isStored_text f.stem
  have hrelative := isStored_path f.relative
  constructor
  · show (record _).IsSpelled
    rw [isSpelled_record_iff]
    simp [hpath.spelled, hstem.spelled, hrelative.spelled]
  · show ((to? Path (toJson f.path)).bind fun path => (to? Text (toJson f.stem)).bind fun stem =>
      (to? Path (toJson f.relative)).bind fun relative =>
        some (FeatureFile.mk path stem relative)) = some f
    rw [hpath.to?_toJson, hstem.to?_toJson, hrelative.to?_toJson]
    rfl

theorem isStored_discovery (d : Discovery) : IsStored d := by
  have hroots : IsStored d.roots := isStored_list fun p _ => isStored_path p
  have hfeatures : IsStored d.features := isStored_list fun f _ => isStored_featureFile f
  have hskipped := isStored_uInt64 d.skipped
  constructor
  · show (record _).IsSpelled
    rw [isSpelled_record_iff]
    simp [hroots.spelled, hfeatures.spelled, hskipped.spelled]
  · show ((to? (List Path) (toJson d.roots)).bind fun roots =>
      (to? (List FeatureFile) (toJson d.features)).bind fun features =>
        (to? UInt64 (toJson d.skipped)).bind fun skipped =>
          some (Discovery.mk roots features skipped)) = some d
    rw [hroots.to?_toJson, hfeatures.to?_toJson, hskipped.to?_toJson]
    rfl

/-- The form of a batch, whether it names a configuration or not. -/
theorem isStored_batch (b : Batch) : IsStored b := by
  have hroots : IsStored b.roots := isStored_list fun p _ => isStored_path p
  have houtputDir := isStored_path b.outputDir
  have hformat := isStored_outputFormat b.format
  obtain ⟨roots, outputDir, config, format⟩ := b
  constructor
  · show (record _).IsSpelled
    rw [isSpelled_record_iff]
    cases config with
    | none => simp [optionalMember, hroots.spelled, houtputDir.spelled, hformat.spelled]
    | some p =>
      simp [optionalMember, hroots.spelled, houtputDir.spelled, hformat.spelled,
        (isStored_path p).spelled]
  · have hread : ∀ field : Option Json, default? none field = some config →
        ((to? (List Path) (toJson roots)).bind fun roots =>
          (to? Path (toJson outputDir)).bind fun outputDir =>
            (default? none field).bind fun config => (to? OutputFormat (toJson format)).bind
              fun format => some (Batch.mk roots outputDir config format)) =
          some (Batch.mk roots outputDir config format) := by
      intro field hfield
      rw [hroots.to?_toJson, houtputDir.to?_toJson, hformat.to?_toJson, hfield]
      rfl
    cases config with
    | none => exact hread none rfl
    | some p =>
      have hnull : toJson p ≠ .null := by
        intro h
        cases h
      exact hread (some (toJson p)) (to?_option (isStored_path p) hnull)

/-! ## Types -/

/-- Whether the values of a type survive being stored. -/
structure Survives (α : Type) [JsonForm α] : Prop where
  /-- A value is read from its stored text. -/
  read?_write : ∀ a : α, read? α (write a) = some a
  /-- What is read from a text is stored in a form that reading and storing it does not change. -/
  normal : ∀ (s : Text) (a : α), read? α s = some a →
    (read? α (write a)).map write = some (write a)

theorem survives_of_isStored {α : Type} [JsonForm α] (h : ∀ a : α, IsStored a) : Survives α := by
  have hread : ∀ a : α, read? α (write a) = some a := by
    intro a
    have hwritten := read?_write_append (h a) (s := []) (by simp)
    rwa [List.append_nil] at hwritten
  refine ⟨hread, fun s a _ => ?_⟩
  rw [hread, Option.map_some]

end Json

open Json

/-- A configuration that was saved is loaded again, if its limit is long enough. -/
theorem run_load_of_saveJson {p : Path} {c : SheetConfig} {w w' : World}
    (hsound : w.tree.HasSoundLinks)
    (h : (saveJson p c : Operation Session Unit).run w = (.ok (), w')) :
    (SheetConfig.load p : Operation Session SheetConfig).run w' =
      (if 4 ≤ c.maxSheetNameLen then .ok c else .error (.nameLimitTooShort c.maxSheetNameLen),
        w') := by
  have hfile := FileTree.readFile_of_writeFile hsound (writeFile_of_writeText h)
  have hload : (loadJson SheetConfig p : Operation Session _).run w' = (.ok c, w') :=
    run_loadJson hfile ((survives_of_isStored isStored_sheetConfig).read?_write c)
  rw [SheetConfig.load, Operation.run_bind_of_ok hload, SheetConfig.validate, minSheetNameLen]
  by_cases hlimit : 4 ≤ c.maxSheetNameLen
  · rw [if_neg (UInt64.not_lt.2 hlimit), if_pos hlimit]
    rfl
  · rw [if_pos (UInt64.not_le.1 hlimit), if_neg hlimit]
    rfl

/-- **What is stored survives.** Every type that is kept in files is read back as it was stored,
and has one normal form for each value. A configuration that is saved and loaded is the same, or
is refused for its limit. The tree that it is saved to may have links, though none with a target
that no link can be made with. -/
theorem stored_types_survive :
    (Survives Feature ∧ Survives Scenario ∧ Survives (List ExportRow) ∧ Survives (List Sheet) ∧
      Survives Conversion ∧ Survives FeatureFile ∧ Survives Discovery ∧ Survives SheetConfig ∧
      Survives Batch ∧ Survives Manifest) ∧
    ∀ (p : Path) (c : SheetConfig) (w w' : World), w.tree.HasSoundLinks →
      (saveJson p c : Operation Session Unit).run w = (.ok (), w') →
      (SheetConfig.load p : Operation Session SheetConfig).run w' =
        (if 4 ≤ c.maxSheetNameLen then .ok c else .error (.nameLimitTooShort c.maxSheetNameLen),
          w') := by
  refine ⟨⟨survives_of_isStored isStored_feature, survives_of_isStored isStored_scenario,
    survives_of_isStored fun l => isStored_list fun r _ => isStored_exportRow r,
    survives_of_isStored fun l => isStored_list fun s _ => isStored_sheet s,
    survives_of_isStored isStored_conversion, survives_of_isStored isStored_featureFile,
    survives_of_isStored isStored_discovery, survives_of_isStored isStored_sheetConfig,
    survives_of_isStored isStored_batch, survives_of_isStored isStored_manifest⟩, ?_⟩
  exact fun p c w w' hsound h => run_load_of_saveJson hsound h

theorem hasSoundLinks_bareWorld : bareWorld.tree.HasSoundLinks := by
  intro key target hget
  simp [bareWorld, FileTree.get?, FileTree.empty, lookupNode] at hget

theorem stored_types_survive_bare :
    bareWorld.tree.HasSoundLinks ∧ ∃ w', (saveJson (.ofString "config.json") SheetConfig.standard :
      Operation Session Unit).run bareWorld = (.ok (), w') ∧
        (SheetConfig.load (.ofString "config.json") : Operation Session SheetConfig).run w' =
          (.ok .standard, w') := by
  have hsaved : ((saveJson (.ofString "config.json") SheetConfig.standard :
      Operation Session Unit).run bareWorld).1.toOption = some () := by decide +kernel
  have hsave : (saveJson (.ofString "config.json") SheetConfig.standard :
      Operation Session Unit).run bareWorld = (.ok (), _) :=
    Prod.ext (Operation.eq_ok_of_toOption hsaved) rfl
  exact ⟨hasSoundLinks_bareWorld, _, hsave,
    stored_types_survive.2 _ _ _ _ hasSoundLinks_bareWorld hsave⟩

end FeatureSheets
