import FeatureSheets.Cli.Run
import FeatureSheets.Proofs.Export.Attempt

/-!
# The steps of a run

What a run is made of, for properties that hold of a run if they hold of its steps. Configurations
and documents are read, and directories are scanned, with looks at the files alone. An export makes
the directories of its path, writes files under the names that it may choose, and then one under
that of the manifest.
-/

namespace FeatureSheets.Session

variable {P : (α : Type) → Session α → Prop}

/-! ## Reading -/

namespace IsNotingKind

variable (hP : IsNotingKind P) {p : Path}

include hP

theorem readBytes (hread : P _ (Platform.readFile p)) :
    P _ (readBytes p : Operation Session _).run :=
  hP.run_ask _ hread

theorem loadJson (α : Type) [JsonForm α] (hread : P _ (Platform.readFile p)) :
    P _ (loadJson α p : Operation Session α).run := by
  have htext : P _ (readText p : Operation Session Text).run := by
    apply hP.run_bind (hP.readBytes hread)
    intro bytes
    split
    · exact hP.run_pure _
    · exact hP.run_throw _
  apply hP.run_bind htext
  intro text
  split
  · exact hP.run_pure _
  · exact hP.run_throw _

theorem loadOrStandard (given : Option Path)
    (hread : ∀ p, given = some p → P _ (Platform.readFile p)) :
    P _ (SheetConfig.loadOrStandard given : Operation Session SheetConfig).run := by
  cases given with
  | none => exact hP.run_pure _
  | some p =>
    apply hP.run_bind (hP.loadJson SheetConfig (hread p rfl))
    intro c
    split
    · exact hP.run_pure _
    · exact hP.run_throw _

theorem loadFeature (hread : P _ (Platform.readFile p)) :
    P _ (Feature.load p : Operation Session Feature).run := by
  apply hP.run_bind (hP.readBytes hread)
  intro bytes
  split
  · exact hP.run_bind (hP.run_sayAll _) fun _ => hP.run_pure _
  · exact hP.run_throw _

/-- Of the files, a conversion asks for its document alone. -/
theorem convertChecked (config : SheetConfig) (hread : P _ (Platform.readFile p)) :
    P _ (Cli.convertChecked config p : Operation Session Conversion).run := by
  have hload : P _ (Conversion.load config p : Operation Session Conversion).run := by
    apply hP.run_bind (hP.loadFeature hread)
    intro feature
    exact hP.run_bind (hP.run_sayAll _) fun _ => hP.run_bind (hP.run_say _ _ _) fun _ =>
      hP.run_pure _
  apply hP.run_bind hload
  intro c
  split
  · exact hP.run_throw _
  · exact hP.run_pure _

end IsNotingKind

/-! ## Scanning -/

namespace IsReadingKind

open Discovery (Way Find)

variable (hP : IsReadingKind P)

include hP

theorem enter (isLink : Bool) (way : Way) (p : Path) {walk : Way → Session (List Find)}
    (h : ∀ way, P _ (walk way)) : P _ (Discovery.enter isLink way p walk) := by
  apply hP.bind (hP.look _)
  intro r
  cases r with
  | error fault => exact hP.pure _
  | ok id =>
    dsimp only
    generalize (if isLink then way.find? fun w => w.2 == id else none) = inside
    cases inside with
    | some outer => exact hP.pure _
    | none => exact h _

theorem visit (way : Way) (p : Path) (kind : EntryKind) {walk : Way → Session (List Find)}
    (h : ∀ way, P _ (walk way)) : P _ (Discovery.visit way p kind walk) := by
  have hmeets : ∀ isLink k, P _ (Discovery.visit.meets way p walk isLink k) := by
    intro isLink k
    cases k with
    | file => exact hP.pure _
    | other => exact hP.pure _
    | directory => exact hP.enter isLink way p h
  cases kind with
  | kind k => exact hmeets false k
  | link =>
    apply hP.bind (hP.look _)
    intro r
    cases r with
    | error fault => exact hP.pure _
    | ok k => exact hmeets true k

theorem walkBelow (depth : Nat) (way : Way) (dir : Path) :
    P _ (Discovery.walkBelow depth way dir : Session (List Find)) := by
  induction depth generalizing way dir with
  | zero => exact hP.pure _
  | succ depth ih =>
    apply hP.bind (hP.look _)
    intro r
    cases r with
    | error fault => exact hP.pure _
    | ok entries =>
      apply hP.bind (hP.mapM fun e _ => hP.visit way _ e.kind fun way => ih way _)
      intro finds
      exact hP.pure _

theorem walkRoot (root : Path) :
    P _ (Discovery.walkRoot root : Operation Session (List Find)).run := by
  apply hP.run_bind (hP.run_ask _ (hP.look _))
  intro kind
  cases kind with
  | file => exact hP.run_pure _
  | other => exact hP.run_pure _
  | directory =>
    exact hP.run_bind (hP.run_ask _ (hP.look _)) fun id =>
      hP.run_bind (hP.run_ask _ (hP.look _)) fun _ => hP.run_lift (hP.walkBelow _ _ root)

theorem walkRoots (roots : List Path) :
    P _ (Discovery.walkRoots roots : Operation Session _).run := by
  induction roots with
  | nil => exact hP.run_pure _
  | cons root rest ih =>
    apply hP.run_bind (hP.walkRoot root)
    intro finds
    exact hP.run_bind (hP.run_sayAll _) fun _ => hP.run_bind ih fun _ => hP.run_pure _

/-- Directories are scanned with looks at the files alone. -/
theorem scan (roots : List Path) :
    P _ (Discovery.scan roots : Operation Session Discovery).run :=
  hP.run_bind (hP.walkRoots roots) fun _ => hP.run_pure _

end IsReadingKind

/-! ## Writing -/

namespace IsNotingKind

variable (hP : IsNotingKind P) {dir : Path} {format : OutputFormat}

include hP

theorem writeCsv {s : Sheet} {p : Path} (h : ∀ content, P _ (Platform.writeFile p content)) :
    P _ (s.writeCsv p : Operation Session Unit).run := by
  rw [Sheet.writeCsv]
  apply hP.run_bind (hP.run_ask _ (h _))
  intro _
  split
  · exact hP.run_throw _
  · exact hP.run_say _ _ _

theorem writeChosen {l : List (Sheet × Except Error FileName.Choice)}
    (h : ∀ x ∈ l, ∀ c, x.2 = .ok c →
      ∀ content, P _ (Platform.writeFile (dir.join ⟨c.file⟩) content)) :
    P _ (writeChosen dir l : Operation Session _).run := by
  induction l with
  | nil => exact hP.run_pure _
  | cons x l ih =>
    obtain ⟨s, choice⟩ := x
    rw [List.forall_mem_cons] at h
    cases choice with
    | error e => exact hP.run_throw e
    | ok c =>
      have hrest : P _ (do
          s.writeCsv (dir.join ⟨c.file⟩)
          return (dir.join ⟨c.file⟩, .ofSheet ⟨c.file⟩ s) ::
            (← FeatureSheets.writeChosen dir l) :
            Operation Session (List (Path × ManifestEntry))).run :=
        hP.run_bind (hP.writeCsv (h.1 c rfl)) fun _ => hP.run_bind (ih h.2) fun _ => hP.run_pure _
      -- what is said about the name comes first, if anything is
      rw [FeatureSheets.writeChosen]
      split
      · exact hP.run_bind (hP.run_say _ _ _) fun _ => hrest
      · exact hrest

/-- Writing the files of sheets is of the kind that writing each that may be listed is. -/
theorem writeFiles
    (h : ∀ name, IsListed format name →
      ∀ content, P _ (Platform.writeFile (dir.join name) content)) (sheets : List Sheet) :
    P _ (writeFiles sheets dir format : Operation Session _).run := by
  cases format with
  | csv =>
    refine hP.run_bind (hP.writeChosen fun x hx c hc => ?_) fun _ => hP.run_pure _
    have hmem := (List.of_mem_zip hx).2
    rw [hc] at hmem
    exact h _ ⟨c, FileName.isStem_of_mem_choicesAfter hmem, rfl⟩
  | json =>
    have hbook : P _ (writeWorkbook sheets dir : Operation Session _).run :=
      hP.run_bind (hP.run_ask _ (h workbookFile rfl _)) fun _ => hP.run_pure _
    exact hP.run_bind hbook fun _ => hP.run_pure _

end IsNotingKind

namespace IsReadingKind

variable (hP : IsReadingKind P) {dir : Path} {format : OutputFormat}

include hP

/-- An export is of the kind that making its directories, writing each file that may be listed,
asking the time and writing the manifest are. -/
theorem writeSheets (hmake : ∀ p ∈ dir.chain, P _ (Platform.makeDirectory p))
    (hfiles : ∀ name, IsListed format name →
      ∀ content, P _ (Platform.writeFile (dir.join name) content))
    (hnow : P _ Platform.now)
    (hmanifest : ∀ content, P _ (Platform.writeFile (dir.join manifestFile) content))
    (sheets : List Sheet) (source : ExportSource) :
    P _ (writeSheets sheets dir format source : Operation Session ExportResult).run := by
  apply hP.run_bind (hP.run_ask _ (hP.makeDirectories hmake))
  intro _
  apply hP.run_bind (hP.writeFiles hfiles sheets)
  intro _
  exact hP.run_bind (hP.run_lift hnow) fun _ =>
    hP.run_bind (hP.run_ask _ (hmanifest _)) fun _ => hP.run_pure _

end IsReadingKind

/-! ## Batches -/

theorem IsKind.printLines (hP : IsKind P) (hprint : ∀ s, P Unit (Platform.print s))
    (lines : List Text) : P _ (Cli.printLines lines : Operation Session Unit).run := by
  induction lines with
  | nil => exact hP.run_pure _
  | cons line lines ih => exact hP.run_bind (hP.run_lift (hprint _)) fun _ => ih

namespace IsReadingKind

variable (hP : IsReadingKind P)

include hP

/-- A document of a batch is exported with what its reading and its export are made of. -/
theorem exportFeature (config : SheetConfig) {format : OutputFormat} (f : FeatureFile)
    {target : Except Error Path}
    (hexport : ∀ dir, target = .ok dir → ∀ sheets source,
      P _ (FeatureSheets.writeSheets sheets dir format source : Operation Session _).run) :
    P _ (Cli.exportFeature config format f target : Operation Session _).run := by
  have hfail : ∀ (text : Text) (e : Error), P _ (do
      Operation.say .warn .cli text
      return .error e : Operation Session (Except Error (Conversion × Path × ExportResult))).run :=
    fun text e => hP.run_bind (hP.run_say _ _ _) fun _ => hP.run_pure _
  cases target with
  | error e => exact hfail _ e
  | ok dir =>
    apply hP.run_bind (hP.run_say _ _ _)
    intro _
    apply hP.run_bind (hP.run_attempt (hP.convertChecked config (hP.look _)))
    intro converted
    cases converted with
    | error e => exact hfail _ e
    | ok c =>
      apply hP.run_bind (hP.run_attempt (hexport dir rfl _ _))
      intro exported
      cases exported with
      | error e => exact hfail _ e
      | ok result => exact hP.run_pure _

variable (hprint : ∀ s, P Unit (Platform.print s))

include hprint

theorem exportAll (config : SheetConfig) {format : OutputFormat} (tally : Cli.Tally)
    {plan : List (FeatureFile × Except Error Path)}
    (hexport : ∀ x ∈ plan, ∀ dir, x.2 = .ok dir → ∀ sheets source,
      P _ (FeatureSheets.writeSheets sheets dir format source : Operation Session _).run) :
    P _ (Cli.exportAll config format tally plan : Operation Session _).run := by
  induction plan generalizing tally with
  | nil => exact hP.run_pure _
  | cons x plan ih =>
    obtain ⟨f, target⟩ := x
    rw [List.forall_mem_cons] at hexport
    apply hP.run_bind (hP.exportFeature config f hexport.1)
    intro exported
    cases exported with
    | error e => exact ih _ hexport.2
    | ok result => exact hP.run_bind (hP.run_lift (hprint _)) fun _ => ih _ hexport.2

/-- A batch is of the kind that printing and each of its exports are. -/
theorem runBatch (file : Path)
    (hexport : ∀ dir format sheets source,
      P _ (FeatureSheets.writeSheets sheets dir format source : Operation Session _).run) :
    P _ (Cli.runBatch file : Operation Session Unit).run := by
  apply hP.run_bind (hP.loadJson Batch (hP.look _))
  intro batch
  apply hP.run_bind (hP.loadOrStandard batch.config fun _ _ => hP.look _)
  intro config
  apply hP.run_bind (hP.printLines hprint _)
  intro _
  apply hP.run_bind (hP.scan _)
  intro d
  apply hP.run_bind (hP.exportAll hprint config _ fun _ _ dir _ => hexport dir batch.format)
  intro tally
  exact hP.printLines hprint _

end IsReadingKind

/-- Lines are printed, each with its line feed. -/
theorem run_printLines (lines : List Text) (w : World) :
    (Cli.printLines lines : Operation Session Unit).run w =
      (.ok (), { w with output := w.output ++ lines.flatMap (· ++ ['\n']) }) := by
  induction lines generalizing w with
  | nil =>
    rw [List.flatMap_nil, List.append_nil]
    rfl
  | cons line lines ih =>
    have hline : (Operation.printLine line : Operation Session Unit).run w =
      (.ok (), { w with output := w.output ++ (line ++ ['\n']) }) := rfl
    rw [Cli.printLines, Operation.run_bind_of_ok hline, ih, List.flatMap_cons, List.append_assoc]

end FeatureSheets.Session
