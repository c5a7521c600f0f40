import FeatureSheets.Cli.Session
import FeatureSheets.Proofs.Batch.Account
import FeatureSheets.Proofs.Discovery.ExportDir
import FeatureSheets.Proofs.Discovery.Rescan
import FeatureSheets.Proofs.Repeat

/-!
# Batches that are run again

A batch writes over no document. Where the directories that it plans are open, and its own files
are not written over, it may be run again: it comes to the same, prints the same, and leaves what
the first run left, but for the times in manifests (`runIn_batch_again`). A directory that can only
be made once another document was written makes the difference (`runIn_batch_differs`).
-/

namespace FeatureSheets

open FileTree (IsFrame HasNoLinks)

/-! ## Documents stay -/

/-- Whether a tree is another one that got more, if there is no link. -/
def GetsMore (t t' : FileTree) : Prop :=
  t.HasNoLinks → t.Augments t'

theorem isFrame_getsMore : IsFrame GetsMore where
  refl _ hlinks := .refl hlinks
  trans h h' hlinks := (h hlinks).trans (h' (h hlinks).hasNoLinks)

theorem keeps_writeSheets (sheets : List Sheet) (dir : Path) (format : OutputFormat)
    (source : ExportSource) :
    Session.Keeps GetsMore
      (writeSheets sheets dir format source : Operation Session ExportResult).run := by
  have hR : IsFrame GetsMore := isFrame_getsMore
  have hwrite : ∀ name : Path, isName name.text = true → ¬IsDocumentName name.text →
      ∀ content, Session.Keeps GetsMore (Platform.writeFile (dir.join name) content) :=
    fun name hname hdocument content => Session.keeps_change hR fun _ _ h hlinks =>
      FileTree.augments_of_writeFile hlinks hname hdocument h
  exact (Session.isReadingKind_keeps hR).writeSheets
    (fun p _ => Session.keeps_change hR fun _ _ h hlinks =>
      FileTree.augments_of_makeDirectory hlinks h)
    (fun name hname => hwrite name hname.isName hname.not_isDocumentName)
    (fun w => hR.refl w.tree)
    (hwrite manifestFile isName_manifestFile not_isDocumentName_manifestFile) sheets source

/-- Whatever comes of a batch, there are more files after it, and the documents are the same. -/
theorem keeps_runBatch (file : Path) :
    Session.Keeps GetsMore (Cli.runBatch file : Operation Session Unit).run :=
  have hR : IsFrame GetsMore := isFrame_getsMore
  (Session.isReadingKind_keeps hR).runBatch (fun _ w => hR.refl w.tree) file
    fun dir format sheets source => keeps_writeSheets sheets dir format source

/-! ## Documents that are exported again -/

open Session (Admits Repeats)

variable {Q : FileTree → Prop} {t : FileTree} {config : SheetConfig} {format : OutputFormat}

/-- Whether two exports are of the same sheets to the same files. -/
def SameExport : Conversion × Path × ExportResult → Conversion × Path × ExportResult → Prop
  | (c, dir, r), (c', dir', r') => c = c' ∧ dir = dir' ∧ r.filesWritten = r'.filesWritten

/-- A document of a batch is exported again as before, if the property of the files admits it. -/
theorem repeats_exportFeature {f : FeatureFile} {target : Except Error Path}
    (hext : f.path.extension? = some featureExtension)
    (hfound : t.readFile f.path ≠ .error .missing)
    (hdir : ∀ dir, target = .ok dir → Admits Q dir) :
    Repeats Q t (Agrees (Agrees SameExport))
      (Cli.exportFeature config format f target : Operation Session _).run
      (Cli.exportFeature config format f target : Operation Session _).run := by
  have hnote := Session.isNotingKind_repeats Q t
  have hsay : ∀ level origin message, Repeats Q t (Agrees Eq)
      (Operation.say level origin message : Operation Session Unit).run
      (Operation.say level origin message : Operation Session Unit).run :=
    fun level origin message => (hnote.run_say level origin message).run_of_eq
  have hfail : ∀ (text : Text) (e : Error), Repeats Q t (Agrees (Agrees SameExport))
      (do Operation.say .warn .cli text; return .error e : Operation Session _).run
      (do Operation.say .warn .cli text; return .error e : Operation Session _).run :=
    fun text e => (hsay .warn .cli text).run_bind fun _ _ _ => .run_pure (.error e)
  cases target with
  | error e => exact hfail _ e
  | ok dir =>
    have hread :
        (Platform.readFile f.path : Session _).Repeats Q t Eq (Platform.readFile f.path) :=
      Session.repeats_look fun _ h => h.readFile_eq hext hfound
    have hconvert := (hnote.convertChecked config hread).run_of_eq
    apply (hsay .info .cli _).run_bind
    rintro _ _ -
    apply hconvert.run_attempt.run_bind
    rintro _ _ (e | rfl)
    · exact hfail _ e
    rename_i c
    have hexport := Session.repeats_writeSheets (t := t) (hdir dir rfl) c.sheets format
      ⟨c.featureName, some f.path⟩
    apply hexport.run_attempt.run_bind
    rintro _ _ (e | hfiles)
    · exact hfail _ e
    · exact .run_pure (.ok ⟨rfl, rfl, hfiles⟩)

/-- So are those of a plan. -/
theorem repeats_exportAll (tally : Cli.Tally) {plan : List (FeatureFile × Except Error Path)}
    (hdocuments : ∀ x ∈ plan, x.1.path.extension? = some featureExtension ∧
      t.readFile x.1.path ≠ .error .missing)
    (hdirs : ∀ x ∈ plan, ∀ dir, x.2 = .ok dir → Admits Q dir) :
    Repeats Q t (Agrees Eq) (Cli.exportAll config format tally plan : Operation Session _).run
      (Cli.exportAll config format tally plan : Operation Session _).run := by
  induction plan generalizing tally with
  | nil => exact .run_pure rfl
  | cons x plan ih =>
    obtain ⟨f, target⟩ := x
    rw [List.forall_mem_cons] at hdocuments hdirs
    apply (repeats_exportFeature hdocuments.1.1 hdocuments.1.2 hdirs.1).run_bind
    rintro _ _ (e | @⟨⟨c, dir, r⟩, ⟨c', dir', r'⟩, hsame⟩)
    · exact ih _ hdocuments.2 hdirs.2
    · obtain ⟨rfl, rfl, hfiles⟩ := hsame
      have hline : Cli.wroteLine f c dir r' = Cli.wroteLine f c dir r := by
        rw [Cli.wroteLine, Cli.wroteLine, hfiles]
      dsimp only
      rw [hline, hfiles]
      apply (Session.repeats_print _).run_lift.run_bind
      rintro _ _ -
      exact ih _ hdocuments.2 hdirs.2

/-! ## Planned directories -/

/-- The directory of a document has the components of the output directory, then names, and then
perhaps a pair of dots. It ends in a dot only where the output directory does. -/
theorem FeatureFile.IsPlaced.components_exportDir {f : FeatureFile} (h : f.IsPlaced) (base : Path) :
    ∃ (names : List Text) (rest : List Component),
      (f.exportDir base).components = base.components ++ (names.map .name ++ rest) ∧
      (rest = [] ∨ rest = [.parent]) ∧ ((f.exportDir base).EndsInDot → names = [] ∧ rest = []) := by
  rw [exportDir]
  rcases h.withoutExtension_cases with ⟨-, -, names, hnames, hrel⟩ | ⟨-, dirs, hdirs, hrel, -⟩
  · have hsegments : ∀ s ∈ names, IsSegment s := fun s hs => isSegment_of_isName (hnames s hs)
    refine ⟨names, [], ?_, .inl rfl, fun hdot => ⟨?_, rfl⟩⟩
    · rw [hrel, Path.components_join (Path.isPlain_ofSegments hsegments),
        Path.components_ofSegments hsegments, Path.map_ofSegment_of_isName hnames, List.append_nil]
    · by_contra hne
      exact Path.not_endsInDot_join base hsegments hne (hrel ▸ hdot)
  · have hsegments : ∀ s ∈ dirs ++ [['.', '.']], IsSegment s := by
      intro s hs
      rcases List.mem_append.1 hs with hs | hs
      · exact isSegment_of_isName (hdirs s hs)
      · rw [List.mem_singleton.1 hs]
        exact ⟨by decide, by decide, by decide⟩
    refine ⟨dirs, [.parent], ?_, .inr rfl, fun hdot => absurd (hrel ▸ hdot) ?_⟩
    · rw [hrel, Path.components_join (Path.isPlain_ofSegments hsegments),
        Path.components_ofSegments hsegments, List.map_append, Path.map_ofSegment_of_isName hdirs]
      rfl
    · exact Path.not_endsInDot_join base hsegments (by simp)

/-- Whether the directories of a plan are open. -/
def AllOpen (plan : List (FeatureFile × Except Error Path)) (t : FileTree) : Prop :=
  ∀ f dir, (f, .ok dir) ∈ plan → t.IsOpen dir

/-- Once one planned directory is there the output directory is, and then all are open. -/
theorem allOpen_of_leadsTo {d : Discovery} (hplaced : ∀ f ∈ d.features, f.IsPlaced)
    {base dir : Path} {f : FeatureFile} (hmem : (f, .ok dir) ∈ d.exportPlan base) {key : Key}
    (hlinks : t.HasNoLinks) (hlead : t.LeadsTo dir key) : AllOpen (d.exportPlan base) t := by
  have hcomponents : ∀ {f dir}, (f, .ok dir) ∈ d.exportPlan base →
      ∃ (names : List Text) (rest : List Component),
        dir.components = base.components ++ (names.map .name ++ rest) ∧
        (rest = [] ∨ rest = [.parent]) ∧ (dir.EndsInDot → names = [] ∧ rest = []) := by
    intro f dir hmem
    obtain ⟨hf, hdir, -⟩ := Discovery.planFrom_ok hmem rfl
    have hdir : dir = f.exportDir base := hdir
    rw [hdir]
    exact (hplaced f hf).components_exportDir base
  obtain ⟨names, rest, hp, -⟩ := hcomponents hmem
  obtain ⟨there, hbase⟩ : ∃ there, t.reach [] base.components = .ok there := by
    rw [FileTree.leadsTo_iff_reach hlinks, hp, FileTree.reach_append] at hlead
    cases hbase : t.reach [] base.components with
    | ok there => exact ⟨there, rfl⟩
    | error fault =>
      rw [hbase] at hlead
      cases hlead
  intro g other hother
  obtain ⟨names, rest, hp, hrest, hdot⟩ := hcomponents hother
  exact FileTree.isOpen_of_reach hlinks hp hrest hdot hbase

/-- That all directories of a plan are open is kept when something is exported to one of them. -/
theorem admits_allOpen {d : Discovery} (hplaced : ∀ f ∈ d.features, f.IsPlaced) {base dir : Path}
    {f : FeatureFile} (hmem : (f, .ok dir) ∈ d.exportPlan base) :
    Admits (AllOpen (d.exportPlan base)) dir where
  isOpen _ hopen := hopen f dir hmem
  grows _ _ h hgrows hopen g other hother := (hopen g other hother).of_grows h hgrows
  leadsTo _ _ hlinks hlead := allOpen_of_leadsTo hplaced hmem hlinks hlead

/-- Whatever was found is exported again, as long as the directories of its plan are open. -/
theorem repeats_exportAll_of_scan {w : World} (hlinks : w.tree.HasNoLinks) {roots : List Path}
    {d : Discovery} (hscan : ((Discovery.scan roots : Operation Session Discovery).run w).1 = .ok d)
    (base : Path) (config : SheetConfig) (format : OutputFormat) (tally : Cli.Tally) :
    Repeats (AllOpen (d.exportPlan base)) w.tree (Agrees Eq)
      (Cli.exportAll config format tally (d.exportPlan base) : Operation Session _).run
      (Cli.exportAll config format tally (d.exportPlan base) : Operation Session _).run := by
  have hplaced := Discovery.isPlaced_of_scan (Prod.ext hscan rfl)
  refine repeats_exportAll _ (fun x hx => ?_) fun x hx dir hdir =>
    admits_allOpen (f := x.1) hplaced (hdir ▸ hx)
  have hmem : x.1 ∈ d.features := by
    rw [← Discovery.map_fst_exportPlan d base]
    exact List.mem_map_of_mem hx
  exact Discovery.readFile_of_scan hlinks hscan x.1 hmem

/-! ## Batches -/

/-- Whether the files that a batch is told by, its own and that of its configuration, read the same
in another tree. -/
def SameSettings (w : World) (file : Path) (t : FileTree) : Prop :=
  t.readFile file = w.tree.readFile file ∧
    ∀ batch, ((loadJson Batch file : Operation Session Batch).run w).1 = .ok batch →
      ∀ p, batch.config = some p → t.readFile p = w.tree.readFile p

/-- Whether the directories that a batch plans for the documents of its scan are open. -/
def PlansOpen (w : World) (file : Path) : Prop :=
  ∀ batch, ((loadJson Batch file : Operation Session Batch).run w).1 = .ok batch →
    ∀ d, ((Discovery.scan batch.roots : Operation Session Discovery).run w).1 = .ok d →
      AllOpen (d.exportPlan batch.outputDir) w.tree

/-- Whether `y`, run in the world `v` with the files that `x` left after it was run in `w`, comes to
what `x` came to, prints what it printed and leaves the same files, but for times. -/
def RunsAgain {α : Type} (w v : World) (x y : Operation Session α) : Prop :=
  ∀ r w', x.run w = (r, w') → v.tree = w'.tree → ∃ v', y.run v = (r, v') ∧
    w'.tree.SameButMoments v'.tree ∧
      ∃ shown, w'.output = w.output ++ shown ∧ v'.output = v.output ++ shown

section

variable {α β : Type} {w v : World}

/-- What is repeated in every later state is repeated in the next. -/
theorem Session.Repeats.runsAgain {x y : Operation Session α}
    (h : Repeats Q w.tree (Agrees Eq) x.run y.run) (hlinks : w.tree.HasNoLinks) (hQ : Q w.tree) :
    RunsAgain w v x y := by
  intro r w' hrun hv
  have hstart := FileTree.Augments.refl hlinks
  have hfirst := (h.first w hstart hQ).1
  have hagain := h.again w v hstart hQ
  rw [hrun] at hfirst hagain
  rw [hv] at hagain
  obtain ⟨hresult, -, hredo, hshown⟩ := hagain (.refl hfirst.hasNoLinks)
  exact ⟨(y.run v).2, Prod.ext (agrees_eq_iff.1 hresult).symm rfl, hredo.sameButMoments, hshown⟩

/-- What only looks comes first, and to the same or to something that makes no difference. -/
theorem RunsAgain.bind_of_onlyLooks {x : Operation Session α} {f g : α → Operation Session β}
    (hlook : Session.OnlyLooks x.run)
    (herror : ∀ e, (x.run w).1 = .error e → v.tree = w.tree → (x.run v).1 = .error e)
    (hok : ∀ a, (x.run w).1 = .ok a → ∃ b, (x.run v).1 = .ok b ∧
      ∀ w₁ v₁ : World, w₁.tree = w.tree → v₁.tree = v.tree → RunsAgain w₁ v₁ (f a) (g b)) :
    RunsAgain w v (x >>= f) (x >>= g) := by
  intro r w' hrun hv
  rcases hx : x.run w with ⟨first, w₁⟩
  obtain ⟨htree, houtput, -⟩ := hlook.exists_run hx rfl
  have hfirst := congrArg Prod.fst hx
  cases first with
  | error e =>
    rw [Operation.run_bind_of_error hx] at hrun
    cases hrun
    obtain ⟨v₁, hx', htree', houtput'⟩ :=
      hlook.exists_run_of_fst (herror e hfirst (hv.trans htree)) rfl
    refine ⟨v₁, Operation.run_bind_of_error hx', .of_eq (hv.symm.trans htree'.symm), [], ?_, ?_⟩
    · rw [houtput, List.append_nil]
    · rw [houtput', List.append_nil]
  | ok a =>
    rw [Operation.run_bind_of_ok hx] at hrun
    obtain ⟨b, hb, hrest⟩ := hok a hfirst
    obtain ⟨v₁, hx', htree', houtput'⟩ := hlook.exists_run_of_fst hb rfl
    rw [Operation.run_bind_of_ok hx', ← houtput, ← houtput']
    exact hrest w₁ v₁ htree htree' r w' hrun (htree'.trans hv)

theorem RunsAgain.bind_of_readsOnly {S : Path → Prop} {x : Operation Session α}
    {f g : α → Operation Session β} (hlook : Session.OnlyLooks x.run)
    (hreads : Session.ReadsOnly S x.run)
    (hsame : ∀ p, S p → v.tree.readFile p = w.tree.readFile p)
    (hrest : ∀ a (w₁ v₁ : World), (x.run w).1 = .ok a → w₁.tree = w.tree → v₁.tree = v.tree →
      RunsAgain w₁ v₁ (f a) (g a)) : RunsAgain w v (x >>= f) (x >>= g) := by
  have hresult := hreads.result w v hsame
  exact .bind_of_onlyLooks hlook (fun e he _ => hresult.trans he) fun a ha =>
    ⟨a, hresult.trans ha, fun w₁ v₁ => hrest a w₁ v₁ ha⟩

theorem RunsAgain.printLines_bind {lines : List Text} {f g : Unit → Operation Session α}
    (hrest : ∀ w₁ v₁ : World, w₁.tree = w.tree → v₁.tree = v.tree → RunsAgain w₁ v₁ (f ()) (g ())) :
    RunsAgain w v (Cli.printLines lines >>= f) (Cli.printLines lines >>= g) := by
  intro r w' hrun hv
  rw [Operation.run_bind_of_ok (Session.run_printLines lines w)] at hrun
  rw [Operation.run_bind_of_ok (Session.run_printLines lines v)]
  obtain ⟨v', hrun', hsame, shown, hshown, hshown'⟩ := hrest
    { w with output := w.output ++ lines.flatMap (· ++ ['\n']) }
    { v with output := v.output ++ lines.flatMap (· ++ ['\n']) } rfl rfl r w' hrun hv
  refine ⟨v', hrun', hsame, lines.flatMap (· ++ ['\n']) ++ shown, ?_, ?_⟩
  · rw [hshown, List.append_assoc]
  · rw [hshown', List.append_assoc]

end

variable {w w' v : World} {file : Path}

theorem SameSettings.of_tree_eq (h : SameSettings w file t) (hv : v.tree = w.tree) :
    SameSettings v file t := by
  have hlook := Session.isReadingKind_onlyLooks
  refine ⟨by rw [hv, h.1], fun batch hbatch p hp => ?_⟩
  have hload := (hlook.loadJson Batch (hlook.look (·.readFile file))).result v w hv
  rw [hv, h.2 batch (hload.symm.trans hbatch) p hp]

theorem PlansOpen.of_tree_eq (h : PlansOpen w file) (hv : v.tree = w.tree) : PlansOpen v file := by
  have hlook := Session.isReadingKind_onlyLooks
  intro batch hbatch d hd
  have hload := (hlook.loadJson Batch (hlook.look (·.readFile file))).result v w hv
  have hscan := (hlook.scan batch.roots).result v w hv
  rw [hv]
  exact h batch (hload.symm.trans hbatch) d (hscan.symm.trans hd)

theorem exportPlan_congr {d d' : Discovery} (h : d'.features = d.features) (base : Path) :
    d'.exportPlan base = d.exportPlan base := by
  rw [Discovery.exportPlan, Discovery.exportPlan, h]

/-- Where there are more files, and its own read the same, a batch runs again. -/
theorem runsAgain_runBatch (h : w.tree.Augments v.tree) (hsettings : SameSettings w file v.tree)
    (hopen : PlansOpen w file) : RunsAgain w v (Cli.runBatch file) (Cli.runBatch file) := by
  have hlook := Session.isReadingKind_onlyLooks
  obtain ⟨hfile, hconfig⟩ := hsettings
  rw [runBatch_eq]
  -- its own file and the configuration read the same
  apply RunsAgain.bind_of_readsOnly (hlook.loadJson Batch (hlook.look (·.readFile file)))
    ((Session.isNotingKind_readsOnly (· = file)).loadJson Batch (Session.readsOnly_readFile rfl))
    (fun p hp => hp ▸ hfile)
  intro batch w₁ v₁ hbatch hw₁ hv₁
  apply RunsAgain.bind_of_readsOnly (hlook.loadOrStandard batch.config fun _ _ => hlook.look _)
    ((Session.isNotingKind_readsOnly (batch.config = some ·)).loadOrStandard batch.config
      fun _ hp => Session.readsOnly_readFile hp)
    (fun p hp => by rw [hw₁, hv₁, hconfig batch hbatch p hp])
  intro config w₂ v₂ _ hw₂ hv₂
  apply RunsAgain.printLines_bind
  intro w₃ v₃ hw₃ hv₃
  have hw : w₃.tree = w.tree := hw₃.trans (hw₂.trans hw₁)
  have hv : v₃.tree = v.tree := hv₃.trans (hv₂.trans hv₁)
  apply RunsAgain.bind_of_onlyLooks (hlook.scan batch.roots)
  · intro e he hsame
    exact ((hlook.scan batch.roots).result _ _ hsame).trans he
  · -- the scan finds the same documents, though it may pass over more
    intro d hd
    have h₃ : w₃.tree.Augments v₃.tree := by
      rw [hw, hv]
      exact h
    obtain ⟨d', hscan', hfeatures⟩ := Discovery.exists_scan_again h₃ hd
    refine ⟨d', hscan', fun w₄ v₄ hw₄ hv₄ => ?_⟩
    have htotal : d'.total = d.total := congrArg List.length hfeatures
    rw [exportPlan_congr hfeatures, htotal]
    have hscan : ((Discovery.scan batch.roots : Operation Session Discovery).run w).1 = .ok d :=
      ((hlook.scan batch.roots).result w w₃ hw.symm).trans hd
    have hall : AllOpen (d.exportPlan batch.outputDir) w₄.tree := by
      rw [hw₄, hw]
      exact hopen batch hbatch d hscan
    -- from here on the runs only export, each document to the directory that it has in the plan
    apply Session.Repeats.runsAgain _ (hw₄ ▸ h₃.hasNoLinks_left) hall
    have hexport := repeats_exportAll_of_scan h.hasNoLinks_left hscan batch.outputDir config
      batch.format ⟨0, 0, []⟩
    rw [← hw, ← hw₄] at hexport
    apply hexport.run_bind
    rintro tally _ rfl
    exact ((Session.isNotingKind_repeats _ _).printLines Session.repeats_print _).run_of_eq

/-! ## Runs of the program -/

/-- What the program does beyond its command changes no file and prints nothing. -/
theorem exists_runIn_of_run {args : List Text} {verbosity : Nat} {c : Cli.Command}
    (hargs : Cli.parseArgs args = .ok ⟨verbosity, c⟩) {run : Except Error Unit × World}
    (hrun : (Cli.Command.run c : Operation Session Unit).run
      { w with verbosity, output := [], errorOutput := [] } = run) :
    ∃ o w', Cli.runIn w args = (o, w') ∧ o.exitCode = (if run.1.isOk then 0 else 1) ∧
      o.output = run.2.output ∧ w'.tree = run.2.tree := by
  obtain ⟨r, w₁⟩ := run
  have hexecute : ∃ w', (Cli.execute c : Session UInt32)
      { w with verbosity, output := [], errorOutput := [] } = (if r.isOk then 0 else 1, w') ∧
        w'.output = w₁.output ∧ w'.tree = w₁.tree := by
    cases r with
    | ok _ => exact ⟨w₁, Session.bind_eq_iff.2 ⟨_, w₁, hrun, rfl⟩, rfl, rfl⟩
    | error e => exact ⟨_, Session.bind_eq_iff.2 ⟨_, w₁, hrun, rfl⟩, rfl, rfl⟩
  obtain ⟨w', hexecute, houtput, htree⟩ := hexecute
  have hprogram : Cli.program args = (verbosity, Cli.execute c) := by
    rw [Cli.program, hargs]
  have hall : Cli.runIn w args =
      (⟨if r.isOk then 0 else 1, w'.output, w'.errorOutput⟩, w') := by
    rw [Cli.runIn, hprogram]
    dsimp only
    rw [hexecute]
  exact ⟨_, w', hall, rfl, houtput, htree⟩

/-- **Batches run again.** Where no links are, a batch changes no file that has the name of a
document. If it did not write over its own files, and the directories that it planned were open,
it may be run again at any later time: the exit code and the standard output are the same, and so
are the files, but for the times in manifests. -/
theorem runIn_batch_again {args : List Text} {verbosity : Nat} {o : Cli.Outcome}
    (hlinks : w.tree.HasNoLinks) (hargs : Cli.parseArgs args = .ok ⟨verbosity, .batch file⟩)
    (hrun : Cli.runIn w args = (o, w')) :
    (∀ dir name, IsDocumentName name → ∀ content,
      w'.tree.get? (dir ++ [name]) = some (.file content) ↔
        w.tree.get? (dir ++ [name]) = some (.file content)) ∧
    (SameSettings w file w'.tree → PlansOpen w file → ∀ v : World, v.tree = w'.tree →
      ∃ o' v', Cli.runIn v args = (o', v') ∧ o'.exitCode = o.exitCode ∧ o'.output = o.output ∧
        w'.tree.SameButMoments v'.tree) := by
  rcases hbatch : (Cli.runBatch file : Operation Session Unit).run
    { w with verbosity, output := [], errorOutput := [] } with ⟨r, w₁⟩
  obtain ⟨_, _, hall, hcode, houtput, htree⟩ := exists_runIn_of_run hargs hbatch
  cases hrun.symm.trans hall
  dsimp only at hcode houtput htree
  have hkept := (keeps_runBatch file).of_eq hbatch
  have hmore : w.tree.Augments w₁.tree := hkept hlinks
  refine ⟨htree ▸ hmore.document, fun hsettings hopen v hv => ?_⟩
  rw [htree] at hsettings hv
  have hagain : RunsAgain { w with verbosity, output := [], errorOutput := [] }
      { v with verbosity, output := [], errorOutput := [] }
      (Cli.runBatch file) (Cli.runBatch file) :=
    runsAgain_runBatch (hv ▸ hmore) (hv ▸ hsettings.of_tree_eq rfl) (hopen.of_tree_eq rfl)
  obtain ⟨v₁, hbatch', hsame, shown, hshown, hshown'⟩ := hagain r w₁ hbatch hv
  obtain ⟨o', v', hall', hcode', houtput', htree'⟩ := exists_runIn_of_run hargs hbatch'
  refine ⟨o', v', hall', hcode'.trans hcode.symm, ?_, ?_⟩
  · rw [houtput', houtput, hshown, hshown']
  · rw [htree, htree']
    exact hsame

/-! ## A batch that runs again -/

/-- The machine when a batch has said what it is about to do. -/
def opened (batch : Batch) (w : World) : World :=
  { w with output := w.output ++ (openingLines batch).flatMap (· ++ ['\n']) }

/-- What a batch does with the documents of its scan. -/
def exportScan (batch : Batch) (config : SheetConfig) (d : Discovery) : Operation Session Unit := do
  let tally ← Cli.exportAll config batch.format ⟨0, 0, []⟩ (d.exportPlan batch.outputDir)
  Cli.printLines (Cli.summaryLines d.total tally)

/-- A batch whose files and documents are read without a word is the exports of its documents. -/
theorem run_runBatch_of_quiet {batch : Batch} (features : List FeatureFile)
    (hload : ((loadJson Batch file : Operation Session Batch).run w).1 = .ok batch)
    (hquiet : Session.IsQuietIn w (loadJson Batch file : Operation Session Batch).run)
    (hconfig : batch.config = none)
    (hwalk : ((Discovery.walkRoots batch.roots : Operation Session _).run (opened batch w)).1 =
      .ok (features, 0))
    (hquiet' : Session.IsQuietIn (opened batch w)
      (Discovery.walkRoots batch.roots : Operation Session _).run)
    (harrange : Discovery.arrange features = features) :
    (Cli.runBatch file : Operation Session Unit).run w =
      (exportScan batch .standard ⟨batch.roots, features, 0⟩).run (opened batch w) := by
  have hlook := Session.isReadingKind_onlyLooks
  have hload := (hlook.loadJson Batch (hlook.look (·.readFile file))).run_eq hload hquiet
  have hstandard : (SheetConfig.loadOrStandard batch.config :
      Operation Session SheetConfig).run w = (.ok .standard, w) := by
    rw [hconfig]
    rfl
  have hscan : (Discovery.scan batch.roots : Operation Session Discovery).run (opened batch w) =
      (.ok ⟨batch.roots, features, 0⟩, opened batch w) := by
    have hwalk := (hlook.walkRoots batch.roots).run_eq hwalk hquiet'
    refine Discovery.run_scan_eq_ok_iff.2 ⟨features, 0, hwalk, ?_⟩
    rw [harrange]
    rfl
  have hopen := Session.run_printLines (openingLines batch) w
  rw [runBatch_eq, Operation.run_bind_of_ok hload, Operation.run_bind_of_ok hstandard,
    Operation.run_bind_of_ok hopen]
  exact Operation.run_bind_of_ok hscan

/-- The arguments for a batch. -/
def batchArgs : List Text :=
  ["batch".toList, "--batch".toList, "batch.json".toList]

theorem parseArgs_batchArgs :
    Cli.parseArgs batchArgs = .ok ⟨0, .batch (.ofString "batch.json")⟩ := by
  decide +kernel

theorem run_runBatch_mixed :
    (Cli.runBatch (.ofString "batch.json") : Operation Session Unit).run mixedWorld =
      (exportScan mixedBatch .standard mixedScan).run (opened mixedBatch mixedWorld) :=
  run_runBatch_of_quiet mixedScan.features fst_loadJson_mixed (by decide +kernel) rfl
    (by decide +kernel) (by decide +kernel) arrange_mixed

theorem plansOpen_mixed : PlansOpen mixedWorld (.ofString "batch.json") := by
  intro batch hbatch d hd f dir hmem
  cases hbatch.symm.trans fst_loadJson_mixed
  obtain ⟨w', hscan⟩ := run_scan_mixed
  cases hd.symm.trans (congrArg Prod.fst hscan)
  have hplan : (mixedScan.exportPlan mixedBatch.outputDir).filterMap (fun x => x.2.toOption) =
    [.ofString "out/A", .ofString "out/b"] := by decide
  have hdir : dir ∈ [Path.ofString "out/A", .ofString "out/b"] := by
    rw [← hplan]
    exact List.mem_filterMap.2 ⟨_, hmem, rfl⟩
  have hopen : ∀ dir ∈ [Path.ofString "out/A", .ofString "out/b"],
      mixedWorld.tree.IsOpen dir := by decide +kernel
  exact hopen dir hdir

theorem runIn_batch_again_mixed :
    ∃ o w', mixedWorld.tree.HasNoLinks ∧
      Cli.parseArgs batchArgs = .ok ⟨0, .batch (.ofString "batch.json")⟩ ∧
      Cli.runIn mixedWorld batchArgs = (o, w') ∧
      SameSettings mixedWorld (.ofString "batch.json") w'.tree ∧
      PlansOpen mixedWorld (.ofString "batch.json") ∧
      ∀ v : World, v.tree = w'.tree → ∃ o' v', Cli.runIn v batchArgs = (o', v') ∧
        o'.exitCode = o.exitCode ∧ o'.output = o.output ∧ w'.tree.SameButMoments v'.tree := by
  have hlinks : mixedWorld.tree.HasNoLinks :=
    FileTree.hasNoLinks_of_entryKind (by decide +kernel)
  obtain ⟨o, w', hrun, -, -, htree⟩ :=
    exists_runIn_of_run (w := mixedWorld) parseArgs_batchArgs run_runBatch_mixed
  have hsettings : SameSettings mixedWorld (.ofString "batch.json") w'.tree := by
    rw [htree]
    refine ⟨by decide +kernel, fun batch hbatch p hp => ?_⟩
    cases hbatch.symm.trans fst_loadJson_mixed
    cases hp
  exact ⟨o, w', hlinks, parseArgs_batchArgs, hrun, hsettings, plansOpen_mixed,
    (runIn_batch_again hlinks parseArgs_batchArgs hrun).2 hsettings plansOpen_mixed⟩

/-! ## A batch that does not -/

/-- A batch with a document for a root, whose directory would be `out/./`. -/
def lateBatch : Batch :=
  ⟨[.ofString "r/a.feature", .ofString "s"], .ofString "out/.", none, .csv⟩

/-- A machine at the beginning of time, with these files. -/
def freshWorld (t : FileTree) : World :=
  ⟨t, .epoch, 0, [], []⟩

/-- Files with this batch, its document, and another below the second root. -/
def lateTree : FileTree :=
  let document := Node.file (Text.Utf8.encode "Scenario: A\nGiven x\n".toList)
  let below := (FileTree.empty.insert [] "r".toList .directory).insert [] "s".toList .directory
  let below := below.insert [] "batch.json".toList
    (.file (Text.Utf8.encode (Json.write lateBatch)))
  (below.insert ["r".toList] "a.feature".toList document).insert ["s".toList]
    "b.feature".toList document

/-- The documents among these files. -/
def lateScan : Discovery where
  roots := lateBatch.roots
  features := [
    ⟨.ofString "r/a.feature", "a".toList, ⟨[]⟩⟩,
    ⟨.ofString "s/b.feature", "b".toList, .ofString "b.feature"⟩]
  skipped := 0

/-- The files after the batch was run. -/
@[irreducible]
def laterTree : FileTree :=
  ((exportScan lateBatch .standard lateScan).run (opened lateBatch (freshWorld lateTree))).2.tree

theorem arrange_late : Discovery.arrange lateScan.features = lateScan.features := by
  rw [Discovery.arrange_of_pairwise (by decide)]
  decide

theorem fst_loadJson_late :
    ((loadJson Batch (.ofString "batch.json") :
      Operation Session Batch).run (freshWorld lateTree)).1 = .ok lateBatch := by
  decide +kernel

theorem run_runBatch_late :
    (Cli.runBatch (.ofString "batch.json") : Operation Session Unit).run (freshWorld lateTree) =
      (exportScan lateBatch .standard lateScan).run (opened lateBatch (freshWorld lateTree)) :=
  run_runBatch_of_quiet lateScan.features fst_loadJson_late (by decide +kernel) rfl
    (by decide +kernel) (by decide +kernel) arrange_late

theorem run_runBatch_later :
    (Cli.runBatch (.ofString "batch.json") : Operation Session Unit).run (freshWorld laterTree) =
      (exportScan lateBatch .standard lateScan).run (opened lateBatch (freshWorld laterTree)) :=
  run_runBatch_of_quiet lateScan.features (by decide +kernel) (by decide +kernel) rfl
    (by decide +kernel) (by decide +kernel) arrange_late

theorem exists_runIn_fresh {args : List Text} {t : FileTree} {run : Except Error Unit × World}
    (hargs : Cli.parseArgs args = .ok ⟨0, .batch file⟩)
    (hrun : (Cli.runBatch file : Operation Session Unit).run (freshWorld t) = run) :
    ∃ o w', Cli.runIn (freshWorld t) args = (o, w') ∧ o.output = run.2.output ∧
      w'.tree = run.2.tree := by
  obtain ⟨o, w', hall, -, houtput, htree⟩ := exists_runIn_of_run (w := freshWorld t) hargs hrun
  exact ⟨o, w', hall, houtput, htree⟩

/-- The directory `out/.` is refused as long as `out` is not there. So the first run fails for the
first document and makes `out` for the second, and the second run fails for none. -/
theorem runIn_batch_differs :
    ∃ o w' o' v', lateTree.HasNoLinks ∧
      Cli.parseArgs batchArgs = .ok ⟨0, .batch (.ofString "batch.json")⟩ ∧
      Cli.runIn (freshWorld lateTree) batchArgs = (o, w') ∧
      SameSettings (freshWorld lateTree) (.ofString "batch.json") w'.tree ∧
      Cli.runIn (freshWorld w'.tree) batchArgs = (o', v') ∧
      o'.output ≠ o.output ∧ ¬w'.tree.SameButMoments v'.tree := by
  obtain ⟨o, w', hrun, houtput, htree⟩ := exists_runIn_fresh parseArgs_batchArgs run_runBatch_late
  obtain ⟨o', v', hrun', houtput', htree'⟩ :=
    exists_runIn_fresh parseArgs_batchArgs run_runBatch_later
  rw [← laterTree] at htree
  refine ⟨o, w', o', v', FileTree.hasNoLinks_of_entryKind (by decide +kernel),
    parseArgs_batchArgs, hrun, ?_, htree ▸ hrun', ?_, fun hsame => ?_⟩
  · rw [htree]
    refine ⟨by decide +kernel, fun batch hbatch p hp => ?_⟩
    cases hbatch.symm.trans fst_loadJson_late
    cases hp
  · rw [houtput, houtput']
    decide +kernel
  · -- only the second run writes the table of the first document
    have hbefore : (w'.tree.get? ["out".toList, "A.csv".toList]).isNone = true := by
      rw [htree]
      decide +kernel
    have hafter : (v'.tree.get? ["out".toList, "A.csv".toList]).isSome = true := by
      rw [htree']
      decide +kernel
    have hkey := hsame ["out".toList, "A.csv".toList]
    obtain ⟨node, hnode⟩ := Option.isSome_iff_exists.1 hafter
    rw [Option.isNone_iff_eq_none.1 hbefore, hnode] at hkey
    cases hkey

end FeatureSheets
