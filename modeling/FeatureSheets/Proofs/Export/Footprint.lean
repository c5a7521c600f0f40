import FeatureSheets.Proofs.FileTree.Reach
import FeatureSheets.Proofs.Steps

/-!
# What a failed conversion leaves

A conversion that fails before it writes leaves the tree as it was. One that fails while it writes
has made directories on the way to its output directory and put files directly into it, and has
not touched the manifest there (`tree_of_runConvert_error`). The way itself may lead through a
directory called like the manifest, which then is made (`runConvert_through_manifest`).
-/

namespace FeatureSheets

open FileTree (IsFrame HasNoLinks)

/-- Whether an error is of what a conversion reads: its format, its configuration or its
document. -/
def Error.isOfReading : Error → Bool
  | .fileRead .. | .malformedInput .. | .noScenarios _ | .nameLimitTooShort _ | .unknownFormat _
  | .json => true
  | .sheetFile .. | .unequalRows .. | .walk _ | .invalidSheetName _ | .outputCollision ..
  | .fileSystem _ => false

/-- Whether an error is of what a conversion reads. -/
def Error.IsOfReading (e : Error) : Prop :=
  e.isOfReading = true

/-- Whether an error is of what a conversion writes. -/
def Error.IsOfWriting (e : Error) : Prop :=
  e.isOfReading = false

/-- Whether a file that holds sheets may have this name. -/
def IsSheetFile : OutputFormat → Text → Prop
  | .csv, name => ∃ stem : Text, name = stem ++ ".csv".toList
  | .json, name => name = "sheets.json".toList

/-- What a conversion to the directory `output` that fails may leave at a place, by what stood
there before. -/
inductive LeftAt (output : Path) (format : OutputFormat) (key : Key) :
    Option Node → Option Node → Prop
  /-- What stood there is as it was. -/
  | kept (node : Option Node) : LeftAt output format key node node
  /-- A directory was made on the way to the output directory. -/
  | made (n : Nat) (hkey : key = output.placeAfter n) :
    LeftAt output format key none (some .directory)
  /-- A file was put into the output directory, where nothing or another file was. -/
  | written {name : Text} (hkey : key = output.place ++ [name]) (hname : IsSheetFile format name)
    {before : Option Node} (hbefore : ∀ node, before = some node → ∃ old, node = .file old)
    (content : List UInt8) : LeftAt output format key before (some (.file content))

namespace LeftAt

variable {output : Path} {format : OutputFormat} {key : Key} {before between after : Option Node}

theorem trans (h : LeftAt output format key before between)
    (h' : LeftAt output format key between after) : LeftAt output format key before after := by
  cases h with
  | kept node => exact h'
  | made n hkey =>
    cases h' with
    | kept node => exact made n hkey
    | written hkey' hname hbefore content =>
      obtain ⟨old, hold⟩ := hbefore _ rfl
      cases hold
  | written hkey hname hbefore content =>
    cases h' with
    | kept node => exact written hkey hname hbefore content
    | written _ _ _ content' => exact written hkey hname hbefore content'

end LeftAt

/-- No file that holds sheets is called like the manifest. -/
theorem IsSheetFile.ne_manifestFile {format : OutputFormat} {name : Text}
    (h : IsSheetFile format name) : name ≠ manifestFile.text := by
  cases format with
  | csv =>
    obtain ⟨stem, rfl⟩ := h
    intro heq
    have hlast := congrArg List.getLast? heq
    rw [List.getLast?_append] at hlast
    cases hlast
  | json =>
    have h : name = "sheets.json".toList := h
    rw [h]
    decide

theorem IsListed.isSheetFile {format : OutputFormat} {p : Path} (h : IsListed format p) :
    IsSheetFile format p.text := by
  cases format with
  | csv =>
    obtain ⟨c, -, rfl⟩ := h
    exact ⟨c.chosen, rfl⟩
  | json => exact congrArg Path.text h

/-- Whether a tree is another one after a conversion that failed, if no links are in the way. -/
def Leaves (output : Path) (format : OutputFormat) (t t' : FileTree) : Prop :=
  t.HasNoLinks → t'.HasNoLinks ∧
    ∀ key, LeftAt output format key (t.get? key) (t'.get? key)

variable {output : Path} {format : OutputFormat} {t t' : FileTree}

theorem isFrame_leaves : IsFrame (Leaves output format) where
  refl _ hlinks := ⟨hlinks, fun _ => .kept _⟩
  trans h h' hlinks :=
    have hmid := h hlinks
    have hend := h' hmid.1
    ⟨hend.1, fun key => (hmid.2 key).trans (hend.2 key)⟩

/-- A directory on the way is made where its letters say. -/
theorem leaves_of_makeDirectory {p : Path} (hp : p ∈ output.chain)
    (h : t.makeDirectory p = .ok t') : Leaves output format t t' := by
  intro hlinks
  refine ⟨(FileTree.extends_of_makeDirectory h).hasNoLinks_iff.2 hlinks, fun key => ?_⟩
  obtain ⟨dir, name, slash, hplace, rfl⟩ := FileTree.makeDirectory_eq_ok_iff.1 h
  by_cases hroom : t.hasRoom dir name = true
  · rw [FileTree.get?_insert _ _ hroom]
    by_cases hkey : key = dir ++ [name]
    · obtain ⟨n, hn⟩ := Path.exists_take_of_mem_chain hp
      have hthere : dir ++ [name] = output.placeAfter n := by
        rw [Path.placeAfter, ← hn]
        exact FileTree.key_of_resolve hlinks hplace
      have hnone : t.get? key = none := by
        simp only [FileTree.hasRoom, Bool.and_eq_true, Option.isNone_iff_eq_none] at hroom
        rw [hkey, hroom.2]
      rw [if_pos hkey, hnone]
      exact .made n (hkey.trans hthere)
    · rw [if_neg hkey]
      exact .kept _
  · rw [FileTree.insert, dif_neg hroom]
    exact .kept _

/-- A file for sheets is put where the output directory is. -/
theorem leaves_of_writeFile {name : Path} (hname : IsListed format name) {content : List UInt8}
    (h : t.writeFile (output.join name) content = .ok t') : Leaves output format t t' := by
  intro hlinks
  have hextends := FileTree.extends_of_writeFile h
  refine ⟨hextends.hasNoLinks_iff.2 hlinks, fun key => ?_⟩
  obtain ⟨dir, hlead⟩ := FileTree.exists_leadsTo_of_writeFile hname.isName h
  have hlead := (hlead t (.refl t)).1
  have hget := FileTree.get?_of_writeFile hname.isName hlead (hlinks.isLinkFree dir _) h
  by_cases hkey : key = dir ++ [name.text]
  · have hafter := hget key
    rw [if_pos hkey] at hafter
    rw [hafter]
    refine .written (hlead.eq_place hlinks ▸ hkey) hname.isSheetFile (fun node hnode => ?_) content
    -- what stood there was no directory, as it would be there still
    cases node with
    | file old => exact ⟨old, rfl⟩
    | link target => exact absurd hnode (hlinks _ _)
    | directory =>
      rw [hextends.directory key hnode] at hafter
      cases hafter
  · rw [hget key, if_neg hkey]
    exact .kept _

/-! ## Errors of reading -/

open Operation (failsWith_pure failsWith_throw failsWith_ask failsWith_lift failsWith_sayAll)

theorem isOfReading_of_ofName {name : Text} {e : Error}
    (h : OutputFormat.ofName name = .error e) : e.IsOfReading := by
  simp only [OutputFormat.ofName] at h
  split at h
  · cases h
  · split at h <;> cases h
    rfl

theorem failsWith_readBytes (p : Path) :
    (readBytes p : Operation Session _).FailsWith Error.IsOfReading := by
  have hfault : ∀ f, (Error.fileRead p f).IsOfReading := fun _ => rfl
  exact failsWith_ask hfault _

theorem failsWith_loadJson (α : Type) [JsonForm α] (p : Path) :
    (loadJson α p : Operation Session α).FailsWith Error.IsOfReading := by
  have htext : (readText p : Operation Session Text).FailsWith Error.IsOfReading := by
    apply (failsWith_readBytes p).bind
    intro bytes
    split
    · exact failsWith_pure _
    · exact failsWith_throw rfl
  apply htext.bind
  intro text
  split
  · exact failsWith_pure _
  · exact failsWith_throw rfl

theorem failsWith_loadOrStandard (p : Option Path) :
    (SheetConfig.loadOrStandard p : Operation Session SheetConfig).FailsWith Error.IsOfReading := by
  cases p with
  | none => exact failsWith_pure _
  | some p =>
    apply (failsWith_loadJson SheetConfig p).bind
    intro c
    split
    · exact failsWith_pure _
    · rename_i e hvalid
      apply failsWith_throw
      unfold SheetConfig.validate at hvalid
      split at hvalid <;> cases hvalid
      rfl

/-- A document that is not converted is refused for what is read. -/
theorem failsWith_convertChecked (config : SheetConfig) (p : Path) :
    (Cli.convertChecked config p : Operation Session Conversion).FailsWith Error.IsOfReading := by
  have hfeature : (Feature.load p : Operation Session Feature).FailsWith Error.IsOfReading := by
    apply (failsWith_readBytes p).bind
    intro bytes
    split
    · exact Operation.FailsWith.bind (failsWith_sayAll _) fun _ => failsWith_pure _
    · rename_i e hdecode
      apply failsWith_throw
      unfold Feature.decode at hdecode
      split at hdecode <;> cases hdecode
      rfl
  have hload : (Conversion.load config p : Operation Session Conversion).FailsWith
      Error.IsOfReading := by
    apply hfeature.bind
    intro feature
    exact (failsWith_sayAll _).bind fun _ => (failsWith_lift _).bind fun _ => failsWith_pure _
  apply hload.bind
  intro c
  split
  · exact failsWith_throw rfl
  · exact failsWith_pure _

/-! ## Errors of writing -/

theorem failsWith_writeCsv (s : Sheet) (p : Path) :
    (s.writeCsv p : Operation Session Unit).FailsWith Error.IsOfWriting := by
  have hfault : ∀ f, (Error.sheetFile p f).IsOfWriting := fun _ => rfl
  rw [Sheet.writeCsv]
  apply (failsWith_ask hfault _).bind
  intro _
  split
  · exact failsWith_throw rfl
  · exact failsWith_lift _

/-- The only choices that are refused are those of names of which nothing is left. -/
theorem isOfWriting_of_mem_choicesAfter {names used : List Text} {e : Error}
    (h : .error e ∈ FileName.choicesAfter used names) : e.IsOfWriting := by
  induction names generalizing used with
  | nil => cases h
  | cons name names ih =>
    rw [FileName.choicesAfter] at h
    split at h
    · cases List.mem_singleton.1 h
      rfl
    · rcases List.mem_cons.1 h with h | h
      · cases h
      · exact ih h

/-- An export fails with an error of writing. -/
theorem failsWith_writeSheets (sheets : List Sheet) (dir : Path) (format : OutputFormat)
    (source : ExportSource) :
    (writeSheets sheets dir format source : Operation Session ExportResult).FailsWith
      Error.IsOfWriting := by
  have hfault : ∀ f, (Error.fileSystem f).IsOfWriting := fun _ => rfl
  apply failsWith_writeSheets_of_writeFiles hfault
  cases format with
  | csv =>
    refine Operation.FailsWith.bind ?_ fun _ => failsWith_pure _
    refine failsWith_writeChosen (fun x _ => failsWith_writeCsv x.1) fun x hx e he => ?_
    have hmem := (List.of_mem_zip hx).2
    rw [he] at hmem
    exact isOfWriting_of_mem_choicesAfter hmem
  | json => exact failsWith_writeFiles_json hfault

/-! ## Conversions that fail -/

variable {w w' : World}

/-- An export that fails leaves directories on the way and files for sheets. -/
theorem leaves_of_writeSheets_error {sheets : List Sheet} {source : ExportSource} {e : Error}
    (h : (writeSheets sheets output format source : Operation Session ExportResult).run w =
      (.error e, w')) : Leaves output format w.tree w'.tree := by
  have hR : IsFrame (Leaves output format) := isFrame_leaves
  have hP := Session.isReadingKind_keeps hR
  have hmake := hP.run_ask .fileSystem (hP.makeDirectories fun p hp =>
    Session.keeps_change hR fun _ _ => leaves_of_makeDirectory hp)
  have hfiles := hP.writeFiles (fun name hname content =>
    Session.keeps_change hR fun _ _ => leaves_of_writeFile hname) sheets
  rcases Operation.run_bind_eq_iff.1 h with ⟨_, hdir, -⟩ | ⟨_, w₁, hdir, h⟩
  · exact hmake.of_eq hdir
  have hfirst := hmake.of_eq hdir
  rcases Operation.run_bind_eq_iff.1 h with ⟨_, hwrite, -⟩ | ⟨_, w₂, hwrite, h⟩
  · exact hR.trans hfirst (hfiles.of_eq hwrite)
  have hsecond := hR.trans hfirst (hfiles.of_eq hwrite)
  -- from here on only the manifest is written, and it is refused
  rcases Operation.run_bind_eq_iff.1 h with ⟨_, hnow, -⟩ | ⟨now, w₃, hnow, h⟩
  · cases hnow
  obtain rfl : w₂ = w₃ := congrArg Prod.snd (Operation.run_lift_eq_ok_iff.1 hnow)
  rcases Operation.run_bind_eq_iff.1 h with ⟨_, hsave, -⟩ | ⟨_, w₄, -, hlast⟩
  · obtain ⟨rfl, -⟩ := Operation.writeFile_of_run_ask_error hsave
    exact hsecond
  · cases hlast

/-- A conversion that fails has failed before its export, with the tree as it was, or in it. -/
theorem exists_writeSheets_of_runConvert_error {file : Path} {name : Text} {config : Option Path}
    {e : Error}
    (h : (Cli.runConvert file output name config : Operation Session Unit).run w =
      (.error e, w')) :
    (e.IsOfReading ∧ w'.tree = w.tree) ∨ ∃ format c w₁, OutputFormat.ofName name = .ok format ∧
      w₁.tree = w.tree ∧ (Cli.exportConversion c file output format :
        Operation Session ExportResult).run w₁ = (.error e, w') := by
  have hlook := Session.isReadingKind_onlyLooks
  rcases Operation.run_bind_eq_iff.1 h with ⟨_, hname, heq⟩ | ⟨format, w₁, hname, h⟩
  · cases heq
    cases hof : OutputFormat.ofName name <;> rw [hof] at hname <;> cases hname
    exact Or.inl ⟨isOfReading_of_ofName hof, rfl⟩
  obtain ⟨hof, rfl⟩ : OutputFormat.ofName name = .ok format ∧ w = w₁ := by
    cases hof : OutputFormat.ofName name <;> rw [hof] at hname <;> cases hname
    exact ⟨rfl, rfl⟩
  rcases Operation.run_bind_eq_iff.1 h with ⟨_, hload, heq⟩ | ⟨c, w₁, hload, h⟩
  · cases heq
    exact Or.inl ⟨failsWith_loadOrStandard config w e w' hload,
      ((hlook.loadOrStandard config fun _ _ => hlook.look _).exists_run hload rfl).1⟩
  have hfirst := ((hlook.loadOrStandard config fun _ _ => hlook.look _).exists_run hload rfl).1
  rcases Operation.run_bind_eq_iff.1 h with ⟨_, hread, heq⟩ | ⟨c, w₂, hread, h⟩
  · cases heq
    exact Or.inl ⟨failsWith_convertChecked _ file w₁ e w' hread,
      ((hlook.convertChecked _ (hlook.look _)).exists_run hread rfl).1.trans hfirst⟩
  have hsecond := ((hlook.convertChecked _ (hlook.look _)).exists_run hread rfl).1.trans hfirst
  rcases Operation.run_bind_eq_iff.1 h with ⟨_, hexport, heq⟩ | ⟨result, w₃, -, h⟩
  · cases heq
    exact Or.inr ⟨format, c, w₂, hof, hsecond, hexport⟩
  -- what is printed after the export never fails
  · rcases Operation.run_bind_eq_iff.1 h with ⟨_, hprint, -⟩ | ⟨_, w₄, -, hprint⟩
    · cases (Session.run_printLines _ w₃).symm.trans hprint
    · cases (Session.run_printLines _ w₄).symm.trans hprint

/-- **A failed conversion leaves little.** In a tree without links, a conversion that fails for
what it reads leaves the tree as it was. One that fails while it writes leaves directories on the
way to its output directory, and files for sheets directly in it. The manifest there has the
content it had; if there was none there is none, but the way to the output directory may lead
through a directory of this name, which then was made. -/
theorem tree_of_runConvert_error {file : Path} {name : Text} {config : Option Path} {e : Error}
    (hlinks : w.tree.HasNoLinks)
    (h : (Cli.runConvert file output name config : Operation Session Unit).run w =
      (.error e, w')) :
    (e.IsOfReading → w'.tree = w.tree) ∧
    (e.IsOfWriting → ∃ format, OutputFormat.ofName name = .ok format ∧
      (∀ key, w'.tree.resolve .look output = .ok (.directory key) → key = output.place) ∧
      (∀ key, LeftAt output format key (w.tree.get? key) (w'.tree.get? key)) ∧
      ∀ manifest, manifest = output.place ++ [manifestFile.text] →
        (∀ content, w'.tree.get? manifest = some (.file content) ↔
          w.tree.get? manifest = some (.file content)) ∧
        (w.tree.get? manifest = none → w'.tree.get? manifest = none ∨
          w'.tree.get? manifest = some .directory ∧ ∃ n, manifest = output.placeAfter n)) := by
  rcases exists_writeSheets_of_runConvert_error h with ⟨hreading, hsame⟩ |
    ⟨format, c, w₁, hof, hsame, hrun⟩
  · refine ⟨fun _ => hsame, fun hwriting => ?_⟩
    cases hwriting.symm.trans hreading
  have hwriting := failsWith_writeSheets _ _ _ _ w₁ e w' hrun
  constructor
  · intro hreading
    cases hwriting.symm.trans hreading
  intro _
  have hleaves := leaves_of_writeSheets_error hrun
  rw [Leaves, hsame] at hleaves
  obtain ⟨hlinks', hleft⟩ := hleaves hlinks
  refine ⟨format, hof, ?_, hleft, ?_⟩
  · intro key hkey
    exact FileTree.key_of_resolve hlinks' hkey
  rintro manifest rfl
  have hmanifest := hleft (output.place ++ [manifestFile.text])
  generalize w.tree.get? (output.place ++ [manifestFile.text]) = before at hmanifest
  generalize w'.tree.get? (output.place ++ [manifestFile.text]) = after at hmanifest
  cases hmanifest with
  | kept node => exact ⟨fun _ => Iff.rfl, Or.inl⟩
  | made n hkey => exact ⟨by simp, fun _ => Or.inr ⟨rfl, n, hkey⟩⟩
  | written hkey hname =>
    rw [List.append_cancel_left_eq, List.cons.injEq] at hkey
    exact absurd hkey.1.symm hname.ne_manifestFile

/-- A machine with one document, whose second scenario has a name that no file can have. -/
def refusedWorld : World where
  tree := FileTree.empty.insert [] "a.feature".toList (.file (Text.Utf8.encode
    "Scenario: A\nGiven x\nScenario: ..\nGiven y".toList))
  clock := .epoch
  verbosity := 0
  output := []
  errorOutput := []

theorem hasNoLinks_refusedWorld : refusedWorld.tree.HasNoLinks :=
  FileTree.hasNoLinks_of_entryKind (by decide +kernel)

/-- The first sheet is written before the name of the second is refused. -/
theorem tree_of_runConvert_error_refused :
    ∃ w', refusedWorld.tree.HasNoLinks ∧
      (Cli.runConvert (.ofString "a.feature") (.ofString "out/sub") "csv".toList none :
        Operation Session Unit).run refusedWorld =
          (.error (.invalidSheetName "..".toList), w') ∧
      (w'.tree.get? ["out".toList, "sub".toList, "A.csv".toList]).isSome = true ∧
      (∀ key, LeftAt (.ofString "out/sub") .csv key (refusedWorld.tree.get? key)
        (w'.tree.get? key)) ∧
      ∀ content, w'.tree.get? ["out".toList, "sub".toList, manifestFile.text] ≠
        some (.file content) := by
  have herror : ((Cli.runConvert (.ofString "a.feature") (.ofString "out/sub") "csv".toList none :
      Operation Session Unit).run refusedWorld).1 = .error (.invalidSheetName "..".toList) := by
    decide +kernel
  have htable : (((Cli.runConvert (.ofString "a.feature") (.ofString "out/sub") "csv".toList none :
      Operation Session Unit).run refusedWorld).2.tree.get?
        ["out".toList, "sub".toList, "A.csv".toList]).isSome = true := by
    decide +kernel
  generalize hrun : (Cli.runConvert (.ofString "a.feature") (.ofString "out/sub") "csv".toList
    none : Operation Session Unit).run refusedWorld = run at herror htable
  obtain ⟨r, w'⟩ := run
  obtain rfl : r = _ := herror
  obtain ⟨format, hof, -, hleft, hmanifest⟩ :=
    (tree_of_runConvert_error hasNoLinks_refusedWorld hrun).2 rfl
  have hcsv : OutputFormat.ofName "csv".toList = .ok .csv := by decide
  cases hof.symm.trans hcsv
  refine ⟨w', hasNoLinks_refusedWorld, rfl, htable, hleft, fun content hfile => ?_⟩
  have hbefore := ((hmanifest _ rfl).1 content).1 hfile
  have hnone : refusedWorld.tree.get?
      ((Path.ofString "out/sub").place ++ [manifestFile.text]) = none := by decide +kernel
  cases hnone.symm.trans hbefore

/-- A machine with one document in a directory. -/
def documentWorld : World where
  tree := (FileTree.empty.insert [] "r".toList .directory).insert ["r".toList] "a.feature".toList
    (.file (Text.Utf8.encode "Scenario: A\nGiven x\n".toList))
  clock := .epoch
  verbosity := 0
  output := []
  errorOutput := []

/-- A way through a directory called like the manifest is made in the output directory, and then
the manifest is refused. -/
theorem runConvert_through_manifest :
    let file : Path := .ofString "r/a.feature"
    let output : Path := .ofString "out/manifest.json/.."
    let run := (Cli.runConvert file output "csv".toList none : Operation Session Unit).run
      documentWorld
    let manifest : Key := ["out".toList, "manifest.json".toList]
    documentWorld.tree.HasNoLinks ∧ run.1 = .error (.fileSystem .isDirectory) ∧
      run.2.tree.resolve .look output = .ok (.directory ["out".toList]) ∧
      documentWorld.tree.get? manifest = none ∧
      run.2.tree.get? manifest = some .directory := by
  refine ⟨FileTree.hasNoLinks_of_entryKind (by decide +kernel), ?_, ?_, ?_, ?_⟩
  all_goals decide +kernel

end FeatureSheets
