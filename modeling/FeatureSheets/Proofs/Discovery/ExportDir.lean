import FeatureSheets.Proofs.Discovery.Found

/-!
# Directories of exports

Where the documents of a scan are exported to. The plan tells directories apart by their spelling
and gives each to one document (`planFrom_pairwise`); where a directory leads is another matter.
It leads to a place of its own below the output directory for every document but two kinds: what
is left of the file names `..feature` and `...feature` is a pair of dots, and the directory of
such a document leads one level up from where the document lies (`exportPlan_of_scan`).
-/

namespace FeatureSheets

/-! ## Where a path of segments leads -/

namespace Path

/-- All that a step up can do: it takes a name back, stays at the root, or is kept. -/
theorem stepFrom_parent_cases (way : List Component) :
    (∃ s rest, way = .name s :: rest ∧ Component.stepFrom way .parent = rest) ∨
      (way = [.root] ∧ Component.stepFrom way .parent = way) ∨
      (way ≠ [.root] ∧ Component.stepFrom way .parent = .parent :: way) := by
  cases way with
  | nil => exact .inr (.inr ⟨by simp, rfl⟩)
  | cons c rest =>
    cases c with
    | name s => exact .inl ⟨s, rest, rfl, rfl⟩
    | here => exact .inr (.inr ⟨by simp, rfl⟩)
    | parent => exact .inr (.inr ⟨by simp, rfl⟩)
    | root =>
      cases rest with
      | nil => exact .inr (.inl ⟨rfl, rfl⟩)
      | cons c rest => exact .inr (.inr ⟨by simp, rfl⟩)

/-- A step up stays within nowhere but at the root. -/
theorem isWithin_stepFrom_parent_iff (way : List Component) :
    (∃ names : List Text, (Component.stepFrom way.reverse .parent).reverse =
      way ++ names.map Component.name) ↔ way = [.root] := by
  constructor
  · rintro ⟨names, h⟩
    rcases stepFrom_parent_cases way.reverse with ⟨s, rest, hway, hstep⟩ | ⟨hway, -⟩ | ⟨-, hstep⟩
    · have hlen := congrArg List.length h
      have hrest := congrArg List.length hway
      rw [hstep, List.length_reverse, List.length_append] at hlen
      rw [List.length_reverse, List.length_cons] at hrest
      omega
    · simpa using congrArg List.reverse hway
    · rw [hstep, List.reverse_cons, List.reverse_reverse, List.append_cancel_left_eq] at h
      cases names with
      | nil => cases h
      | cons n names => cases h
  · rintro rfl
    exact ⟨[], rfl⟩

theorem lexical_join_ofSegments (base : Path) {parts : List Text}
    (h : ∀ s ∈ parts, IsSegment s) :
    (base.join (ofSegments parts)).lexical =
      ((parts.map Component.ofSegment).foldl Component.stepFrom base.lexical.reverse).reverse := by
  rw [lexical_join (isPlain_ofSegments h), components_ofSegments h]

/-- Names lead down from the place of the base. -/
theorem lexical_join_names (base : Path) {names : List Text}
    (h : ∀ n ∈ names, isName n = true) :
    (base.join (ofSegments names)).lexical = base.lexical ++ names.map Component.name := by
  rw [lexical_join_ofSegments base fun n hn => isSegment_of_isName (h n hn),
    map_ofSegment_of_isName h, foldl_stepFrom_names, List.reverse_append, List.reverse_reverse,
    List.reverse_reverse]

/-- A pair of dots after names leads up again. -/
theorem lexical_join_names_dots (base : Path) {names : List Text}
    (h : ∀ n ∈ names, isName n = true) :
    (base.join (ofSegments (names ++ [['.', '.']]))).lexical =
      (Component.stepFrom (base.lexical ++ names.map Component.name).reverse .parent).reverse := by
  have hseg : ∀ s ∈ names ++ [['.', '.']], IsSegment s := by
    intro s hs
    rcases List.mem_append.1 hs with hs | hs
    · exact isSegment_of_isName (h s hs)
    · rw [List.mem_singleton.1 hs]
      exact ⟨by decide, by decide, by decide⟩
  rw [lexical_join_ofSegments base hseg, List.map_append, List.foldl_append,
    map_ofSegment_of_isName h, foldl_stepFrom_names, List.reverse_append]
  rfl

end Path

/-! ## The directory of a document -/

/-- The file names of which a pair of dots is left when the extension is taken away. -/
def dottedNames : List Text :=
  ["..feature".toList, "...feature".toList]

namespace FeatureFile

/-- Whether a document below its root has one of these file names. -/
def IsDotted (f : FeatureFile) : Prop :=
  ∃ name ∈ dottedNames, f.relative.fileName? = some name

theorem mem_dottedNames_iff {stem : Text} :
    stem ++ '.' :: featureExtension ∈ dottedNames ↔ stem = ['.'] ∨ stem = ['.', '.'] := by
  have hone : "..feature".toList = ['.'] ++ '.' :: featureExtension := rfl
  have htwo : "...feature".toList = ['.', '.'] ++ '.' :: featureExtension := rfl
  rw [dottedNames, hone, htwo, List.mem_cons, List.mem_singleton, List.append_left_inj,
    List.append_left_inj]

theorem not_mem_of_mem_dottedNames {name : Text} (h : name ∈ dottedNames) : '/' ∉ name := by
  revert name
  decide

/-- A document without its extension is a path of names, or has one of the dotted names and ends
in a pair of dots. -/
theorem IsPlaced.withoutExtension_cases {f : FeatureFile} (h : f.IsPlaced) :
    (¬f.IsDotted ∧ f.relative.text ∉ dottedNames ∧ ∃ names : List Text,
      (∀ n ∈ names, isName n = true) ∧
        f.relative.withoutExtension = Path.ofSegments names) ∨
    (f.IsDotted ∧ ∃ dirs : List Text, (∀ d ∈ dirs, isName d = true) ∧
      f.relative.withoutExtension = Path.ofSegments (dirs ++ [['.', '.']]) ∧
        (f.relative.text ∈ dottedNames ↔ dirs = [])) := by
  rcases h with hrel | ⟨dirs, hdirs, hname, hne, hrel⟩
  · rw [IsDotted, hrel]
    exact .inl ⟨by decide, by decide, [], by simp, rfl⟩
  · have hseg : ∀ d ∈ dirs, IsSegment d := fun d hd => isSegment_of_isName (hdirs d hd)
    have hall : ∀ s ∈ dirs ++ [f.stem ++ '.' :: featureExtension], IsSegment s := by
      intro s hs
      rcases List.mem_append.1 hs with hs | hs
      · exact hseg s hs
      · exact List.mem_singleton.1 hs ▸ isSegment_of_isName hname
    have hfile : f.relative.fileName? = some (f.stem ++ '.' :: featureExtension) := by
      rw [hrel]
      exact Path.fileName?_of_segments (Path.segments_ofSegments (by simp) hall) hname
    have hdotted : f.IsDotted ↔ f.stem = ['.'] ∨ f.stem = ['.', '.'] := by
      rw [← mem_dottedNames_iff, IsDotted, hfile]
      simp
    have hwithout := Path.withoutExtension_ofSegments hseg hname hne (by decide)
    rw [← hrel] at hwithout
    -- a slash sets a document that lies deeper apart from the dotted names
    have htop : f.relative.text ∈ dottedNames ↔ dirs = [] ∧ f.IsDotted := by
      by_cases hd : dirs = []
      · rw [hrel, hdotted, ← mem_dottedNames_iff, hd]
        simp [Path.ofSegments]
      · refine ⟨fun hmem => absurd ?_ (not_mem_of_mem_dottedNames hmem), fun h => absurd h.1 hd⟩
        rw [hrel, Path.ofSegments, Text.joinWith_append_singleton hd]
        simp
    by_cases hdot : f.IsDotted
    · refine .inr ⟨hdot, dirs, hdirs, ?_, by simp [htop, hdot]⟩
      rcases hdotted.1 hdot with hstem | hstem <;> simpa [hstem] using hwithout
    · refine .inl ⟨hdot, by simp [htop, hdot], dirs ++ [f.stem], fun n hn => ?_, ?_⟩
      · rcases List.mem_append.1 hn with hn | hn
        · exact hdirs n hn
        · rw [List.mem_singleton.1 hn, isName_iff]
          obtain ⟨-, -, -, hslash, hnul⟩ := isName_iff.1 hname
          exact ⟨hne, fun h => hdot (hdotted.2 (.inl h)), fun h => hdot (hdotted.2 (.inr h)),
            fun h => hslash (by simp [h]), fun h => hnul (by simp [h])⟩
      · rw [hwithout, if_neg fun h => hdot (hdotted.2 (.inl h))]

/-- A document is exported into the output directory, or that is the root, or it is a document of
a dotted name right below the root of its scan. -/
theorem IsPlaced.isWithin_exportDir_iff {f : FeatureFile} (h : f.IsPlaced) (base : Path) :
    base.IsWithin (f.exportDir base) ↔
      (f.relative.text ∈ dottedNames → base.lexical = [.root]) := by
  rw [exportDir, Path.IsWithin]
  rcases h.withoutExtension_cases with ⟨-, htop, names, hnames, hrel⟩ |
    ⟨-, dirs, hdirs, hrel, htop⟩
  · rw [hrel, Path.lexical_join_names base hnames]
    exact ⟨fun _ h => absurd h htop, fun _ => ⟨names, rfl⟩⟩
  · rw [hrel, htop, Path.lexical_join_names_dots base hdirs]
    rcases List.eq_nil_or_concat' dirs with rfl | ⟨above, own, rfl⟩
    · rw [List.map_nil, List.append_nil, Path.isWithin_stepFrom_parent_iff]
      simp
    · refine ⟨fun _ h => absurd h (by simp), fun _ => ⟨above, ?_⟩⟩
      simp [Component.stepFrom]

/-- Documents without a dotted name are exported to different places, or to directories of one
spelling. -/
theorem IsPlaced.exportDir_eq {f g : FeatureFile} {base : Path} (hf : f.IsPlaced)
    (hg : g.IsPlaced) (hfd : ¬f.IsDotted) (hgd : ¬g.IsDotted)
    (h : (f.exportDir base).lexical = (g.exportDir base).lexical) :
    f.exportDir base = g.exportDir base := by
  rcases hf.withoutExtension_cases with ⟨-, -, names, hnames, hrel⟩ | ⟨hdot, -⟩
  · rcases hg.withoutExtension_cases with ⟨-, -, names', hnames', hrel'⟩ | ⟨hdot, -⟩
    · rw [exportDir, exportDir, hrel, hrel', Path.lexical_join_names base hnames,
        Path.lexical_join_names base hnames', List.append_cancel_left_eq] at h
      have hinj : Function.Injective Component.name := fun _ _ => Component.name.inj
      rw [exportDir, exportDir, hrel, hrel', List.map_injective_iff.2 hinj h]
    · exact absurd hdot hgd
  · exact absurd hdot hfd

end FeatureFile

/-! ## The plan -/

namespace Discovery

/-- A document that gets a directory is one of the list, and nobody before it has the directory. -/
theorem planFrom_ok {base dir : Path} {claimed : List (Text × Path)} {l : List FeatureFile}
    {x : FeatureFile × Except Error Path} (h : x ∈ planFrom base claimed l)
    (hdir : x.2 = .ok dir) :
    x.1 ∈ l ∧ dir = x.1.exportDir base ∧ claimed.lookup (claimKey dir) = none := by
  induction l generalizing claimed with
  | nil => cases h
  | cons g l ih =>
    rw [planFrom] at h
    split at h
    · rcases List.mem_cons.1 h with rfl | h
      · cases hdir
      · obtain ⟨hmem, heq, hfree⟩ := ih h
        exact ⟨by simp [hmem], heq, hfree⟩
    · rename_i hfree
      rcases List.mem_cons.1 h with rfl | h
      · cases hdir
        exact ⟨by simp, rfl, hfree⟩
      · obtain ⟨hmem, heq, hlookup⟩ := ih h
        refine ⟨by simp [hmem], heq, ?_⟩
        rw [List.lookup_cons] at hlookup
        split at hlookup
        · cases hlookup
        · exact hlookup

/-- No two documents get directories whose spellings agree in lower case. -/
theorem planFrom_pairwise (base : Path) (claimed : List (Text × Path)) (l : List FeatureFile) :
    (planFrom base claimed l).Pairwise fun x y => ∀ dir dir', x.2 = .ok dir → y.2 = .ok dir' →
      claimKey dir ≠ claimKey dir' := by
  induction l generalizing claimed with
  | nil => exact .nil
  | cons g l ih =>
    rw [planFrom]
    split
    · exact .cons (fun y _ dir dir' h => nomatch h) (ih claimed)
    · refine .cons (fun y hy dir dir' hdir hdir' heq => ?_) (ih _)
      have hfree := (planFrom_ok hy hdir').2.2
      rw [List.lookup_cons, ← heq, ← Except.ok.inj hdir, beq_self_eq_true] at hfree
      cases hfree

/-- Every document of a scan that gets a directory is exported into the output directory unless
it has a dotted name and lies right below its root, and no two of them are exported to the same
place unless one of them has a dotted name. -/
theorem exportPlan_of_scan {w w' : World} {roots : List Path} {d : Discovery}
    (hscan : (scan roots : Operation Session Discovery).run w = (.ok d, w')) (base : Path) :
    (∀ f dir, (f, .ok dir) ∈ d.exportPlan base →
      (base.IsWithin dir ↔ (f.relative.text ∈ dottedNames → base.lexical = [.root]))) ∧
    (d.exportPlan base).Pairwise fun x y => ∀ dir dir', x.2 = .ok dir → y.2 = .ok dir' →
      dir.lexical = dir'.lexical → x.1.IsDotted ∨ y.1.IsDotted := by
  have hplaced := isPlaced_of_scan hscan
  constructor
  · intro f dir h
    obtain ⟨hmem, hdir, -⟩ := planFrom_ok h rfl
    rw [hdir]
    exact (hplaced f hmem).isWithin_exportDir_iff base
  · refine (planFrom_pairwise base [] d.features).imp_of_mem ?_
    intro x y hx hy hapart dir dir' hdir hdir' hlex
    obtain ⟨hxmem, hxdir, -⟩ := planFrom_ok hx hdir
    obtain ⟨hymem, hydir, -⟩ := planFrom_ok hy hdir'
    by_contra hdotted
    obtain ⟨hxd, hyd⟩ := not_or.1 hdotted
    rw [hxdir, hydir] at hlex
    have heq := (hplaced _ hxmem).exportDir_eq (hplaced _ hymem) hxd hyd hlex
    exact hapart dir dir' hdir hdir' (by rw [hxdir, hydir, heq])

/-- A machine with three documents in a directory `r`, two of them with a dotted name. -/
def dottedWorld : World where
  tree :=
    let r := "r".toList
    let a := "a".toList
    let b := "b".toList
    let dotted := "...feature".toList
    let below := FileTree.empty.insert [] r .directory
    let below := (below.insert [r] dotted (.file [])).insert [r] a .directory
    let below := (below.insert [r, a] b .directory).insert [r, a, b] dotted (.file [])
    below.insert [r] "a.feature".toList (.file [])
  clock := .epoch
  verbosity := 0
  output := []
  errorOutput := []

/-- The documents of this machine. -/
def dottedScan : Discovery where
  roots := [.ofString "r"]
  features := [
    ⟨.ofString "r/...feature", "..".toList, .ofString "...feature"⟩,
    ⟨.ofString "r/a/b/...feature", "..".toList, .ofString "a/b/...feature"⟩,
    ⟨.ofString "r/a.feature", "a".toList, .ofString "a.feature"⟩]
  skipped := 0

theorem run_scan_dotted :
    ∃ w', (scan [.ofString "r"] : Operation Session Discovery).run dottedWorld =
      (.ok dottedScan, w') := by
  have hwalk : ((walkRoots [.ofString "r"] : Operation Session _).run dottedWorld).1 =
      .ok (dottedScan.features, 0) := by decide +kernel
  have harrange : arrange dottedScan.features = dottedScan.features := by
    rw [arrange_of_pairwise (by decide)]
    decide
  refine ⟨_, run_scan_eq_ok_iff.2 ⟨dottedScan.features, 0, Prod.ext hwalk rfl, ?_⟩⟩
  rw [harrange]
  rfl

theorem exportPlan_of_scan_dotted :
    ∃ w', (scan [.ofString "r"] : Operation Session Discovery).run dottedWorld =
      (.ok dottedScan, w') ∧
    (∀ f dir, (f, .ok dir) ∈ dottedScan.exportPlan (.ofString "out") →
      ((Path.ofString "out").IsWithin dir ↔
        (f.relative.text ∈ dottedNames → (Path.ofString "out").lexical = [.root]))) ∧
    (dottedScan.exportPlan (.ofString "out")).Pairwise fun x y => ∀ dir dir',
      x.2 = .ok dir → y.2 = .ok dir' → dir.lexical = dir'.lexical →
        x.1.IsDotted ∨ y.1.IsDotted := by
  obtain ⟨w', hscan⟩ := run_scan_dotted
  exact ⟨w', hscan, exportPlan_of_scan hscan _⟩

/-- With dotted names, a document may be exported out of the output directory, and two documents
to one place in it. -/
theorem exportPlan_dotted :
    (∃ w', (scan [.ofString "r"] : Operation Session Discovery).run dottedWorld =
      (.ok dottedScan, w')) ∧
    ∃ top deep plain : FeatureFile, ∃ topDir deepDir plainDir : Path,
      dottedScan.exportPlan (.ofString "out") =
        [(top, .ok topDir), (deep, .ok deepDir), (plain, .ok plainDir)] ∧
      ¬(Path.ofString "out").IsWithin topDir ∧ deepDir.lexical = plainDir.lexical := by
  refine ⟨run_scan_dotted, _, _, _, .ofString "out/..", .ofString "out/a/b/..",
    .ofString "out/a", rfl, ?_, by decide⟩
  rintro ⟨names, h⟩
  have htop : (Path.ofString "out/..").lexical = [] := by decide
  have hout : (Path.ofString "out").lexical = [.name "out".toList] := by decide
  rw [htop, hout] at h
  cases h

end Discovery

end FeatureSheets
