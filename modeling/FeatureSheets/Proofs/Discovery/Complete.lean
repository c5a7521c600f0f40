import FeatureSheets.Proofs.Discovery.Order
import FeatureSheets.Proofs.Discovery.Walk

/-!
# Complete scans

A scan of a tree without links finds every document that its roots hold, once each
(`scan_is_complete`). The walk from one root meets the documents at that root, each with what is
left of its path (`mem_featuresOf_iff`); the roots come one after another, and a document stays with
the first root that it is at (`mem_arrange_flatMap_iff`). Only a directory that is refused keeps
documents away: a walk cannot open it by a path that is too long (`scan_of_longRoot`). Such
directories are passed over, and a scan counts them (`CountsRefused`).
-/

namespace FeatureSheets

namespace Path

/-- The file name of a path is its last component, if that is a name. -/
theorem fileName?_eq_some_iff {p : Path} {name : Text} :
    p.fileName? = some name ↔ p.components.getLast? = some (.name name) := by
  obtain ⟨start, hstart, hcomps⟩ := p.exists_components_eq
  rw [hcomps, fileName?, nameParts?]
  generalize p.segments = segments
  -- from the end: a segment that is left out changes neither side, any other one decides both
  induction segments using List.reverseRecOn with
  | nil => rcases hstart with rfl | rfl | rfl <;> simp
  | append_singleton segments s ih =>
    rw [List.reverse_append, List.reverse_singleton, List.singleton_append, List.filterMap_append,
      ← List.append_assoc]
    rcases FileTree.segment_cases s with ⟨hstay, hs⟩ | rfl | ⟨hstay, hup, hs⟩
    · rw [List.dropWhile_cons_of_pos (by simpa using hstay), List.filterMap_cons_none hs]
      simpa using ih
    · simp [Component.ofSegment?]
    · rw [List.dropWhile_cons_of_neg (by simpa using hstay), List.filterMap_cons_some hs]
      simp [hup]

end Path

/-- A document that is found from a root: the file is there, its name is the stem with the
extension behind, and the path below the root is what is left of its path without the root. -/
structure FeatureFile.IsFoundFrom (t : FileTree) (root : Path) (f : FeatureFile) : Prop where
  /-- The root is the file, or the file is below it. -/
  file : t.HasFileAt root f.path
  /-- The file is a document. -/
  fileName : f.path.fileName? = some (f.stem ++ '.' :: featureExtension)
  /-- Something stands before the extension. -/
  stem_ne_nil : f.stem ≠ []
  /-- The root is taken off. -/
  relative : Path.below? root f.path = some f.relative

/-- Whether `n` is the number of directories below roots that are refused, counted from each root
anew. -/
def FileTree.CountsRefused (t : FileTree) (roots : List Path) (n : Nat) : Prop :=
  ∃ refused : Path → List Path,
    (∀ root ∈ roots, (refused root).Nodup ∧ ∀ q, q ∈ refused root ↔ t.HasRefusedAt root q) ∧
    n = (roots.map fun root => (refused root).length).sum

theorem FileTree.CountsRefused.eq_zero_iff {t : FileTree} {roots : List Path} {n : Nat}
    (h : t.CountsRefused roots n) :
    n = 0 ↔ ∀ root ∈ roots, ∀ q, ¬t.HasRefusedAt root q := by
  obtain ⟨refused, hrefused, rfl⟩ := h
  rw [List.sum_eq_zero_iff_forall_eq_nat, List.forall_mem_map]
  refine forall₂_congr fun root hroot => ?_
  rw [List.length_eq_zero_iff, List.eq_nil_iff_forall_not_mem]
  simp only [(hrefused root hroot).2]

theorem FileTree.CountsRefused.eq_of_perm {t t' : FileTree} {roots : List Path} {n n' : Nat}
    (h : t.CountsRefused roots n) (h' : t'.CountsRefused roots n')
    (hperm : t.nodes.Perm t'.nodes) : n = n' := by
  obtain ⟨refused, hrefused, rfl⟩ := h
  obtain ⟨refused', hrefused', rfl⟩ := h'
  refine congrArg List.sum (List.map_congr_left fun root hroot => List.Perm.length_eq ?_)
  rw [List.perm_ext_iff_of_nodup (hrefused root hroot).1 (hrefused' root hroot).1]
  intro q
  rw [(hrefused root hroot).2, (hrefused' root hroot).2, hasRefusedAt_iff_of_perm hperm]

namespace Discovery

variable {t : FileTree} {root q : Path} {f g : FeatureFile}

/-- Names lead down to a file from its root. -/
theorem isReached_of_hasFileAt (h : t.HasFileAt root q) : IsReached root q := by
  rcases h with ⟨-, rfl⟩ | ⟨key, -, dirs, name, content, hget, -, rfl⟩
  · exact .refl _
  · exact ⟨dirs ++ [name], FileTree.isName_of_get?_append hget, rfl⟩

/-- From one root there is one document at a place. -/
theorem eq_of_isFoundFrom (hf : f.IsFoundFrom t root) (hg : g.IsFoundFrom t root)
    (hsame : f.path.same g.path = true) : f = g := by
  have hpath : f.path = g.path := by
    obtain ⟨names, hnames, hfpath⟩ := isReached_of_hasFileAt hf.file
    obtain ⟨names', hnames', hgpath⟩ := isReached_of_hasFileAt hg.file
    rw [Path.same_iff, hfpath, hgpath] at hsame
    rw [hfpath, hgpath, Path.eq_of_components_descend root hnames hnames' hsame]
  have hstem : f.stem = g.stem := by
    have hnames := hf.fileName.symm.trans (hpath ▸ hg.fileName)
    exact List.append_cancel_right (Option.some.inj hnames)
  have hrelative : f.relative = g.relative :=
    Option.some.inj (hf.relative.symm.trans (hpath ▸ hg.relative))
  cases f
  cases g
  cases hpath
  cases hstem
  cases hrelative
  rfl

/-- The documents of a walk are those that are found from its root. -/
theorem mem_featuresOf_iff {finds : List Find} (hfinds : ∀ q, .ok q ∈ finds ↔ t.HasFileAt root q) :
    f ∈ featuresOf root finds ↔ f.IsFoundFrom t root := by
  rw [featuresOf, List.mem_filterMap]
  constructor
  · rintro ⟨find, hfind, hf⟩
    cases find with
    | error fault => cases hf
    | ok q =>
      have hfile := (hfinds q).1 hfind
      obtain ⟨names, hnames, hq⟩ := isReached_of_hasFileAt hfile
      have hbelow : Path.below? root q = some (Path.ofSegments names) :=
        hq ▸ Path.below?_descend root hnames
      dsimp only at hf
      rw [FeatureFile.ofPath?, hbelow, Option.getD_some] at hf
      split at hf
      · rename_i hext
        obtain ⟨stem, hstem, rfl⟩ := Option.map_eq_some_iff.1 hf
        obtain ⟨name, hname, hext⟩ := Option.bind_eq_some_iff.1 hext
        rw [Path.stem?, hname, Option.map_some, Option.some_inj] at hstem
        obtain ⟨hsplit, hne, -⟩ := Path.splitName_eq_some_iff.1 (Prod.ext hstem hext)
        exact ⟨hfile, hsplit ▸ hname, hne, hbelow⟩
      · cases hf
  · rintro ⟨hfile, hname, hne, hrelative⟩
    refine ⟨.ok f.path, (hfinds _).2 hfile, ?_⟩
    have hsplit : Path.splitName (f.stem ++ '.' :: featureExtension) =
        (f.stem, some featureExtension) := Path.splitName_append_dot hne (by decide)
    dsimp only
    rw [FeatureFile.ofPath?, Path.extension?, Path.stem?, hname, Option.bind_some, hsplit,
      if_pos rfl, Option.map_some, Option.map_some, hsplit, hrelative]
    rfl

/-! ## Roots one after another -/

/-- Where each place has one document at most, a document is the first at its place. -/
theorem firstAt?_of_mem {l : List FeatureFile}
    (hunique : ∀ f ∈ l, ∀ g ∈ l, f.path.same g.path = true → f = g) (hf : f ∈ l) :
    firstAt? l f.path = some f := by
  cases hfirst : firstAt? l f.path with
  | none =>
    have hself := firstAt?_eq_none_iff.1 hfirst f hf
    rw [Path.same_self] at hself
    cases hself
  | some g =>
    obtain ⟨hg, hsame⟩ := mem_of_firstAt? hfirst
    rw [hunique g hg f hf hsame]

/-- The documents of all roots are arranged to the first of each place, root by root. -/
theorem mem_arrange_flatMap_iff {documents : Path → List FeatureFile} {roots : List Path}
    (hunique : ∀ root ∈ roots, ∀ f ∈ documents root, ∀ g ∈ documents root,
      f.path.same g.path = true → f = g) :
    f ∈ arrange (roots.flatMap documents) ↔ ∃ before root after, roots = before ++ root :: after ∧
      f ∈ documents root ∧ ∀ r ∈ before, ∀ g ∈ documents r, g.path.same f.path = false := by
  rw [(arrange_spec _).2]
  induction roots with
  | nil => simp [firstAt?]
  | cons root roots ih =>
    rw [List.forall_mem_cons] at hunique
    rw [List.flatMap_cons, firstAt?_append]
    constructor
    · intro hfirst
      rcases Option.or_eq_some_iff.1 hfirst with hroot | ⟨hroot, hlater⟩
      · exact ⟨[], root, roots, rfl, (mem_of_firstAt? hroot).1, by simp⟩
      · obtain ⟨before, r, after, rfl, hf, hbefore⟩ := (ih hunique.2).1 hlater
        refine ⟨root :: before, r, after, rfl, hf, ?_⟩
        rw [List.forall_mem_cons]
        exact ⟨firstAt?_eq_none_iff.1 hroot, hbefore⟩
    · rintro ⟨before, r, after, heq, hf, hbefore⟩
      cases before with
      | nil =>
        obtain ⟨rfl, rfl⟩ := List.cons.inj heq
        rw [firstAt?_of_mem hunique.1 hf]
        rfl
      | cons first before =>
        obtain ⟨rfl, rfl⟩ := List.cons.inj heq
        rw [List.forall_mem_cons] at hbefore
        rw [firstAt?_eq_none_iff.2 hbefore.1, Option.none_or]
        exact (ih hunique.2).2 ⟨before, r, after, rfl, hf, hbefore.2⟩

section

variable {w : World} {roots : List Path}

/-- What the walk from a root meets; nothing where the root is not there. -/
def findsOf (w : World) (root : Path) : List Find :=
  ((walkRoot root : Operation Session (List Find)).run w).1.toOption.getD []

/-- The walk from a root that is there comes to a result, which tells what is at the root. -/
theorem findsOf_spec (hlinks : w.tree.HasNoLinks) (hroot : ∃ kind, w.tree.kind root = .ok kind) :
    ((walkRoot root : Operation Session _).run w).1 = .ok (findsOf w root) ∧
      Tells (w.tree.MeetsFrom root) (findsOf w root) := by
  obtain ⟨kind, hkind⟩ := hroot
  obtain ⟨finds, hwalk, hspec⟩ := exists_walkRoot hlinks hkind
  have hfinds : findsOf w root = finds := by
    rw [findsOf, hwalk]
    rfl
  rw [hfinds]
  exact ⟨hwalk, hspec⟩

/-- The documents that are found from a root. -/
def documentsAt (w : World) (root : Path) : List FeatureFile :=
  featuresOf root (findsOf w root)

theorem mem_documentsAt_iff (hlinks : w.tree.HasNoLinks)
    (hroot : ∃ kind, w.tree.kind root = .ok kind) :
    f ∈ documentsAt w root ↔ f.IsFoundFrom w.tree root :=
  mem_featuresOf_iff fun _ => (findsOf_spec hlinks hroot).2.ok_mem_iff

theorem fst_walkRoots_of_ok (hlinks : w.tree.HasNoLinks)
    (h : ∀ root ∈ roots, ∃ kind, w.tree.kind root = .ok kind) :
    ((walkRoots roots : Operation Session _).run w).1 = .ok (roots.flatMap (documentsAt w),
      (roots.map fun root => (skipNotes root (findsOf w root)).length).sum) := by
  induction roots with
  | nil => rfl
  | cons root roots ih =>
    rw [List.forall_mem_cons] at h
    rw [fst_walkRoots_cons (findsOf_spec hlinks h.1).1, ih h.2]
    rfl

/-- A scan of roots that are there comes to a result. -/
theorem fst_scan_of_ok (hlinks : w.tree.HasNoLinks)
    (h : ∀ root ∈ roots, ∃ kind, w.tree.kind root = .ok kind) :
    ((scan roots : Operation Session Discovery).run w).1 =
      .ok ⟨roots, arrange (roots.flatMap (documentsAt w)),
        .ofNat (roots.map fun root => (skipNotes root (findsOf w root)).length).sum⟩ := by
  rw [fst_scan, fst_walkRoots_of_ok hlinks h]
  rfl

/-- The first root that is not there ends the scan. -/
theorem fst_scan_of_missing (hlinks : w.tree.HasNoLinks) {before after : List Path}
    {fault : FileFault} (hbefore : ∀ r ∈ before, ∃ kind, w.tree.kind r = .ok kind)
    (hroot : w.tree.kind root = .error fault) :
    ((scan (before ++ root :: after) : Operation Session Discovery).run w).1 =
      .error (.walk (.unreadable root fault)) := by
  have hwalk : ((walkRoots (before ++ root :: after) : Operation Session _).run w).1 =
      .error (.walk (.unreadable root fault)) := by
    induction before with
    | nil => exact fst_walkRoots_of_error (walkRoot_of_error hroot)
    | cons r before ih =>
      rw [List.forall_mem_cons] at hbefore
      rw [List.cons_append, fst_walkRoots_cons (findsOf_spec hlinks hbefore.1).1, ih hbefore.2]
      rfl
  rw [fst_scan, hwalk]
  rfl

theorem exists_first_missing (t : FileTree)
    (h : ∃ root ∈ roots, ∀ kind, t.kind root ≠ .ok kind) :
    ∃ before root after fault, roots = before ++ root :: after ∧
      (∀ r ∈ before, ∃ kind, t.kind r = .ok kind) ∧ t.kind root = .error fault := by
  induction roots with
  | nil =>
    obtain ⟨root, hmem, -⟩ := h
    cases hmem
  | cons r roots ih =>
    cases hkind : t.kind r with
    | error fault => exact ⟨[], r, roots, fault, rfl, by simp, hkind⟩
    | ok kind =>
      obtain ⟨root, hmem, hmissing⟩ := h
      have hlater : root ∈ roots := by
        refine (List.mem_cons.1 hmem).resolve_left ?_
        rintro rfl
        exact hmissing kind hkind
      obtain ⟨before, root, after, fault, rfl, hbefore, hroot⟩ := ih ⟨root, hlater, hmissing⟩
      refine ⟨r :: before, root, after, fault, rfl, ?_, hroot⟩
      rw [List.forall_mem_cons]
      exact ⟨⟨kind, hkind⟩, hbefore⟩

end

/-- Whether a scan of roots is complete: it found each document at its first root, and nothing
else. -/
structure IsComplete (t : FileTree) (roots : List Path) (d : Discovery) : Prop where
  /-- The roots are told. -/
  roots_eq : d.roots = roots
  /-- The documents are in strict order. -/
  increasing : d.features.Pairwise Precedes
  /-- Every file that can be met and has the name of a document is found. -/
  found : ∀ root ∈ roots, ∀ q stem, t.HasFileAt root q →
    q.fileName? = some (stem ++ '.' :: featureExtension) → stem ≠ [] →
    ∃ f ∈ d.features, f.path.same q = true
  /-- What is found is found from the first root that the file is at. -/
  mem_iff : ∀ f, f ∈ d.features ↔ ∃ before root after, roots = before ++ root :: after ∧
    f.IsFoundFrom t root ∧ ∀ r ∈ before, ∀ q, t.HasFileAt r q → q.same f.path = false
  /-- What is passed over is counted, and is nothing if and only if no directory is refused. -/
  skipped : ∃ n, t.CountsRefused roots n ∧ d.skipped = .ofNat n ∧
    (n = 0 ↔ ∀ root ∈ roots, ∀ q, ¬t.HasRefusedAt root q)

/-- A document that a root has, at the place of a path that has the name of a document. -/
theorem exists_isFoundFrom {q : Path} {stem : Text} (hfile : t.HasFileAt root q)
    (hname : q.fileName? = some (stem ++ '.' :: featureExtension)) (hne : stem ≠ []) :
    ∃ f : FeatureFile, f.IsFoundFrom t root ∧ f.path = q := by
  obtain ⟨names, hnames, hq⟩ := isReached_of_hasFileAt hfile
  exact ⟨⟨q, stem, Path.ofSegments names⟩,
    ⟨hfile, hname, hne, hq ▸ Path.below?_descend root hnames⟩, rfl⟩

/-- There is a note for everything that was passed over. -/
theorem length_skipNotes (root : Path) (finds : List Find) :
    (skipNotes root finds).length = (passedOver finds).length := by
  rw [skipNotes, List.length_filterMap_eq_countP, passedOver, List.length_map,
    ← List.countP_eq_length_filter]
  apply List.countP_congr
  intro find _
  cases find <;> simp [Except.isOk, Except.toBool]

section

variable {w : World} {roots : List Path} (hlinks : w.tree.HasNoLinks)
  (hroots : ∀ root ∈ roots, ∃ kind, w.tree.kind root = .ok kind)

include hlinks hroots

theorem unique_documentsAt : ∀ root ∈ roots, ∀ f ∈ documentsAt w root, ∀ g ∈ documentsAt w root,
    f.path.same g.path = true → f = g := by
  intro root hroot f hf g hg
  rw [mem_documentsAt_iff hlinks (hroots root hroot)] at hf hg
  exact eq_of_isFoundFrom hf hg

theorem isComplete_scan :
    IsComplete w.tree roots ⟨roots, arrange (roots.flatMap (documentsAt w)),
      .ofNat (roots.map fun root => (skipNotes root (findsOf w root)).length).sum⟩ := by
  refine ⟨rfl, (arrange_spec _).1, ?_, fun f => ?_, ?_⟩
  · intro root hroot q stem hfile hname hne
    obtain ⟨f, hf, rfl⟩ := exists_isFoundFrom hfile hname hne
    exact exists_mem_arrange (List.mem_flatMap.2
      ⟨root, hroot, (mem_documentsAt_iff hlinks (hroots root hroot)).2 hf⟩)
  · rw [mem_arrange_flatMap_iff (unique_documentsAt hlinks hroots)]
    constructor
    · rintro ⟨before, root, after, rfl, hf, hbefore⟩
      rw [List.forall_mem_append, List.forall_mem_cons] at hroots
      have hf := (mem_documentsAt_iff hlinks hroots.2.1).1 hf
      refine ⟨before, root, after, rfl, hf, fun r hr q hfile => ?_⟩
      rw [Bool.eq_false_iff]
      intro hsame
      -- another file at the place of the document would be a document, too
      have hname : q.fileName? = some (f.stem ++ '.' :: featureExtension) := by
        rw [Path.fileName?_eq_some_iff, Path.same_iff.1 hsame, ← Path.fileName?_eq_some_iff]
        exact hf.fileName
      obtain ⟨g, hg, rfl⟩ := exists_isFoundFrom hfile hname hf.stem_ne_nil
      have hother := hbefore r hr g ((mem_documentsAt_iff hlinks (hroots.1 r hr)).2 hg)
      rw [hsame] at hother
      cases hother
    · rintro ⟨before, root, after, rfl, hf, hbefore⟩
      rw [List.forall_mem_append, List.forall_mem_cons] at hroots
      refine ⟨before, root, after, rfl, (mem_documentsAt_iff hlinks hroots.2.1).2 hf, ?_⟩
      intro r hr g hg
      exact hbefore r hr g.path ((mem_documentsAt_iff hlinks (hroots.1 r hr)).1 hg).file
  · have hcount : w.tree.CountsRefused roots
        (roots.map fun root => (skipNotes root (findsOf w root)).length).sum := by
      refine ⟨fun root => passedOver (findsOf w root), fun root hroot => ?_, ?_⟩
      · have htells := (findsOf_spec hlinks (hroots root hroot)).2
        exact ⟨htells.nodup_passedOver, fun q => htells.mem_passedOver_iff⟩
      · simp only [length_skipNotes]
    exact ⟨_, hcount, rfl, hcount.eq_zero_iff⟩

end

/-! ## Complete scans -/

variable {roots roots' : List Path} {d d' : Discovery}

/-- The places of a complete scan are those of the documents that the roots have. -/
theorem IsComplete.mem_map_components_iff (h : d.IsComplete t roots) {cs : List Component} :
    cs ∈ d.features.map (·.path.components) ↔
      ∃ root ∈ roots, ∃ f : FeatureFile, f.IsFoundFrom t root ∧ f.path.components = cs := by
  rw [List.mem_map]
  constructor
  · rintro ⟨f, hf, rfl⟩
    obtain ⟨before, root, after, rfl, hfound, -⟩ := (h.mem_iff f).1 hf
    exact ⟨root, by simp, f, hfound, rfl⟩
  · rintro ⟨root, hroot, f, hfound, rfl⟩
    obtain ⟨g, hg, hsame⟩ :=
      h.found root hroot f.path f.stem hfound.file hfound.fileName hfound.stem_ne_nil
    exact ⟨g, hg, Path.same_iff.1 hsame⟩

/-- Neither the order of the roots nor how often they are given changes the places. -/
theorem IsComplete.map_components_eq (h : d.IsComplete t roots) (h' : d'.IsComplete t roots')
    (hroots : ∀ r, r ∈ roots ↔ r ∈ roots') :
    d.features.map (·.path.components) = d'.features.map (·.path.components) := by
  apply Discovery.map_components_eq h.increasing h'.increasing
  intro cs
  rw [h.mem_map_components_iff, h'.mem_map_components_iff]
  simp only [hroots]

theorem isFoundFrom_iff_of_perm {t' : FileTree} (h : t.nodes.Perm t'.nodes) :
    f.IsFoundFrom t root ↔ f.IsFoundFrom t' root := by
  have hfile : t.HasFileAt root f.path ↔ t'.HasFileAt root f.path :=
    FileTree.hasFileAt_iff_of_perm h
  exact ⟨fun hf => ⟨hfile.1 hf.file, hf.fileName, hf.stem_ne_nil, hf.relative⟩,
    fun hf => ⟨hfile.2 hf.file, hf.fileName, hf.stem_ne_nil, hf.relative⟩⟩

/-- The order in which directories list their entries does not change the documents. -/
theorem IsComplete.features_eq_of_perm {t' : FileTree} (h : d.IsComplete t roots)
    (h' : d'.IsComplete t' roots) (hperm : t.nodes.Perm t'.nodes) :
    d.features = d'.features := by
  apply h.increasing.eq_of_mem_iff h'.increasing
  intro f
  rw [h.mem_iff, h'.mem_iff]
  simp only [isFoundFrom_iff_of_perm hperm, FileTree.hasFileAt_iff_of_perm hperm]

/-- A tree has one complete scan of given roots, in whatever order its nodes are listed. -/
theorem IsComplete.eq_of_perm {t' : FileTree} (h : d.IsComplete t roots)
    (h' : d'.IsComplete t' roots) (hperm : t.nodes.Perm t'.nodes) : d = d' := by
  obtain ⟨n, hn, hskipped, -⟩ := h.skipped
  obtain ⟨n', hn', hskipped', -⟩ := h'.skipped
  obtain rfl := hn.eq_of_perm hn' hperm
  have hroots := h.roots_eq.trans h'.roots_eq.symm
  have hfeatures := h.features_eq_of_perm h' hperm
  cases d
  cases d'
  cases hroots
  cases hfeatures
  cases hskipped
  cases hskipped'
  rfl

/-- The order in which directories list their entries does not change what a scan comes to. -/
theorem fst_scan_eq_of_perm {w v : World} (hlinks : w.tree.HasNoLinks)
    (hperm : w.tree.nodes.Perm v.tree.nodes) (roots : List Path) :
    ((scan roots : Operation Session Discovery).run v).1 =
      ((scan roots : Operation Session Discovery).run w).1 := by
  have hlinks' : v.tree.HasNoLinks := by
    intro key target
    rw [← FileTree.get?_eq_of_perm hperm]
    exact hlinks key target
  by_cases hroots : ∀ root ∈ roots, ∃ kind, w.tree.kind root = .ok kind
  · have hroots' : ∀ root ∈ roots, ∃ kind, v.tree.kind root = .ok kind := by
      intro root hroot
      rw [← FileTree.kind_eq_of_perm hperm]
      exact hroots root hroot
    rw [fst_scan_of_ok hlinks hroots, fst_scan_of_ok hlinks' hroots',
      (isComplete_scan hlinks hroots).eq_of_perm (isComplete_scan hlinks' hroots') hperm]
  · simp only [not_forall, not_exists, exists_prop] at hroots
    obtain ⟨before, root, after, fault, rfl, hbefore, hroot⟩ :=
      exists_first_missing w.tree hroots
    have hbefore' : ∀ r ∈ before, ∃ kind, v.tree.kind r = .ok kind := by
      intro r hr
      rw [← FileTree.kind_eq_of_perm hperm]
      exact hbefore r hr
    have hroot' := (FileTree.kind_eq_of_perm hperm root).symm.trans hroot
    rw [fst_scan_of_missing hlinks hbefore hroot, fst_scan_of_missing hlinks' hbefore' hroot']

/-- **A scan is complete.** In a tree without links a scan of roots that are there comes to a
result, which has each document at its first root and nothing else, and counts the directories that
were refused. The roots in another order, or some of them more than once, give documents at the same
places. A root that is not there ends the scan. In what order directories list their entries makes
no difference. -/
theorem scan_is_complete {w : World} (hlinks : w.tree.HasNoLinks) (roots : List Path) :
    ((∀ root ∈ roots, ∃ kind, w.tree.kind root = .ok kind) →
      ∃ d, ((scan roots : Operation Session Discovery).run w).1 = .ok d ∧
        d.IsComplete w.tree roots ∧
        ∀ roots', (∀ r, r ∈ roots' ↔ r ∈ roots) →
          ∃ d', ((scan roots' : Operation Session Discovery).run w).1 = .ok d' ∧
            d'.features.map (·.path.components) = d.features.map (·.path.components)) ∧
    ((∃ root ∈ roots, ∀ kind, w.tree.kind root ≠ .ok kind) →
      ∃ root ∈ roots, ∃ fault, w.tree.kind root = .error fault ∧
        ((scan roots : Operation Session Discovery).run w).1 =
          .error (.walk (.unreadable root fault))) ∧
    ∀ v : World, w.tree.nodes.Perm v.tree.nodes →
      ((scan roots : Operation Session Discovery).run v).1 =
        ((scan roots : Operation Session Discovery).run w).1 := by
  refine ⟨fun hroots => ?_, fun hmissing => ?_,
    fun v hperm => fst_scan_eq_of_perm hlinks hperm roots⟩
  · have hcomplete := isComplete_scan hlinks hroots
    refine ⟨_, fst_scan_of_ok hlinks hroots, hcomplete, fun roots' hsame => ?_⟩
    have hroots' : ∀ root ∈ roots', ∃ kind, w.tree.kind root = .ok kind :=
      fun root hroot => hroots root ((hsame root).1 hroot)
    exact ⟨_, fst_scan_of_ok hlinks hroots',
      (isComplete_scan hlinks hroots').map_components_eq hcomplete hsame⟩
  · obtain ⟨before, root, after, fault, rfl, hbefore, hroot⟩ :=
      exists_first_missing w.tree hmissing
    exact ⟨root, by simp, fault, hroot, fst_scan_of_missing hlinks hbefore hroot⟩

/-- A machine with one document, in a directory below another one. -/
def deepWorld : World where
  tree := ((FileTree.empty.insert [] "features".toList .directory).insert
    ["features".toList] "checkout".toList .directory).insert
    ["features".toList, "checkout".toList] "pay.feature".toList (.file [])
  clock := .epoch
  verbosity := 0
  output := []
  errorOutput := []

theorem hasNoLinks_deepWorld : deepWorld.tree.HasNoLinks :=
  FileTree.hasNoLinks_of_entryKind (by decide)

/-- The two directories, the lower one first. -/
def nestedRoots : List Path :=
  [.ofString "features/checkout", .ofString "features"]

/-- The document, found from the lower directory. -/
def nestedFind : FeatureFile :=
  ⟨.ofString "features/checkout/pay.feature", "pay".toList, .ofString "pay.feature"⟩

theorem fst_scan_nested :
    ((scan nestedRoots : Operation Session Discovery).run deepWorld).1 =
      .ok ⟨nestedRoots, [nestedFind], 0⟩ := by
  -- the walk from the upper directory meets the document again
  have hwalk : ((walkRoots nestedRoots : Operation Session _).run deepWorld).1 =
      .ok ([nestedFind, { nestedFind with relative := .ofString "checkout/pay.feature" }], 0) := by
    decide +kernel
  rw [fst_scan, hwalk, Except.map, arrange_of_pairwise (by decide)]
  decide

theorem scan_is_complete_nested :
    deepWorld.tree.HasNoLinks ∧
      (∀ root ∈ nestedRoots, ∃ kind, deepWorld.tree.kind root = .ok kind) ∧
      IsComplete deepWorld.tree nestedRoots ⟨nestedRoots, [nestedFind], 0⟩ := by
  have hroots : ∀ root ∈ nestedRoots, ∃ kind, deepWorld.tree.kind root = .ok kind := by
    rw [nestedRoots, List.forall_mem_cons, List.forall_mem_singleton]
    exact ⟨⟨.directory, by decide +kernel⟩, ⟨.directory, by decide +kernel⟩⟩
  obtain ⟨d, hscan, hcomplete, -⟩ := (scan_is_complete hasNoLinks_deepWorld nestedRoots).1 hroots
  obtain rfl := Except.ok.inj (fst_scan_nested.symm.trans hscan)
  exact ⟨hasNoLinks_deepWorld, hroots, hcomplete⟩

/-- A path to the upper directory that leaves no room for the name of the lower one. -/
def longRoot : Path :=
  ⟨(List.replicate 2040 ['.', '/']).flatten ++ "features".toList⟩

/-- The document is below the root, and yet it is not found: the path of its directory is too
long. -/
theorem scan_of_longRoot :
    deepWorld.tree.HasNoLinks ∧ deepWorld.tree.kind longRoot = .ok .directory ∧
      longRoot.place = ["features".toList] ∧
      deepWorld.tree.get? ["features".toList, "checkout".toList, "pay.feature".toList] =
        some (.file []) ∧
      ∃ d, ((scan [longRoot] : Operation Session Discovery).run deepWorld).1 = .ok d ∧
        d.features = [] ∧ d.skipped = 1 := by
  have heval : (((scan [longRoot] : Operation Session Discovery).run deepWorld).1.toOption.map
      fun d => (d.features, d.skipped)) = some ([], 1) := by decide +kernel
  obtain ⟨d, hscan, hd⟩ := Option.map_eq_some_iff.1 heval
  obtain ⟨hfeatures, hskipped⟩ := Prod.mk.inj hd
  exact ⟨hasNoLinks_deepWorld, by decide +kernel, by decide +kernel, by decide +kernel,
    d, Operation.eq_ok_of_toOption hscan, hfeatures, hskipped⟩

end Discovery

end FeatureSheets
