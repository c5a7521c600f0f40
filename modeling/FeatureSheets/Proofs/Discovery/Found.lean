import FeatureSheets.Discovery.Scan
import FeatureSheets.Proofs.FileTree.Nodes
import FeatureSheets.Proofs.Path.FileName
import FeatureSheets.Proofs.Session

/-!
# What a scan finds

A walk comes to files by going down from its root, name by name (`isReached_of_walkRoot`), so
the path of a document below its root is made of names, and its file name is its stem with the
extension behind (`isPlaced_of_scan`).
-/

namespace FeatureSheets

open Operation (run_bind_eq_ok_iff run_pure_eq_ok_iff run_ask_eq_ok_iff run_lift_eq_ok_iff)

namespace Discovery

/-! ## Walks -/

/-- A path that goes down from `root` by proper names, or is `root` itself. -/
def IsReached (root p : Path) : Prop :=
  ∃ names : List Text, (∀ n ∈ names, isName n = true) ∧ p = root.descend names

theorem IsReached.refl (root : Path) : IsReached root root :=
  ⟨[], by simp, rfl⟩

/-- One name further up. -/
theorem IsReached.of_join {dir p : Path} {name : Text} (hname : isName name = true)
    (h : IsReached (dir.join ⟨name⟩) p) : IsReached dir p := by
  obtain ⟨names, hnames, rfl⟩ := h
  refine ⟨name :: names, fun n hn => ?_, rfl⟩
  rcases List.mem_cons.1 hn with rfl | hn
  · exact hname
  · exact hnames n hn

variable {w w' : World} {way : Way} {p : Path} {walk : Way → Session (List Find)}
  {finds : List Find}

/-- A directory is walked, or something is passed over. -/
theorem enter_cases {isLink : Bool} (h : enter isLink way p walk w = (finds, w')) :
    (∃ fault, finds = [.error fault]) ∨
      ∃ way₁ w₁, walk way₁ w₁ = (finds, w') := by
  obtain ⟨r, w₁, -, h⟩ := Session.bind_eq_iff.1 h
  cases r with
  | error fault => exact .inl ⟨_, (Session.pure_eq_iff.1 h).1.symm⟩
  | ok id =>
    dsimp only at h
    generalize (if isLink then way.find? fun w => w.2 == id else none) = inside at h
    cases inside with
    | some outer => exact .inl ⟨_, (Session.pure_eq_iff.1 h).1.symm⟩
    | none => exact .inr ⟨_, w₁, h⟩

theorem meets_cases {isLink : Bool} {kind : FileKind}
    (h : visit.meets way p walk isLink kind w = (finds, w')) :
    finds = [] ∨ finds = [.ok p] ∨ (∃ fault, finds = [.error fault]) ∨
      ∃ way₁ w₁, walk way₁ w₁ = (finds, w') := by
  cases kind with
  | file => exact .inr (.inl (Session.pure_eq_iff.1 h).1.symm)
  | other => exact .inl (Session.pure_eq_iff.1 h).1.symm
  | directory => exact .inr (.inr (enter_cases h))

/-- All that looking at an entry can do. -/
theorem visit_cases {kind : EntryKind} (h : visit way p kind walk w = (finds, w')) :
    finds = [] ∨ finds = [.ok p] ∨ (∃ fault, finds = [.error fault]) ∨
      ∃ way₁ w₁, walk way₁ w₁ = (finds, w') := by
  cases kind with
  | kind k => exact meets_cases h
  | link =>
    obtain ⟨r, w₁, -, h⟩ := Session.bind_eq_iff.1 h
    cases r with
    | error fault => exact .inr (.inr (.inl ⟨_, (Session.pure_eq_iff.1 h).1.symm⟩))
    | ok k => exact meets_cases h

/-- Every file that is met at an entry is the entry or was met by the walk into it. -/
theorem mem_of_visit {kind : EntryKind} {q : Path} (h : visit way p kind walk w = (finds, w'))
    (hq : .ok q ∈ finds) :
    q = p ∨ ∃ way₁ w₁, walk way₁ w₁ = (finds, w') := by
  rcases visit_cases h with rfl | rfl | ⟨fault, rfl⟩ | hwalk
  · cases hq
  · exact .inl (by simpa using hq)
  · simp at hq
  · exact .inr hwalk

/-- A walk goes down from its directory, name by name. -/
theorem isReached_of_walkBelow {depth : Nat} {dir q : Path}
    (h : (walkBelow depth way dir : Session (List Find)) w = (finds, w')) (hq : .ok q ∈ finds) :
    IsReached dir q := by
  induction depth generalizing way dir w w' finds with
  | zero =>
    rw [← (Session.pure_eq_iff.1 h).1] at hq
    cases hq
  | succ depth ih =>
    obtain ⟨r, w₁, hchildren, h⟩ := Session.bind_eq_iff.1 h
    cases r with
    | error fault =>
      rw [← (Session.pure_eq_iff.1 h).1] at hq
      simp at hq
    | ok entries =>
      obtain ⟨parts, w₂, hparts, h⟩ := Session.bind_eq_iff.1 h
      rw [← (Session.pure_eq_iff.1 h).1] at hq
      obtain ⟨part, hpart, hq⟩ := List.mem_flatten.1 hq
      obtain ⟨e, he, w₃, w₄, hvisit⟩ := Session.exists_of_mem_mapM hparts hpart
      have hname := FileTree.isName_of_mem_children (Session.look_eq_iff.1 hchildren).1 he
      apply IsReached.of_join hname
      rcases mem_of_visit hvisit hq with rfl | ⟨way₁, w₅, hwalk⟩
      · exact .refl _
      · exact ih hwalk hq

/-- The walk from a root goes down from it, or stays there. -/
theorem isReached_of_walkRoot {root q : Path}
    (h : (walkRoot root : Operation Session (List Find)).run w = (.ok finds, w'))
    (hq : .ok q ∈ finds) : IsReached root q := by
  obtain ⟨kind, w₁, -, h⟩ := run_bind_eq_ok_iff.1 h
  cases kind with
  | file =>
    rw [← (run_pure_eq_ok_iff.1 h).1, List.mem_singleton] at hq
    cases hq
    exact .refl root
  | other =>
    rw [← (run_pure_eq_ok_iff.1 h).1] at hq
    cases hq
  | directory =>
    obtain ⟨id, w₂, -, h⟩ := run_bind_eq_ok_iff.1 h
    obtain ⟨entries, w₃, -, h⟩ := run_bind_eq_ok_iff.1 h
    exact isReached_of_walkBelow (run_lift_eq_ok_iff.1 h) hq

/-! ## Documents -/

end Discovery

/-- Whether a document has its place below its root: the root itself is the document, or names
lead down to it, of which the last is the stem with the extension behind. -/
def FeatureFile.IsPlaced (f : FeatureFile) : Prop :=
  f.relative = ⟨[]⟩ ∨
    ∃ dirs : List Text, (∀ d ∈ dirs, isName d = true) ∧
      isName (f.stem ++ '.' :: featureExtension) = true ∧ f.stem ≠ [] ∧
      f.relative = Path.ofSegments (dirs ++ [f.stem ++ '.' :: featureExtension])

namespace Discovery

/-- A document that names lead down to from its root has its place there. -/
theorem isPlaced_of_ofPath? {root p : Path} {f : FeatureFile} (hp : IsReached root p)
    (h : FeatureFile.ofPath? root p = some f) : f.IsPlaced := by
  obtain ⟨names, hnames, rfl⟩ := hp
  rw [FeatureFile.ofPath?] at h
  split at h
  · rename_i hext
    obtain ⟨stem, hstem, rfl⟩ := Option.map_eq_some_iff.1 h
    rw [FeatureFile.IsPlaced]
    simp only [Path.below?_descend root hnames, Option.getD_some]
    rcases List.eq_nil_or_concat' names with rfl | ⟨dirs, name, rfl⟩
    · exact .inl rfl
    · right
      have hname : isName name = true := hnames name (by simp)
      have hfile := Path.fileName?_descend root dirs hname
      rw [Path.extension?, hfile, Option.bind_some] at hext
      rw [Path.stem?, hfile, Option.map_some, Option.some_inj] at hstem
      obtain ⟨hsplit, hne, -⟩ := Path.splitName_eq_some_iff.1 (Prod.ext hstem hext)
      exact ⟨dirs, fun d hd => hnames d (by simp [hd]), hsplit ▸ hname, hne, by rw [← hsplit]⟩
  · cases h

theorem isPlaced_of_mem_featuresOf {root : Path} {finds : List Find} {f : FeatureFile}
    (hfinds : ∀ q, .ok q ∈ finds → IsReached root q) (h : f ∈ featuresOf root finds) :
    f.IsPlaced := by
  obtain ⟨find, hfind, hf⟩ := List.mem_filterMap.1 h
  cases find with
  | ok q => exact isPlaced_of_ofPath? (hfinds q hfind) hf
  | error fault => cases hf

theorem isPlaced_of_walkRoots {w w' : World} {roots : List Path} {found : List FeatureFile × Nat}
    (h : (walkRoots roots : Operation Session (List FeatureFile × Nat)).run w =
      (.ok found, w')) : ∀ f ∈ found.1, f.IsPlaced := by
  induction roots generalizing w w' found with
  | nil =>
    rw [← (run_pure_eq_ok_iff.1 h).1]
    intro f hf
    cases hf
  | cons root rest ih =>
    obtain ⟨finds, w₁, hwalk, h⟩ := run_bind_eq_ok_iff.1 h
    obtain ⟨-, w₂, -, h⟩ := run_bind_eq_ok_iff.1 h
    obtain ⟨deeper, w₃, hrest, h⟩ := run_bind_eq_ok_iff.1 h
    rw [← (run_pure_eq_ok_iff.1 h).1]
    intro f hf
    rcases List.mem_append.1 hf with hf | hf
    · exact isPlaced_of_mem_featuresOf (fun q hq => isReached_of_walkRoot hwalk hq) hf
    · exact ih hrest f hf

/-! ## Order -/

theorem dropRepeatsAfter_subset (last : FeatureFile) (l : List FeatureFile) :
    dropRepeatsAfter last l ⊆ l := by
  induction l generalizing last with
  | nil => exact List.Subset.refl _
  | cons f l ih =>
    rw [dropRepeatsAfter]
    split
    · exact List.subset_cons_of_subset f (ih last)
    · exact List.cons_subset_cons f (ih f)

/-- Arranging documents brings in none. -/
theorem arrange_subset (l : List FeatureFile) : arrange l ⊆ l := by
  have hrepeats (l : List FeatureFile) : dropRepeats l ⊆ l := by
    cases l with
    | nil => exact List.Subset.refl _
    | cons f l => exact List.cons_subset_cons f (dropRepeatsAfter_subset f l)
  intro f hf
  exact List.mem_mergeSort.1 (hrepeats _ hf)

/-- Documents that are in order stay so. -/
theorem arrange_of_pairwise {l : List FeatureFile}
    (h : l.Pairwise fun a b => a.path.le b.path) : arrange l = dropRepeats l :=
  congrArg dropRepeats (List.mergeSort_of_pairwise h)

/-- What a scan comes to: the documents of the walks, arranged. -/
theorem run_scan_eq_ok_iff {w w' : World} {roots : List Path} {d : Discovery} :
    (scan roots : Operation Session Discovery).run w = (.ok d, w') ↔
      ∃ features skipped,
        (walkRoots roots : Operation Session _).run w = (.ok (features, skipped), w') ∧
          d = ⟨roots, arrange features, .ofNat skipped⟩ := by
  constructor
  · intro h
    obtain ⟨⟨features, skipped⟩, w₁, hwalk, h⟩ := run_bind_eq_ok_iff.1 h
    obtain ⟨hd, rfl⟩ := run_pure_eq_ok_iff.1 h
    exact ⟨features, skipped, hwalk, hd.symm⟩
  · rintro ⟨features, skipped, hwalk, rfl⟩
    exact run_bind_eq_ok_iff.2 ⟨(features, skipped), w', hwalk, rfl⟩

/-- Every document of a scan has its place below its root. -/
theorem isPlaced_of_scan {w w' : World} {roots : List Path} {d : Discovery}
    (h : (scan roots : Operation Session Discovery).run w = (.ok d, w')) :
    ∀ f ∈ d.features, f.IsPlaced := by
  obtain ⟨features, skipped, hwalk, rfl⟩ := run_scan_eq_ok_iff.1 h
  exact fun f hf => isPlaced_of_walkRoots hwalk f (arrange_subset _ hf)

end Discovery

end FeatureSheets
