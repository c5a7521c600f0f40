import FeatureSheets.Export.Write
import FeatureSheets.Proofs.FileTree.Directories
import FeatureSheets.Proofs.Kind

/-!
# The directory of an export

An export begins with its directory. Whatever comes of it, directories were made and nothing else
(`grows_makeDirectories`), and where the directory is there already nothing is done
(`makeDirectories_of_leadsTo`).
-/

namespace FeatureSheets

/-! ## Making directories -/

section Kinds

variable {P : (α : Type) → Session α → Prop}

theorem Session.IsReadingKind.isDirectory (hP : Session.IsReadingKind P) (p : Path) :
    P Bool (isDirectory p) := by
  apply hP.bind (hP.look _)
  intro kind
  split <;> exact hP.pure _

theorem Session.IsReadingKind.makeDirectoryOr (hP : Session.IsReadingKind P) {p : Path}
    (hmake : P _ (Platform.makeDirectory p)) {handle : FileFault → Session (Except FileFault Unit)}
    (h : ∀ fault, P _ (handle fault)) : P _ (makeDirectoryOr p handle) := by
  apply hP.bind hmake
  intro made
  cases made with
  | ok _ => exact hP.pure _
  | error fault =>
    apply hP.bind (hP.isDirectory p)
    intro there
    split
    · exact hP.pure _
    · exact h fault

/-- Making directories in turn is of the kind that making each of them is. -/
theorem Session.IsReadingKind.makeDirectories (hP : Session.IsReadingKind P) {chain : List Path}
    (hmake : ∀ p ∈ chain, P _ (Platform.makeDirectory p)) :
    P _ (makeDirectories chain : Session (Except FileFault Unit)) := by
  induction chain with
  | nil => exact hP.pure _
  | cons p outer ih =>
    rw [List.forall_mem_cons] at hmake
    apply hP.makeDirectoryOr hmake.1
    intro fault
    split
    · apply hP.bind (ih hmake.2)
      intro made
      cases made with
      | error fault => exact hP.pure _
      | ok _ => exact hP.makeDirectoryOr hmake.1 fun fault => hP.pure _
    · exact hP.pure _

end Kinds

/-- Directories are made, and nothing else in the tree changes. -/
theorem grows_makeDirectories (chain : List Path) :
    (makeDirectories chain : Session (Except FileFault Unit)).Keeps FileTree.Grows := by
  have hframe : FileTree.IsFrame FileTree.Grows := ⟨.refl, .trans⟩
  exact (Session.isReadingKind_keeps hframe).makeDirectories fun p _ =>
    Session.keeps_change hframe fun _ _ => FileTree.grows_of_makeDirectory

/-! ## A directory that is there -/

variable {w : World} {key : Key}

theorem makeDirectoryOr_of_directory {p : Path}
    (h : w.tree.resolve .look p = .ok (.directory key))
    (handle : FileFault → Session (Except FileFault Unit)) :
    makeDirectoryOr p handle w = (.ok (), w) := by
  have hmake : (Platform.makeDirectory p : Session _) w = (.error .occupied, w) :=
    Session.change_eq_error_iff.2 ⟨FileTree.makeDirectory_of_directory h, rfl⟩
  have hkind : (Platform.kind p : Session _) w = (.ok .directory, w) :=
    Session.look_eq_iff.2 ⟨FileTree.kind_of_directory h, rfl⟩
  rw [makeDirectoryOr, Session.bind_eq_iff]
  refine ⟨_, w, hmake, ?_⟩
  have hdirectory : (isDirectory p : Session Bool) w = (true, w) :=
    Session.bind_eq_iff.2 ⟨_, w, hkind, rfl⟩
  exact Session.bind_eq_iff.2 ⟨true, w, hdirectory, rfl⟩

/-- The directory that a name can be looked up in is there, so none is made. -/
theorem makeDirectories_of_leadsTo {dir : Path} {name : Text} {purpose : Purpose} {place : Place}
    (hlead : w.tree.LeadsTo dir key) (hname : isName name = true)
    (h : w.tree.resolve purpose (dir.join ⟨name⟩) = .ok place) :
    (makeDirectories dir.chain : Session (Except FileFault Unit)) w = (.ok (), w) := by
  rw [Path.chain]
  cases hparts : dir.components with
  | nil => rfl
  | cons part parts =>
    have hne : dir.text ≠ [] := Path.text_ne_nil_of_components (by simp [hparts])
    exact makeDirectoryOr_of_directory (FileTree.resolve_of_leadsTo hne hname h hlead) _

end FeatureSheets
