import FeatureSheets.FileTree.Access
import Mathlib.Data.List.Nodup

/-!
# The nodes of a tree

What a tree that is well formed by construction says about its nodes: what a directory holds has
proper names (`isName_of_mem_entries`), and whatever stands anywhere stands in a directory
(`get?_dropLast`). What is asked of a path is answered by the place that it leads to
(`exists_resolve_of_children`, `resolve_of_kind`).
-/

namespace FeatureSheets

theorem isName_iff {s : Text} :
    isName s = true ↔ s ≠ [] ∧ s ≠ ['.'] ∧ s ≠ ['.', '.'] ∧ '/' ∉ s ∧ '\x00' ∉ s := by
  simp [isName, and_assoc]

namespace FileTree

/-- A node that is listed stands at its place. -/
theorem get?_of_mem {t : FileTree} {key : Key} {node : Node} (h : (key, node) ∈ t.nodes) :
    t.get? key = some node := by
  obtain ⟨dir, name, hkey, -⟩ := t.placed _ h
  have hne : key ≠ [] := by
    have hkey : key = dir ++ [name] := hkey
    simp [hkey]
  rw [get?, if_neg hne]
  cases hlookup : lookupNode t.nodes key with
  | none => exact absurd (List.mem_map_of_mem h) (lookupNode_eq_none_iff.1 hlookup)
  | some other =>
    -- no place is listed twice
    have hmem := mem_of_lookupNode hlookup
    have hsame : (key, other) = (key, node) :=
      List.inj_on_of_nodup_map t.nodup_keys hmem h rfl
    exact congrArg some (congrArg Prod.snd hsame)

/-- Whatever stands at a place stands in a directory. -/
theorem get?_dropLast {t : FileTree} {key : Key} {node : Node} (h : t.get? key = some node) :
    t.get? key.dropLast = some .directory := by
  by_cases hkey : key = []
  · rw [hkey]
    rfl
  · rw [get?, if_neg hkey] at h
    obtain ⟨dir, name, heq, -, hdir⟩ := t.placed _ (mem_of_lookupNode h)
    have heq : key = dir ++ [name] := heq
    rw [heq, List.dropLast_concat]
    rcases hdir with rfl | hdir
    · rfl
    · exact get?_of_mem hdir

/-- What a directory holds has a proper name. -/
theorem isName_of_mem_entries {t : FileTree} {dir : Key} {e : DirectoryEntry}
    (h : e ∈ t.entries dir) : isName e.name = true := by
  obtain ⟨⟨key, node⟩, hmem, he⟩ := List.mem_filterMap.1 h
  obtain ⟨parent, name, hkey, hname, -⟩ := t.placed _ hmem
  have hkey : key = parent ++ [name] := hkey
  simp only [hkey, List.getLast?_concat, List.dropLast_concat] at he
  split at he
  · cases he
    exact hname
  · cases he

/-! ## What is asked of a path -/

variable {t : FileTree} {key : Key} {p : Path}

theorem children_of_directory (h : t.resolve .look p = .ok (.directory key)) :
    t.children p = .ok (t.entries key) := by
  rw [children, h]
  rfl

theorem kind_of_directory (h : t.resolve .look p = .ok (.directory key)) :
    t.kind p = .ok .directory := by
  rw [kind, h]
  rfl

theorem identity_of_directory (h : t.resolve .look p = .ok (.directory key)) :
    t.identity p = .ok (Text.joinWith '/' key) := by
  rw [identity, h]
  rfl

theorem exists_resolve_of_children {entries : List DirectoryEntry}
    (h : t.children p = .ok entries) :
    ∃ key, t.resolve .look p = .ok (.directory key) ∧ entries = t.entries key := by
  rw [children] at h
  cases hplace : t.resolve .look p with
  | error fault =>
    rw [hplace] at h
    cases h
  | ok place =>
    rw [hplace] at h
    cases place <;> cases h
    exact ⟨_, rfl, rfl⟩

/-- What has a kind is a directory, or a file with no slash after its name. -/
theorem resolve_of_kind {found : FileKind} (h : t.kind p = .ok found) :
    (found = .directory ∧ ∃ key, t.resolve .look p = .ok (.directory key)) ∨
      (found = .file ∧ ∃ key content, t.resolve .look p = .ok (.file key content false)) := by
  rw [kind] at h
  cases hplace : t.resolve .look p with
  | error fault =>
    rw [hplace] at h
    cases h
  | ok place =>
    rw [hplace] at h
    cases place with
    | directory key =>
      cases h
      exact .inl ⟨rfl, key, rfl⟩
    | file key content slash =>
      cases slash <;> cases h
      exact .inr ⟨rfl, key, content, rfl⟩
    | vacant dir name slash => cases h
    | link key => cases h

theorem exists_resolve_of_kind_directory (h : t.kind p = .ok .directory) :
    ∃ key, t.resolve .look p = .ok (.directory key) := by
  rcases resolve_of_kind h with ⟨-, hplace⟩ | ⟨hfile, -⟩
  · exact hplace
  · cases hfile

theorem kind_ne_other (t : FileTree) (p : Path) : t.kind p ≠ .ok .other := by
  intro h
  rcases resolve_of_kind h with ⟨hdirectory, -⟩ | ⟨hfile, -⟩
  · cases hdirectory
  · cases hfile

theorem isName_of_mem_children {entries : List DirectoryEntry} (h : t.children p = .ok entries)
    {e : DirectoryEntry} (he : e ∈ entries) : isName e.name = true := by
  obtain ⟨key, -, rfl⟩ := exists_resolve_of_children h
  exact isName_of_mem_entries he

end FileTree

end FeatureSheets
