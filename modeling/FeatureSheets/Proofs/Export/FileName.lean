import FeatureSheets.Export.FileName
import FeatureSheets.Proofs.FileTree.Nodes
import FeatureSheets.Proofs.Text.Decimal
import FeatureSheets.Proofs.Text.Lower
import FeatureSheets.Text.Lemmas
import Mathlib.Data.List.Nodup
import Mathlib.Data.List.Perm.Subperm
import Mathlib.Data.Nat.Find

/-!
# Files for sheets

Every sheet of an export gets a file of its own, also where letter case makes no difference. The
candidates for a stem differ in lower case (`lower_candidate_injective`), so one of them is free
(`lower_unique_not_mem`), and the stems of all sheets differ in lower case
(`nodup_of_prefix_choicesAfter`). A stem that was chosen may stand in a file name (`isName_file`).
-/

namespace FeatureSheets.FileName

/-! ## Candidates -/

/-- The candidates for a stem differ in lower case. -/
theorem lower_candidate_injective {stem : Text} {m n : Nat}
    (h : Text.lower (candidate stem m) = Text.lower (candidate stem n)) : m = n := by
  have hdigits : ∀ k, ∀ c ∈ Text.ofNat k, c.isDigit = true := fun k c => Text.isDigit_of_mem_ofNat
  rw [candidate, candidate, Text.lower_append_underscore stem (hdigits m),
    Text.lower_append_underscore stem (hdigits n)] at h
  exact Text.ofNat_injective (List.append_cancel_left h)

/-- Among one candidate more than there are used stems, one is free. -/
theorem exists_free (used : List Text) (stem : Text) (n : Nat) :
    ∃ k, n ≤ k ∧ k < n + (used.length + 1) ∧ Text.lower (candidate stem k) ∉ used := by
  by_contra hnone
  have hused : (List.range' n (used.length + 1)).map (fun k => Text.lower (candidate stem k)) ⊆
      used := by
    intro t ht
    obtain ⟨k, hk, rfl⟩ := List.mem_map.1 ht
    rw [List.mem_range'_1] at hk
    by_contra hfree
    exact hnone ⟨k, hk.1, hk.2, hfree⟩
  have hnodup : ((List.range' n (used.length + 1)).map
      fun k => Text.lower (candidate stem k)).Nodup :=
    List.Nodup.map (fun _ _ => lower_candidate_injective) (List.nodup_range' (s := n))
  have hlen := (List.subperm_of_subset hnodup hused).length_le
  rw [List.length_map, List.length_range'] at hlen
  omega

/-- The first free candidate is found when there are enough tries to come to it. -/
theorem firstFree_eq {used : List Text} {stem : Text} {tries n k : Nat} (hnk : n ≤ k)
    (hk : k < n + tries) (hfree : Text.lower (candidate stem k) ∉ used)
    (hleast : ∀ j, n ≤ j → j < k → Text.lower (candidate stem j) ∈ used) :
    firstFree used stem tries n = candidate stem k := by
  induction tries generalizing n with
  | zero => omega
  | succ tries ih =>
    rw [firstFree]
    by_cases hn : n = k
    · rw [hn, if_neg (by simpa using hfree)]
    · have hused := hleast n (Nat.le_refl n) (by omega)
      rw [if_pos (by simpa using hused)]
      exact ih (by omega) (by omega) fun j hj => hleast j (by omega)

/-- A stem that is taken gets the first free number from 2 on. -/
theorem unique_eq_candidate {used : List Text} {stem : Text} (h : Text.lower stem ∈ used) :
    ∃ k, 2 ≤ k ∧ unique used stem = candidate stem k ∧
      Text.lower (candidate stem k) ∉ used ∧
      ∀ j, 2 ≤ j → j < k → Text.lower (candidate stem j) ∈ used := by
  classical
  obtain ⟨hk, hlt, hfree⟩ := Nat.find_spec (exists_free used stem 2)
  have hleast : ∀ j, 2 ≤ j → j < Nat.find (exists_free used stem 2) →
      Text.lower (candidate stem j) ∈ used := by
    intro j hj hjk
    by_contra hj'
    exact Nat.find_min (exists_free used stem 2) hjk ⟨hj, by omega, hj'⟩
  refine ⟨_, hk, ?_, hfree, hleast⟩
  rw [unique, if_pos (by simpa using h)]
  exact firstFree_eq hk hlt hfree hleast

/-- The stem that a sheet gets is free, also in lower case. -/
theorem lower_unique_not_mem (used : List Text) (stem : Text) :
    Text.lower (unique used stem) ∉ used := by
  by_cases h : Text.lower stem ∈ used
  · obtain ⟨k, -, heq, hfree, -⟩ := unique_eq_candidate h
    rwa [heq]
  · rw [unique, if_neg (by simpa using h)]
    exact h

/-! ## Stems -/

/-- Whether a text may be the stem of a file name. -/
def IsStem (s : Text) : Prop :=
  s ≠ [] ∧ '/' ∉ s ∧ '\x00' ∉ s

theorem not_mem_sanitize {name : Text} {c : Char}
    (hc : (forbidden.contains c || isControl c) = true) (hne : c ≠ '_') : c ∉ sanitize name := by
  intro hmem
  obtain ⟨d, -, hd⟩ := List.mem_map.1 hmem
  split at hd
  · exact hne hd.symm
  · rename_i hkept
    rw [hd] at hkept
    exact hkept hc

theorem isStem_of_stem? {name stem : Text} (h : stem? name = some stem) : IsStem stem := by
  obtain ⟨b, hb, -⟩ := Text.exists_eq_trimEndBy_append (fun c => c == '.' || c == ' ')
    (sanitize name)
  have hsub : ∀ c ∈ Text.trimEndBy (fun c => c == '.' || c == ' ') (sanitize name),
      c ∈ sanitize name := by
    intro c hc
    rw [hb]
    exact List.mem_append_left _ hc
  rw [stem?] at h
  cases hs : Text.trimEndBy (fun c => c == '.' || c == ' ') (sanitize name) with
  | nil =>
    rw [hs] at h
    cases h
  | cons c s =>
    rw [hs] at h hsub
    obtain rfl : c :: s = stem := Option.some.inj h
    exact ⟨by simp, fun hmem => not_mem_sanitize (by decide) (by decide) (hsub _ hmem),
      fun hmem => not_mem_sanitize (by decide) (by decide) (hsub _ hmem)⟩

theorem isStem_candidate {stem : Text} (h : IsStem stem) (n : Nat) : IsStem (candidate stem n) := by
  obtain ⟨-, hslash, hnul⟩ := h
  have hdigit : ∀ c ∈ Text.ofNat n, c.isDigit = true := fun c => Text.isDigit_of_mem_ofNat
  refine ⟨by simp [candidate], fun hmem => ?_, fun hmem => ?_⟩
  · rcases List.mem_append.1 hmem with hmem | hmem
    · exact hslash hmem
    · rcases List.mem_cons.1 hmem with hmem | hmem
      · cases hmem
      · cases hdigit _ hmem
  · rcases List.mem_append.1 hmem with hmem | hmem
    · exact hnul hmem
    · rcases List.mem_cons.1 hmem with hmem | hmem
      · cases hmem
      · cases hdigit _ hmem

theorem isStem_unique {stem : Text} (h : IsStem stem) (used : List Text) :
    IsStem (unique used stem) := by
  by_cases hused : Text.lower stem ∈ used
  · obtain ⟨k, -, heq, -⟩ := unique_eq_candidate hused
    rw [heq]
    exact isStem_candidate h k
  · rw [unique, if_neg (by simpa using hused)]
    exact h

/-- The file of a stem has a proper name. -/
theorem isName_file {c : Choice} (h : IsStem c.chosen) : isName c.file = true := by
  obtain ⟨hne, hslash, hnul⟩ := h
  have hlen : 4 < c.file.length := by
    have hpos := List.length_pos_of_ne_nil hne
    have hext : ".csv".toList.length = 4 := rfl
    rw [Choice.file, List.length_append]
    omega
  have hshort : ∀ s : Text, s.length ≤ 2 → c.file ≠ s := by
    rintro s hs rfl
    omega
  rw [isName_iff]
  refine ⟨hshort [] (by simp), hshort ['.'] (by simp), hshort ['.', '.'] (by simp), ?_, ?_⟩
  · intro hmem
    rcases List.mem_append.1 hmem with hmem | hmem
    · exact hslash hmem
    · revert hmem
      decide
  · intro hmem
    rcases List.mem_append.1 hmem with hmem | hmem
    · exact hnul hmem
    · revert hmem
      decide

/-! ## Choices -/

theorem length_choicesAfter_le (used names : List Text) :
    (choicesAfter used names).length ≤ names.length := by
  induction names generalizing used with
  | nil => exact Nat.le_refl 0
  | cons name names ih =>
    rw [choicesAfter]
    split
    · simp
    · simpa using ih _

/-- What is chosen is a stem. -/
theorem isStem_of_mem_choicesAfter {used names : List Text} {c : Choice}
    (h : .ok c ∈ choicesAfter used names) : IsStem c.chosen := by
  induction names generalizing used with
  | nil => cases h
  | cons name names ih =>
    rw [choicesAfter] at h
    split at h
    · cases List.mem_singleton.1 h
    · rename_i stem hstem
      rcases List.mem_cons.1 h with hc | h
      · cases hc
        exact isStem_unique (isStem_of_stem? hstem) used
      · exact ih h

/-- The choices up to any that is refused are stems that are free where they are chosen. -/
theorem nodup_of_prefix_choicesAfter {used names : List Text} {cs : List Choice}
    (h : cs.map .ok <+: choicesAfter used names) :
    (∀ c ∈ cs, IsStem c.chosen ∧ Text.lower c.chosen ∉ used) ∧
      (cs.map fun c => Text.lower c.chosen).Nodup := by
  induction names generalizing used cs with
  | nil =>
    obtain rfl : cs = [] := List.map_eq_nil_iff.1 (List.prefix_nil.1 h)
    simp
  | cons name names ih =>
    cases cs with
    | nil => simp
    | cons c cs =>
      rw [choicesAfter, List.map_cons] at h
      split at h
      · cases (List.cons_prefix_cons.1 h).1
      · rename_i stem hstem
        obtain ⟨hc, hrest⟩ := List.cons_prefix_cons.1 h
        obtain rfl : c = ⟨stem, unique used stem⟩ := Except.ok.inj hc
        obtain ⟨hfree, hnodup⟩ := ih hrest
        constructor
        · rw [List.forall_mem_cons]
          refine ⟨⟨isStem_unique (isStem_of_stem? hstem) used, lower_unique_not_mem used stem⟩, ?_⟩
          intro c hc
          exact (hfree c hc).imp_right fun h hused => h (List.mem_cons_of_mem _ hused)
        · rw [List.map_cons, List.nodup_cons]
          refine ⟨fun hmem => ?_, hnodup⟩
          obtain ⟨c, hc, heq⟩ := List.mem_map.1 hmem
          exact (hfree c hc).2 (by simp [heq])

/-- When no name is refused, there is a choice for each name. -/
theorem length_of_choicesAfter_eq {used names : List Text} {cs : List Choice}
    (h : choicesAfter used names = cs.map .ok) : cs.length = names.length := by
  induction names generalizing used cs with
  | nil =>
    obtain rfl : cs = [] := List.map_eq_nil_iff.1 h.symm
    rfl
  | cons name names ih =>
    obtain ⟨c, cs, rfl⟩ := List.exists_cons_of_ne_nil (l := cs) (by
      rintro rfl
      rw [choicesAfter] at h
      split at h <;> cases h)
    rw [choicesAfter, List.map_cons] at h
    split at h
    · cases h
    · rw [List.length_cons, List.length_cons, ih (List.cons.inj h).2]

end FeatureSheets.FileName
