import FeatureSheets.Proofs.Discovery.Found
import Mathlib.Data.List.Lex
import Mathlib.Data.List.Sort

/-!
# The order of documents

A scan puts its documents in the order of their paths, component by component, and keeps the first
of each place: what it keeps is in strict order, and a document is kept if it is the first of those
that were found at its place (`arrange_spec`). Sorting does not change which of them is the first
(`filter_mergeSort`).
-/

namespace FeatureSheets

/-! ## Paths in order -/

theorem Component.sortKey_injective : Function.Injective Component.sortKey := by
  intro a b h
  cases a with
  | name s =>
    cases b with
    | name s' =>
      have hchars : s.map Char.toNat = s'.map Char.toNat := (List.cons.inj h).2
      rw [List.map_injective_iff.2 (fun _ _ => Char.toNat_inj.1) hchars]
    | root => cases h
    | here => cases h
    | parent => cases h
  | root => cases b <;> first | rfl | cases h
  | here => cases b <;> first | rfl | cases h
  | parent => cases b <;> first | rfl | cases h

namespace Path

theorem same_iff {p q : Path} : p.same q = true ↔ p.components = q.components := by
  rw [same, beq_iff_eq, sortKey, sortKey, Component.sortKey_injective.list_map.eq_iff]

theorem same_self (p : Path) : p.same p = true :=
  same_iff.2 rfl

/-- One path comes before another, or is at the same place, by the keys of their components. -/
theorem le_iff {p q : Path} : p.le q = true ↔ p.sortKey ≤ q.sortKey := by
  have hinner : (fun a b : List Nat => a.lex b = true) = fun a b => a < b := by
    funext a b
    exact propext List.lex_eq_true_iff_lt
  have hlex : q.sortKey.lex p.sortKey (fun a b => a.lex b) = true ↔ q.sortKey < p.sortKey := by
    rw [List.lex_eq_true_iff_lex, hinner]
    exact (List.lt_iff_lex_lt ..).symm
  rw [le, Bool.not_eq_true', ← Bool.not_eq_true, hlex, not_lt]

end Path

namespace Discovery

/-! ## Sorting -/

theorem path_le_trans (a b c : FeatureFile) (hab : a.path.le b.path = true)
    (hbc : b.path.le c.path = true) : a.path.le c.path = true := by
  rw [Path.le_iff] at hab hbc ⊢
  exact le_trans hab hbc

theorem path_le_total (a b : FeatureFile) : (a.path.le b.path || b.path.le a.path) = true := by
  rw [Bool.or_eq_true, Path.le_iff, Path.le_iff]
  exact le_total ..

/-- The documents of one place stay in the order in which they were found. -/
theorem filter_mergeSort (l : List FeatureFile) (p : Path) :
    (l.mergeSort fun a b => a.path.le b.path).filter (·.path.same p) =
      l.filter (·.path.same p) := by
  have hplace : (l.filter (·.path.same p)).Pairwise fun a b => a.path.le b.path = true := by
    apply List.pairwise_of_forall_mem_list
    intro a ha b hb
    have ha : a.path.same p = true := (List.mem_filter.1 ha).2
    have hb : b.path.same p = true := (List.mem_filter.1 hb).2
    rw [Path.same, beq_iff_eq] at ha hb
    rw [Path.le_iff, ha, hb]
  have hsub := (List.sublist_mergeSort path_le_trans path_le_total hplace
    List.filter_sublist).filter (·.path.same p)
  simp only [List.filter_filter, Bool.and_self] at hsub
  exact (hsub.eq_of_length ((List.mergeSort_perm ..).filter _).length_eq.symm).symm

/-- The first document at the place of a path. -/
def firstAt? (l : List FeatureFile) (p : Path) : Option FeatureFile :=
  l.find? (·.path.same p)

theorem firstAt?_cons (f : FeatureFile) (l : List FeatureFile) (p : Path) :
    firstAt? (f :: l) p = if f.path.same p = true then some f else firstAt? l p := by
  rw [firstAt?, List.find?_cons]
  cases f.path.same p <;> rfl

theorem firstAt?_append (l l' : List FeatureFile) (p : Path) :
    firstAt? (l ++ l') p = (firstAt? l p).or (firstAt? l' p) :=
  List.find?_append

theorem mem_of_firstAt? {l : List FeatureFile} {p : Path} {f : FeatureFile}
    (h : firstAt? l p = some f) :
    f ∈ l ∧ f.path.same p = true := by
  rw [firstAt?] at h
  exact ⟨List.mem_of_find?_eq_some h, by simpa using List.find?_some h⟩

theorem firstAt?_eq_none_iff {l : List FeatureFile} {p : Path} :
    firstAt? l p = none ↔ ∀ g ∈ l, g.path.same p = false := by
  rw [firstAt?, List.find?_eq_none]
  simp

/-- Sorting does not change which document of a place is the first. -/
theorem firstAt?_mergeSort (l : List FeatureFile) (p : Path) :
    firstAt? (l.mergeSort fun a b => a.path.le b.path) p = firstAt? l p := by
  rw [firstAt?, firstAt?, ← List.head?_filter, filter_mergeSort, List.head?_filter]

/-! ## Leaving out repeats -/

/-- Whether a document comes before another one, at another place. -/
def Precedes (a b : FeatureFile) : Prop :=
  a.path.le b.path = true ∧ a.path.same b.path = false

theorem precedes_iff {a b : FeatureFile} : Precedes a b ↔ a.path.sortKey < b.path.sortKey := by
  rw [Precedes, Path.le_iff, Path.same, beq_eq_false_iff_ne, lt_iff_le_and_ne]

/-- A document that stands where the one before it does is not the first of its place. -/
theorem firstAt?_cons_of_same {last g : FeatureFile} (hsame : g.path.same last.path = true)
    (l : List FeatureFile) (p : Path) : firstAt? (last :: g :: l) p = firstAt? (last :: l) p := by
  have hg : g.path.same p = last.path.same p := by
    rw [Bool.eq_iff_iff, Path.same_iff, Path.same_iff, Path.same_iff.1 hsame]
  rw [firstAt?_cons, firstAt?_cons, firstAt?_cons, hg]
  split <;> rfl

/-- Of documents in order the first precedes all others if it precedes the second. -/
theorem precedes_of_not_same {last g : FeatureFile} {l : List FeatureFile}
    (hsame : ¬g.path.same last.path = true) (hg : last.path.le g.path = true)
    (hl : (g :: l).Pairwise fun a b => a.path.le b.path = true) :
    ∀ f ∈ g :: l, Precedes last f := by
  have hkey : last.path.sortKey < g.path.sortKey := by
    apply lt_of_le_of_ne (Path.le_iff.1 hg)
    intro heq
    exact hsame (beq_iff_eq.2 heq.symm)
  intro f hf
  rw [precedes_iff]
  rcases List.mem_cons.1 hf with rfl | hf
  · exact hkey
  · exact lt_of_lt_of_le hkey (Path.le_iff.1 ((List.pairwise_cons.1 hl).1 f hf))

/-- Of documents in order the first of each place is kept. -/
theorem dropRepeatsAfter_spec {last : FeatureFile} {l : List FeatureFile}
    (h : (last :: l).Pairwise fun a b => a.path.le b.path = true) :
    (last :: dropRepeatsAfter last l).Pairwise Precedes ∧
      ∀ f, f ∈ last :: dropRepeatsAfter last l ↔ firstAt? (last :: l) f.path = some f := by
  induction l generalizing last with
  | nil =>
    refine ⟨List.pairwise_singleton .., fun f => ?_⟩
    rw [dropRepeatsAfter, List.mem_singleton, firstAt?_cons]
    constructor
    · rintro rfl
      rw [if_pos (Path.same_self f.path)]
    · intro hf
      split at hf <;> cases hf
      rfl
  | cons g l ih =>
    rw [List.pairwise_cons, List.forall_mem_cons] at h
    obtain ⟨⟨hg, hlast⟩, hl⟩ := h
    rw [dropRepeatsAfter]
    split
    · -- the second document is left out, and what follows is in order behind the first
      rename_i hsame
      obtain ⟨hpairs, hmem⟩ := ih (List.pairwise_cons.2 ⟨hlast, (List.pairwise_cons.1 hl).2⟩)
      refine ⟨hpairs, fun f => ?_⟩
      rw [hmem, firstAt?_cons_of_same hsame]
    · rename_i hsame
      obtain ⟨hpairs, hmem⟩ := ih hl
      have hbefore := precedes_of_not_same hsame hg hl
      have hsub : g :: dropRepeatsAfter g l ⊆ g :: l :=
        List.cons_subset_cons g (dropRepeatsAfter_subset g l)
      refine ⟨List.pairwise_cons.2 ⟨fun f hf => hbefore f (hsub hf), hpairs⟩, fun f => ?_⟩
      rw [List.mem_cons, hmem, firstAt?_cons last]
      constructor
      · rintro (rfl | hf)
        · rw [if_pos (Path.same_self f.path)]
        · have hmem : f ∈ g :: l := List.mem_of_find?_eq_some hf
          rw [if_neg (by rw [(hbefore f hmem).2]; exact Bool.false_ne_true), hf]
      · intro hf
        split at hf
        · exact .inl (Option.some.inj hf).symm
        · exact .inr hf

/-- What is arranged is in strict order, and it is the first documents of their places. -/
theorem arrange_spec (l : List FeatureFile) :
    (arrange l).Pairwise Precedes ∧ ∀ f, f ∈ arrange l ↔ firstAt? l f.path = some f := by
  have hsorted := List.pairwise_mergeSort path_le_trans path_le_total l
  have hfirst := firstAt?_mergeSort l
  rw [arrange]
  generalize (l.mergeSort fun a b => a.path.le b.path) = sorted at hsorted hfirst
  simp only [← hfirst]
  cases sorted with
  | nil => exact ⟨.nil, fun f => ⟨fun hf => (List.not_mem_nil hf).elim, fun hf => by cases hf⟩⟩
  | cons f l => exact dropRepeatsAfter_spec hsorted

/-- Some document of every place is kept. -/
theorem exists_mem_arrange {l : List FeatureFile} {f : FeatureFile} (h : f ∈ l) :
    ∃ g ∈ arrange l, g.path.same f.path = true := by
  cases hfirst : firstAt? l f.path with
  | none =>
    have hself := firstAt?_eq_none_iff.1 hfirst f h
    rw [Path.same_self] at hself
    cases hself
  | some g =>
    have hsame := (mem_of_firstAt? hfirst).2
    refine ⟨g, ((arrange_spec l).2 g).2 ?_, hsame⟩
    rw [← hfirst, firstAt?, firstAt?]
    simp only [Path.same, beq_iff_eq.1 hsame]

instance : Std.Irrefl Precedes :=
  ⟨fun _ h => lt_irrefl _ (precedes_iff.1 h)⟩

instance : Std.Antisymm Precedes :=
  ⟨fun _ _ h h' => absurd (precedes_iff.1 h) (lt_asymm (precedes_iff.1 h'))⟩

/-- The places of documents in strict order are told by which of them there are. -/
theorem map_components_eq {l l' : List FeatureFile} (h : l.Pairwise Precedes)
    (h' : l'.Pairwise Precedes)
    (hmem : ∀ cs, cs ∈ l.map (·.path.components) ↔ cs ∈ l'.map (·.path.components)) :
    l.map (·.path.components) = l'.map (·.path.components) := by
  have hkeys : ∀ {l : List FeatureFile}, l.Pairwise Precedes →
      (l.map (·.path.components)).Pairwise fun cs cs' =>
        cs.map Component.sortKey < cs'.map Component.sortKey :=
    fun h => List.pairwise_map.2 (h.imp precedes_iff.1)
  have : Std.Irrefl fun cs cs' : List Component =>
      cs.map Component.sortKey < cs'.map Component.sortKey := ⟨fun _ h => lt_irrefl _ h⟩
  have : Std.Antisymm fun cs cs' : List Component =>
      cs.map Component.sortKey < cs'.map Component.sortKey :=
    ⟨fun _ _ h h' => absurd h (lt_asymm h')⟩
  exact (hkeys h).eq_of_mem_iff (hkeys h') hmem

end Discovery

end FeatureSheets
