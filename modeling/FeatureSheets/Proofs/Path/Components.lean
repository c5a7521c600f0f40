import FeatureSheets.Export.Write
import FeatureSheets.Proofs.Path.FileName
import FeatureSheets.Proofs.Text.Utf8

/-!
# Components of paths

The path that is spelled from the first components of another one has these components
(`components_ofComponents_take`), and its spelling is a part of the other's: no longer, and with
no other characters but the slash. So the directories that a path lies in are the path without its
last component and the directories that this one lies in (`chain_eq_cons`).
-/

namespace FeatureSheets

open Text (joinWith)

/-! ## Parts of a joined text -/

namespace Text

/-- A text that is joined from fewer parts is no longer. -/
theorem byteCount_joinWith_le (sep : Char) {l l' : List Text} (h : l.Sublist l') :
    byteCount (joinWith sep l) ≤ byteCount (joinWith sep l') := by
  have hcons : ∀ (a : Text) (l : List Text), l ≠ [] →
      byteCount (joinWith sep (a :: l)) =
        byteCount a + byteCount [sep] + byteCount (joinWith sep l) := by
    intro a l hl
    obtain ⟨b, rest, rfl⟩ := List.exists_cons_of_ne_nil hl
    rw [joinWith_cons_cons, byteCount_append, ← List.singleton_append, byteCount_append]
    omega
  induction h with
  | slnil => exact Nat.le_refl _
  | @cons l l' a h ih =>
    by_cases hl' : l' = []
    · rw [hl', List.sublist_nil] at h
      rw [h]
      exact Nat.zero_le _
    · rw [hcons a l' hl']
      omega
  | @cons_cons l l' a h ih =>
    by_cases hl : l = []
    · by_cases hl' : l' = []
      · rw [hl, hl']
      · rw [hl, joinWith_singleton, hcons a l' hl']
        omega
    · have hl' : l' ≠ [] := fun e => hl (List.sublist_nil.1 (e ▸ h))
      rw [hcons a l hl, hcons a l' hl']
      omega

end Text

/-! ## The components of a path -/

namespace Component

/-- A component that a path may begin with besides its segments. -/
def IsStart (start : List Component) : Prop :=
  start = [] ∨ start = [.here] ∨ start = [.root]

theorem text_ofSegment (s : Text) : (ofSegment s).text = s := by
  unfold ofSegment
  split
  · rename_i h
    exact h.symm
  · rfl

theorem map_text_ofSegment (parts : List Text) : (parts.map ofSegment).map text = parts := by
  rw [List.map_map]
  conv => rhs; rw [← List.map_id parts]
  exact List.map_congr_left fun s _ => text_ofSegment s

/-- Segments that are not left out, with the components that they stand for. -/
theorem exists_sublist_filterMap {segments : List Text} (h : ∀ s ∈ segments, '/' ∉ s) :
    ∃ parts : List Text, parts.Sublist segments ∧ (∀ s ∈ parts, IsSegment s) ∧
      segments.filterMap ofSegment? = parts.map ofSegment := by
  induction segments with
  | nil => exact ⟨[], List.Sublist.slnil, by simp, rfl⟩
  | cons s segments ih =>
    rw [List.forall_mem_cons] at h
    obtain ⟨parts, hsub, hparts, hmap⟩ := ih h.2
    by_cases hstay : s = [] ∨ s = ['.']
    · have hs : ofSegment? s = none := if_pos hstay
      refine ⟨parts, hsub.cons s, hparts, ?_⟩
      rw [List.filterMap_cons_none hs, hmap]
    · have hs : IsSegment s := ⟨fun e => hstay (Or.inl e), fun e => hstay (Or.inr e), h.1⟩
      refine ⟨s :: parts, hsub.cons_cons s, List.forall_mem_cons.2 ⟨hs, hparts⟩, ?_⟩
      rw [List.filterMap_cons_some (ofSegment?_of_isSegment hs), hmap, List.map_cons]

end Component

namespace Path

/-- The text of a path that begins with `start` and goes on by `parts`. -/
def spell (start : List Component) (parts : List Text) : Text :=
  (ofComponents (start ++ parts.map Component.ofSegment)).text

theorem ofComponents_of_ne_root {c : Component} (h : c ≠ .root) (rest : List Component) :
    ofComponents (c :: rest) = ⟨joinWith '/' ((c :: rest).map Component.text)⟩ := by
  cases c with
  | root => exact absurd rfl h
  | here => rfl
  | parent => rfl
  | name s => rfl

theorem spell_nil (parts : List Text) : spell [] parts = joinWith '/' parts := by
  cases parts with
  | nil => rfl
  | cons s parts =>
    have hne : Component.ofSegment s ≠ .root := by
      unfold Component.ofSegment
      split <;> simp
    have htexts := Component.map_text_ofSegment (s :: parts)
    rw [List.map_cons] at htexts
    rw [spell, List.nil_append, List.map_cons, ofComponents_of_ne_root hne, htexts]

theorem spell_here (parts : List Text) : spell [.here] parts = joinWith '/' (['.'] :: parts) := by
  rw [spell, List.singleton_append, ofComponents_of_ne_root (by simp), List.map_cons,
    Component.map_text_ofSegment]
  rfl

theorem spell_root (parts : List Text) : spell [.root] parts = '/' :: joinWith '/' parts := by
  rw [spell, List.singleton_append, ofComponents, Component.map_text_ofSegment]

/-- A path that is spelled from components has these components. -/
theorem components_ofComponents {start : List Component} {parts : List Text}
    (hstart : Component.IsStart start) (hparts : ∀ s ∈ parts, IsSegment s) :
    (ofComponents (start ++ parts.map Component.ofSegment)).components =
      start ++ parts.map Component.ofSegment := by
  have hmap : parts.filterMap Component.ofSegment? = parts.map Component.ofSegment := by
    rw [← List.filterMap_eq_map]
    exact List.filterMap_congr fun s hs => Component.ofSegment?_of_isSegment (hparts s hs)
  have hpath : ofComponents (start ++ parts.map Component.ofSegment) = ⟨spell start parts⟩ := rfl
  rw [hpath]
  rcases hstart with rfl | rfl | rfl
  · rw [spell_nil]
    exact components_ofSegments hparts
  · have hsegs : segments ⟨joinWith '/' (['.'] :: parts)⟩ = ['.'] :: parts := by
      apply Text.splitOn_joinWith (by simp)
      rw [List.forall_mem_cons]
      exact ⟨by decide, fun s hs => (hparts s hs).2.2⟩
    have habs : isAbsolute ⟨joinWith '/' (['.'] :: parts)⟩ = false := by
      cases parts with
      | nil => rfl
      | cons s parts =>
        rw [Text.joinWith_cons_cons]
        rfl
    rw [spell_here, components, habs, hsegs, List.filterMap_cons_none rfl, hmap]
    rfl
  · have hsegs : segments ⟨'/' :: joinWith '/' parts⟩ = [] :: (joinWith '/' parts).splitOn '/' :=
      List.splitOn_append_cons_self [] _
    have hrest : ((joinWith '/' parts).splitOn '/').filterMap Component.ofSegment? =
        parts.filterMap Component.ofSegment? := by
      by_cases hnil : parts = []
      · rw [hnil]
        rfl
      · rw [Text.splitOn_joinWith hnil fun s hs => (hparts s hs).2.2]
    have habs : isAbsolute ⟨'/' :: joinWith '/' parts⟩ = true := rfl
    rw [spell_root, components, habs, hsegs, List.filterMap_cons_none rfl, hrest, hmap]
    rfl

/-- What a path begins with, and the components after that. -/
theorem components_cases (p : Path) :
    (p.components = p.segments.filterMap Component.ofSegment?) ∨
      ∃ rest, (p.segments = ['.'] :: rest ∧
          p.components = .here :: rest.filterMap Component.ofSegment?) ∨
        (p.text ≠ [] ∧ p.segments = [] :: rest ∧
          p.components = .root :: rest.filterMap Component.ofSegment?) := by
  unfold components
  split
  · rename_i habs
    obtain ⟨r, htext⟩ : ∃ r, p.text = '/' :: r := by
      apply List.head?_eq_some_iff.1
      simpa [isAbsolute] using habs
    have hsegs : p.segments = [] :: r.splitOn '/' := by
      rw [segments, htext]
      exact List.splitOn_append_cons_self [] r
    refine Or.inr ⟨r.splitOn '/', Or.inr ⟨by simp [htext], hsegs, ?_⟩⟩
    rw [hsegs, List.filterMap_cons_none rfl]
  · split
    · rename_i hdot
      obtain ⟨rest, hsegs⟩ : ∃ rest, p.segments = ['.'] :: rest := by
        apply List.head?_eq_some_iff.1
        simpa using hdot
      refine Or.inr ⟨rest, Or.inl ⟨hsegs, ?_⟩⟩
      rw [hsegs, List.filterMap_cons_none rfl]
    · exact Or.inl rfl

/-- The components of a path are those of its segments, behind what it begins with. -/
theorem exists_components_eq (p : Path) :
    ∃ start, Component.IsStart start ∧
      p.components = start ++ p.segments.filterMap Component.ofSegment? := by
  rcases p.components_cases with hplain | ⟨rest, ⟨hsegs, hcomps⟩ | ⟨-, hsegs, hcomps⟩⟩
  · exact ⟨[], .inl rfl, hplain⟩
  · refine ⟨[.here], .inr (.inl rfl), ?_⟩
    rw [hcomps, hsegs, List.filterMap_cons_none rfl]
    rfl
  · refine ⟨[.root], .inr (.inr rfl), ?_⟩
    rw [hcomps, hsegs, List.filterMap_cons_none rfl]
    rfl

/-- The first components of a path, and the length of a path that is spelled from them. -/
theorem exists_take_components (p : Path) (n : Nat) :
    ∃ start parts, Component.IsStart start ∧ (∀ s ∈ parts, IsSegment s ∧ s ⊆ p.text) ∧
      p.components.take n = start ++ parts.map Component.ofSegment ∧
      Text.byteCount (spell start parts) ≤ Text.byteCount p.text := by
  have hjoin : joinWith '/' p.segments = p.text := List.intercalate_splitOn '/'
  have hslash : ∀ s ∈ p.segments, '/' ∉ s := fun s hs => Text.not_mem_of_mem_splitOn hs
  have hchars : ∀ s ∈ p.segments, s ⊆ p.text := fun s hs => Text.subset_of_mem_splitOn hs
  by_cases hn : n = 0
  · refine ⟨[], [], Or.inl rfl, by simp, by rw [hn]; rfl, ?_⟩
    rw [spell_nil]
    exact Nat.zero_le _
  obtain ⟨n, rfl⟩ := Nat.exists_eq_succ_of_ne_zero hn
  -- the first segments that are not left out
  have htake : ∀ l : List Text, l ⊆ p.segments → ∀ n, ∃ parts : List Text, parts.Sublist l ∧
      (∀ s ∈ parts, IsSegment s ∧ s ⊆ p.text) ∧
      (l.filterMap Component.ofSegment?).take n = parts.map Component.ofSegment := by
    intro l hl n
    obtain ⟨parts, hsub, hparts, hmap⟩ :=
      Component.exists_sublist_filterMap fun s hs => hslash s (hl hs)
    have htake := List.take_sublist n parts
    refine ⟨parts.take n, htake.trans hsub, fun s hs => ?_, by rw [hmap, List.map_take]⟩
    exact ⟨hparts s (htake.subset hs), hchars s (hl (hsub.subset (htake.subset hs)))⟩
  rcases p.components_cases with hplain | ⟨rest, ⟨hsegs, hcomps⟩ | ⟨hne, hsegs, hcomps⟩⟩
  · obtain ⟨parts, hsub, hparts, hmap⟩ := htake p.segments (List.Subset.refl _) (n + 1)
    refine ⟨[], parts, Or.inl rfl, hparts, by rw [hplain, hmap]; rfl, ?_⟩
    rw [spell_nil, ← hjoin]
    exact Text.byteCount_joinWith_le '/' hsub
  · obtain ⟨parts, hsub, hparts, hmap⟩ := htake rest (by simp [hsegs]) n
    refine ⟨[.here], parts, Or.inr (Or.inl rfl), hparts, ?_, ?_⟩
    · rw [hcomps, List.take_succ_cons, hmap]
      rfl
    · rw [spell_here, ← hjoin, hsegs]
      exact Text.byteCount_joinWith_le '/' (hsub.cons_cons _)
  · obtain ⟨parts, hsub, hparts, hmap⟩ := htake rest (by simp [hsegs]) n
    refine ⟨[.root], parts, Or.inr (Or.inr rfl), hparts, ?_, ?_⟩
    · rw [hcomps, List.take_succ_cons, hmap]
      rfl
    · rw [spell_root]
      cases parts with
      | nil => exact Text.byteCount_pos hne
      | cons s parts =>
        have hle := Text.byteCount_joinWith_le '/' (hsub.cons_cons ([] : Text))
        rw [Text.joinWith_cons_cons, ← hsegs, hjoin] at hle
        exact hle

/-- The path of the first components of a path has these components. -/
theorem components_ofComponents_take (p : Path) (n : Nat) :
    (ofComponents (p.components.take n)).components = p.components.take n := by
  obtain ⟨start, parts, hstart, hparts, htake, -⟩ := p.exists_take_components n
  rw [htake]
  exact components_ofComponents hstart fun s hs => (hparts s hs).1

/-- It is no longer than the path. -/
theorem isTooLong_ofComponents_take {p : Path} (h : p.isTooLong = false) (n : Nat) :
    (ofComponents (p.components.take n)).isTooLong = false := by
  obtain ⟨start, parts, -, -, htake, hlen⟩ := p.exists_take_components n
  rw [isTooLong, decide_eq_false_iff_not] at h ⊢
  rw [htake]
  show ¬maxBytes < Text.byteCount (spell start parts)
  omega

/-- Its characters are those of the path, and slashes. -/
theorem mem_ofComponents_take {p : Path} {n : Nat} {c : Char} (hc : c ≠ '/' ∧ c ≠ '.')
    (h : c ∈ (ofComponents (p.components.take n)).text) : c ∈ p.text := by
  obtain ⟨start, parts, hstart, hparts, htake, -⟩ := p.exists_take_components n
  rw [htake] at h
  have hjoin : ∀ {l : List Text}, (∀ s ∈ l, s = ['.'] ∨ s ∈ parts) → c ∈ joinWith '/' l →
      c ∈ p.text := by
    intro l hl hmem
    rcases Text.eq_or_exists_of_mem_joinWith hmem with hslash | ⟨s, hs, hmem⟩
    · exact absurd hslash hc.1
    · rcases hl s hs with rfl | hs
      · exact absurd (List.mem_singleton.1 hmem) hc.2
      · exact (hparts s hs).2 hmem
  have h : c ∈ spell start parts := h
  rcases hstart with rfl | rfl | rfl
  · rw [spell_nil] at h
    exact hjoin (fun s hs => Or.inr hs) h
  · rw [spell_here] at h
    refine hjoin (fun s hs => ?_) h
    simpa using hs
  · rw [spell_root, List.mem_cons] at h
    exact hjoin (fun s hs => Or.inr hs) (h.resolve_left hc.1)

/-! ## The directories that a path lies in -/

/-- Each of them has some of the first components of the path. -/
theorem exists_take_of_mem_chain {p q : Path} (h : q ∈ p.chain) :
    ∃ n, q.components = p.components.take n := by
  unfold chain at h
  split at h
  · cases h
  · rcases List.mem_cons.1 h with rfl | h
    · exact ⟨q.components.length, List.take_length.symm⟩
    · obtain ⟨n, -, rfl⟩ := List.mem_map.1 h
      exact ⟨n, components_ofComponents_take p n⟩

/-- The path itself, and then what is spelled from fewer and fewer of its components. -/
theorem chain_of_components_ne_nil {p : Path} (h : p.components ≠ []) :
    p.chain = p :: (List.range' 1 (p.components.length - 1)).reverse.map fun n =>
      ofComponents (p.components.take n) := by
  rw [chain]
  cases hcs : p.components with
  | nil => exact absurd hcs h
  | cons c cs => rfl

/-- A path, and then those of the path without its last component. -/
theorem chain_eq_cons {p : Path} {cs : List Component} {c : Component}
    (h : p.components = cs ++ [c]) : p.chain = p :: (ofComponents cs).chain := by
  have hcs : (ofComponents cs).components = cs := by
    have htake := p.components_ofComponents_take cs.length
    rwa [h, List.take_left] at htake
  have hcut : ∀ n ≤ cs.length, (cs ++ [c]).take n = cs.take n :=
    fun n hn => List.take_append_of_le_length hn
  rw [chain_of_components_ne_nil (by simp [h]), h, List.length_append, List.length_singleton,
    Nat.add_sub_cancel, List.cons_inj_right]
  by_cases hnil : cs = []
  · rw [chain, hcs, hnil]
    rfl
  · -- the most components that are left are all but the last one
    obtain ⟨k, hk⟩ := Nat.exists_eq_succ_of_ne_zero fun hzero =>
      hnil (List.length_eq_zero_iff.1 hzero)
    have hne : (ofComponents cs).components ≠ [] := by
      rw [hcs]
      exact hnil
    rw [chain_of_components_ne_nil hne, hcs, hk, List.range'_concat,
      List.reverse_append, List.map_append]
    simp only [List.reverse_singleton, List.map_singleton, List.singleton_append,
      Nat.succ_eq_add_one, Nat.add_sub_cancel, List.cons.injEq]
    constructor
    · rw [hcut _ (by omega), List.take_of_length_le (by omega)]
    · apply List.map_congr_left
      intro n hn
      rw [List.mem_reverse, List.mem_range'_1] at hn
      rw [hcut n (by omega)]

/-! ## Dots at the end -/

/-- Whether a path ends in a dot, slashes apart. -/
def EndsInDot (p : Path) : Prop :=
  (p.segments.filter (· != [])).getLast? = some ['.']

instance (p : Path) : Decidable p.EndsInDot :=
  inferInstanceAs (Decidable (_ = _))

/-- Behind the last segment that counts there are dots if the path ends in one, and otherwise
nothing. -/
theorem all_nil_of_not_endsInDot {p : Path} {before blanks : List Text} (h : ¬p.EndsInDot)
    (hsegments : p.segments = before ++ blanks)
    (hblanks : blanks.filterMap Component.ofSegment? = []) : blanks.all (· == []) = true := by
  by_contra hsome
  have hdots : ∀ s ∈ blanks.filter (· != []), s = ['.'] := by
    intro s hs
    obtain ⟨hmem, hne⟩ := List.mem_filter.1 hs
    have hs := List.filterMap_eq_nil_iff.1 hblanks s hmem
    unfold Component.ofSegment? at hs
    split at hs
    · rename_i hstay
      exact hstay.resolve_left (by simpa using hne)
    · split at hs <;> cases hs
  have hne : blanks.filter (· != []) ≠ [] := by
    simpa [List.filter_eq_nil_iff] using hsome
  apply h
  rw [EndsInDot, hsegments, List.filter_append, List.getLast?_append_of_ne_nil _ hne,
    List.getLast?_eq_some_getLast hne, hdots _ (List.getLast_mem hne)]

/-- A path whose last segments are none that are left out ends in no dot. -/
theorem not_endsInDot_of_segments {p : Path} {front parts : List Text}
    (hsegments : p.segments = front ++ parts) (hparts : ∀ s ∈ parts, IsSegment s)
    (hne : parts ≠ []) : ¬p.EndsInDot := by
  have hall : parts.filter (· != []) = parts := by
    rw [List.filter_eq_self]
    exact fun s hs => by simpa using (hparts s hs).1
  intro hdot
  rw [EndsInDot, hsegments, List.filter_append, hall, List.getLast?_append_of_ne_nil _ hne,
    List.getLast?_eq_some_getLast hne] at hdot
  exact (hparts _ (List.getLast_mem hne)).2.1 (Option.some.inj hdot)

/-- A path that is spelled from components ends in the last of them. -/
theorem not_endsInDot_spell {start : List Component} {parts : List Text}
    (hstart : Component.IsStart start) (hparts : ∀ s ∈ parts, IsSegment s) (hne : parts ≠ []) :
    ¬(ofComponents (start ++ parts.map Component.ofSegment)).EndsInDot := by
  have hslash : ∀ s ∈ parts, '/' ∉ s := fun s hs => (hparts s hs).2.2
  obtain ⟨before, hsegments⟩ : ∃ before, segments ⟨spell start parts⟩ = before ++ parts := by
    rcases hstart with rfl | rfl | rfl
    · rw [spell_nil]
      exact ⟨[], Text.splitOn_joinWith hne hslash⟩
    · rw [spell_here]
      refine ⟨[['.']], Text.splitOn_joinWith (by simp) ?_⟩
      rw [List.forall_mem_cons]
      exact ⟨by decide, hslash⟩
    · rw [spell_root]
      refine ⟨[[]], (List.splitOn_append_cons_self [] _).trans ?_⟩
      rw [Text.splitOn_joinWith hne hslash]
      rfl
  exact not_endsInDot_of_segments hsegments hparts hne

/-- A path that is joined from another one and segments ends in the last of these. -/
theorem not_endsInDot_join (p : Path) {parts : List Text} (hparts : ∀ s ∈ parts, IsSegment s)
    (hne : parts ≠ []) : ¬(p.join (ofSegments parts)).EndsInDot := by
  have hsegments := segments_ofSegments hne hparts
  have habs := (isPlain_ofSegments hparts).1
  by_cases hp : p.text = []
  · have hjoin : p.join (ofSegments parts) = ofSegments parts := by
      rw [join, if_neg (by simp [habs]), if_pos (.inl hp), hp]
      rfl
    have hsegs : (p.join (ofSegments parts)).segments = [] ++ parts := hjoin.symm ▸ hsegments
    exact not_endsInDot_of_segments hsegs hparts hne
  · obtain ⟨a, -, htext⟩ := exists_text_join hp
    have hsegs : (p.join (ofSegments parts)).segments = a.splitOn '/' ++ parts := by
      rw [segments, htext _ habs, List.splitOn_append_cons_self]
      exact congrArg (a.splitOn '/' ++ ·) hsegments
    exact not_endsInDot_of_segments hsegs hparts hne

/-- The path of the first components of a path ends in no dot if the last of them is a name. -/
theorem not_endsInDot_ofComponents {p : Path} {cs rest : List Component} {s : Text}
    (h : p.components = cs ++ .name s :: rest) :
    ¬(ofComponents (cs ++ [.name s])).EndsInDot := by
  obtain ⟨start, parts, hstart, hparts, htake, -⟩ := p.exists_take_components (cs.length + 1)
  have hcut : p.components.take (cs.length + 1) = cs ++ [.name s] := by
    rw [h, List.append_cons, List.take_left' (by simp)]
  rw [hcut] at htake
  rw [htake]
  apply not_endsInDot_spell hstart fun s hs => (hparts s hs).1
  rintro rfl
  have hlast := congrArg List.getLast? htake
  rw [List.getLast?_concat] at hlast
  rcases hstart with rfl | rfl | rfl <;> cases hlast

end Path

end FeatureSheets
