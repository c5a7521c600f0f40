import FeatureSheets.Proofs.Path.Join
import Mathlib.Data.List.TakeWhile

/-!
# Stems and extensions

What splitting a file name says about it, and what is left of a path whose extension is taken
away. A file name splits in exactly one way (`splitName_eq_some_iff`). Without its extension a
path ends in the stem of its file name, with one exception: when the stem is a single dot, the
dot before the extension stays as well (`withoutExtension_ofSegments`).
-/

namespace FeatureSheets.Path

open Text (joinWith)

/-! ## The file name -/

/-- The last segment is the file name, unless it is a pair of dots. -/
theorem nameParts?_of_segments {p : Path} {front : List Text} {last : Text}
    (hseg : p.segments = front ++ [last]) (hlast : IsSegment last) :
    p.nameParts? = if last = ['.', '.'] then none else some (front, last) := by
  obtain ⟨hne, hdot, -⟩ := hlast
  have hdrop : (front ++ [last]).reverse.dropWhile (fun s => s == [] || s == ['.']) =
      last :: front.reverse := by
    rw [List.reverse_concat, List.dropWhile_cons_of_neg (by simp [hne, hdot])]
  rw [nameParts?, hseg, hdrop]
  simp only [List.reverse_reverse]

theorem fileName?_of_segments {p : Path} {front : List Text} {name : Text}
    (hseg : p.segments = front ++ [name]) (hname : isName name = true) :
    p.fileName? = some name := by
  rw [fileName?, nameParts?_of_segments hseg (isSegment_of_isName hname),
    if_neg (isName_iff.1 hname).2.2.1]
  rfl

/-- What stands before the last segment of a path below `p`. -/
def front (p : Path) : List Text :=
  (p.join ⟨['.']⟩).segments.dropLast

theorem isAbsolute_of_not_mem {s : Text} (hne : s ≠ []) (h : '/' ∉ s) : isAbsolute ⟨s⟩ = false := by
  obtain ⟨c, rest, rfl⟩ := List.exists_cons_of_ne_nil hne
  have hc : ¬c = '/' := fun hc => h (by simp [hc])
  simpa [isAbsolute] using hc

/-- A text without a slash that is joined to a path comes after a text that does not depend on
it. -/
theorem exists_text_join_append (p : Path) :
    ∃ before : Text, ∀ s : Text, s ≠ [] → '/' ∉ s → (p.join ⟨s⟩).text = before ++ s := by
  by_cases hp : p.text = []
  · refine ⟨[], fun s hne h => ?_⟩
    rw [join, if_neg (by simp [isAbsolute_of_not_mem hne h]), if_pos (Or.inl hp), hp]
  · obtain ⟨a, -, htext⟩ := exists_text_join hp
    refine ⟨a ++ ['/'], fun s hne h => ?_⟩
    rw [htext _ (isAbsolute_of_not_mem hne h), List.append_assoc]
    rfl

/-- A text without a slash that is joined to a path is the last segment, and the segments before it
do not depend on it. -/
theorem segments_join (p : Path) {s : Text} (hne : s ≠ []) (h : '/' ∉ s) :
    (p.join ⟨s⟩).segments = p.front ++ [s] := by
  have hfront : ∃ front, ∀ s : Text, s ≠ [] → '/' ∉ s →
      (p.join ⟨s⟩).segments = front ++ [s] := by
    by_cases hp : p.text = []
    · refine ⟨[], fun s hne h => ?_⟩
      rw [join, if_neg (by simp [isAbsolute_of_not_mem hne h]), if_pos (Or.inl hp), hp]
      exact List.splitOn_eq_singleton h
    · obtain ⟨a, -, htext⟩ := exists_text_join hp
      refine ⟨a.splitOn '/', fun s hne h => ?_⟩
      rw [segments, htext _ (isAbsolute_of_not_mem hne h), List.splitOn_append_cons_self,
        List.splitOn_eq_singleton h]
  obtain ⟨front, hsegs⟩ := hfront
  rw [Path.front, hsegs ['.'] (by simp) (by decide), List.dropLast_concat, hsegs s hne h]

theorem segments_join_of_isName (p : Path) {name : Text} (h : isName name = true) :
    (p.join ⟨name⟩).segments = p.front ++ [name] := by
  obtain ⟨hne, -, -, hslash, -⟩ := isName_iff.1 h
  exact segments_join p hne hslash

/-- The segments of a path are those before a name that is joined to it; where the path ends in a
slash there is an empty one more. -/
theorem segments_eq_front {p : Path} (hp : p.text ≠ []) :
    p.segments = p.front ∨ p.segments = p.front ++ [[]] := by
  have hfront : ∀ a : Text, (p.join ⟨['.']⟩).text = a ++ '/' :: ['.'] →
      p.front = a.splitOn '/' := by
    intro a ha
    have hlast : (['.'] : Text).splitOn '/' = [['.']] := List.splitOn_eq_singleton (by decide)
    rw [front, segments, ha, List.splitOn_append_cons_self, hlast, List.dropLast_concat]
  have hdot : isAbsolute ⟨['.']⟩ = false := by decide
  by_cases hslash : p.text.getLast? = some '/'
  · obtain ⟨a, ha⟩ := List.getLast?_eq_some_iff.1 hslash
    have htext : (p.join ⟨['.']⟩).text = a ++ '/' :: ['.'] := by
      rw [join, if_neg (by simp [hdot]), if_pos (Or.inr hslash), ha, List.append_assoc]
      rfl
    refine Or.inr ?_
    rw [hfront a htext, segments, ha, List.splitOn_append_cons_self]
    rfl
  · refine Or.inl (hfront p.text ?_).symm
    rw [join, if_neg (by simp [hdot]), if_neg (by simp [hp, hslash])]

/-- A name comes after the path that it is joined to. -/
theorem exists_text_join_eq_append (p : Path) {name : Text} (h : isName name = true) :
    ∃ rest, (p.join ⟨name⟩).text = p.text ++ rest := by
  obtain ⟨hne, -, -, hslash, -⟩ := isName_iff.1 h
  rw [join, if_neg (by simp [isAbsolute_of_not_mem hne hslash])]
  split
  · exact ⟨name, rfl⟩
  · exact ⟨'/' :: name, rfl⟩

/-- The file name of a path that goes down by names is the last of them. -/
theorem fileName?_descend (p : Path) (dirs : List Text) {name : Text}
    (h : isName name = true) : (p.descend (dirs ++ [name])).fileName? = some name := by
  rw [descend_append_singleton]
  exact fileName?_of_segments (segments_join_of_isName _ h) h

/-! ## Splitting a file name -/

/-- A file name splits at a dot that something stands before and no dot follows. -/
theorem splitName_append_dot {stem e : Text} (hstem : stem ≠ []) (he : '.' ∉ e) :
    splitName (stem ++ '.' :: e) = (stem, some e) := by
  have hne : ∀ c ∈ e.reverse, (c != '.') = true := by
    intro c hc
    have hc : c ∈ e := List.mem_reverse.1 hc
    simpa using fun heq : c = '.' => he (heq ▸ hc)
  have hrev : (stem ++ '.' :: e).reverse = e.reverse ++ '.' :: stem.reverse := by simp
  have hdrop : (e.reverse ++ '.' :: stem.reverse).dropWhile (· != '.') =
      '.' :: stem.reverse := by
    rw [List.dropWhile_append_of_pos hne, List.dropWhile_cons_of_neg (by simp)]
  have htake : (e.reverse ++ '.' :: stem.reverse).takeWhile (· != '.') = e.reverse := by
    rw [List.takeWhile_append_of_pos hne, List.takeWhile_cons_of_neg (by simp),
      List.append_nil]
  obtain ⟨c, before, hstem⟩ := List.exists_cons_of_ne_nil (by simpa using hstem :
    stem.reverse ≠ [])
  rw [splitName, hrev, hdrop, htake, hstem]
  simp only [List.reverse_reverse, Prod.mk.injEq, and_true]
  rw [← hstem, List.reverse_reverse]

/-- What a file name splits into is the file name with a dot between, and the last one. -/
theorem splitName_eq_some_iff {name stem e : Text} :
    splitName name = (stem, some e) ↔ name = stem ++ '.' :: e ∧ stem ≠ [] ∧ '.' ∉ e := by
  refine ⟨fun h => ?_, fun ⟨hname, hstem, he⟩ => hname ▸ splitName_append_dot hstem he⟩
  rw [splitName] at h
  split at h
  · rename_i d c before hdrop
    simp only [Prod.mk.injEq, Option.some.injEq] at h
    obtain ⟨hstem, he⟩ := h
    have hd : d = '.' := by
      have hhead := List.head?_dropWhile_not (· != '.') name.reverse
      rw [hdrop] at hhead
      simpa using hhead
    have hrev : name.reverse = e.reverse ++ '.' :: stem.reverse := by
      have happ := (List.takeWhile_append_dropWhile (p := (· != '.')) (l := name.reverse)).symm
      rw [hdrop, hd] at happ
      rw [happ, ← he, ← hstem, List.reverse_reverse, List.reverse_reverse]
    refine ⟨by simpa using congrArg List.reverse hrev, ?_, fun hmem => ?_⟩
    · rw [← hstem]
      simp
    · rw [← he, List.mem_reverse] at hmem
      simpa using List.mem_takeWhile_imp hmem
  · cases h

/-! ## Taking the extension away -/

/-- The last segment of a path that ends with the file name `stem.`, cut off after the stem. A
stem of one dot makes a pair of dots of it, which is no file name. -/
theorem cutAfterStem_ofSegments {dirs : List Text} {stem : Text}
    (hdirs : ∀ d ∈ dirs, IsSegment d) (hne : stem ≠ []) (hslash : '/' ∉ stem) :
    cutAfterStem (ofSegments (dirs ++ [stem ++ ['.']])) =
      ofSegments (dirs ++ [if stem = ['.'] then ['.', '.'] else stem]) := by
  have hlast : IsSegment (stem ++ ['.']) := by
    exact ⟨by simp, by simp [hne], by simp [hslash]⟩
  have hall : ∀ s ∈ dirs ++ [stem ++ ['.']], IsSegment s := by
    intro s hs
    rcases List.mem_append.1 hs with hs | hs
    · exact hdirs s hs
    · exact List.mem_singleton.1 hs ▸ hlast
  have hparts := nameParts?_of_segments (segments_ofSegments (by simp) hall) hlast
  have hdots : stem ++ ['.'] = ['.', '.'] ↔ stem = ['.'] := by
    show stem ++ ['.'] = ['.'] ++ ['.'] ↔ stem = ['.']
    exact List.append_left_inj ['.']
  rw [cutAfterStem, hparts]
  by_cases hstem : stem = ['.']
  · rw [if_pos (hdots.2 hstem), if_pos hstem, hstem]
    rfl
  · rw [if_neg fun h => hstem (hdots.1 h), if_neg hstem]
    simp only [splitName_append_dot hne List.not_mem_nil]
    rfl

/-- A path of segments without the extension of its file name. -/
theorem withoutExtension_ofSegments {dirs : List Text} {stem e : Text}
    (hdirs : ∀ d ∈ dirs, IsSegment d) (hname : isName (stem ++ '.' :: e) = true)
    (hstem : stem ≠ []) (he : '.' ∉ e) :
    (ofSegments (dirs ++ [stem ++ '.' :: e])).withoutExtension =
      ofSegments (dirs ++ [if stem = ['.'] then ['.', '.'] else stem]) := by
  have hlast := isSegment_of_isName hname
  have hall : ∀ s ∈ dirs ++ [stem ++ '.' :: e], IsSegment s := by
    intro s hs
    rcases List.mem_append.1 hs with hs | hs
    · exact hdirs s hs
    · exact List.mem_singleton.1 hs ▸ hlast
  have hslash : '/' ∉ stem := fun h => hlast.2.2 (by simp [h])
  have hext : (ofSegments (dirs ++ [stem ++ '.' :: e])).extension? = some e := by
    rw [extension?, fileName?_of_segments (segments_ofSegments (by simp) hall) hname,
      Option.bind_some, splitName_append_dot hstem he]
  -- cutting off the characters of the extension leaves the dot before it
  have htext : (ofSegments (dirs ++ [stem ++ '.' :: e])).text =
      (ofSegments (dirs ++ [stem ++ ['.']])).text ++ e := by
    by_cases hd : dirs = []
    · simp [hd, ofSegments]
    · simp [ofSegments, Text.joinWith_append_singleton hd]
  rw [withoutExtension, hext]
  simp only [htext, List.length_append, Nat.add_sub_cancel, List.take_left]
  exact cutAfterStem_ofSegments hdirs hstem hslash

end FeatureSheets.Path
