import FeatureSheets.Path
import FeatureSheets.Proofs.FileTree.Nodes
import FeatureSheets.Proofs.Text.Fields
import Mathlib.Data.List.Basic

/-!
# Joined paths

What a path that was put together from two says about the two. The components of `p.join q` are
those of `p` and then those of `q` (`components_join`), so what was joined below a directory can
be read off again (`below?_descend`), and where it leads by its letters is where the directory
leads and on from there (`lexical_join`).
-/

namespace FeatureSheets

open Text (joinWith)

/-! ## Segments -/

/-- Segments that a path may be put together from: between slashes they are found again, and none
of them is left out. -/
def IsSegment (s : Text) : Prop :=
  s ≠ [] ∧ s ≠ ['.'] ∧ '/' ∉ s

theorem isSegment_of_isName {s : Text} (h : isName s = true) : IsSegment s := by
  obtain ⟨hne, hdot, -, hslash, -⟩ := isName_iff.1 h
  exact ⟨hne, hdot, hslash⟩

namespace Component

/-- The component of a segment that is not left out. -/
def ofSegment (s : Text) : Component :=
  if s = ['.', '.'] then .parent else .name s

theorem ofSegment?_of_isSegment {s : Text} (h : IsSegment s) :
    ofSegment? s = some (ofSegment s) := by
  obtain ⟨hne, hdot, -⟩ := h
  rw [ofSegment?, if_neg (by simp [hne, hdot]), ofSegment]
  split <;> rfl

theorem ofSegment_of_isName {s : Text} (h : isName s = true) : ofSegment s = .name s :=
  if_neg (isName_iff.1 h).2.2.1

end Component

namespace Path

/-! ## The components of a joined path -/

theorem segments_slash (a b : Text) :
    segments ⟨a ++ '/' :: b⟩ = a.splitOn '/' ++ b.splitOn '/' :=
  List.splitOn_append_cons_self a b

/-- What follows a slash adds components, and the slash decides about the start. -/
theorem components_slash (a b : Text) :
    components ⟨a ++ '/' :: b⟩ =
      components ⟨a ++ ['/']⟩ ++ (b.splitOn '/').filterMap Component.ofSegment? := by
  have habs : isAbsolute ⟨a ++ '/' :: b⟩ = isAbsolute ⟨a ++ ['/']⟩ := by
    cases a <;> rfl
  have hhead : (segments ⟨a ++ '/' :: b⟩).head? = (segments ⟨a ++ ['/']⟩).head? := by
    obtain ⟨first, rest, h⟩ := List.exists_cons_of_ne_nil (List.splitOn_ne_nil '/' a)
    rw [segments_slash, segments_slash, h]
    rfl
  have hlast : (segments ⟨a ++ ['/']⟩).filterMap Component.ofSegment? =
      (a.splitOn '/').filterMap Component.ofSegment? := by
    rw [segments_slash, List.filterMap_append]
    exact List.append_nil _
  unfold components
  rw [habs, hhead, hlast, segments_slash, List.filterMap_append]
  split
  · rfl
  · split <;> rfl

/-- A slash at the end of a path makes no component. -/
theorem components_append_slash {a : Text} (h : a ≠ []) :
    components ⟨a ++ ['/']⟩ = components ⟨a⟩ := by
  have habs : isAbsolute ⟨a ++ ['/']⟩ = isAbsolute ⟨a⟩ := by
    cases a with
    | nil => exact absurd rfl h
    | cons c a => rfl
  have hhead : (segments ⟨a ++ ['/']⟩).head? = (segments ⟨a⟩).head? := by
    obtain ⟨first, rest, hs⟩ := List.exists_cons_of_ne_nil (List.splitOn_ne_nil '/' a)
    rw [segments_slash, segments, hs]
    rfl
  have hrest : (segments ⟨a ++ ['/']⟩).filterMap Component.ofSegment? =
      (segments ⟨a⟩).filterMap Component.ofSegment? := by
    rw [segments_slash, List.filterMap_append]
    exact List.append_nil _
  unfold components
  rw [habs, hhead, hrest]

/-- Whether a path begins neither at the root nor with a dot. -/
def IsPlain (q : Path) : Prop :=
  q.isAbsolute = false ∧ q.segments.head? ≠ some ['.']

theorem components_of_isPlain {q : Path} (h : q.IsPlain) :
    q.components = q.segments.filterMap Component.ofSegment? := by
  have hhead : (q.segments.head? == some ['.']) = false := beq_false_of_ne h.2
  unfold components
  rw [h.1, hhead]
  rfl

theorem text_ne_nil_of_components {p : Path} (h : p.components ≠ []) : p.text ≠ [] := by
  intro hnil
  obtain ⟨text⟩ := p
  cases hnil
  exact h rfl

/-- Below a path that has a text, a slash is set or is there already. -/
theorem exists_text_join {p : Path} (hp : p.text ≠ []) :
    ∃ a, components ⟨a ++ ['/']⟩ = p.components ∧
      ∀ q : Path, q.isAbsolute = false → (p.join q).text = a ++ '/' :: q.text := by
  by_cases hslash : p.text.getLast? = some '/'
  · obtain ⟨a, ha⟩ := List.getLast?_eq_some_iff.1 hslash
    refine ⟨a, by rw [← ha], fun q hq => ?_⟩
    rw [join, if_neg (by simp [hq]), if_pos (Or.inr hslash), ha]
    simp
  · refine ⟨p.text, components_append_slash hp, fun q hq => ?_⟩
    rw [join, if_neg (by simp [hq]), if_neg (by simp [hp, hslash])]

/-- The components of a joined path are those of its parts. -/
theorem components_join {p q : Path} (h : q.IsPlain) :
    (p.join q).components = p.components ++ q.components := by
  by_cases hp : p.text = []
  · obtain ⟨text⟩ := p
    obtain rfl : text = [] := hp
    rw [join, if_neg (by simp [h.1]), if_pos (Or.inl rfl)]
    rfl
  · obtain ⟨a, ha, htext⟩ := exists_text_join hp
    have hjoin : p.join q = ⟨a ++ '/' :: q.text⟩ := congrArg Path.mk (htext q h.1)
    rw [hjoin, components_slash, ha, components_of_isPlain h]
    rfl

/-! ## Paths of segments -/

/-- The path of some segments. -/
def ofSegments (segments : List Text) : Path :=
  ⟨joinWith '/' segments⟩

theorem segments_ofSegments {parts : List Text} (hne : parts ≠ [])
    (h : ∀ s ∈ parts, IsSegment s) : (ofSegments parts).segments = parts :=
  Text.splitOn_joinWith hne fun s hs => (h s hs).2.2

theorem isPlain_ofSegments {parts : List Text} (h : ∀ s ∈ parts, IsSegment s) :
    (ofSegments parts).IsPlain := by
  cases parts with
  | nil => exact ⟨rfl, by decide⟩
  | cons first rest =>
    obtain ⟨hne, hdot, hslash⟩ := h first (by simp)
    refine ⟨?_, ?_⟩
    · obtain ⟨c, s, rfl⟩ := List.exists_cons_of_ne_nil hne
      have hc : ¬c = '/' := fun e => hslash (by simp [e])
      have hhead : (ofSegments ((c :: s) :: rest)).text.head? = some c := by
        cases rest with
        | nil => rw [ofSegments, Text.joinWith_singleton]; rfl
        | cons next rest => rw [ofSegments, Text.joinWith_cons_cons]; rfl
      rw [isAbsolute, hhead]
      simpa using hc
    · rw [segments_ofSegments (by simp) h]
      simpa using hdot

theorem components_ofSegments {parts : List Text} (h : ∀ s ∈ parts, IsSegment s) :
    (ofSegments parts).components = parts.map Component.ofSegment := by
  rw [components_of_isPlain (isPlain_ofSegments h)]
  cases parts with
  | nil => rfl
  | cons first rest =>
    rw [segments_ofSegments (by simp) h, ← List.filterMap_eq_map]
    apply List.filterMap_congr
    intro s hs
    exact Component.ofSegment?_of_isSegment (h s hs)

/-- A path of names has these names for components. -/
theorem map_ofSegment_of_isName {names : List Text} (h : ∀ n ∈ names, isName n = true) :
    names.map Component.ofSegment = names.map Component.name :=
  List.map_congr_left fun n hn => Component.ofSegment_of_isName (h n hn)

theorem ofComponents_map_name (names : List Text) :
    ofComponents (names.map Component.name) = ofSegments names := by
  have hmap : (names.map Component.name).map Component.text = names := by
    rw [List.map_map]
    exact List.map_id names
  cases names with
  | nil => rfl
  | cons name names => exact congrArg (fun parts => (⟨joinWith '/' parts⟩ : Path)) hmap

/-! ## Going down -/

/-- The path that goes from `p` down by names, one after the other. -/
def descend (p : Path) (names : List Text) : Path :=
  names.foldl (fun p n => p.join ⟨n⟩) p

theorem descend_append_singleton (p : Path) (names : List Text) (n : Text) :
    p.descend (names ++ [n]) = (p.descend names).join ⟨n⟩ := by
  rw [descend, List.foldl_append]
  rfl

/-- A name is the path of one segment. -/
theorem ofSegments_singleton (n : Text) : ofSegments [n] = ⟨n⟩ :=
  congrArg Path.mk (Text.joinWith_singleton '/' n)

theorem isPlain_of_isName {n : Text} (h : isName n = true) : IsPlain ⟨n⟩ :=
  ofSegments_singleton n ▸ isPlain_ofSegments (by simpa using isSegment_of_isName h)

theorem components_of_isName {n : Text} (h : isName n = true) :
    components ⟨n⟩ = [.name n] := by
  rw [← ofSegments_singleton, components_ofSegments (by simpa using isSegment_of_isName h),
    List.map_singleton, Component.ofSegment_of_isName h]

theorem components_descend (p : Path) {names : List Text} (h : ∀ n ∈ names, isName n = true) :
    (p.descend names).components = p.components ++ names.map Component.name := by
  induction names generalizing p with
  | nil => exact (List.append_nil _).symm
  | cons n names ih =>
    have hn := h n (by simp)
    rw [descend, List.foldl_cons, ← descend, ih _ fun m hm => h m (by simp [hm]),
      components_join (isPlain_of_isName hn), components_of_isName hn]
    simp

/-- Different names lead down to different places. -/
theorem eq_of_components_descend (p : Path) {names names' : List Text}
    (h : ∀ n ∈ names, isName n = true) (h' : ∀ n ∈ names', isName n = true)
    (heq : (p.descend names).components = (p.descend names').components) : names = names' := by
  rw [components_descend p h, components_descend p h', List.append_cancel_left_eq] at heq
  have hname : Function.Injective Component.name := fun _ _ h => Component.name.inj h
  exact hname.list_map heq

/-- What was gone down is found again below the path it began at. -/
theorem below?_descend (p : Path) {names : List Text} (h : ∀ n ∈ names, isName n = true) :
    below? p (p.descend names) = some (ofSegments names) := by
  have hprefix : p.components.isPrefixOf? (p.descend names).components =
      some (names.map Component.name) :=
    List.isPrefixOf?_eq_some_iff_append_eq.2 (components_descend p h).symm
  rw [below?, hprefix, Option.map_some, ofComponents_map_name]

/-! ## Where a joined path leads -/

/-- A joined path leads on from where its first part leads. -/
theorem lexical_join {p q : Path} (h : q.IsPlain) :
    (p.join q).lexical = (q.components.foldl Component.stepFrom p.lexical.reverse).reverse := by
  rw [lexical, components_join h, List.foldl_append, lexical, List.reverse_reverse]

/-- Names lead on from anywhere. -/
theorem foldl_stepFrom_names (way : List Component) (names : List Text) :
    (names.map Component.name).foldl Component.stepFrom way =
      (names.map Component.name).reverse ++ way := by
  induction names generalizing way with
  | nil => rfl
  | cons n names ih =>
    have hstep : Component.stepFrom way (.name n) = .name n :: way := by
      cases way with
      | nil => rfl
      | cons c way => cases c <;> rfl
    rw [List.map_cons, List.foldl_cons, hstep, ih]
    simp

end Path

end FeatureSheets
