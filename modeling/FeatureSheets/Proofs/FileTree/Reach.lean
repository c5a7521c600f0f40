import FeatureSheets.Proofs.FileTree.Directories
import FeatureSheets.Proofs.Path.Components

/-!
# Trees without links

In a tree without links a path leads where its letters say, if it leads anywhere: each name leads
down, and each pair of dots takes the last name back (`key_of_resolve`). How far its components
lead from directory to directory is `reach`, and a path that is followed further goes on from
there (`follow_append`).
-/

namespace FeatureSheets

/-- The place that a component leads to from a place, by its letters. -/
def Component.enter (dir : Key) : Component → Key
  | .root => []
  | .here => dir
  | .parent => dir.dropLast
  | .name s => dir ++ [s]

/-- The place of what a path leads to. -/
def Place.key : Place → Key
  | .directory key | .file key _ _ | .link key => key
  | .vacant dir name _ => dir ++ [name]

/-- What components come to that lead to a place. -/
def Place.way : Place → Except FileFault Key
  | .directory key => .ok key
  | .file .. => .error .notDirectory
  | .vacant .. | .link _ => .error .missing

theorem bind_way_eq_ok_iff {r : Except FileFault Place} {key : Key} :
    r.bind Place.way = .ok key ↔ r = .ok (.directory key) := by
  constructor
  · intro h
    cases r with
    | error fault => cases h
    | ok place =>
      cases place <;> cases h
      rfl
  · rintro rfl
    rfl

namespace Path

/-- The place that the first `n` components of a path lead to, by their letters. -/
def placeAfter (p : Path) (n : Nat) : Key :=
  (p.components.take n).foldl Component.enter []

/-- The place that a path leads to, by its letters. -/
def place (p : Path) : Key :=
  p.components.foldl Component.enter []

/-- The path of the first components of a path is looked up where the path is, if there are
any. -/
theorem IsTaken.take {p : Path} (h : p.IsTaken) {n : Nat} (hn : p.components.take n ≠ []) :
    (ofComponents (p.components.take n)).IsTaken := by
  refine ⟨fun hnil => hn ?_, fun hnul => h.nul (mem_ofComponents_take (by decide) hnul),
    isTooLong_ofComponents_take h.short n⟩
  have hempty : ofComponents (p.components.take n) = ⟨[]⟩ := congrArg Path.mk hnil
  rw [← components_ofComponents_take p n, hempty]
  rfl

/-- A name in a directory makes no difference to where the directory's components lead. -/
theorem filterMap_front (p : Path) :
    p.front.filterMap Component.ofSegment? = p.segments.filterMap Component.ofSegment? := by
  by_cases hp : p.text = []
  · obtain ⟨text⟩ := p
    cases hp
    rfl
  · rcases segments_eq_front hp with h | h
    · rw [h]
    · rw [h, List.filterMap_append]
      exact (List.append_nil _).symm

end Path

namespace FileTree

/-- Whether there is no link anywhere in a tree. -/
def HasNoLinks (t : FileTree) : Prop :=
  ∀ key target, t.get? key ≠ some (.link target)

theorem HasNoLinks.isLinkFree {t : FileTree} (h : t.HasNoLinks) (key : Key) : t.IsLinkFree key :=
  fun name target => h (key ++ [name]) target

theorem Extends.hasNoLinks_iff {t t' : FileTree} (h : t.Extends t') :
    t'.HasNoLinks ↔ t.HasNoLinks := by
  unfold HasNoLinks
  simp only [ne_eq, h.link]

/-- Where no link is listed, there is none. -/
theorem hasNoLinks_of_entryKind {t : FileTree} (h : ∀ e ∈ t.nodes, e.2.entryKind ≠ .link) :
    t.HasNoLinks := by
  intro key target hget
  rw [get?] at hget
  split at hget
  · cases hget
  · exact h _ (mem_of_lookupNode hget) rfl

/-- How far components lead from a directory, all through directories. -/
def reach (t : FileTree) (dir : Key) : List Component → Except FileFault Key
  | [] => .ok dir
  | .root :: rest => reach t [] rest
  | .here :: rest => reach t dir rest
  | .parent :: rest => reach t dir.dropLast rest
  | .name s :: rest =>
    if maxNameBytes < s.byteCount then .error .tooLong
    else
      match t.get? (dir ++ [s]) with
      | none => .error .missing
      | some .directory => reach t (dir ++ [s]) rest
      | some _ => .error .notDirectory

variable {t t' : FileTree} {purpose : Purpose} {dir key : Key} {segments : List Text}

/-! ## Components one after another -/

theorem reach_append (t : FileTree) (dir : Key) (cs cs' : List Component) :
    t.reach dir (cs ++ cs') = (t.reach dir cs).bind fun key => t.reach key cs' := by
  induction cs generalizing dir with
  | nil => rfl
  | cons c cs ih =>
    cases c with
    | root => exact ih []
    | here => exact ih dir
    | parent => exact ih dir.dropLast
    | name s =>
      rw [List.cons_append, reach, reach]
      split
      · rfl
      · cases t.get? (dir ++ [s]) with
        | none => rfl
        | some node =>
          cases node with
          | directory => exact ih (dir ++ [s])
          | file content => rfl
          | link target => rfl

/-- A name leads to a directory that has the name, and the components after it go on there. -/
theorem reach_name_eq_ok_iff {s : Text} {cs : List Component} :
    t.reach dir (.name s :: cs) = .ok key ↔
      s.byteCount ≤ maxNameBytes ∧ t.get? (dir ++ [s]) = some .directory ∧
        t.reach (dir ++ [s]) cs = .ok key := by
  rw [reach, ← Nat.not_lt]
  split
  · rename_i hlong
    simp [hlong]
  · rename_i hshort
    cases hget : t.get? (dir ++ [s]) with
    | none => simp
    | some node => cases node <;> simp [hshort]

/-- Components lead to the place that their letters say, if they lead anywhere. -/
theorem eq_of_reach {cs : List Component} (h : t.reach dir cs = .ok key) :
    key = cs.foldl Component.enter dir := by
  induction cs generalizing dir with
  | nil => exact (Except.ok.inj h).symm
  | cons c cs ih =>
    cases c with
    | root => exact ih h
    | here => exact ih h
    | parent => exact ih h
    | name s => exact ih (reach_name_eq_ok_iff.1 h).2.2

/-- Components that lead from a directory to a place lead to a directory. -/
theorem get?_of_reach {cs : List Component} (hdir : t.get? dir = some .directory)
    (h : t.reach dir cs = .ok key) : t.get? key = some .directory := by
  induction cs generalizing dir with
  | nil =>
    cases h
    exact hdir
  | cons c cs ih =>
    cases c with
    | root => exact ih rfl h
    | here => exact ih hdir h
    | parent => exact ih (get?_dropLast hdir) h
    | name s =>
      obtain ⟨-, hget, h⟩ := reach_name_eq_ok_iff.1 h
      exact ih hget h

/-- The components of a path lead where its segments do. -/
theorem reach_components (t : FileTree) (p : Path) :
    t.reach [] p.components = t.reach [] (p.segments.filterMap Component.ofSegment?) := by
  obtain ⟨start, hstart, hcomps⟩ := p.exists_components_eq
  rw [hcomps]
  rcases hstart with rfl | rfl | rfl <;> rfl

theorem place_eq_foldl (p : Path) :
    p.place = (p.segments.filterMap Component.ofSegment?).foldl Component.enter [] := by
  obtain ⟨start, hstart, hcomps⟩ := p.exists_components_eq
  rw [Path.place, hcomps]
  rcases hstart with rfl | rfl | rfl <;> rfl

/-! ## Segments one after another -/

theorem filterMap_of_all_nil (h : segments.all (· == []) = true) :
    segments.filterMap Component.ofSegment? = [] := by
  rw [List.filterMap_eq_nil_iff]
  intro s hs
  have hs : s = [] := by simpa using List.all_eq_true.1 h s hs
  rw [hs]
  rfl

theorem IsLookedUp.ofSegment? {s : Text} {rest : List Text} (h : IsLookedUp purpose s rest) :
    Component.ofSegment? s = some (.name s) := by
  rw [Component.ofSegment?, if_neg h.not_stay, if_neg h.not_up]

/-- A segment leads on to the place that its letters say. -/
theorem Enters.foldl {s : Text} {rest : List Text} (h : t.Enters purpose dir s rest key) :
    key = (Component.ofSegment? s).toList.foldl Component.enter dir := by
  cases h with
  | stay h =>
    have hs : Component.ofSegment? s = none := if_pos h
    rw [hs]
    rfl
  | up h =>
    rw [h]
    rfl
  | into hname h =>
    rw [hname.ofSegment?]
    rfl

theorem filterMap_ofSegment?_cons (s : Text) (rest : List Text) :
    (s :: rest).filterMap Component.ofSegment? =
      (Component.ofSegment? s).toList ++ rest.filterMap Component.ofSegment? := by
  cases h : Component.ofSegment? s with
  | none => rw [List.filterMap_cons_none h]; rfl
  | some c => rw [List.filterMap_cons_some h]; rfl

/-- Segments that are followed to their end lead to the place that their letters say. -/
theorem key_of_follow {place : Place}
    (h : t.follow purpose dir segments = .ok (.ended place)) :
    Place.key place = (segments.filterMap Component.ofSegment?).foldl Component.enter dir := by
  induction segments generalizing dir with
  | nil =>
    cases h
    rfl
  | cons s rest ih =>
    rw [filterMap_ofSegment?_cons, List.foldl_append]
    rcases follow_cons_eq_ok_iff.1 h with ⟨key, henter, hrest⟩ | hstop
    · rw [ih hrest, henter.foldl]
    · cases hstop with
      | vacant hname hget hlast | file hname hget hlast =>
        rw [hname.ofSegment?, filterMap_of_all_nil hlast]
        rfl
      | link hname hget hlast =>
        rw [hname.ofSegment?, filterMap_of_all_nil hlast.2]
        rfl

/-- All that a segment can be: one that is left out, a pair of dots, or a name. -/
theorem segment_cases (s : Text) :
    ((s = [] ∨ s = ['.']) ∧ Component.ofSegment? s = none) ∨ s = ['.', '.'] ∨
      (¬(s = [] ∨ s = ['.']) ∧ s ≠ ['.', '.'] ∧ Component.ofSegment? s = some (.name s)) := by
  by_cases hstay : s = [] ∨ s = ['.']
  · exact .inl ⟨hstay, if_pos hstay⟩
  by_cases hup : s = ['.', '.']
  · exact .inr (.inl hup)
  · refine .inr (.inr ⟨hstay, hup, ?_⟩)
    rw [Component.ofSegment?, if_neg hstay, if_neg hup]

/-- A segment that stands for a component is a pair of dots or a name. -/
theorem ofSegment?_eq_some_cases {s : Text} {c : Component}
    (h : Component.ofSegment? s = some c) :
    (s = ['.', '.'] ∧ c = .parent) ∨
      (¬(s = [] ∨ s = ['.']) ∧ s ≠ ['.', '.'] ∧ c = .name s) := by
  rcases segment_cases s with ⟨-, hs⟩ | rfl | ⟨hstay, hup, hs⟩
  · cases hs.symm.trans h
  · exact .inl ⟨rfl, (Option.some.inj h).symm⟩
  · exact .inr ⟨hstay, hup, Option.some.inj (h.symm.trans hs)⟩

/-- Where no link is, components come to what their segments do that are followed to look or to
make something. -/
theorem reach_of_follow (hlinks : t.HasNoLinks) (hpurpose : purpose ≠ .write)
    {r : Except FileFault Place} (h : t.follow purpose dir segments = r.map .ended) :
    t.reach dir (segments.filterMap Component.ofSegment?) = r.bind Place.way := by
  induction segments generalizing dir with
  | nil =>
    cases r <;> cases h
    rfl
  | cons s rest ih =>
    rw [filterMap_ofSegment?_cons]
    have hslash : ¬(purpose = .write ∧ rest ≠ [] ∧ rest.all (· == []) = true) :=
      fun hw => hpurpose hw.1
    rcases segment_cases s with ⟨hstay, hs⟩ | rfl | ⟨hstay, hup, hs⟩
    · rw [follow_of_stay hstay] at h
      rw [hs]
      exact ih h
    · rw [follow_of_up rfl] at h
      exact ih h
    rw [hs, Option.toList_some, List.singleton_append, reach]
    by_cases hlong : maxNameBytes < s.byteCount
    · rw [follow_of_long hstay hup hslash hlong] at h
      rw [if_pos hlong]
      cases r <;> cases h
      rfl
    rw [follow_of_isLookedUp ⟨hstay, hup, hslash, hlong⟩] at h
    rw [if_neg hlong]
    cases hget : t.get? (dir ++ [s]) with
    | none =>
      -- a last name that is not there is vacant, which components tell as missing
      rw [hget, followNode] at h
      split at h <;> cases r <;> cases h <;> rfl
    | some node =>
      cases node with
      | directory =>
        rw [hget] at h
        exact ih h
      | link target => exact absurd hget (hlinks _ _)
      | file content =>
        rw [hget, followNode] at h
        split at h <;> cases r <;> cases h <;> rfl

/-- Where no link is, segments with something behind them are followed as far as their components
lead, and the rest from there. -/
theorem follow_append (hlinks : t.HasNoLinks) {rest : List Text}
    (hrest : rest.all (· == []) = false) (dir : Key) :
    t.follow purpose dir (segments ++ rest) =
      (t.reach dir (segments.filterMap Component.ofSegment?)).bind fun key =>
        t.follow purpose key rest := by
  induction segments generalizing dir with
  | nil => rfl
  | cons s segments ih =>
    have hlast : ¬(segments ++ rest).all (· == []) = true := by
      rw [List.all_append, hrest, Bool.and_false]
      exact Bool.false_ne_true
    have hslash : ¬(purpose = .write ∧ segments ++ rest ≠ [] ∧
      (segments ++ rest).all (· == []) = true) := fun hw => hlast hw.2.2
    rw [List.cons_append, filterMap_ofSegment?_cons]
    rcases segment_cases s with ⟨hstay, hs⟩ | rfl | ⟨hstay, hup, hs⟩
    · rw [follow_of_stay hstay, hs]
      exact ih dir
    · rw [follow_of_up rfl]
      exact ih dir.dropLast
    rw [hs, Option.toList_some, List.singleton_append, reach]
    by_cases hlong : maxNameBytes < s.byteCount
    · rw [follow_of_long hstay hup hslash hlong, if_pos hlong]
      rfl
    rw [follow_of_isLookedUp ⟨hstay, hup, hslash, hlong⟩, if_neg hlong]
    cases hget : t.get? (dir ++ [s]) with
    | none => exact if_neg hlast
    | some node =>
      cases node with
      | directory => exact ih (dir ++ [s])
      | file content => exact if_neg hlast
      | link target => exact absurd hget (hlinks _ _)

/-! ## Paths -/

/-- Where no link is, a path is followed to its end. -/
theorem map_ended_resolveFrom (hlinks : t.HasNoLinks) (purpose : Purpose) (links : Nat) (dir : Key)
    (segments : List Text) :
    (t.resolveFrom purpose links dir segments).map Stretch.ended =
      t.follow purpose dir segments := by
  have hended : ∀ (dir : Key) (segments dir' segments'),
      t.follow purpose dir segments ≠ .ok (.linked dir' segments') := by
    intro dir segments
    induction segments generalizing dir with
    | nil =>
      intro dir' segments' h
      cases h
    | cons s rest ih =>
      intro dir' segments' h
      rcases follow_cons_eq_ok_iff.1 h with ⟨key, -, hrest⟩ | hstop
      · exact ih key dir' segments' hrest
      · cases hstop with
        | linked hname hget => exact hlinks _ _ hget
  rw [resolveFrom.eq_def]
  cases hfollow : t.follow purpose dir segments with
  | error fault => simp only [hfollow]; rfl
  | ok stretch =>
    cases stretch with
    | ended place => simp only [hfollow]; rfl
    | linked dir' segments' => exact absurd hfollow (hended dir segments dir' segments')

theorem map_ended_injective {r r' : Except FileFault Place}
    (h : r.map Stretch.ended = r'.map Stretch.ended) : r = r' := by
  cases r <;> cases r' <;> cases h <;> rfl

/-- Where no link is, the segments of a path are followed to the end at once. -/
theorem follow_of_resolve (hlinks : t.HasNoLinks) {p : Path} {place : Place}
    (h : t.resolve purpose p = .ok place) :
    t.follow purpose [] p.segments = .ok (.ended place) := by
  rw [← map_ended_resolveFrom hlinks purpose maxLinks, ← resolve_of_isTaken (isTaken_of_resolve h),
    h]
  rfl

/-- Where no link is, no path leads to one. -/
theorem resolve_ne_link (hlinks : t.HasNoLinks) {p : Path} :
    t.resolve purpose p ≠ .ok (.link key) := by
  intro h
  have hnever : ∀ (segments : List Text) (dir : Key),
      t.follow purpose dir segments ≠ .ok (.ended (.link key)) := by
    intro segments
    induction segments with
    | nil => exact fun dir h => by cases h
    | cons s rest ih =>
      intro dir h
      rcases follow_cons_eq_ok_iff.1 h with ⟨next, -, hrest⟩ | hstop
      · exact ih next hrest
      · cases hstop with
        | link hname hget => exact hlinks _ _ hget
  exact hnever _ _ (follow_of_resolve hlinks h)

/-- Where no link is, a path leads to the place that its letters say. -/
theorem key_of_resolve (hlinks : t.HasNoLinks) {p : Path} {place : Place}
    (h : t.resolve purpose p = .ok place) : Place.key place = p.place := by
  rw [place_eq_foldl]
  exact key_of_follow (follow_of_resolve hlinks h)

/-- Where no link is, the components of a path come to what the path leads to. -/
theorem reach_eq_bind_way (hlinks : t.HasNoLinks) (hpurpose : purpose ≠ .write) {p : Path}
    (htaken : p.IsTaken) : t.reach [] p.components = (t.resolve purpose p).bind Place.way := by
  rw [reach_components, resolve_of_isTaken htaken]
  exact reach_of_follow hlinks hpurpose (map_ended_resolveFrom hlinks ..).symm

/-- Where no link is, a path leads to a directory if its components lead there. -/
theorem resolve_eq_directory_iff (hlinks : t.HasNoLinks) (hpurpose : purpose ≠ .write)
    {p : Path} :
    t.resolve purpose p = .ok (.directory key) ↔
      p.IsTaken ∧ t.reach [] p.components = .ok key := by
  constructor
  · intro h
    have htaken := isTaken_of_resolve h
    rw [reach_eq_bind_way hlinks hpurpose htaken, h]
    exact ⟨htaken, rfl⟩
  · rintro ⟨htaken, hreach⟩
    rwa [reach_eq_bind_way hlinks hpurpose htaken, bind_way_eq_ok_iff] at hreach

/-- Where no link is, the directory of a name is where the components before it lead. -/
theorem leadsTo_iff_reach (hlinks : t.HasNoLinks) {p : Path} :
    t.LeadsTo p key ↔ t.reach [] p.components = .ok key := by
  rw [reach_components, ← p.filterMap_front, LeadsTo,
    reach_of_follow hlinks (by simp) (map_ended_resolveFrom hlinks .look maxLinks [] p.front).symm,
    bind_way_eq_ok_iff]

theorem leadsTo_of_resolve (hlinks : t.HasNoLinks) {p : Path}
    (h : t.resolve .look p = .ok (.directory key)) : t.LeadsTo p key :=
  (leadsTo_iff_reach hlinks).2 ((resolve_eq_directory_iff hlinks (by simp)).1 h).2

theorem LeadsTo.eq_place (hlinks : t.HasNoLinks) {p : Path} (h : t.LeadsTo p key) :
    key = p.place :=
  eq_of_reach ((leadsTo_iff_reach hlinks).1 h)

end FileTree

end FeatureSheets
