import FeatureSheets.Proofs.FileTree.Augment

/-!
# Directories that are made now or later

Whether a directory can be made may depend on what else was made before: a path that ends in a dot
is refused as long as its directory is not there, and one that comes past a file by pairs of dots is
refused in two ways. Of any other path (`IsOpen`) the file system says the same each time, if it
says anything but that the way is missing (`Refuses.augments`).
-/

namespace FeatureSheets

namespace FileTree

variable {t t' : FileTree} {key dir : Key} {p : Path} {fault : FileFault}

/-! ## Paths that are followed to make an entry -/

/-- Where there is no link, a path that is followed to make an entry leads where it is seen to. -/
theorem resolve_make (hlinks : t.HasNoLinks) (p : Path) :
    t.resolve .make p = t.resolve .look p := by
  have hsame : ∀ (segments : List Text) (dir : Key),
      t.follow .make dir segments = t.follow .look dir segments := by
    intro segments
    induction segments with
    | nil => exact fun dir => rfl
    | cons s rest ih =>
      intro dir
      rw [follow, follow, ih, ih, ih, if_neg (fun hw => Purpose.noConfusion hw.1 :
        ¬(Purpose.make = .write ∧ rest ≠ [] ∧ rest.all (· == []) = true)),
        if_neg (fun hw => Purpose.noConfusion hw.1 :
        ¬(Purpose.look = .write ∧ rest ≠ [] ∧ rest.all (· == []) = true))]
      cases hget : t.get? (dir ++ [s]) with
      | none => rfl
      | some node =>
        cases node with
        | link target => exact absurd hget (hlinks _ _)
        | _ => rfl
  by_cases htaken : p.IsTaken
  · have hmake := map_ended_resolveFrom hlinks .make maxLinks [] p.segments
    have hlook := map_ended_resolveFrom hlinks .look maxLinks [] p.segments
    rw [hsame, ← hlook] at hmake
    rw [resolve_of_isTaken htaken, resolve_of_isTaken htaken]
    exact map_ended_injective hmake
  · obtain ⟨fault, -, hrefused⟩ := resolve_of_not_isTaken htaken
    rw [hrefused, hrefused]

/-! ## The last component -/

/-- The last component of a path is what the path begins with, or is that of a segment. -/
theorem last_component_cases {cs : List Component} {c : Component} (h : p.components = cs ++ [c]) :
    (cs = [] ∧ (c = .here ∨ c = .root)) ∨ ∃ start rest, Component.IsStart start ∧
      cs = start ++ rest ∧ p.segments.filterMap Component.ofSegment? = rest ++ [c] := by
  obtain ⟨start, hstart, hcomps⟩ := p.exists_components_eq
  rw [h] at hcomps
  rcases List.eq_nil_or_concat' (p.segments.filterMap Component.ofSegment?) with
    hnil | ⟨rest, d, hlast⟩
  · rw [hnil, List.append_nil] at hcomps
    rcases hstart with rfl | rfl | rfl
    · simp at hcomps
    · obtain ⟨rfl, hc⟩ : cs = [] ∧ c = .here := by simpa [List.append_eq_singleton_iff] using hcomps
      exact .inl ⟨rfl, .inl hc⟩
    · obtain ⟨rfl, hc⟩ : cs = [] ∧ c = .root := by simpa [List.append_eq_singleton_iff] using hcomps
      exact .inl ⟨rfl, .inr hc⟩
  · rw [hlast, ← List.append_assoc] at hcomps
    obtain ⟨hcs, hc⟩ := List.append_inj' hcomps rfl
    exact .inr ⟨start, rest, hstart, hcs, (List.cons.inj hc).1 ▸ hlast⟩

/-- The segment of the last component of a path, and what the segments before it lead to. -/
theorem exists_segments_of_components {cs : List Component} {c : Component}
    (h : p.components = cs ++ [c]) (hc : c = .parent ∨ ∃ s, c = .name s) :
    ∃ before s blanks, p.segments = before ++ s :: blanks ∧
      Component.ofSegment? s = some c ∧ blanks.filterMap Component.ofSegment? = [] ∧
      ∀ t : FileTree, t.reach [] (before.filterMap Component.ofSegment?) = t.reach [] cs := by
  rcases last_component_cases h with ⟨-, hstart⟩ | ⟨start, rest, hstart, rfl, hmap⟩
  · rcases hc with rfl | ⟨s, rfl⟩ <;> simp at hstart
  obtain ⟨before, after, hsegments, hbefore, hafter⟩ := List.filterMap_eq_append_iff.1 hmap
  obtain ⟨more, s, blanks, rfl, hmore, hs, hblanks⟩ := List.filterMap_eq_cons_iff.1 hafter
  refine ⟨before ++ more, s, blanks, ?_, hs, hblanks, fun t => ?_⟩
  · rw [hsegments, List.append_assoc]
  · -- what the path begins with makes no difference to the way
    rw [List.filterMap_append, hbefore, List.filterMap_eq_nil_iff.2 hmore, List.append_nil]
    rcases hstart with rfl | rfl | rfl <;> rfl

/-- A path leads on from where its components before the last lead. -/
theorem map_ended_resolve (hlinks : t.HasNoLinks) (htaken : p.IsTaken) {before blanks : List Text}
    {s : Text} (hsegments : p.segments = before ++ s :: blanks) (hs : s ≠ [])
    (purpose : Purpose) :
    (t.resolve purpose p).map .ended =
      (t.reach [] (before.filterMap Component.ofSegment?)).bind fun key =>
        t.follow purpose key (s :: blanks) := by
  have hrest : (s :: blanks).all (· == []) = false := by simp [hs]
  rw [resolve_of_isTaken htaken, map_ended_resolveFrom hlinks, hsegments,
    follow_append hlinks hrest]

/-- A directory is not made where the way to it is refused. -/
theorem makeDirectory_of_reach_error (hlinks : t.HasNoLinks) (htaken : p.IsTaken)
    {cs : List Component} {c : Component} (hp : p.components = cs ++ [c])
    (hc : c = .parent ∨ ∃ s, c = .name s) (hreach : t.reach [] cs = .error fault) :
    t.makeDirectory p = .error fault := by
  obtain ⟨before, s, blanks, hsegments, hs, -, hbefore⟩ := exists_segments_of_components hp hc
  have hne : s ≠ [] := by
    rintro rfl
    cases hs
  have hplace : t.resolve .make p = .error fault := by
    apply map_ended_injective
    rw [map_ended_resolve hlinks htaken hsegments hne, hbefore, hreach]
    rfl
  rw [makeDirectory, hplace]
  rfl

/-- Where the way leads, a directory is made if there is none of its name. -/
theorem makeDirectory_of_reach_ok (hlinks : t.HasNoLinks) (htaken : p.IsTaken)
    (hdot : ¬p.EndsInDot) {cs : List Component} {s : Text} (hp : p.components = cs ++ [.name s])
    (hreach : t.reach [] cs = .ok key) (hget : t.get? (key ++ [s]) = none) :
    t.makeDirectory p =
      if maxNameBytes < s.byteCount then .error .tooLong else .ok (t.insert key s .directory) := by
  obtain ⟨before, last, blanks, hsegments, hlast, hblanks, hbefore⟩ :=
    exists_segments_of_components hp (.inr ⟨s, rfl⟩)
  obtain ⟨hstay, hup, rfl⟩ : ¬(last = [] ∨ last = ['.']) ∧ last ≠ ['.', '.'] ∧ s = last := by
    rcases ofSegment?_eq_some_cases hlast with ⟨-, hs⟩ | ⟨hstay, hup, hs⟩
    · cases hs
    · exact ⟨hstay, hup, Component.name.inj hs⟩
  have hnil : blanks.all (· == []) = true :=
    Path.all_nil_of_not_endsInDot hdot (hsegments.trans (List.append_cons ..)) hblanks
  have hplace : t.resolve .make p = if maxNameBytes < s.byteCount then .error .tooLong
      else .ok (.vacant key s (blanks != [])) := by
    apply map_ended_injective
    rw [map_ended_resolve hlinks htaken hsegments fun h => hstay (.inl h), hbefore, hreach,
      Except.bind, follow, if_neg hstay, if_neg hup, if_neg (fun hw => Purpose.noConfusion hw.1),
      hget]
    dsimp only
    rw [if_pos hnil]
    split <;> rfl
  rw [makeDirectory, hplace]
  split <;> rfl

theorem isName_of_components (htaken : p.IsTaken) {cs : List Component} {s : Text}
    (hp : p.components = cs ++ [.name s]) : isName s = true := by
  obtain ⟨before, last, blanks, hsegments, hlast, -⟩ :=
    exists_segments_of_components hp (.inr ⟨s, rfl⟩)
  have hmem : last ∈ p.segments := by simp [hsegments]
  rcases ofSegment?_eq_some_cases hlast with ⟨-, hs⟩ | ⟨hstay, hup, hs⟩
  · cases hs
  · cases hs
    rw [not_or] at hstay
    exact isName_iff.2 ⟨hstay.1, hstay.2, hup, Text.not_mem_of_mem_splitOn hmem,
      fun hnul => htaken.nul (Text.subset_of_mem_splitOn hmem hnul)⟩

/-- A directory that is made where nothing was is there. -/
theorem reach_of_makeDirectory (hlinks : t.HasNoLinks) (htaken : p.IsTaken)
    {cs : List Component} {s : Text} (hp : p.components = cs ++ [.name s])
    (hreach : t.reach [] cs = .ok key) (hshort : ¬maxNameBytes < s.byteCount)
    (hget : t.get? (key ++ [s]) = none)
    (hmade : t.makeDirectory p = .ok (t.insert key s .directory)) :
    (t.insert key s .directory).reach [] p.components = .ok (key ++ [s]) := by
  have hroom : t.hasRoom key s = true := by
    rw [hasRoom, get?_of_reach rfl hreach, isName_of_components htaken hp, hget]
    rfl
  have hreach' := (augments_of_makeDirectory hlinks hmade).reach_eq_ok hreach
  rw [hp, reach_append, hreach', Except.bind, reach, if_neg hshort, get?_insert _ _ hroom,
    if_pos rfl]
  rfl

/-! ## Refusals -/

/-- Whether a directory is refused in a tree for good: it is not there, and something other than
its way is in the way of it. -/
structure Refuses (t : FileTree) (p : Path) (fault : FileFault) : Prop where
  /-- The directory is not made. -/
  makeDirectory : t.makeDirectory p = .error fault
  /-- Its way is there as far as it is looked at. -/
  ne_missing : fault ≠ .missing
  /-- The directory is not there. -/
  kind : t.kind p ≠ .ok .directory

/-- What is refused for good is refused later. -/
theorem Refuses.augments (hrefuses : t.Refuses p fault) (h : t.Augments t') :
    t'.Refuses p fault := by
  have hfound : t.kind p ≠ .error .missing := by
    intro hmissing
    have hmake := hrefuses.makeDirectory
    rw [FileTree.makeDirectory, resolve_make h.hasNoLinks_left] at hmake
    rw [FileTree.kind] at hmissing
    cases hplace : t.resolve .look p with
    | error other =>
      rw [hplace] at hmake hmissing
      cases hmissing
      cases hmake
      exact hrefuses.ne_missing rfl
    | ok place =>
      rw [hplace] at hmake hmissing
      cases place with
      | vacant dir name slash => cases hmake
      | link key => exact resolve_ne_link h.hasNoLinks_left hplace
      | directory key => cases hmissing
      | file key content slash => cases slash <;> cases hmissing
  refine ⟨h.makeDirectory_eq_error hrefuses.makeDirectory hrefuses.ne_missing,
    hrefuses.ne_missing, ?_⟩
  rw [h.kind_eq hfound]
  exact hrefuses.kind

/-- What is seen, and is no directory, is refused for good. -/
theorem exists_refuses_of_isFound (hlinks : t.HasNoLinks) (hfound : IsFound (t.resolve .look p))
    (hnot : ∀ key, t.resolve .look p ≠ .ok (.directory key)) : ∃ fault, t.Refuses p fault := by
  have hmake := resolve_make hlinks p
  rcases isFound_cases hlinks hfound with ⟨fault, hne, hplace⟩ | ⟨key, hplace⟩ |
    ⟨key, content, slash, hplace⟩
  · refine ⟨fault, ?_, hne, ?_⟩
    · rw [makeDirectory, hmake, hplace]
      rfl
    · rw [kind, hplace]
      exact fun h => by cases h
  · exact absurd hplace (hnot key)
  · refine ⟨.occupied, ?_, by simp, ?_⟩
    · rw [makeDirectory, hmake, hplace]
      rfl
    · rw [kind, hplace]
      cases slash <;> exact fun h => by cases h

theorem refuses_of_reach_tooLong (hlinks : t.HasNoLinks) (htaken : p.IsTaken)
    (h : t.reach [] p.components = .error .tooLong) : t.Refuses p .tooLong := by
  have hlook : t.resolve .look p = .error .tooLong := by
    rw [reach_eq_bind_way hlinks (by simp : Purpose.look ≠ .write) htaken] at h
    cases hplace : t.resolve .look p with
    | ok place =>
      rw [hplace] at h
      cases place <;> cases h
    | error fault =>
      rw [hplace] at h
      cases h
      rfl
  refine ⟨?_, by simp, ?_⟩
  · rw [makeDirectory, resolve_make hlinks, hlook]
    rfl
  · rw [kind, hlook]
    exact fun h => by cases h

theorem refuses_of_reach_error (hlinks : t.HasNoLinks) (htaken : p.IsTaken) {cs : List Component}
    {c : Component} (hp : p.components = cs ++ [c]) (hc : c = .parent ∨ ∃ s, c = .name s)
    (h : t.reach [] cs = .error fault) (hne : fault ≠ .missing) : t.Refuses p fault := by
  refine ⟨makeDirectory_of_reach_error hlinks htaken hp hc h, hne, fun hkind => ?_⟩
  obtain ⟨key, hplace⟩ := exists_resolve_of_kind_directory hkind
  have hreach := ((resolve_eq_directory_iff hlinks (by simp)).1 hplace).2
  rw [hp, reach_append, h] at hreach
  cases hreach

/-! ## Paths that lead to nothing -/

/-- A path with a text that leads to nothing is looked up, and is missing to its components. -/
theorem isTaken_and_reach_of_not_isFound (hlinks : t.HasNoLinks) (htext : p.text ≠ [])
    (h : ¬IsFound (t.resolve .look p)) :
    p.IsTaken ∧ t.reach [] p.components = .error .missing := by
  have htaken : p.IsTaken := by
    by_contra hnot
    obtain ⟨fault, hfault, hrefused⟩ := resolve_of_not_isTaken hnot
    rw [hrefused] at h
    exact h (hfault htext)
  refine ⟨htaken, ?_⟩
  rw [reach_eq_bind_way hlinks (by simp : Purpose.look ≠ .write) htaken]
  cases hplace : t.resolve .look p with
  | error fault =>
    rw [hplace] at h
    exact congrArg Except.error (not_not.1 h)
  | ok place =>
    rw [hplace] at h
    cases place with
    | vacant dir name slash => rfl
    | _ => exact absurd trivial h

/-- The last component of a path that is missing is no dot and no slash. -/
theorem parent_or_name_of_reach_missing {cs : List Component} {c : Component}
    (hp : p.components = cs ++ [c]) (h : t.reach [] (cs ++ [c]) = .error .missing) :
    c = .parent ∨ ∃ s, c = .name s := by
  rcases last_component_cases hp with ⟨rfl, hstart⟩ | ⟨-, rest, -, -, hmap⟩
  · rcases hstart with rfl | rfl <;> cases h
  · have hmem : c ∈ p.segments.filterMap Component.ofSegment? := by
      rw [hmap]
      simp
    obtain ⟨s, -, hs⟩ := List.mem_filterMap.1 hmem
    exact (ofSegment?_eq_some_cases hs).imp And.right fun h => ⟨s, h.2.2⟩

/-! ## Open paths -/

/-- Whether a file stands at a place. -/
def HoldsFile (t : FileTree) (key : Key) : Prop :=
  (t.get? key).map Node.entryKind = some (.kind .file)

instance (t : FileTree) (key : Key) : Decidable (t.HoldsFile key) :=
  inferInstanceAs (Decidable (_ = _))

theorem holdsFile_iff : t.HoldsFile key ↔ ∃ content, t.get? key = some (.file content) := by
  rw [HoldsFile, Option.map_eq_some_iff]
  constructor
  · rintro ⟨node, hnode, hkind⟩
    cases node with
    | file content => exact ⟨content, hnode⟩
    | directory => cases hkind
    | link target => cases hkind
  · rintro ⟨content, hget⟩
    exact ⟨_, hget, rfl⟩

theorem Grows.holdsFile_iff (h : t.Grows t') : t'.HoldsFile key ↔ t.HoldsFile key := by
  rw [FileTree.holdsFile_iff, FileTree.holdsFile_iff]
  simp only [h.file]

/-- Whether it does not matter when the directory of a path is made: what the path leads to is
there, or refused, or the path ends in no single dot, and no file stands on its way, wherever its
pairs of dots take it. -/
def IsOpen (t : FileTree) (p : Path) : Prop :=
  t.kind p ≠ .error .missing ∨
    (p.EndsInDot → p.components.getLast? = some .parent) ∧
      ∀ n < p.components.length, ¬t.HoldsFile (p.placeAfter n)

instance (t : FileTree) (p : Path) : Decidable (t.IsOpen p) :=
  inferInstanceAs (Decidable (_ ∨ _))

/-- What is open stays so when directories are made. -/
theorem IsOpen.of_grows (hopen : t.IsOpen p) (h : t.Augments t') (hgrows : t.Grows t') :
    t'.IsOpen p := by
  rcases hopen with hkind | ⟨hend, hfiles⟩
  · exact .inl (h.kind_eq hkind ▸ hkind)
  · refine .inr ⟨hend, fun n hn => ?_⟩
    rw [hgrows.holdsFile_iff]
    exact hfiles n hn

/-- Below what is not there is nothing. -/
theorem get?_foldl_of_none (names : List Text) (h : t.get? dir = none) :
    t.get? ((names.map .name).foldl Component.enter dir) = none := by
  induction names generalizing dir with
  | nil => exact h
  | cons s names ih => exact ih (get?_append_of_none h s)

theorem get?_of_reach_missing {names : List Text}
    (h : t.reach dir (names.map .name) = .error .missing) :
    t.get? ((names.map .name).foldl Component.enter dir) = none := by
  induction names generalizing dir with
  | nil => cases h
  | cons s names ih =>
    rw [List.map_cons, reach] at h
    split at h
    · cases h
    split at h
    · rename_i hget
      exact get?_foldl_of_none names hget
    · exact ih h
    · cases h

/-- A path is open that goes on by names alone from a directory that is there, and then perhaps by
a pair of dots. -/
theorem isOpen_of_reach (hlinks : t.HasNoLinks) {start rest : List Component} {names : List Text}
    (hp : p.components = start ++ (names.map .name ++ rest)) (hrest : rest = [] ∨ rest = [.parent])
    (hdot : p.EndsInDot → names = [] ∧ rest = []) (hstart : t.reach [] start = .ok key) :
    t.IsOpen p := by
  by_cases hfound : IsFound (t.resolve .look p)
  · exact .inl ((kind_ne_missing_iff hlinks p).2 hfound)
  by_cases htext : p.text = []
  · obtain ⟨text⟩ := p
    cases htext
    exact .inr ⟨by decide, fun n hn => absurd hn (Nat.not_lt_zero n)⟩
  obtain ⟨-, hmissing⟩ := isTaken_and_reach_of_not_isFound hlinks htext hfound
  refine .inr ⟨fun h => ?_, fun n hn hfile => ?_⟩
  · obtain ⟨rfl, rfl⟩ := hdot h
    rw [hp, List.map_nil, List.append_nil, List.append_nil, hstart] at hmissing
    cases hmissing
  obtain ⟨content, hget⟩ := holdsFile_iff.1 hfile
  rw [← List.take_append_drop n p.components, reach_append] at hmissing
  cases hway : t.reach [] (p.components.take n) with
  | ok key =>
    -- as far as the way is there, it goes through directories
    have hdirectory := get?_of_reach rfl hway
    rw [eq_of_reach hway, ← Path.placeAfter, hget] at hdirectory
    cases hdirectory
  | error fault =>
    rw [hway] at hmissing
    obtain rfl : fault = .missing := Except.error.inj hmissing
    rcases Nat.le_total n start.length with hle | hle
    · rw [hp, List.take_append_of_le_length hle] at hway
      rw [← List.take_append_drop n start, reach_append, hway] at hstart
      cases hstart
    · -- from where it is not, no name leads to anything
      obtain ⟨j, rfl⟩ := Nat.exists_eq_add_of_le hle
      have hj : j ≤ names.length := by
        rw [hp, List.length_append, List.length_append, List.length_map] at hn
        rcases hrest with rfl | rfl <;> simp at hn <;> omega
      have htake : p.components.take (start.length + j) = start ++ (names.take j).map .name := by
        rw [hp, List.take_length_add_append, List.take_append_of_le_length (by simpa using hj),
          List.map_take]
      rw [htake, reach_append, hstart] at hway
      rw [Path.placeAfter, htake, List.foldl_append, ← eq_of_reach hstart,
        get?_of_reach_missing hway] at hget
      cases hget

end FileTree

end FeatureSheets
