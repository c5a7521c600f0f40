import FeatureSheets.Proofs.FileTree.Nodes
import FeatureSheets.Proofs.Path.FileName
import FeatureSheets.Proofs.Text.Utf8

/-!
# Names in directories

Where a path leads that joins a name to the path of a directory. It leads to what the directory
has under the name (`resolve_join_eq_ok_iff`): the way up to the last name does not depend on what
the path is followed for, nor on the name. What following one segment can come to is said once
(`follow_cons_eq_ok_iff`).
-/

namespace FeatureSheets

/-- Whether a file system looks a path up at all. -/
structure Path.IsTaken (p : Path) : Prop where
  /-- There is something to look up. -/
  ne_nil : p.text ≠ []
  /-- No NUL is in it. -/
  nul : '\x00' ∉ p.text
  /-- It is not too long. -/
  short : p.isTooLong = false

namespace FileTree

variable {t : FileTree} {purpose : Purpose} {dir key : Key} {segments : List Text} {s : Text}

/-! ## One segment -/

/-- Whether a segment is looked up in the directory that it is followed from. -/
structure IsLookedUp (purpose : Purpose) (s : Text) (rest : List Text) : Prop where
  /-- The segment does not stay. -/
  not_stay : ¬(s = [] ∨ s = ['.'])
  /-- The segment does not go up. -/
  not_up : s ≠ ['.', '.']
  /-- Nothing is written where slashes say that a directory is meant. -/
  not_slash : ¬(purpose = .write ∧ rest ≠ [] ∧ rest.all (· == []) = true)
  /-- The name is not too long. -/
  not_long : ¬maxNameBytes < s.byteCount

/-- The directory that a segment leads on from, when `rest` is behind it. -/
inductive Enters (t : FileTree) (purpose : Purpose) (dir : Key) (s : Text) (rest : List Text) :
    Key → Prop
  | stay (h : s = [] ∨ s = ['.']) : Enters t purpose dir s rest dir
  | up (h : s = ['.', '.']) : Enters t purpose dir s rest dir.dropLast
  | into (hname : IsLookedUp purpose s rest) (h : t.get? (dir ++ [s]) = some .directory) :
    Enters t purpose dir s rest (dir ++ [s])

/-- The stretch that stops at a segment, when `rest` is behind it. -/
inductive Stops (t : FileTree) (purpose : Purpose) (dir : Key) (s : Text) (rest : List Text) :
    Stretch → Prop
  | vacant (hname : IsLookedUp purpose s rest) (h : t.get? (dir ++ [s]) = none)
    (hlast : rest.all (· == []) = true) :
    Stops t purpose dir s rest (.ended (.vacant dir s (rest != [])))
  | file (hname : IsLookedUp purpose s rest) {content : List UInt8}
    (h : t.get? (dir ++ [s]) = some (.file content)) (hlast : rest.all (· == []) = true) :
    Stops t purpose dir s rest (.ended (.file (dir ++ [s]) content (rest != [])))
  | link (hname : IsLookedUp purpose s rest) {target : Path}
    (h : t.get? (dir ++ [s]) = some (.link target))
    (hlast : purpose = .make ∧ rest.all (· == []) = true) :
    Stops t purpose dir s rest (.ended (.link (dir ++ [s])))
  | linked (hname : IsLookedUp purpose s rest) {target : Path}
    (h : t.get? (dir ++ [s]) = some (.link target))
    (hlast : ¬(purpose = .make ∧ rest.all (· == []) = true)) :
    Stops t purpose dir s rest
      (.linked (if target.isAbsolute then [] else dir) (target.segments ++ rest))

/-- How far a segment is followed that is looked up, from what the directory has under it. -/
def followNode (t : FileTree) (purpose : Purpose) (dir : Key) (s : Text) (rest : List Text) :
    Option Node → Except FileFault Stretch
  | none =>
    if rest.all (· == []) then .ok (.ended (.vacant dir s (rest != []))) else .error .missing
  | some .directory => t.follow purpose (dir ++ [s]) rest
  | some (.file content) =>
    if rest.all (· == []) then .ok (.ended (.file (dir ++ [s]) content (rest != [])))
    else .error .notDirectory
  | some (.link target) =>
    if purpose = .make ∧ rest.all (· == []) then .ok (.ended (.link (dir ++ [s])))
    else .ok (.linked (if target.isAbsolute then [] else dir) (target.segments ++ rest))

theorem follow_of_stay {rest : List Text} (h : s = [] ∨ s = ['.']) :
    t.follow purpose dir (s :: rest) = t.follow purpose dir rest := by
  rw [follow, if_pos h]

theorem follow_of_up {rest : List Text} (h : s = ['.', '.']) :
    t.follow purpose dir (s :: rest) = t.follow purpose dir.dropLast rest := by
  rw [follow, if_neg (by simp [h]), if_pos h]

theorem follow_of_isLookedUp {rest : List Text} (h : IsLookedUp purpose s rest) :
    t.follow purpose dir (s :: rest) =
      t.followNode purpose dir s rest (t.get? (dir ++ [s])) := by
  rw [follow, if_neg h.not_stay, if_neg h.not_up, if_neg h.not_slash, if_neg h.not_long]
  rfl

theorem follow_of_long {rest : List Text} (hstay : ¬(s = [] ∨ s = ['.'])) (hup : s ≠ ['.', '.'])
    (hslash : ¬(purpose = .write ∧ rest ≠ [] ∧ rest.all (· == []) = true))
    (hlong : maxNameBytes < s.byteCount) :
    t.follow purpose dir (s :: rest) = .error .tooLong := by
  rw [follow, if_neg hstay, if_neg hup, if_neg hslash, if_pos hlong]

/-- All that may become of a segment: it stays, it goes up, it is refused whatever the tree has, or
it is looked up. -/
theorem follow_cases (purpose : Purpose) (s : Text) (rest : List Text) :
    (s = [] ∨ s = ['.']) ∨ s = ['.', '.'] ∨
      (∃ fault, ∀ (t : FileTree) (dir : Key),
        t.follow purpose dir (s :: rest) = .error fault) ∨
      IsLookedUp purpose s rest := by
  by_cases hstay : s = [] ∨ s = ['.']
  · exact .inl hstay
  by_cases hup : s = ['.', '.']
  · exact .inr (.inl hup)
  by_cases hslash : purpose = .write ∧ rest ≠ [] ∧ rest.all (· == []) = true
  · refine .inr (.inr (.inl ⟨.isDirectory, fun t dir => ?_⟩))
    rw [follow, if_neg hstay, if_neg hup, if_pos hslash]
  by_cases hlong : maxNameBytes < s.byteCount
  · exact .inr (.inr (.inl ⟨.tooLong, fun t dir => follow_of_long hstay hup hslash hlong⟩))
  · exact .inr (.inr (.inr ⟨hstay, hup, hslash, hlong⟩))

/-- All that following a segment comes to when it is not refused. -/
theorem follow_cons_eq_ok_iff {rest : List Text} {stretch : Stretch} :
    t.follow purpose dir (s :: rest) = .ok stretch ↔
      (∃ key, t.Enters purpose dir s rest key ∧ t.follow purpose key rest = .ok stretch) ∨
        t.Stops purpose dir s rest stretch := by
  constructor
  · intro h
    rcases follow_cases purpose s rest with hstay | hup | ⟨fault, hrefused⟩ | hname
    · rw [follow_of_stay hstay] at h
      exact .inl ⟨_, .stay hstay, h⟩
    · rw [follow_of_up hup] at h
      exact .inl ⟨_, .up hup, h⟩
    · rw [hrefused] at h
      cases h
    rw [follow_of_isLookedUp hname] at h
    cases hget : t.get? (dir ++ [s]) with
    | none =>
      rw [hget, followNode] at h
      split at h <;> cases h
      rename_i hlast
      exact .inr (.vacant hname hget hlast)
    | some node =>
      cases node with
      | directory =>
        rw [hget] at h
        exact .inl ⟨_, .into hname hget, h⟩
      | file content =>
        rw [hget, followNode] at h
        split at h <;> cases h
        rename_i hlast
        exact .inr (.file hname hget hlast)
      | link target =>
        rw [hget, followNode] at h
        split at h <;> cases h
        · rename_i hlast
          exact .inr (.link hname hget hlast)
        · rename_i hlast
          exact .inr (.linked hname hget hlast)
  · rintro (⟨key, henter, hrest⟩ | hstop)
    · cases henter with
      | stay h => rwa [follow_of_stay h]
      | up h => rwa [follow_of_up h]
      | into hname h => rwa [follow_of_isLookedUp hname, h]
    · cases hstop with
      | vacant hname h hlast | file hname h hlast | link hname h hlast =>
        rw [follow_of_isLookedUp hname, h]
        exact if_pos hlast
      | linked hname h hlast =>
        rw [follow_of_isLookedUp hname, h]
        exact if_neg hlast

/-- A segment leads on from a directory to a directory. -/
theorem Enters.get? {rest : List Text} (h : t.Enters purpose dir s rest key)
    (hdir : t.get? dir = some .directory) : t.get? key = some .directory := by
  cases h with
  | stay => exact hdir
  | up => exact get?_dropLast hdir
  | into hname hget => exact hget

/-! ## The way up to the last name -/

/-- How far segments are followed with a last one behind them, from how far they are followed
without it. -/
def Stretch.continued (t : FileTree) (purpose : Purpose) (s : Text) :
    Except FileFault Stretch → Except FileFault Stretch
  | .ok (.ended (.directory key)) => t.follow purpose key [s]
  | .ok (.ended (.vacant ..)) => .error .missing
  | .ok (.ended (.file ..)) => .error .notDirectory
  | .ok (.ended (.link _)) => .error .notDirectory
  | .ok (.linked dir segments) => .ok (.linked dir (segments ++ [s]))
  | .error fault => .error fault

/-- Following a last segment is following it from where the way before it leads. -/
theorem follow_append_singleton (t : FileTree) (purpose : Purpose) (dir : Key)
    (segments : List Text) {s : Text} (hs : s ≠ []) :
    t.follow purpose dir (segments ++ [s]) =
      Stretch.continued t purpose s (t.follow .look dir segments) := by
  induction segments generalizing dir with
  | nil => rfl
  | cons first rest ih =>
    have hlast : ¬(rest ++ [s]).all (· == []) = true := by simp [hs]
    have hwrite : ¬(purpose = .write ∧ rest ++ [s] ≠ [] ∧ (rest ++ [s]).all (· == []) = true) :=
      fun h => hlast h.2.2
    have hmake : ¬(purpose = .make ∧ (rest ++ [s]).all (· == []) = true) := fun h => hlast h.2
    have hlookWrite : ¬(Purpose.look = .write ∧ rest ≠ [] ∧ rest.all (· == []) = true) :=
      fun h => nomatch h.1
    have hlookMake : ¬(Purpose.look = .make ∧ rest.all (· == []) = true) := fun h => nomatch h.1
    rw [List.cons_append]
    by_cases hstay : first = [] ∨ first = ['.']
    · rw [follow_of_stay hstay, follow_of_stay hstay, ih]
    by_cases hup : first = ['.', '.']
    · rw [follow_of_up hup, follow_of_up hup, ih]
    by_cases hlong : maxNameBytes < first.byteCount
    · rw [follow_of_long hstay hup hwrite hlong, follow_of_long hstay hup hlookWrite hlong]
      rfl
    rw [follow_of_isLookedUp ⟨hstay, hup, hwrite, hlong⟩,
      follow_of_isLookedUp ⟨hstay, hup, hlookWrite, hlong⟩]
    cases t.get? (dir ++ [first]) with
    | none =>
      rw [followNode, followNode, if_neg hlast]
      split <;> rfl
    | some node =>
      cases node with
      | directory => exact ih _
      | file content =>
        rw [followNode, followNode, if_neg hlast]
        split <;> rfl
      | link target =>
        rw [followNode, followNode, if_neg hmake, if_neg hlookMake, Stretch.continued,
          List.append_assoc]

/-- Segments lead somewhere when they are followed to their end, or to a link from which they lead
there. -/
theorem resolveFrom_eq_ok_iff {links : Nat} {place : Place} :
    t.resolveFrom purpose links dir segments = .ok place ↔
      t.follow purpose dir segments = .ok (.ended place) ∨
        ∃ fewer dir' segments', links = fewer + 1 ∧
          t.follow purpose dir segments = .ok (.linked dir' segments') ∧
            t.resolveFrom purpose fewer dir' segments' = .ok place := by
  rw [resolveFrom.eq_def]
  cases hfollow : t.follow purpose dir segments with
  | error fault => simp [hfollow]
  | ok stretch =>
    cases stretch with
    | ended other => simp [hfollow]
    | linked dir' segments' =>
      cases links with
      | zero => simp [hfollow]
      | succ fewer => simp [hfollow]

theorem resolveFrom_of_error {links : Nat} {fault : FileFault}
    (h : t.follow purpose dir segments = .error fault) :
    t.resolveFrom purpose links dir segments = .error fault := by
  rw [resolveFrom.eq_def]
  simp only [h]

/-- How segments lead to a place, through at most so many links: they are followed to their end, or
to a link, from which they lead there. -/
inductive Resolves (t : FileTree) (purpose : Purpose) (place : Place) :
    Nat → Key → List Text → Prop
  | ended {links : Nat} {dir : Key} {segments : List Text}
    (h : t.follow purpose dir segments = .ok (.ended place)) :
    Resolves t purpose place links dir segments
  | linked {fewer : Nat} {dir dir' : Key} {segments segments' : List Text}
    (h : t.follow purpose dir segments = .ok (.linked dir' segments'))
    (hrest : Resolves t purpose place fewer dir' segments') :
    Resolves t purpose place (fewer + 1) dir segments

theorem resolves_iff {links : Nat} {place : Place} :
    t.Resolves purpose place links dir segments ↔
      t.resolveFrom purpose links dir segments = .ok place := by
  constructor
  · intro h
    induction h with
    | ended hend => exact resolveFrom_eq_ok_iff.2 (.inl hend)
    | linked hlink _ ih => exact resolveFrom_eq_ok_iff.2 (.inr ⟨_, _, _, rfl, hlink, ih⟩)
  · intro h
    -- the induction is on the number of links that may still be followed
    induction links using Nat.strongRecOn generalizing dir segments with
    | ind links ih =>
      rcases resolveFrom_eq_ok_iff.1 h with hend | ⟨fewer, dir', segments', rfl, hlink, hrest⟩
      · exact .ended hend
      · exact .linked hlink (ih fewer (Nat.lt_succ_self _) hrest)

/-- Where segments lead to a directory, one more leads on from there, if it is no link. -/
theorem resolveFrom_append_singleton {links : Nat} {r : Except FileFault Place} (hs : s ≠ [])
    (hdir : t.resolveFrom .look links dir segments = .ok (.directory key))
    (hlast : t.follow purpose key [s] = r.map .ended) :
    t.resolveFrom purpose links dir (segments ++ [s]) = r := by
  rw [← resolves_iff] at hdir
  induction hdir with
  | @ended links dir segments hend =>
    have hfollow := follow_append_singleton t purpose dir segments hs
    rw [hend, Stretch.continued, hlast] at hfollow
    cases r with
    | error fault => exact resolveFrom_of_error hfollow
    | ok place => exact resolveFrom_eq_ok_iff.2 (.inl hfollow)
  | @linked fewer dir dir' segments segments' hlink _ ih =>
    have hfollow := follow_append_singleton t purpose dir segments hs
    rw [hlink] at hfollow
    rw [resolveFrom.eq_def]
    simp only [hfollow, Stretch.continued]
    exact ih

/-- Segments lead nowhere unless those before the last one lead to a directory. -/
theorem exists_directory_of_resolveFrom {links : Nat} {place : Place} (hs : s ≠ [])
    (h : t.resolveFrom purpose links dir (segments ++ [s]) = .ok place) :
    ∃ key, t.resolveFrom .look links dir segments = .ok (.directory key) := by
  induction links using Nat.strongRecOn generalizing dir segments with
  | ind links ih =>
    rw [resolveFrom_eq_ok_iff, follow_append_singleton t purpose dir segments hs] at h
    cases hfollow : t.follow .look dir segments with
    | error fault =>
      rw [hfollow] at h
      rcases h with h | ⟨_, _, _, _, h, _⟩ <;> cases h
    | ok stretch =>
      rw [hfollow] at h
      cases stretch with
      | linked dir' segments' =>
        rcases h with h | ⟨fewer, dir₁, segments₁, rfl, h, hrest⟩
        · cases h
        · cases h
          obtain ⟨key, hkey⟩ := ih fewer (Nat.lt_succ_self _) hrest
          exact ⟨key, resolveFrom_eq_ok_iff.2 (.inr ⟨fewer, dir', segments', rfl, hfollow, hkey⟩)⟩
      | ended place =>
        cases place with
        | directory key => exact ⟨key, resolveFrom_eq_ok_iff.2 (.inl hfollow)⟩
        | file => rcases h with h | ⟨_, _, _, _, h, _⟩ <;> cases h
        | link => rcases h with h | ⟨_, _, _, _, h, _⟩ <;> cases h
        | vacant => rcases h with h | ⟨_, _, _, _, h, _⟩ <;> cases h

/-- What segments from a directory lead to is a directory, where they end in one or come to a link
in it. -/
theorem get?_of_follow {stretch : Stretch} (hdir : t.get? dir = some .directory)
    (h : t.follow purpose dir segments = .ok stretch) :
    (∀ key, stretch = .ended (.directory key) → t.get? key = some .directory) ∧
      ∀ dir' segments', stretch = .linked dir' segments' → t.get? dir' = some .directory := by
  induction segments generalizing dir with
  | nil =>
    cases h
    refine ⟨fun key hkey => ?_, nofun⟩
    cases hkey
    exact hdir
  | cons first rest ih =>
    rcases follow_cons_eq_ok_iff.1 h with ⟨key, henter, hrest⟩ | hstop
    · exact ih (henter.get? hdir) hrest
    · cases hstop with
      | vacant => exact ⟨nofun, nofun⟩
      | file => exact ⟨nofun, nofun⟩
      | link => exact ⟨nofun, nofun⟩
      | linked =>
        refine ⟨nofun, fun dir' segments' heq => ?_⟩
        cases heq
        split
        · rfl
        · exact hdir

/-- Segments from a directory that lead to a directory do lead to one. -/
theorem get?_of_resolveFrom {links : Nat} (hdir : t.get? dir = some .directory)
    (h : t.resolveFrom purpose links dir segments = .ok (.directory key)) :
    t.get? key = some .directory := by
  rw [← resolves_iff] at h
  induction h with
  | ended hend => exact (get?_of_follow hdir hend).1 key rfl
  | linked hlink _ ih => exact ih ((get?_of_follow hdir hlink).2 _ _ rfl)

/-! ## Paths that are looked up -/

/-- A path that is not looked up is refused in every tree alike, and unless it is empty not for
want of what it leads to. -/
theorem resolve_of_not_isTaken {p : Path} (h : ¬p.IsTaken) :
    ∃ fault, (p.text ≠ [] → fault ≠ .missing) ∧
      ∀ (t : FileTree) (purpose : Purpose), t.resolve purpose p = .error fault := by
  unfold resolve
  by_cases hnil : p.text = []
  · exact ⟨.missing, fun hne => absurd hnil hne, fun t purpose => if_pos hnil⟩
  by_cases hnul : p.text.contains '\x00' = true
  · refine ⟨.nulInPath, fun _ => by simp, fun t purpose => ?_⟩
    rw [if_neg hnil, if_pos hnul]
  by_cases hlong : p.isTooLong = true
  · refine ⟨.tooLong, fun _ => by simp, fun t purpose => ?_⟩
    rw [if_neg hnil, if_neg hnul, if_pos hlong]
  · exact absurd ⟨hnil, by simpa using hnul, by simpa using hlong⟩ h

theorem resolve_of_isTaken {p : Path} (h : p.IsTaken) (t : FileTree) (purpose : Purpose) :
    t.resolve purpose p = t.resolveFrom purpose maxLinks [] p.segments := by
  rw [resolve, if_neg h.ne_nil, if_neg (by simpa using h.nul), if_neg (by simp [h.short])]

theorem isTaken_of_resolve {p : Path} {place : Place} (h : t.resolve purpose p = .ok place) :
    p.IsTaken := by
  by_contra hnot
  obtain ⟨fault, -, hrefused⟩ := resolve_of_not_isTaken hnot
  cases (hrefused t purpose).symm.trans h

/-- What a path leads to is what its segments lead to, if it is looked up at all. -/
theorem resolve_eq_ok_iff {p : Path} {place : Place} :
    t.resolve purpose p = .ok place ↔
      p.IsTaken ∧ t.resolveFrom purpose maxLinks [] p.segments = .ok place := by
  constructor
  · intro h
    have htaken := isTaken_of_resolve h
    exact ⟨htaken, resolve_of_isTaken htaken t purpose ▸ h⟩
  · rintro ⟨htaken, h⟩
    exact (resolve_of_isTaken htaken t purpose).trans h

/-! ## Names in directories -/

/-- Whether names that are joined to a path are names in the directory at `key`. -/
def LeadsTo (t : FileTree) (p : Path) (key : Key) : Prop :=
  t.resolveFrom .look maxLinks [] p.front = .ok (.directory key)

theorem LeadsTo.get? {p : Path} (h : t.LeadsTo p key) : t.get? key = some .directory :=
  get?_of_resolveFrom rfl h

/-- What a directory has under a name. -/
def placeOf (t : FileTree) (key : Key) (name : Text) : Place :=
  match t.get? (key ++ [name]) with
  | none => .vacant key name false
  | some .directory => .directory (key ++ [name])
  | some (.file content) => .file (key ++ [name]) content false
  | some (.link _) => .link (key ++ [name])

/-- A name that is no link leads to what the directory has under it, unless it is too long. -/
theorem follow_name {name : Text} (hname : isName name = true)
    (hlink : ∀ target, t.get? (key ++ [name]) ≠ some (.link target)) :
    t.follow purpose key [name] =
      Except.map .ended (if maxNameBytes < name.byteCount then .error .tooLong
        else .ok (t.placeOf key name)) := by
  obtain ⟨hne, hdot, hdots, -⟩ := isName_iff.1 hname
  rw [follow, if_neg (by simp [hne, hdot]), if_neg hdots, if_neg (by simp), placeOf]
  split
  · rfl
  · cases hget : t.get? (key ++ [name]) with
    | none => rfl
    | some node =>
      cases node with
      | directory => rfl
      | file content => rfl
      | link target => exact absurd hget (hlink target)

/-- Whether a file system takes a path that ends in a name, for what is in it and for how long it
is. -/
def IsUsable (p : Path) (name : Text) : Prop :=
  '\x00' ∉ (p.join ⟨name⟩).text ∧ (p.join ⟨name⟩).isTooLong = false ∧
    name.byteCount ≤ maxNameBytes

theorem text_join_ne_nil (p : Path) {name : Text} (h : isName name = true) :
    (p.join ⟨name⟩).text ≠ [] := by
  intro hnil
  have hsegs := congrArg List.getLast? (Path.segments_join_of_isName p h)
  rw [Path.segments, hnil, List.getLast?_concat] at hsegs
  exact (isName_iff.1 h).1 (Option.some.inj hsegs).symm

/-- A name in a directory that is no link leads to what the directory has under it, unless the path
or the name is too long. -/
theorem resolve_join_eq {p : Path} {name : Text} (hname : isName name = true)
    (hlead : t.LeadsTo p key) (hlink : ∀ target, t.get? (key ++ [name]) ≠ some (.link target))
    (hnul : '\x00' ∉ (p.join ⟨name⟩).text) :
    t.resolve purpose (p.join ⟨name⟩) =
      if (p.join ⟨name⟩).isTooLong = true ∨ maxNameBytes < name.byteCount then .error .tooLong
      else .ok (t.placeOf key name) := by
  have hlast : t.follow purpose key [name] = _ := follow_name hname hlink
  have hrest := resolveFrom_append_singleton (isName_iff.1 hname).1 hlead hlast
  rw [resolve, if_neg (text_join_ne_nil p hname), if_neg (by simpa using hnul),
    Path.segments_join_of_isName p hname, hrest, ite_or]

theorem resolve_join_eq_ok_iff {p : Path} {name : Text} {place : Place} (hname : isName name = true)
    (hlead : t.LeadsTo p key) (hlink : ∀ target, t.get? (key ++ [name]) ≠ some (.link target)) :
    t.resolve purpose (p.join ⟨name⟩) = .ok place ↔
      IsUsable p name ∧ place = t.placeOf key name := by
  constructor
  · intro h
    have hnul := (isTaken_of_resolve h).nul
    rw [resolve_join_eq hname hlead hlink hnul] at h
    split at h
    · cases h
    · rename_i hfits
      rw [not_or, Bool.not_eq_true, Nat.not_lt] at hfits
      exact ⟨⟨hnul, hfits⟩, (Except.ok.inj h).symm⟩
  · rintro ⟨⟨hnul, hshort, hfits⟩, rfl⟩
    rw [resolve_join_eq hname hlead hlink hnul, if_neg (by simp [hshort, hfits])]

/-- What a path to a name leads to is in the directory that the path before the name leads to. -/
theorem exists_leadsTo_of_resolve {p : Path} {name : Text} {place : Place}
    (hname : isName name = true) (h : t.resolve purpose (p.join ⟨name⟩) = .ok place) :
    ∃ key, t.LeadsTo p key := by
  have hrest := (resolve_eq_ok_iff.1 h).2
  rw [Path.segments_join_of_isName p hname] at hrest
  exact exists_directory_of_resolveFrom (isName_iff.1 hname).1 hrest

/-- A dot leads to the directory that a name leads into. -/
theorem resolve_join_dot {t' : FileTree} {p : Path} {name : Text} {place : Place}
    (hname : isName name = true) (h : t.resolve purpose (p.join ⟨name⟩) = .ok place)
    (hlead : t'.LeadsTo p key) :
    t'.resolve .look (p.join ⟨['.']⟩) = .ok (.directory key) := by
  obtain ⟨hne, -, -, hslash, -⟩ := isName_iff.1 hname
  obtain ⟨-, hnul, hshort⟩ := isTaken_of_resolve h
  obtain ⟨before, htext⟩ := Path.exists_text_join_append p
  have hdot : (p.join ⟨['.']⟩).text = before ++ ['.'] := htext _ (by simp) (by decide)
  rw [htext name hne hslash] at hnul
  -- a dot is no longer than the name
  have hlen : (p.join ⟨['.']⟩).isTooLong = false := by
    have hpos : 1 ≤ name.byteCount := Text.byteCount_pos hne
    have hone : Text.byteCount ['.'] = 1 := rfl
    simp only [Path.isTooLong, decide_eq_false_iff_not, htext name hne hslash, hdot,
      Text.byteCount_append] at hshort ⊢
    omega
  have htaken : (p.join ⟨['.']⟩).IsTaken := by
    refine ⟨by simp [hdot], ?_, hlen⟩
    rw [hdot, List.mem_append]
    rintro (hmem | hmem)
    · exact hnul (List.mem_append_left _ hmem)
    · revert hmem
      decide
  have hlast : t'.follow .look key [['.']] = (Except.ok (.directory key)).map .ended := rfl
  rw [resolve_of_isTaken htaken, Path.segments_join p (by simp) (by decide),
    resolveFrom_append_singleton (by simp) hlead hlast]

end FileTree

end FeatureSheets
