import FeatureSheets.Proofs.FileTree.Change

/-!
# Files read where they were written

A file that is written is read under the same path, wherever links lead it
(`readFile_of_writeFile`). The path is followed again as it was for the writing: what it met on its
way is still there (`Extends`), and at its end there is now the file. Where a path leads to
nothing, there is room for the file (`stands_of_resolve`), as long as no link has a NUL in its
target (`HasSoundLinks`); no link can be made with one.
-/

namespace FeatureSheets.FileTree

variable {t t' : FileTree} {purpose : Purpose} {dir key : Key} {segments : List Text} {p : Path}
  {content : List UInt8}

/-! ## What stands where a path leads -/

/-- Whether the targets of all links are texts that a file system takes. -/
def HasSoundLinks (t : FileTree) : Prop :=
  ∀ key target, t.get? key = some (.link target) → '\x00' ∉ target.text

/-- A link that is made is put where nothing was, and its target is one that a file system
takes. -/
theorem exists_of_makeLink {target : Path} (h : t.makeLink p target = .ok t') :
    '\x00' ∉ target.text ∧ ∃ dir name, t' = t.insert dir name (.link target) := by
  rw [makeLink] at h
  split at h
  · cases h
  split at h
  · cases h
  rename_i hnul
  split at h
  · cases h
  refine ⟨by simpa using hnul, ?_⟩
  cases hplace : t.resolve .make p with
  | error fault =>
    rw [hplace] at h
    cases h
  | ok place =>
    rw [hplace] at h
    cases place with
    | vacant dir name slash =>
      cases slash <;> cases h
      exact ⟨dir, name, rfl⟩
    | directory => cases h
    | file => cases h
    | link => cases h

/-- No link is made but with a target that a file system takes. -/
theorem HasSoundLinks.of_makeLink {target : Path} (h : t.HasSoundLinks)
    (hmake : t.makeLink p target = .ok t') : t'.HasSoundLinks := by
  obtain ⟨hnul, dir, name, rfl⟩ := exists_of_makeLink hmake
  intro key other hget
  by_cases hroom : t.hasRoom dir name = true
  · rw [get?_insert _ _ hroom] at hget
    split at hget
    · cases hget
      exact hnul
    · exact h key other hget
  · rw [insert, dif_neg hroom] at hget
    exact h key other hget

/-- No other change makes a link. -/
theorem HasSoundLinks.of_extends (h : t.HasSoundLinks) (hext : t.Extends t') :
    t'.HasSoundLinks :=
  fun key target hget => h key target ((hext.link key target).1 hget)

/-- Whether a tree has at a place what the place says. -/
def Stands (t : FileTree) : Place → Prop
  | .directory key => t.get? key = some .directory
  | .file key content _ => t.get? key = some (.file content)
  | .link key => ∃ target, t.get? key = some (.link target)
  | .vacant dir name _ => t.hasRoom dir name = true

/-- Whether all segments are names, but for the empty one and dots. -/
def ArePlain (segments : List Text) : Prop :=
  ∀ s ∈ segments, '/' ∉ s ∧ '\x00' ∉ s

theorem arePlain_segments {p : Path} (h : '\x00' ∉ p.text) : ArePlain p.segments := by
  intro s hs
  exact ⟨Text.not_mem_of_mem_splitOn hs, fun hmem => h (Text.subset_of_mem_splitOn hs hmem)⟩

/-- Segments from a directory are followed to what stands there, or to a link. -/
theorem stands_of_follow (hsound : t.HasSoundLinks) (hdir : t.get? dir = some .directory)
    (hplain : ArePlain segments) {stretch : Stretch}
    (h : t.follow purpose dir segments = .ok stretch) :
    (∀ place, stretch = .ended place → t.Stands place) ∧
      ∀ dir' segments', stretch = .linked dir' segments' → ArePlain segments' := by
  induction segments generalizing dir with
  | nil =>
    cases h
    refine ⟨fun place hplace => ?_, nofun⟩
    cases hplace
    exact hdir
  | cons s rest ih =>
    obtain ⟨⟨hslash, hnul⟩, hrest⟩ := List.forall_mem_cons.1 hplain
    rcases follow_cons_eq_ok_iff.1 h with ⟨key, henter, hfollow⟩ | hstop
    · exact ih (henter.get? hdir) hrest hfollow
    · cases hstop with
      | vacant hname hget =>
        refine ⟨fun place hplace => ?_, nofun⟩
        cases hplace
        have hproper : isName s = true :=
          isName_iff.2 ⟨fun e => hname.not_stay (.inl e), fun e => hname.not_stay (.inr e),
            hname.not_up, hslash, hnul⟩
        rw [Stands, hasRoom, hdir, hproper, hget]
        rfl
      | file _ hget =>
        refine ⟨fun place hplace => ?_, nofun⟩
        cases hplace
        exact hget
      | link _ hget =>
        refine ⟨fun place hplace => ?_, nofun⟩
        cases hplace
        exact ⟨_, hget⟩
      | linked _ hget =>
        refine ⟨nofun, fun dir' segments' heq => ?_⟩
        cases heq
        intro s hs
        rcases List.mem_append.1 hs with hs | hs
        · exact arePlain_segments (hsound _ _ hget) s hs
        · exact hrest s hs

theorem stands_of_resolves (hsound : t.HasSoundLinks) {links : Nat} {place : Place}
    (hdir : t.get? dir = some .directory) (hplain : ArePlain segments)
    (h : t.Resolves purpose place links dir segments) : t.Stands place := by
  induction h with
  | ended hend => exact (stands_of_follow hsound hdir hplain hend).1 place rfl
  | linked hlink _ ih =>
    exact ih ((get?_of_follow hdir hlink).2 _ _ rfl)
      ((stands_of_follow hsound hdir hplain hlink).2 _ _ rfl)

/-- A path leads to what stands there. -/
theorem stands_of_resolve (hsound : t.HasSoundLinks) {place : Place}
    (h : t.resolve purpose p = .ok place) : t.Stands place := by
  obtain ⟨htaken, hplace⟩ := resolve_eq_ok_iff.1 h
  exact stands_of_resolves hsound rfl (arePlain_segments htaken.nul) (resolves_iff.2 hplace)

/-! ## Reading what was written -/

/-- Where a file is put that is written to a place. -/
def Place.fileKey? : Place → Option Key
  | .file key _ _ => some key
  | .vacant dir name _ => some (dir ++ [name])
  | .directory _ | .link _ => none

/-- A file that is written stands where it is put. -/
theorem exists_of_writeFile (hsound : t.HasSoundLinks) (h : t.writeFile p content = .ok t') :
    ∃ place key, t.resolve .write p = .ok place ∧ Place.fileKey? place = some key ∧
      t'.get? key = some (.file content) := by
  rcases writeFile_eq_ok_iff.1 h with ⟨key, old, slash, hplace, rfl⟩ |
    ⟨dir, name, slash, hplace, rfl⟩
  · have hget : t.get? key = some (.file old) := stands_of_resolve hsound hplace
    refine ⟨_, key, hplace, rfl, ?_⟩
    rw [get?_setContent, hget]
    simp
  · have hroom : t.hasRoom dir name = true := stands_of_resolve hsound hplace
    refine ⟨_, dir ++ [name], hplace, rfl, ?_⟩
    rw [get?_insert _ _ hroom, if_pos rfl]

/-- A segment that is looked up to be written is looked up to be seen. -/
theorem IsLookedUp.look {s : Text} {rest : List Text} (h : IsLookedUp purpose s rest) :
    IsLookedUp .look s rest :=
  ⟨h.not_stay, h.not_up, (fun hw => nomatch hw.1), h.not_long⟩

theorem Enters.look {s : Text} {rest : List Text} (h : t.Enters purpose dir s rest key) :
    t.Enters .look dir s rest key := by
  cases h with
  | stay h => exact .stay h
  | up h => exact .up h
  | into hname hget => exact .into hname.look hget

/-- A path that is followed to a link is followed to it for whatever reason it is followed. -/
theorem follow_look_of_linked {dir' : Key} {segments' : List Text}
    (h : t.follow purpose dir segments = .ok (.linked dir' segments')) :
    t.follow .look dir segments = .ok (.linked dir' segments') := by
  induction segments generalizing dir with
  | nil => cases h
  | cons s rest ih =>
    rw [follow_cons_eq_ok_iff] at h ⊢
    rcases h with ⟨key, henter, hrest⟩ | hstop
    · exact .inl ⟨key, henter.look, ih hrest⟩
    · cases hstop with
      | linked hname hget => exact .inr (.linked hname.look hget (fun hmake => nomatch hmake.1))

/-- Segments that lead to a place to write to lead to the file there, once it is written. -/
theorem Extends.follow_written (hext : t.Extends t') {place : Place}
    (h : t.follow .write dir segments = .ok (.ended place)) (hkey : Place.fileKey? place = some key)
    (hget : t'.get? key = some (.file content)) :
    t'.follow .look dir segments = .ok (.ended (.file key content false)) := by
  induction segments generalizing dir with
  | nil =>
    cases h
    cases hkey
  | cons s rest ih =>
    rw [follow_cons_eq_ok_iff] at h ⊢
    rcases h with ⟨dir', henter, hrest⟩ | hstop
    · exact .inl ⟨dir', (hext.enters henter).look, ih hrest⟩
    · -- nothing but a slash could follow the name, and no file is written then
      have hend : IsLookedUp .write s rest → rest.all (· == []) = true → rest = [] := by
        intro hname hlast
        by_contra hne
        exact hname.not_slash ⟨rfl, hne, hlast⟩
      cases hstop with
      | vacant hname _ hlast =>
        obtain rfl := hend hname hlast
        obtain rfl := Option.some.inj hkey
        exact .inr (.file hname.look hget rfl)
      | file hname _ hlast =>
        obtain rfl := hend hname hlast
        obtain rfl := Option.some.inj hkey
        exact .inr (.file hname.look hget rfl)
      | link _ _ hlast => cases hlast.1

theorem Extends.resolves_written (hext : t.Extends t') {links : Nat} {place : Place}
    (h : t.Resolves .write place links dir segments) (hkey : Place.fileKey? place = some key)
    (hget : t'.get? key = some (.file content)) :
    t'.Resolves .look (.file key content false) links dir segments := by
  induction h with
  | ended hend => exact .ended (hext.follow_written hend hkey hget)
  | linked hlink _ ih => exact .linked (follow_look_of_linked (hext.follow_eq trivial hlink)) ih

/-- A path that leads to a place to write to leads to the file there, once it is written. -/
theorem Extends.resolve_written (hext : t.Extends t') {place : Place}
    (h : t.resolve .write p = .ok place) (hkey : Place.fileKey? place = some key)
    (hget : t'.get? key = some (.file content)) :
    t'.resolve .look p = .ok (.file key content false) := by
  obtain ⟨htaken, hplace⟩ := resolve_eq_ok_iff.1 h
  exact resolve_eq_ok_iff.2
    ⟨htaken, resolves_iff.1 (hext.resolves_written (resolves_iff.2 hplace) hkey hget)⟩

/-- A file that is written is read under the same path. -/
theorem readFile_of_writeFile (hsound : t.HasSoundLinks) (h : t.writeFile p content = .ok t') :
    t'.readFile p = .ok content := by
  obtain ⟨place, key, hplace, hkey, hget⟩ := exists_of_writeFile hsound h
  rw [readFile, (extends_of_writeFile h).resolve_written hplace hkey hget]
  rfl

end FeatureSheets.FileTree
