import FeatureSheets.Proofs.FileTree.Resolve

/-!
# Changes of a tree

What making directories and writing files leave as it was, and what they bring in. No change takes
a directory away, and none makes or unmakes a link (`Extends`), so a path that leads to a
directory leads there afterwards (`Extends.leadsTo`). A file that is written in a directory stands
there with its content, and nothing else has changed (`get?_of_writeFile`). Files of different
names that are written to a directory one after another can all be read at the end
(`readFile_of_writeAll`).
-/

namespace FeatureSheets.FileTree

/-- Whether a tree has the directories of another one, and the links, and no other links. -/
structure Extends (t t' : FileTree) : Prop where
  /-- Directories stay. -/
  directory : ∀ key, t.get? key = some .directory → t'.get? key = some .directory
  /-- Links stay, and none is made. -/
  link : ∀ key target, t'.get? key = some (.link target) ↔ t.get? key = some (.link target)

theorem Extends.refl (t : FileTree) : t.Extends t :=
  ⟨fun _ h => h, fun _ _ => Iff.rfl⟩

theorem Extends.trans {t t' t'' : FileTree} (h : t.Extends t') (h' : t'.Extends t'') :
    t.Extends t'' :=
  ⟨fun key hkey => h'.directory key (h.directory key hkey),
    fun key target => (h'.link key target).trans (h.link key target)⟩

variable {t t' : FileTree}

/-! ## Where paths lead after a change -/

/-- Whether a stretch is more than the tree may lose: a directory at its end, or a link. -/
def Stretch.Lasts : Stretch → Prop
  | .ended (.directory _) | .linked .. => True
  | .ended _ => False

/-- A segment that a stretch stops at, and that the tree may not lose, is a followed link. -/
theorem Stops.of_lasts {purpose : Purpose} {dir : Key} {s : Text} {rest : List Text}
    {stretch : Stretch} (h : t.Stops purpose dir s rest stretch)
    (hlasts : Stretch.Lasts stretch) :
    ∃ target, IsLookedUp purpose s rest ∧ t.get? (dir ++ [s]) = some (.link target) ∧
      ¬(purpose = .make ∧ rest.all (· == []) = true) ∧
        stretch = .linked (if target.isAbsolute then [] else dir) (target.segments ++ rest) := by
  cases h with
  | vacant => exact absurd hlasts id
  | file => exact absurd hlasts id
  | link => exact absurd hlasts id
  | @linked hname target hget hlast => exact ⟨target, hname, hget, hlast, rfl⟩

theorem Extends.enters (h : t.Extends t') {purpose : Purpose} {dir key : Key} {s : Text}
    {rest : List Text} (henter : t.Enters purpose dir s rest key) :
    t'.Enters purpose dir s rest key := by
  cases henter with
  | stay hs => exact .stay hs
  | up hs => exact .up hs
  | into hname hget => exact .into hname (h.directory _ hget)

/-- Segments that lead to a directory, or to a link, lead there in a tree that extends the tree. -/
theorem Extends.follow_eq (h : t.Extends t') {purpose : Purpose} {dir : Key}
    {segments : List Text} {stretch : Stretch} (hlasts : Stretch.Lasts stretch)
    (hfollow : t.follow purpose dir segments = .ok stretch) :
    t'.follow purpose dir segments = .ok stretch := by
  induction segments generalizing dir with
  | nil => exact hfollow
  | cons s rest ih =>
    rw [follow_cons_eq_ok_iff] at hfollow ⊢
    rcases hfollow with ⟨key, henter, hrest⟩ | hstop
    · exact .inl ⟨key, h.enters henter, ih hrest⟩
    · obtain ⟨target, hname, hget, hlast, rfl⟩ := hstop.of_lasts hlasts
      exact .inr (.linked hname ((h.link _ _).2 hget) hlast)

theorem Extends.resolves (h : t.Extends t') {purpose : Purpose} {links : Nat} {dir key : Key}
    {segments : List Text} (hdir : t.Resolves purpose (.directory key) links dir segments) :
    t'.Resolves purpose (.directory key) links dir segments := by
  induction hdir with
  | ended hend => exact .ended (h.follow_eq trivial hend)
  | linked hlink _ ih => exact .linked (h.follow_eq trivial hlink) ih

/-- A path leads to the same directory in a tree that extends the tree. -/
theorem Extends.leadsTo (h : t.Extends t') {p : Path} {key : Key} (hlead : t.LeadsTo p key) :
    t'.LeadsTo p key :=
  resolves_iff.1 (h.resolves (resolves_iff.2 hlead))

/-! ## Insertions and new contents -/

theorem extends_insert (t : FileTree) (dir : Key) (name : Text) {node : Node}
    (hnode : ∀ target, node ≠ .link target) : t.Extends (t.insert dir name node) := by
  by_cases hroom : t.hasRoom dir name = true
  · have hnone : t.get? (dir ++ [name]) = none := by
      simp only [hasRoom, Bool.and_eq_true, Option.isNone_iff_eq_none] at hroom
      exact hroom.2
    constructor
    · intro key hkey
      rw [get?_insert node key hroom, if_neg, hkey]
      rintro rfl
      rw [hnone] at hkey
      cases hkey
    · intro key target
      rw [get?_insert node key hroom]
      split
      · rename_i heq
        rw [heq, hnone]
        simpa using hnode target
      · exact Iff.rfl
  · rw [insert, dif_neg hroom]
    exact .refl t

theorem extends_setContent (t : FileTree) (place : Key) (content : List UInt8) :
    t.Extends (t.setContent place content) := by
  constructor
  · intro key hkey
    rw [get?_setContent, hkey]
  · intro key target
    rw [get?_setContent]
    cases t.get? key with
    | none => exact Iff.rfl
    | some node =>
      cases node with
      | directory => exact Iff.rfl
      | link other => exact Iff.rfl
      | file old => simp

/-! ## Operations -/

/-- A directory that is made is put where nothing was. -/
theorem makeDirectory_eq_ok_iff {p : Path} :
    t.makeDirectory p = .ok t' ↔ ∃ dir name slash,
      t.resolve .make p = .ok (.vacant dir name slash) ∧ t' = t.insert dir name .directory := by
  rw [makeDirectory]
  cases t.resolve .make p with
  | error fault => simp [bind, Except.bind]
  | ok place => cases place <;> simp [bind, Except.bind, eq_comm]

/-- A file that is written had another content, or was nothing. -/
theorem writeFile_eq_ok_iff {p : Path} {content : List UInt8} :
    t.writeFile p content = .ok t' ↔
      (∃ key old slash, t.resolve .write p = .ok (.file key old slash) ∧
        t' = t.setContent key content) ∨
      ∃ dir name slash, t.resolve .write p = .ok (.vacant dir name slash) ∧
        t' = t.insert dir name (.file content) := by
  rw [writeFile]
  cases t.resolve .write p with
  | error fault => simp [bind, Except.bind]
  | ok place => cases place <;> simp [bind, Except.bind, eq_comm]

theorem extends_of_makeDirectory {p : Path} (h : t.makeDirectory p = .ok t') : t.Extends t' := by
  obtain ⟨dir, name, slash, -, rfl⟩ := makeDirectory_eq_ok_iff.1 h
  exact extends_insert t dir name nofun

theorem extends_of_writeFile {p : Path} {content : List UInt8}
    (h : t.writeFile p content = .ok t') : t.Extends t' := by
  rcases writeFile_eq_ok_iff.1 h with ⟨key, old, slash, -, rfl⟩ | ⟨dir, name, slash, -, rfl⟩
  · exact extends_setContent t key content
  · exact extends_insert t dir name nofun

/-! ## Files in a directory -/

variable {p : Path} {key : Key} {name : Text} {content : List UInt8}

/-- A file that is written under a name that is no link stands there with its content, and all
else is as it was. -/
theorem get?_of_writeFile (hname : isName name = true) (hlead : t.LeadsTo p key)
    (hlink : ∀ target, t.get? (key ++ [name]) ≠ some (.link target))
    (h : t.writeFile (p.join ⟨name⟩) content = .ok t') (place : Key) :
    t'.get? place = if place = key ++ [name] then some (.file content) else t.get? place := by
  rcases writeFile_eq_ok_iff.1 h with ⟨file, old, slash, hplace, rfl⟩ |
    ⟨dir, last, slash, hplace, rfl⟩
  · obtain ⟨-, hplace⟩ := (resolve_join_eq_ok_iff hname hlead hlink).1 hplace
    rw [placeOf] at hplace
    split at hplace <;> cases hplace
    rename_i hget
    rw [get?_setContent]
    by_cases heq : place = key ++ [name]
    · rw [heq, hget]
      simp
    · rw [if_neg heq]
      cases t.get? place with
      | none => rfl
      | some node => cases node <;> simp [heq]
  · obtain ⟨-, hplace⟩ := (resolve_join_eq_ok_iff hname hlead hlink).1 hplace
    rw [placeOf] at hplace
    split at hplace <;> cases hplace
    rename_i hget
    have hroom : t.hasRoom key name = true := by
      rw [hasRoom, hlead.get?, hname, hget]
      rfl
    exact get?_insert _ _ hroom

theorem isUsable_of_writeFile (hname : isName name = true) (hlead : t.LeadsTo p key)
    (hlink : ∀ target, t.get? (key ++ [name]) ≠ some (.link target))
    (h : t.writeFile (p.join ⟨name⟩) content = .ok t') : IsUsable p name := by
  rcases writeFile_eq_ok_iff.1 h with ⟨file, old, slash, hplace, -⟩ |
    ⟨dir, last, slash, hplace, -⟩
  · exact ((resolve_join_eq_ok_iff hname hlead hlink).1 hplace).1
  · exact ((resolve_join_eq_ok_iff hname hlead hlink).1 hplace).1

/-- A file is written in the directory that the path before its name leads to, then and later. -/
theorem exists_leadsTo_of_writeFile (hname : isName name = true)
    (h : t.writeFile (p.join ⟨name⟩) content = .ok t') :
    ∃ key, ∀ t₁, t.Extends t₁ →
      t₁.LeadsTo p key ∧ t₁.resolve .look (p.join ⟨['.']⟩) = .ok (.directory key) := by
  obtain ⟨place, hplace⟩ : ∃ place, t.resolve .write (p.join ⟨name⟩) = .ok place := by
    rcases writeFile_eq_ok_iff.1 h with ⟨_, _, _, hplace, -⟩ | ⟨_, _, _, hplace, -⟩
    · exact ⟨_, hplace⟩
    · exact ⟨_, hplace⟩
  obtain ⟨key, hlead⟩ := exists_leadsTo_of_resolve hname hplace
  refine ⟨key, fun t₁ hextends => ?_⟩
  have hlead₁ := hextends.leadsTo hlead
  exact ⟨hlead₁, resolve_join_dot hname hplace hlead₁⟩

/-- What is read under a name is the file that stands there. -/
theorem readFile_join_eq_ok_iff (hname : isName name = true) (hlead : t.LeadsTo p key)
    (hlink : ∀ target, t.get? (key ++ [name]) ≠ some (.link target)) :
    t.readFile (p.join ⟨name⟩) = .ok content ↔
      IsUsable p name ∧ t.get? (key ++ [name]) = some (.file content) := by
  constructor
  · intro h
    rw [readFile] at h
    cases hplace : t.resolve .look (p.join ⟨name⟩) with
    | error fault =>
      rw [hplace] at h
      cases h
    | ok place =>
      obtain ⟨husable, rfl⟩ := (resolve_join_eq_ok_iff hname hlead hlink).1 hplace
      rw [hplace, placeOf] at h
      refine ⟨husable, ?_⟩
      cases hget : t.get? (key ++ [name]) with
      | none =>
        rw [hget] at h
        cases h
      | some node =>
        rw [hget] at h
        cases node <;> cases h
        rfl
  · rintro ⟨husable, hget⟩
    have hplace : t.resolve .look (p.join ⟨name⟩) =
        .ok (.file (key ++ [name]) content false) := by
      rw [resolve_join_eq_ok_iff hname hlead hlink, placeOf, hget]
      exact ⟨husable, rfl⟩
    rw [readFile, hplace]
    rfl

/-! ## Files one after another -/

/-- Whether no link stands in the directory at a place. -/
def IsLinkFree (t : FileTree) (key : Key) : Prop :=
  ∀ name target, t.get? (key ++ [name]) ≠ some (.link target)

theorem Extends.isLinkFree_iff (h : t.Extends t') : t'.IsLinkFree key ↔ t.IsLinkFree key := by
  simp only [IsLinkFree, ne_eq, h.link]

/-- Writes files to a directory, by their names. -/
def writeAll (t : FileTree) (dir : Path) :
    List (Text × List UInt8) → Except FileFault FileTree
  | [] => .ok t
  | (name, content) :: rest =>
    match t.writeFile (dir.join ⟨name⟩) content with
    | .ok t' => writeAll t' dir rest
    | .error fault => .error fault

variable {dir : Path} {files : List (Text × List UInt8)}

theorem writeAll_cons_eq_ok_iff {file : Text × List UInt8} :
    t.writeAll dir (file :: files) = .ok t' ↔
      ∃ t₁, t.writeFile (dir.join ⟨file.1⟩) file.2 = .ok t₁ ∧ t₁.writeAll dir files = .ok t' := by
  obtain ⟨name, content⟩ := file
  rw [writeAll]
  cases t.writeFile (dir.join ⟨name⟩) content <;> simp

theorem writeAll_append_eq_ok_iff {files' : List (Text × List UInt8)} :
    t.writeAll dir (files ++ files') = .ok t' ↔
      ∃ t₁, t.writeAll dir files = .ok t₁ ∧ t₁.writeAll dir files' = .ok t' := by
  induction files generalizing t with
  | nil => simp [writeAll]
  | cons file files ih =>
    simp only [List.cons_append, writeAll_cons_eq_ok_iff, ih]
    constructor
    · rintro ⟨t₁, hfile, t₂, hfiles, hrest⟩
      exact ⟨t₂, ⟨t₁, hfile, hfiles⟩, hrest⟩
    · rintro ⟨t₂, ⟨t₁, hfile, hfiles⟩, hrest⟩
      exact ⟨t₁, hfile, t₂, hfiles, hrest⟩

theorem extends_of_writeAll (h : t.writeAll dir files = .ok t') : t.Extends t' := by
  induction files generalizing t with
  | nil =>
    cases h
    exact .refl _
  | cons file files ih =>
    obtain ⟨t₁, hfile, hrest⟩ := writeAll_cons_eq_ok_iff.1 h
    exact (extends_of_writeFile hfile).trans (ih hrest)

/-- Files leave what is not at one of their names. -/
theorem get?_of_writeAll (hnames : ∀ file ∈ files, isName file.1 = true)
    (hlead : t.LeadsTo dir key) (hfree : t.IsLinkFree key) (h : t.writeAll dir files = .ok t')
    {place : Key} (hplace : ∀ file ∈ files, place ≠ key ++ [file.1]) :
    t'.get? place = t.get? place := by
  induction files generalizing t with
  | nil =>
    cases h
    rfl
  | cons file files ih =>
    obtain ⟨t₁, hfile, hrest⟩ := writeAll_cons_eq_ok_iff.1 h
    have hextends := extends_of_writeFile hfile
    rw [List.forall_mem_cons] at hnames hplace
    rw [ih hnames.2 (hextends.leadsTo hlead) (hextends.isLinkFree_iff.2 hfree) hrest hplace.2,
      get?_of_writeFile hnames.1 hlead (hfree _) hfile, if_neg hplace.1]

/-- Files of different names that were written to a directory stand there. -/
theorem get?_of_mem_writeAll (hnames : ∀ file ∈ files, isName file.1 = true)
    (hnodup : (files.map Prod.fst).Nodup) (hlead : t.LeadsTo dir key) (hfree : t.IsLinkFree key)
    (h : t.writeAll dir files = .ok t') :
    ∀ file ∈ files, IsUsable dir file.1 ∧ t'.get? (key ++ [file.1]) = some (.file file.2) := by
  induction files generalizing t with
  | nil => simp
  | cons file files ih =>
    obtain ⟨t₁, hfile, hrest⟩ := writeAll_cons_eq_ok_iff.1 h
    obtain ⟨hnew, hnodup⟩ := List.nodup_cons.1 hnodup
    rw [List.forall_mem_cons] at hnames
    have hextends := extends_of_writeFile hfile
    have hlead₁ := hextends.leadsTo hlead
    have hfree₁ := hextends.isLinkFree_iff.2 hfree
    rw [List.forall_mem_cons]
    refine ⟨⟨isUsable_of_writeFile hnames.1 hlead (hfree _) hfile, ?_⟩,
      ih hnames.2 hnodup hlead₁ hfree₁ hrest⟩
    have hlater : ∀ other ∈ files, key ++ [file.1] ≠ key ++ [other.1] := by
      intro other hother heq
      have hsame : file.1 = other.1 := by simpa using heq
      exact hnew (hsame ▸ List.mem_map_of_mem hother)
    rw [get?_of_writeAll hnames.2 hlead₁ hfree₁ hrest hlater,
      get?_of_writeFile hnames.1 hlead (hfree _) hfile, if_pos rfl]

/-- Files are written in the directory that the path leads to, then and later. -/
theorem exists_leadsTo_of_writeAll {file : Text × List UInt8}
    (hnames : ∀ file ∈ files, isName file.1 = true) (hfile : file ∈ files)
    (h : t.writeAll dir files = .ok t') :
    ∃ key, ∀ t₁, t.Extends t₁ →
      t₁.LeadsTo dir key ∧ t₁.resolve .look (dir.join ⟨['.']⟩) = .ok (.directory key) := by
  cases files with
  | nil => cases hfile
  | cons first files =>
    obtain ⟨t₁, hfirst, -⟩ := writeAll_cons_eq_ok_iff.1 h
    exact exists_leadsTo_of_writeFile (hnames first (by simp)) hfirst

/-- Files of different names that were written to a directory can be read, if no link is in the
way. -/
theorem readFile_of_writeAll (hnames : ∀ file ∈ files, isName file.1 = true)
    (hnodup : (files.map Prod.fst).Nodup)
    (hfree : ∀ key, t'.resolve .look (dir.join ⟨['.']⟩) = .ok (.directory key) → t'.IsLinkFree key)
    (h : t.writeAll dir files = .ok t') :
    ∀ file ∈ files, t'.readFile (dir.join ⟨file.1⟩) = .ok file.2 := by
  intro file hfile
  obtain ⟨key, hkey⟩ := exists_leadsTo_of_writeAll hnames hfile h
  have hextends := extends_of_writeAll h
  obtain ⟨hlead', hdot⟩ := hkey t' hextends
  have hfree' := hfree key hdot
  have hstands := get?_of_mem_writeAll hnames hnodup (hkey t (.refl t)).1
    (hextends.isLinkFree_iff.1 hfree') h file hfile
  exact (readFile_join_eq_ok_iff (hnames file hfile) hlead' (hfree' _)).2 hstands

end FeatureSheets.FileTree
