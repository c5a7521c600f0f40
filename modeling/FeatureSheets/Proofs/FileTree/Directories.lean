import FeatureSheets.Proofs.FileTree.Change

/-!
# Directories that are there, and new ones

A path that leads to a directory also leads there, or to a link to it, when it is followed to make
one: so a directory that is there is not made again (`makeDirectory_of_directory`). A directory
that is made leaves every file as it was (`grows_of_makeDirectory`), and in one that was not there
before there is nothing (`isLinkFree_of_none`).
-/

namespace FeatureSheets.FileTree

variable {t t' : FileTree} {dir key : Key} {segments : List Text}

/-! ## Following a path to make something -/

/-- What leads on when a path is followed to look leads on when it is followed to make. -/
theorem IsLookedUp.make {s : Text} {rest : List Text} (h : IsLookedUp .look s rest) :
    IsLookedUp .make s rest :=
  ⟨h.not_stay, h.not_up, (nomatch ·.1), h.not_long⟩

theorem Enters.make {s : Text} {rest : List Text} (h : t.Enters .look dir s rest key) :
    t.Enters .make dir s rest key := by
  cases h with
  | stay h => exact .stay h
  | up h => exact .up h
  | into hname h => exact .into hname.make h

/-- Only a link at the end makes a difference. -/
theorem follow_make {stretch : Stretch} (h : t.follow .look dir segments = .ok stretch)
    (hlasts : Stretch.Lasts stretch) :
    t.follow .make dir segments = .ok stretch ∨
      ∃ link, t.follow .make dir segments = .ok (.ended (.link link)) := by
  induction segments generalizing dir with
  | nil => exact .inl h
  | cons s rest ih =>
    rcases follow_cons_eq_ok_iff.1 h with ⟨key, henter, hrest⟩ | hstop
    · apply (ih hrest).imp
      · exact fun hmake => follow_cons_eq_ok_iff.2 (.inl ⟨key, henter.make, hmake⟩)
      · rintro ⟨link, hmake⟩
        exact ⟨link, follow_cons_eq_ok_iff.2 (.inl ⟨key, henter.make, hmake⟩)⟩
    · obtain ⟨target, hname, hget, hlast, rfl⟩ := hstop.of_lasts hlasts
      -- what is made does not follow the link that the path ends in
      by_cases hend : rest.all (· == []) = true
      · exact .inr ⟨_, follow_cons_eq_ok_iff.2 (.inr (.link hname.make hget ⟨rfl, hend⟩))⟩
      · exact .inl (follow_cons_eq_ok_iff.2
          (.inr (.linked hname.make hget fun hmake => hend hmake.2)))

theorem resolveFrom_make {links : Nat}
    (h : t.resolveFrom .look links dir segments = .ok (.directory key)) :
    t.resolveFrom .make links dir segments = .ok (.directory key) ∨
      ∃ link, t.resolveFrom .make links dir segments = .ok (.link link) := by
  simp only [← resolves_iff] at h ⊢
  induction h with
  | ended hend =>
    apply (follow_make hend trivial).imp
    · exact fun hmake => .ended hmake
    · exact fun ⟨link, hmake⟩ => ⟨link, .ended hmake⟩
  | linked hlink _ ih =>
    rcases follow_make hlink trivial with hmake | ⟨link, hmake⟩
    · apply ih.imp
      · exact fun hmade => .linked hmake hmade
      · exact fun ⟨link, hmade⟩ => ⟨link, .linked hmake hmade⟩
    · exact .inr ⟨link, .ended hmake⟩

/-- A directory that is there is in the way of another one. -/
theorem makeDirectory_of_directory {p : Path} (h : t.resolve .look p = .ok (.directory key)) :
    t.makeDirectory p = .error .occupied := by
  have hmake : t.resolve .make p = .ok (.directory key) ∨
      ∃ link, t.resolve .make p = .ok (.link link) := by
    obtain ⟨htaken, hlook⟩ := resolve_eq_ok_iff.1 h
    rw [resolve_of_isTaken htaken]
    exact resolveFrom_make hlook
  rw [makeDirectory]
  rcases hmake with hmake | ⟨link, hmake⟩
  · rw [hmake]
    rfl
  · rw [hmake]
    rfl

/-! ## The directory of a name -/

/-- A slash at the end of a path to a directory makes no difference. -/
theorem follow_append_nil {stretch : Stretch} (h : t.follow .look dir segments = .ok stretch)
    (hlasts : Stretch.Lasts stretch) :
    t.follow .look dir (segments ++ [[]]) = .ok stretch ∨ ∃ dir' segments',
      stretch = .linked dir' segments' ∧
        t.follow .look dir (segments ++ [[]]) = .ok (.linked dir' (segments' ++ [[]])) := by
  induction segments generalizing dir with
  | nil => exact .inl h
  | cons s rest ih =>
    have hlook : ∀ {s : Text} {rest rest' : List Text}, IsLookedUp .look s rest →
        IsLookedUp .look s rest' := fun h => ⟨h.not_stay, h.not_up, (nomatch ·.1), h.not_long⟩
    rw [List.cons_append]
    rcases follow_cons_eq_ok_iff.1 h with ⟨key, henter, hrest⟩ | hstop
    · have henter' : t.Enters .look dir s (rest ++ [[]]) key := by
        cases henter with
        | stay h => exact .stay h
        | up h => exact .up h
        | into hname h => exact .into (hlook hname) h
      apply (ih hrest).imp
      · exact fun hsame => follow_cons_eq_ok_iff.2 (.inl ⟨key, henter', hsame⟩)
      · rintro ⟨dir', segments', heq, hlink⟩
        exact ⟨dir', segments', heq, follow_cons_eq_ok_iff.2 (.inl ⟨key, henter', hlink⟩)⟩
    · obtain ⟨target, hname, hget, hlast, rfl⟩ := hstop.of_lasts hlasts
      refine .inr ⟨_, _, rfl, follow_cons_eq_ok_iff.2 (.inr ?_)⟩
      rw [List.append_assoc]
      exact .linked (hlook hname) hget (nomatch ·.1)

theorem resolveFrom_append_nil {links : Nat}
    (h : t.resolveFrom .look links dir segments = .ok (.directory key)) :
    t.resolveFrom .look links dir (segments ++ [[]]) = .ok (.directory key) := by
  rw [← resolves_iff] at h ⊢
  induction h with
  | ended hend =>
    rcases follow_append_nil hend trivial with hsame | ⟨_, _, heq, _⟩
    · exact .ended hsame
    · cases heq
  | linked hlink hrest ih =>
    rcases follow_append_nil hlink trivial with hsame | ⟨dir₁, segments₁, heq, hlink'⟩
    · exact .linked hsame hrest
    · cases heq
      exact .linked hlink' ih

/-- The path of the directory that a name is in leads to the directory. -/
theorem resolve_of_leadsTo {p : Path} {name : Text} {purpose : Purpose} {place : Place}
    (hp : p.text ≠ []) (hname : isName name = true)
    (h : t.resolve purpose (p.join ⟨name⟩) = .ok place) (hlead : t'.LeadsTo p key) :
    t'.resolve .look p = .ok (.directory key) := by
  obtain ⟨-, hnul, hshort⟩ := isTaken_of_resolve h
  have hsegments : t'.resolveFrom .look maxLinks [] p.segments = .ok (.directory key) := by
    rcases Path.segments_eq_front hp with hfront | hfront
    · rw [hfront]
      exact hlead
    · rw [hfront]
      exact resolveFrom_append_nil hlead
  -- the path is a part of the joined one
  obtain ⟨rest, hrest⟩ := Path.exists_text_join_eq_append p hname
  rw [hrest] at hnul
  simp only [Path.isTooLong, decide_eq_false_iff_not, hrest, Text.byteCount_append] at hshort
  have hlen : p.isTooLong = false := by
    simp only [Path.isTooLong, decide_eq_false_iff_not]
    omega
  exact resolve_eq_ok_iff.2
    ⟨⟨hp, fun hmem => hnul (List.mem_append_left _ hmem), hlen⟩, hsegments⟩

/-! ## Trees with more directories -/

/-- Whether a tree is another one with more directories. -/
structure Grows (t t' : FileTree) : Prop extends t.Extends t' where
  /-- Files stay as they are, and none is made. -/
  file : ∀ key content, t'.get? key = some (.file content) ↔ t.get? key = some (.file content)

theorem Grows.refl (t : FileTree) : t.Grows t :=
  ⟨.refl t, fun _ _ => Iff.rfl⟩

theorem Grows.trans {t'' : FileTree} (h : t.Grows t') (h' : t'.Grows t'') : t.Grows t'' :=
  ⟨h.toExtends.trans h'.toExtends,
    fun key content => (h'.file key content).trans (h.file key content)⟩

/-- A directory that is made takes the place of no file. -/
theorem grows_of_makeDirectory {p : Path} (h : t.makeDirectory p = .ok t') : t.Grows t' := by
  refine ⟨extends_of_makeDirectory h, ?_⟩
  obtain ⟨parent, name, slash, -, rfl⟩ := makeDirectory_eq_ok_iff.1 h
  intro key content
  by_cases hroom : t.hasRoom parent name = true
  · have hnone : t.get? (parent ++ [name]) = none := by
      simp only [hasRoom, Bool.and_eq_true, Option.isNone_iff_eq_none] at hroom
      exact hroom.2
    rw [get?_insert _ _ hroom]
    split
    · rename_i heq
      rw [heq, hnone]
      simp
    · exact Iff.rfl
  · rw [insert, dif_neg hroom]

/-! ## Directories that are still to be made -/

/-- Whether nothing is where a path leads, in the tree or in any that comes of it. -/
def IsUnmade (t : FileTree) (p : Path) : Prop :=
  ∀ t' key, t.Extends t' → t'.LeadsTo p key → t.get? key = none

theorem get?_append_of_none (h : t.get? key = none) (name : Text) :
    t.get? (key ++ [name]) = none := by
  by_contra hsome
  obtain ⟨node, hnode⟩ := Option.ne_none_iff_exists'.1 hsome
  have hdir := get?_dropLast hnode
  rw [List.dropLast_concat, h] at hdir
  cases hdir

/-- In a directory that was made later there is no link. -/
theorem isLinkFree_of_none (h : t.get? key = none) (hextends : t.Extends t') :
    t'.IsLinkFree key := by
  rw [hextends.isLinkFree_iff]
  intro name target hlink
  rw [get?_append_of_none h name] at hlink
  cases hlink

/-- A path leads to one directory at most. -/
theorem LeadsTo.unique {p : Path} {key' : Key} (h : t.LeadsTo p key) (h' : t.LeadsTo p key') :
    key = key' := by
  cases h.symm.trans h'
  rfl

theorem front_join (p : Path) {name : Text} (h : isName name = true) :
    (p.join ⟨name⟩).front = p.front ++ [name] := by
  have hsegments := Path.segments_join_of_isName p h
  rcases Path.segments_eq_front (text_join_ne_nil p h) with hfront | hfront
  · rw [← hfront, hsegments]
  · -- the last segment is the name, which is not empty
    have hlast := congrArg List.getLast? (hsegments.symm.trans hfront)
    rw [List.getLast?_concat, List.getLast?_concat] at hlast
    exact absurd (Option.some.inj hlast) (isName_iff.1 h).1

/-- A free name in the directory of a path, made already or not, is the name of a directory to
make. -/
theorem isUnmade_join {p : Path} {name : Text} (hname : isName name = true)
    (hfree : ∀ t' key, t.Extends t' → t'.LeadsTo p key → t.get? (key ++ [name]) = none) :
    t.IsUnmade (p.join ⟨name⟩) := by
  intro t' key hextends hlead
  have hne : name ≠ [] := (isName_iff.1 hname).1
  rw [LeadsTo, front_join p hname] at hlead
  obtain ⟨parent, hparent⟩ := exists_directory_of_resolveFrom hne hlead
  have hnone := hfree t' parent hextends hparent
  have hlink : ∀ target, t'.get? (parent ++ [name]) ≠ some (.link target) := by
    intro target hget
    rw [hextends.link, hnone] at hget
    cases hget
  rw [resolveFrom_append_singleton hne hparent (follow_name hname hlink)] at hlead
  split at hlead
  · cases hlead
  · have hplace := Except.ok.inj hlead
    rw [placeOf] at hplace
    split at hplace <;> cases hplace
    exact hnone

/-! ## Files that are put in a new directory -/

/-- Whether a tree comes from another one by making directories and then writing files to `p`. -/
def Puts (t t' : FileTree) (p : Path) (files : List (Text × List UInt8)) : Prop :=
  ∃ t₁, t.Grows t₁ ∧ t₁.writeAll p files = .ok t'

variable {t₀ : FileTree} {p : Path} {files : List (Text × List UInt8)}

theorem Puts.extends (h : t.Puts t' p files) : t.Extends t' := by
  obtain ⟨t₁, hgrows, hall⟩ := h
  exact hgrows.toExtends.trans (extends_of_writeAll hall)

/-- A file elsewhere, or under another name, is as it was. -/
theorem Puts.get?_eq_file_iff (h : t.Puts t' p files) (hunmade : t₀.IsUnmade p)
    (h₀ : t₀.Extends t) (hnames : ∀ file ∈ files, isName file.1 = true) {name : Text}
    {content : List UInt8} (hother : t'.LeadsTo p key → name ∉ files.map Prod.fst) :
    t'.get? (key ++ [name]) = some (.file content) ↔
      t.get? (key ++ [name]) = some (.file content) := by
  have hextends := h₀.trans h.extends
  obtain ⟨t₁, hgrows, hall⟩ := h
  rw [← hgrows.file]
  cases hfiles : files with
  | nil =>
    rw [hfiles] at hall
    cases hall
    exact Iff.rfl
  | cons first rest =>
    have hfirst : first ∈ files := by simp [hfiles]
    obtain ⟨there, hlead⟩ := exists_leadsTo_of_writeAll hnames hfirst hall
    have hlead' := (hlead t' (extends_of_writeAll hall)).1
    have hfree : t₁.IsLinkFree there :=
      isLinkFree_of_none (hunmade t' there hextends hlead') (h₀.trans hgrows.toExtends)
    -- the files are put at names in `there`
    rw [get?_of_writeAll hnames (hlead t₁ (.refl t₁)).1 hfree hall]
    intro file hfile heq
    obtain ⟨rfl, hname⟩ := List.append_inj' heq rfl
    exact hother hlead' (List.mem_map.2 ⟨file, hfile, (List.cons.inj hname).1.symm⟩)

/-- A file that was put in the directory is there. -/
theorem Puts.get?_of_mem (h : t.Puts t' p files) (hunmade : t₀.IsUnmade p)
    (h₀ : t₀.Extends t) (hnames : ∀ file ∈ files, isName file.1 = true)
    (hnodup : (files.map Prod.fst).Nodup) (hlead : t'.LeadsTo p key) :
    ∀ file ∈ files,
      IsUsable p file.1 ∧ t'.get? (key ++ [file.1]) = some (.file file.2) := by
  intro file hfile
  have hnone := hunmade t' key (h₀.trans h.extends) hlead
  obtain ⟨t₁, hgrows, hall⟩ := h
  obtain ⟨there, hthere⟩ := exists_leadsTo_of_writeAll hnames hfile hall
  obtain rfl : there = key := (hthere t' (extends_of_writeAll hall)).1.unique hlead
  have hfree : t₁.IsLinkFree there := isLinkFree_of_none hnone (h₀.trans hgrows.toExtends)
  exact get?_of_mem_writeAll hnames hnodup (hthere t₁ (.refl t₁)).1 hfree hall file hfile

/-- What is read in the new directory is the file that stands there. -/
theorem IsUnmade.readFile_eq_ok_iff (hunmade : t₀.IsUnmade p) (hextends : t₀.Extends t)
    (hlead : t.LeadsTo p key) {name : Text} {content : List UInt8}
    (hname : isName name = true) :
    t.readFile (p.join ⟨name⟩) = .ok content ↔
      IsUsable p name ∧ t.get? (key ++ [name]) = some (.file content) :=
  readFile_join_eq_ok_iff hname hlead
    (isLinkFree_of_none (hunmade t key hextends hlead) hextends name)

theorem exists_leadsTo_of_readFile {name : Text} {content : List UInt8} (hname : isName name = true)
    (h : t.readFile (p.join ⟨name⟩) = .ok content) :
    (∃ key, t.LeadsTo p key) ∧
      ∃ place, t.resolve .look (p.join ⟨name⟩) = .ok place := by
  cases hplace : t.resolve .look (p.join ⟨name⟩) with
  | error fault =>
    rw [readFile, hplace] at h
    cases h
  | ok place => exact ⟨exists_leadsTo_of_resolve hname hplace, place, rfl⟩

end FeatureSheets.FileTree
