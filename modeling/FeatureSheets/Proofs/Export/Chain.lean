import FeatureSheets.Proofs.Export.Directory
import FeatureSheets.Proofs.FileTree.Open
import Mathlib.Data.List.Induction

/-!
# Directories made or refused for good

An export makes its directory, and before it whatever the way to it misses. Where the path of the
directory is open, what comes of that the first time comes of it every time later: the directory is
there, or it is refused for good (`makeDirectories_settles`).
-/

namespace FeatureSheets

/-! ## Directories that are made -/

section

variable {w : World} {p : Path} {fault : FileFault}
  {handle : FileFault → Session (Except FileFault Unit)}

theorem makeDirectoryOr_of_ok {t : FileTree} (h : w.tree.makeDirectory p = .ok t) :
    makeDirectoryOr p handle w = (.ok (), { w with tree := t }) := by
  have hmake : (Platform.makeDirectory p : Session _) w = (.ok (), { w with tree := t }) :=
    Session.change_eq_ok_iff.2 ⟨t, h, rfl⟩
  exact Session.bind_eq_iff.2 ⟨_, _, hmake, rfl⟩

theorem makeDirectoryOr_of_error (h : w.tree.makeDirectory p = .error fault)
    (hnot : fault = .missing ∨ w.tree.kind p ≠ .ok .directory) :
    makeDirectoryOr p handle w = handle fault w := by
  have hmake : (Platform.makeDirectory p : Session _) w = (.error fault, w) :=
    Session.change_eq_error_iff.2 ⟨h, rfl⟩
  obtain ⟨there, hthere, hcond⟩ : ∃ there, (isDirectory p : Session Bool) w = (there, w) ∧
      ¬(fault ≠ .missing ∧ there = true) := by
    have hkind : (Platform.kind p : Session _) w = (w.tree.kind p, w) := rfl
    by_cases hdirectory : w.tree.kind p = .ok .directory
    · rw [hdirectory] at hkind
      have hfault := hnot.resolve_right (absurd hdirectory)
      exact ⟨true, Session.bind_eq_iff.2 ⟨_, w, hkind, rfl⟩, fun h => h.1 hfault⟩
    · refine ⟨false, Session.bind_eq_iff.2 ⟨_, w, hkind, ?_⟩, by simp⟩
      cases hother : w.tree.kind p with
      | error other => rfl
      | ok kind =>
        rw [hother] at hdirectory
        cases kind with
        | directory => exact absurd rfl hdirectory
        | _ => rfl
  have hrest : (if fault ≠ .missing ∧ there = true then pure (.ok ()) else handle fault :
      Session _) w = handle fault w := by
    rw [if_neg hcond]
  refine Session.bind_eq_iff.2 ⟨_, w, hmake, Session.bind_eq_iff.2 ⟨there, w, hthere, hrest⟩⟩

/-- A directory whose way is missing is refused where its way is. -/
theorem makeDirectories_of_error {outer : List Path} {w' : World}
    (h : w.tree.makeDirectory p = .error .missing)
    (houter : (makeDirectories outer : Session _) w = (.error fault, w')) :
    (makeDirectories (p :: outer) : Session _) w = (.error fault, w') := by
  rw [makeDirectories, makeDirectoryOr_of_error h (.inl rfl)]
  exact Session.bind_eq_iff.2 ⟨_, w', houter, rfl⟩

/-- Otherwise it is tried again when its way is made. -/
theorem makeDirectories_of_ok {outer : List Path} {w' : World}
    (h : w.tree.makeDirectory p = .error .missing)
    (houter : (makeDirectories outer : Session _) w = (.ok (), w')) :
    (makeDirectories (p :: outer) : Session _) w =
      (makeDirectoryOr p fun fault => pure (.error fault) : Session _) w' := by
  rw [makeDirectories, makeDirectoryOr_of_error h (.inl rfl)]
  exact Session.bind_eq_iff.2 ⟨_, w', houter, rfl⟩

/-- When directories are made, the way of the first is made where it is missing, and no other fault
is handled. -/
theorem exists_handle (p : Path) (outer : List Path) :
    ∃ handle : FileFault → Session (Except FileFault Unit),
      makeDirectories (p :: outer) = makeDirectoryOr p handle ∧
        ∀ fault, fault ≠ .missing → ∀ w : World, handle fault w = (.error fault, w) := by
  refine ⟨_, rfl, fun fault hne w => ?_⟩
  cases fault with
  | missing => exact absurd rfl hne
  | _ => rfl

/-- The path before the last component. -/
theorem isTaken_ofComponents (htaken : p.IsTaken) {cs : List Component} {c : Component}
    (hp : p.components = cs ++ [c]) (hne : cs ≠ []) :
    (Path.ofComponents cs).components = cs ∧ (Path.ofComponents cs).IsTaken := by
  have htake : p.components.take cs.length = cs := by rw [hp, List.take_left]
  have hcomps := p.components_ofComponents_take cs.length
  rw [htake] at hcomps
  exact ⟨hcomps, htake ▸ htaken.take (htake.symm ▸ hne)⟩

/-- The path before the last component ends in no dot if it is missing, or in a pair of dots. -/
theorem getLast?_of_endsInDot {t : FileTree} {cs : List Component} {c : Component}
    (hp : p.components = cs ++ [c]) (hmissing : t.reach [] cs = .error .missing)
    (hdot : (Path.ofComponents cs).EndsInDot) : cs.getLast? = some .parent := by
  have hne : cs ≠ [] := by
    rintro rfl
    cases hmissing
  obtain ⟨before, last, rfl⟩ := (List.eq_nil_or_concat cs).resolve_left hne
  rw [List.concat_eq_append] at hp hmissing hdot ⊢
  have hcomps := p.components_ofComponents_take (before ++ [last]).length
  rw [hp, List.take_left] at hcomps
  rcases FileTree.parent_or_name_of_reach_missing hcomps hmissing with rfl | ⟨s, rfl⟩
  · exact List.getLast?_concat
  · rw [List.append_assoc] at hp
    exact absurd hdot (Path.not_endsInDot_ofComponents hp)

/-! ## What is settled -/

/-- Whether what came of making the directory of a path will come of it every time. -/
def FileTree.IsSettled (t : FileTree) (p : Path) : Except FileFault Unit → Prop
  | .ok _ => p.components = [] ∨ ∃ key, t.resolve .look p = .ok (.directory key)
  | .error fault => p.components ≠ [] ∧ t.Refuses p fault

theorem FileTree.IsSettled.augments {t t' : FileTree} {r : Except FileFault Unit}
    (hsettled : t.IsSettled p r) (h : t.Augments t') : t'.IsSettled p r := by
  cases r with
  | error fault => exact ⟨hsettled.1, hsettled.2.augments h⟩
  | ok _ => exact hsettled.imp_right fun ⟨key, hplace⟩ => ⟨key, h.resolve_eq_directory hplace⟩

theorem exists_chain (h : p.components ≠ []) : ∃ outer, p.chain = p :: outer := by
  obtain ⟨cs, c, hp⟩ := (List.eq_nil_or_concat p.components).resolve_left h
  exact ⟨_, Path.chain_eq_cons (hp.trans (List.concat_eq_append ..))⟩

/-- A directory that was made is where its components lead. -/
theorem FileTree.IsSettled.exists_reach {t : FileTree} (h : t.IsSettled p (.ok ()))
    (hlinks : t.HasNoLinks) : ∃ key, t.reach [] p.components = .ok key := by
  rcases h with hnil | ⟨key, hplace⟩
  · exact ⟨[], hnil ▸ rfl⟩
  · exact ⟨key, ((resolve_eq_directory_iff hlinks (by simp)).1 hplace).2⟩

/-- What is settled comes again, and nothing is done. -/
theorem makeDirectoryOr_of_isSettled {r : Except FileFault Unit} (h : w.tree.IsSettled p r)
    (hne : p.components ≠ [])
    (hhandle : ∀ fault, fault ≠ .missing → handle fault w = (.error fault, w)) :
    makeDirectoryOr p handle w = (r, w) := by
  cases r with
  | error fault =>
    rw [makeDirectoryOr_of_error h.2.makeDirectory (.inr h.2.kind)]
    exact hhandle fault h.2.ne_missing
  | ok _ =>
    obtain ⟨key, hplace⟩ := h.resolve_left hne
    exact makeDirectoryOr_of_directory hplace handle

theorem makeDirectories_of_isSettled {r : Except FileFault Unit} (h : w.tree.IsSettled p r) :
    (makeDirectories p.chain : Session _) w = (r, w) := by
  by_cases hne : p.components = []
  · rw [Path.chain, hne]
    cases r with
    | error fault => exact absurd hne h.1
    | ok _ => rfl
  · obtain ⟨outer, hchain⟩ := exists_chain hne
    obtain ⟨handle, hcons, hhandle⟩ := exists_handle p outer
    rw [hchain, hcons]
    exact makeDirectoryOr_of_isSettled h hne fun fault hfault => hhandle fault hfault w

/-- What comes of making the directory of a path that leads to something is settled before. -/
theorem exists_isSettled_of_isFound (hlinks : w.tree.HasNoLinks) (hne : p.components ≠ [])
    (hfound : FileTree.IsFound (w.tree.resolve .look p)) : ∃ r, w.tree.IsSettled p r := by
  by_cases hdirectory : ∃ key, w.tree.resolve .look p = .ok (.directory key)
  · exact ⟨.ok (), .inr hdirectory⟩
  · rw [not_exists] at hdirectory
    obtain ⟨fault, hrefuses⟩ := FileTree.exists_refuses_of_isFound hlinks hfound hdirectory
    exact ⟨.error fault, hne, hrefuses⟩

/-! ## One directory after another -/

/-- Whether what came of making the directory of a path is settled, and is told by its components
or by a file in its place. -/
structure FileTree.Settles (t : FileTree) (p : Path) (r : Except FileFault Unit) : Prop where
  /-- It will come every time. -/
  isSettled : t.IsSettled p r
  /-- An error is that of the components, or of the file. -/
  reach : ∀ fault, r = .error fault →
    t.reach [] p.components = .error fault ∨ t.HoldsFile p.place

theorem FileTree.settles_of_reach {t : FileTree} (hlinks : t.HasNoLinks) (htaken : p.IsTaken)
    {key : Key} (h : t.reach [] p.components = .ok key) : t.Settles p (.ok ()) :=
  ⟨.inr ⟨key, (resolve_eq_directory_iff hlinks (by simp)).2 ⟨htaken, h⟩⟩, fun _ heq => by cases heq⟩

theorem FileTree.settles_of_refuses {t : FileTree} (hne : p.components ≠ [])
    (hrefuses : t.Refuses p fault)
    (h : t.reach [] p.components = .error fault ∨ t.HoldsFile p.place) :
    t.Settles p (.error fault) :=
  ⟨⟨hne, hrefuses⟩, fun _ heq => Except.error.inj heq ▸ h⟩

/-- A file in the place of a directory is in its way for good. -/
theorem FileTree.exists_settles_of_file {t : FileTree} (hlinks : t.HasNoLinks)
    (hne : p.components ≠ []) (h : t.reach [] p.components = .error .notDirectory)
    (hfile : t.HoldsFile p.place) : ∃ fault, t.Settles p (.error fault) := by
  have hfound : IsFound (t.resolve .look p) := by
    by_contra hnot
    have hmissing :=
      (isTaken_and_reach_of_not_isFound hlinks (Path.text_ne_nil_of_components hne) hnot).2
    cases h.symm.trans hmissing
  obtain ⟨fault, hrefuses⟩ := exists_refuses_of_isFound hlinks hfound (by
    intro key hplace
    cases h.symm.trans ((resolve_eq_directory_iff hlinks (by simp)).1 hplace).2)
  exact ⟨fault, settles_of_refuses hne hrefuses (.inr hfile)⟩

/-- Where the way of a path leads to a directory, it is settled what comes of making the directory
of the path. -/
theorem makeDirectoryOr_settles (handle : FileFault → Session (Except FileFault Unit))
    (hlinks : w.tree.HasNoLinks) (htaken : p.IsTaken)
    (hend : p.EndsInDot → p.components.getLast? = some .parent)
    {cs : List Component} {c : Component} {key : Key} (hp : p.components = cs ++ [c])
    (hc : c = .parent ∨ ∃ s, c = .name s) (hreach : w.tree.reach [] cs = .ok key)
    (hhandle : ∀ fault, fault ≠ .missing → handle fault w = (.error fault, w)) :
    ∃ r w', makeDirectoryOr p handle w = (r, w') ∧ w.tree.Augments w'.tree ∧
      w'.tree.Settles p r := by
  have hne : p.components ≠ [] := by simp [hp]
  have hsettled : ∀ r, w.tree.Settles p r → ∃ r w',
      makeDirectoryOr p handle w = (r, w') ∧ w.tree.Augments w'.tree ∧ w'.tree.Settles p r :=
    fun r h => ⟨r, w, makeDirectoryOr_of_isSettled h.isSettled hne hhandle, .refl hlinks, h⟩
  rcases hc with rfl | ⟨s, rfl⟩
  · -- a pair of dots leads back to a directory
    have hback : w.tree.reach [] p.components = .ok key.dropLast := by
      rw [hp, FileTree.reach_append, hreach]
      rfl
    exact hsettled _ (FileTree.settles_of_reach hlinks htaken hback)
  have hlast : w.tree.reach [] p.components = w.tree.reach key [.name s] := by
    rw [hp, FileTree.reach_append, hreach]
    rfl
  rw [FileTree.reach] at hlast
  by_cases hlong : FileTree.maxNameBytes < s.byteCount
  · rw [if_pos hlong] at hlast
    have hrefuses := FileTree.refuses_of_reach_tooLong hlinks htaken hlast
    exact hsettled _ (FileTree.settles_of_refuses hne hrefuses (.inl hlast))
  rw [if_neg hlong] at hlast
  cases hget : w.tree.get? (key ++ [s]) with
  | none =>
    -- nothing is there, so that the directory is made
    have hdot : ¬p.EndsInDot := by
      intro hdot
      have hparent := hend hdot
      rw [hp, List.getLast?_concat] at hparent
      cases hparent
    have hmake := FileTree.makeDirectory_of_reach_ok hlinks htaken hdot hp hreach hget
    rw [if_neg hlong] at hmake
    have haug := FileTree.augments_of_makeDirectory hlinks hmake
    have hreach' := FileTree.reach_of_makeDirectory hlinks htaken hp hreach hlong hget hmake
    exact ⟨_, _, makeDirectoryOr_of_ok hmake, haug,
      FileTree.settles_of_reach haug.hasNoLinks htaken hreach'⟩
  | some node =>
    rw [hget] at hlast
    cases node with
    | directory => exact hsettled _ (FileTree.settles_of_reach hlinks htaken hlast)
    | link target => exact absurd hget (hlinks _ _)
    | file content =>
      have hplace : p.place = key ++ [s] := by
        rw [Path.place, hp, List.foldl_append, ← FileTree.eq_of_reach hreach]
        rfl
      obtain ⟨fault, hsettles⟩ := FileTree.exists_settles_of_file hlinks hne hlast
        (FileTree.holdsFile_iff.2 ⟨content, hplace ▸ hget⟩)
      exact hsettled _ hsettles

/-- The first components of the path before the last component are those of the path. -/
theorem placeAfter_ofComponents {cs rest : List Component} (hp : p.components = cs ++ rest)
    {n : Nat} (hn : n ≤ cs.length) : (Path.ofComponents cs).placeAfter n = p.placeAfter n := by
  have hcomps := p.components_ofComponents_take cs.length
  rw [hp, List.take_left] at hcomps
  rw [Path.placeAfter, Path.placeAfter, hcomps, hp, List.take_append_of_le_length hn]

/-- What is in the way of the directory before the last component is in the way of the path, unless
it is a file in the place of that directory. -/
theorem FileTree.Settles.of_before {t : FileTree} (hlinks : t.HasNoLinks) (htaken : p.IsTaken)
    {cs : List Component} {c : Component} (hp : p.components = cs ++ [c])
    (hc : c = .parent ∨ ∃ s, c = .name s)
    (hbefore : (Path.ofComponents cs).components = cs)
    (h : t.Settles (Path.ofComponents cs) (.error fault))
    (hfile : ¬t.HoldsFile (Path.ofComponents cs).place) : t.Settles p (.error fault) := by
  have hway : t.reach [] cs = .error fault := by
    have hreach := (h.reach fault rfl).resolve_right hfile
    rwa [hbefore] at hreach
  have hrefuses := refuses_of_reach_error hlinks htaken hp hc hway h.isSettled.2.ne_missing
  have hlast : t.reach [] p.components = .error fault := by
    rw [hp, reach_append, hway]
    rfl
  exact settles_of_refuses (by simp [hp]) hrefuses (.inl hlast)

/-- What is missing is made, and before it whatever its way misses, if no file is in the way. -/
theorem makeDirectories_of_missing (hlinks : w.tree.HasNoLinks) (htaken : p.IsTaken)
    (hend : p.EndsInDot → p.components.getLast? = some .parent)
    (hfiles : ∀ n < p.components.length, ¬w.tree.HoldsFile (p.placeAfter n))
    (hmissing : w.tree.reach [] p.components = .error .missing) :
    ∃ r w', (makeDirectories p.chain : Session _) w = (r, w') ∧ w.tree.Augments w'.tree ∧
      w'.tree.Settles p r := by
  induction hp : p.components using List.reverseRecOn generalizing p with
  | nil =>
    rw [hp] at hmissing
    cases hmissing
  | append_singleton cs c ih =>
    rw [hp] at hmissing
    have hc := FileTree.parent_or_name_of_reach_missing hp hmissing
    rw [FileTree.reach_append] at hmissing
    rw [Path.chain_eq_cons hp]
    cases hreach : w.tree.reach [] cs with
    | ok key =>
      obtain ⟨handle, hcons, hhandle⟩ := exists_handle p (Path.ofComponents cs).chain
      rw [hcons]
      exact makeDirectoryOr_settles handle hlinks htaken hend hp hc hreach fun fault hfault =>
        hhandle fault hfault w
    | error fault =>
      -- the way is missing too, so that it is made first
      obtain rfl : fault = .missing := by
        rw [hreach] at hmissing
        exact Except.error.inj hmissing
      have hne : cs ≠ [] := by
        rintro rfl
        cases hreach
      have hmake := FileTree.makeDirectory_of_reach_error hlinks htaken hp hc hreach
      obtain ⟨houter, htaken'⟩ := isTaken_ofComponents htaken hp hne
      have hfiles' : ∀ n ≤ cs.length, ¬w.tree.HoldsFile ((Path.ofComponents cs).placeAfter n) := by
        intro n hn
        rw [placeAfter_ofComponents hp hn]
        exact hfiles n (by rw [hp, List.length_append]; exact Nat.lt_succ_of_le hn)
      obtain ⟨r, w₁, hrun, haug, hsettles⟩ := ih htaken'
        (fun hdot => by rw [houter]; exact getLast?_of_endsInDot hp hreach hdot)
        (fun n hn => hfiles' n (by rw [houter] at hn; exact Nat.le_of_lt hn))
        (houter.symm ▸ hreach) houter
      cases r with
      | ok _ =>
        obtain ⟨key, hkey⟩ := hsettles.isSettled.exists_reach haug.hasNoLinks
        rw [houter] at hkey
        obtain ⟨r, w₂, hrun', haug', hsettles'⟩ := makeDirectoryOr_settles
          (fun fault => pure (.error fault)) haug.hasNoLinks htaken hend hp hc hkey fun _ _ => rfl
        exact ⟨r, w₂, (makeDirectories_of_ok hmake hrun).trans hrun', haug.trans haug', hsettles'⟩
      | error fault =>
        have hgrows := (grows_makeDirectories _).of_eq hrun
        have hfile : ¬w₁.tree.HoldsFile (Path.ofComponents cs).place := by
          have hold := hfiles' cs.length (Nat.le_refl _)
          rwa [Path.placeAfter, houter, List.take_length, ← houter, ← Path.place,
            ← hgrows.holdsFile_iff] at hold
        exact ⟨_, w₁, makeDirectories_of_error hmake hrun, haug,
          hsettles.of_before haug.hasNoLinks htaken hp hc houter hfile⟩

/-- **What comes of making the directory of an open path is settled with it.** -/
theorem makeDirectories_settles (hlinks : w.tree.HasNoLinks) (hopen : w.tree.IsOpen p) :
    ∃ r w', (makeDirectories p.chain : Session _) w = (r, w') ∧ w.tree.Augments w'.tree ∧
      w'.tree.IsSettled p r := by
  by_cases hne : p.components = []
  · have hsettled : w.tree.IsSettled p (.ok ()) := .inl hne
    exact ⟨_, w, makeDirectories_of_isSettled hsettled, .refl hlinks, hsettled⟩
  by_cases hfound : FileTree.IsFound (w.tree.resolve .look p)
  · obtain ⟨r, hsettled⟩ := exists_isSettled_of_isFound hlinks hne hfound
    exact ⟨r, w, makeDirectories_of_isSettled hsettled, .refl hlinks, hsettled⟩
  obtain ⟨htaken, hmissing⟩ := FileTree.isTaken_and_reach_of_not_isFound hlinks
    (Path.text_ne_nil_of_components hne) hfound
  obtain ⟨hend, hfiles⟩ := hopen.resolve_left fun h =>
    hfound ((FileTree.kind_ne_missing_iff hlinks p).1 h)
  obtain ⟨r, w', hrun, haug, hsettles⟩ :=
    makeDirectories_of_missing hlinks htaken hend hfiles hmissing
  exact ⟨r, w', hrun, haug, hsettles.isSettled⟩

end

end FeatureSheets
