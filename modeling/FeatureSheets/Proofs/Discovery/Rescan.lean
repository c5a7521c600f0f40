import FeatureSheets.Proofs.Discovery.Found
import FeatureSheets.Proofs.Feature.Bytes
import FeatureSheets.Proofs.FileTree.Augment
import FeatureSheets.Proofs.Steps

/-!
# Scans of more files

A scan finds no document that was not there before the files got more: what is new below a root
holds none (`documentsOf_walkBelow_of_new`), and what was there holds those that it held
(`documentsOf_walkBelow_eq`). So a scan that came to a result comes to one again, with the same
documents (`exists_scan_again`).
-/

namespace FeatureSheets

open Operation (run_bind_eq_ok_iff run_pure_eq_ok_iff run_ask_eq_ok_iff run_lift_eq_ok_iff)

namespace Discovery

variable {w v : World} {t : FileTree} {way : Way} {depth : Nat} {dir p : Path} {key : Key}
  {name : Text} {walk : Way → Session (List Find)}

/-! ## What a walk comes to -/

theorem onlyLooks_walkBelow (depth : Nat) (way : Way) (dir : Path) :
    Session.OnlyLooks (walkBelow depth way dir : Session (List Find)) :=
  Session.isReadingKind_onlyLooks.walkBelow depth way dir

theorem walkBelow_of_error {fault : FileFault} (h : w.tree.children dir = .error fault) :
    ((walkBelow (depth + 1) way dir : Session _) w).1 = [.error (.unreadable dir fault)] := by
  have hchildren : (Platform.children dir : Session _) w = (.error fault, w) :=
    Session.look_eq_iff.2 ⟨h, rfl⟩
  have hrun : (walkBelow (depth + 1) way dir : Session _) w =
    ([.error (.unreadable dir fault)], w) := Session.bind_eq_iff.2 ⟨_, w, hchildren, rfl⟩
  rw [hrun]

theorem walkBelow_of_ok {entries : List DirectoryEntry} (h : w.tree.children dir = .ok entries) :
    ((walkBelow (depth + 1) way dir : Session _) w).1 = (entries.map fun e =>
      ((visit way (dir.join ⟨e.name⟩) e.kind fun way => walkBelow depth way (dir.join ⟨e.name⟩) :
        Session _) w).1).flatten := by
  have hlook := Session.isReadingKind_onlyLooks
  have hchildren : (Platform.children dir : Session _) w = (.ok entries, w) :=
    Session.look_eq_iff.2 ⟨h, rfl⟩
  have hvisits := Session.OnlyLooks.mapM_fst (l := entries) (fun e _ =>
    hlook.visit way (dir.join ⟨e.name⟩) e.kind fun way =>
      onlyLooks_walkBelow depth way (dir.join ⟨e.name⟩)) w
  have hrun : (walkBelow (depth + 1) way dir : Session _) w = (_, _) :=
    Session.bind_eq_iff.2 ⟨_, w, hchildren, Session.bind_eq_iff.2 ⟨_, _, rfl, rfl⟩⟩
  rw [hrun, ← hvisits]
  rfl

theorem visit_file : (visit way p (.kind .file) walk w).1 = [.ok p] :=
  rfl

theorem visit_of_error {fault : FileFault} (h : w.tree.identity p = .error fault) :
    (visit way p (.kind .directory) walk w).1 = [.error (.unreadable p fault)] := by
  have hidentity : (Platform.identity p : Session _) w = (.error fault, w) :=
    Session.look_eq_iff.2 ⟨h, rfl⟩
  have hrun : visit way p (.kind .directory) walk w = ([.error (.unreadable p fault)], w) :=
    Session.bind_eq_iff.2 ⟨_, w, hidentity, rfl⟩
  rw [hrun]

theorem visit_of_ok {id : Text} (h : w.tree.identity p = .ok id) :
    (visit way p (.kind .directory) walk w).1 = (walk ((p, id) :: way) w).1 := by
  have hidentity : (Platform.identity p : Session _) w = (.ok id, w) :=
    Session.look_eq_iff.2 ⟨h, rfl⟩
  exact congrArg Prod.fst (Session.bind_eq_iff.2 ⟨_, w, hidentity, rfl⟩)

/-! ## Documents that a walk meets -/

/-- The paths of documents among what a walk meets. -/
def documentsOf (finds : List Find) : List Path :=
  finds.filterMap fun
    | .ok p => if p.extension? = some featureExtension then some p else none
    | .error _ => none

/-- The documents found from a root are those that were met. -/
theorem featuresOf_eq (root : Path) (finds : List Find) :
    featuresOf root finds = (documentsOf finds).filterMap (FeatureFile.ofPath? root) := by
  rw [featuresOf, documentsOf, List.filterMap_filterMap]
  apply List.filterMap_congr
  intro find _
  cases find with
  | error fault => rfl
  | ok p =>
    by_cases hp : p.extension? = some featureExtension
    · simp [hp]
    · simp [FeatureFile.ofPath?, hp]

theorem documentsOf_flatten (l : List (List Find)) :
    documentsOf l.flatten = l.flatMap documentsOf := by
  rw [documentsOf, List.filterMap_flatten, List.flatMap]
  rfl

theorem isDocumentName_of_extension? (hname : isName name = true)
    (h : (dir.join ⟨name⟩).extension? = some featureExtension) : IsDocumentName name := by
  have hfile : (dir.join ⟨name⟩).fileName? = some name := Path.fileName?_descend dir [] hname
  rw [Path.extension?, hfile, Option.bind_some] at h
  obtain ⟨hsplit, -, -⟩ := Path.splitName_eq_some_iff.1 (Prod.ext rfl h)
  exact ⟨_, hsplit.symm⟩

end Discovery

namespace FileTree

variable {t : FileTree} {key : Key} {p : Path} {name : Text}

/-- A directory in a directory, if its path is looked up at all. -/
theorem resolve_of_identity (hlinks : t.HasNoLinks) (hname : isName name = true)
    (hlead : t.LeadsTo p key) (hget : t.get? (key ++ [name]) = some .directory) {id : Text}
    (h : t.identity (p.join ⟨name⟩) = .ok id) :
    t.resolve .look (p.join ⟨name⟩) = .ok (.directory (key ++ [name])) := by
  rw [identity] at h
  cases hplace : t.resolve .look (p.join ⟨name⟩) with
  | error fault =>
    rw [hplace] at h
    cases h
  | ok place =>
    obtain ⟨-, rfl⟩ := (resolve_join_eq_ok_iff hname hlead (hlinks _)).1 hplace
    rw [placeOf, hget]

end FileTree

namespace Discovery

variable {w v : World} {t : FileTree} {way way' : Way} {depth : Nat} {dir p : Path} {key : Key}
  {name : Text} {walk : Way → Session (List Find)}

/-! ## New entries -/

/-- A new entry is no document, and holds none if a walk in it meets none. -/
theorem documentsOf_visit_of_new (h : t.Augments w.tree) (hlead : w.tree.LeadsTo dir key)
    (hname : isName name = true) (hnew : t.get? (key ++ [name]) = none) {node : Node}
    (hthere : w.tree.get? (key ++ [name]) = some node)
    (hwalk : (∀ inner, w.tree.resolve .look (dir.join ⟨name⟩) = .ok (.directory inner) →
      t.get? inner = none) → ∀ way, documentsOf (walk way w).1 = []) :
    documentsOf (visit way (dir.join ⟨name⟩) node.entryKind walk w).1 = [] := by
  cases node with
  | link target => exact absurd hthere (h.hasNoLinks _ target)
  | file content =>
    have hplain : (dir.join ⟨name⟩).extension? ≠ some featureExtension := by
      intro hext
      have hold := (h.document key name (isDocumentName_of_extension? hname hext) content).1 hthere
      rw [hnew] at hold
      cases hold
    rw [Node.entryKind, visit_file]
    simp [documentsOf, hplain]
  | directory =>
    rw [Node.entryKind]
    cases hidentity : w.tree.identity (dir.join ⟨name⟩) with
    | error fault =>
      rw [visit_of_error hidentity]
      rfl
    | ok id =>
      rw [visit_of_ok hidentity]
      apply hwalk
      intro inner hinner
      have hplace := FileTree.resolve_of_identity h.hasNoLinks hname hlead hthere hidentity
      cases hinner.symm.trans hplace
      exact hnew

/-- A directory that is new holds no document. -/
theorem documentsOf_walkBelow_of_new (h : t.Augments w.tree)
    (hnew : ∀ key, w.tree.resolve .look dir = .ok (.directory key) → t.get? key = none) :
    documentsOf ((walkBelow depth way dir : Session _) w).1 = [] := by
  induction depth generalizing way dir with
  | zero => rfl
  | succ depth ih =>
    cases hchildren : w.tree.children dir with
    | error fault =>
      rw [walkBelow_of_error hchildren]
      rfl
    | ok entries =>
      obtain ⟨key, hplace, rfl⟩ := FileTree.exists_resolve_of_children hchildren
      rw [walkBelow_of_ok hchildren, documentsOf_flatten, List.flatMap_map,
        List.flatMap_eq_nil_iff]
      intro e he
      obtain ⟨node, hnode, hkind⟩ := FileTree.exists_get?_of_mem_entries he
      rw [← hkind]
      exact documentsOf_visit_of_new h (FileTree.leadsTo_of_resolve h.hasNoLinks hplace)
        (FileTree.isName_of_mem_entries he)
        (FileTree.get?_append_of_none (hnew key hplace) e.name) hnode fun hinner way => ih hinner

/-! ## Entries that were there -/

/-- An entry that was there is looked at as before. -/
theorem documentsOf_visit_eq (h : w.tree.Augments v.tree) (hlead : w.tree.LeadsTo dir key)
    (hname : isName name = true) {node : Node} (hthere : w.tree.get? (key ++ [name]) = some node)
    (hwalk : ∀ inner, w.tree.resolve .look (dir.join ⟨name⟩) = .ok (.directory inner) →
      ∀ way way', documentsOf (walk way' v).1 = documentsOf (walk way w).1) :
    documentsOf (visit way' (dir.join ⟨name⟩) node.entryKind walk v).1 =
      documentsOf (visit way (dir.join ⟨name⟩) node.entryKind walk w).1 := by
  have hlinks := h.hasNoLinks_left
  cases node with
  | link target => exact absurd hthere (hlinks _ target)
  | file content => rfl
  | directory =>
    rw [Node.entryKind]
    cases hidentity : w.tree.identity (dir.join ⟨name⟩) with
    | ok id =>
      have hplace := FileTree.resolve_of_identity hlinks hname hlead hthere hidentity
      rw [visit_of_ok hidentity,
        visit_of_ok (FileTree.identity_of_directory (h.resolve_eq_directory hplace))]
      exact hwalk _ hplace _ _
    | error fault =>
      -- the path is not looked up, whatever stands there
      cases hidentity' : v.tree.identity (dir.join ⟨name⟩) with
      | error fault' =>
        rw [visit_of_error hidentity, visit_of_error hidentity']
        rfl
      | ok id =>
        have hplace := FileTree.resolve_of_identity h.hasNoLinks hname (h.leadsTo hlead)
          (h.directory hthere) hidentity'
        obtain ⟨husable, -⟩ :=
          (FileTree.resolve_join_eq_ok_iff hname (h.leadsTo hlead) (h.hasNoLinks _)).1 hplace
        have hplace' :
            w.tree.resolve .look (dir.join ⟨name⟩) = .ok (.directory (key ++ [name])) := by
          rw [FileTree.resolve_join_eq_ok_iff hname hlead (hlinks _), FileTree.placeOf, hthere]
          exact ⟨husable, rfl⟩
        rw [FileTree.identity_of_directory hplace'] at hidentity
        cases hidentity

/-- A directory that was there holds the documents that it held. -/
theorem documentsOf_walkBelow_eq (h : w.tree.Augments v.tree)
    (hplace : w.tree.resolve .look dir = .ok (.directory key)) :
    documentsOf ((walkBelow depth way' dir : Session _) v).1 =
      documentsOf ((walkBelow depth way dir : Session _) w).1 := by
  induction depth generalizing way way' dir key with
  | zero => rfl
  | succ depth ih =>
    have hlead := FileTree.leadsTo_of_resolve h.hasNoLinks_left hplace
    have hplace' := h.resolve_eq_directory hplace
    obtain ⟨more, hentries, hmore⟩ := h.exists_entries key
    rw [walkBelow_of_ok (FileTree.children_of_directory hplace),
      walkBelow_of_ok (FileTree.children_of_directory hplace'), hentries, documentsOf_flatten,
      documentsOf_flatten, List.flatMap_map, List.flatMap_map, List.flatMap_append]
    -- the entries that were there come first, then those that are new
    have hold : (w.tree.entries key).flatMap (fun e => documentsOf
        ((visit way' (dir.join ⟨e.name⟩) e.kind fun way =>
          walkBelow depth way (dir.join ⟨e.name⟩) : Session _) v).1) =
        (w.tree.entries key).flatMap fun e => documentsOf
        ((visit way (dir.join ⟨e.name⟩) e.kind fun way =>
          walkBelow depth way (dir.join ⟨e.name⟩) : Session _) w).1 := by
      apply List.flatMap_congr
      intro e he
      obtain ⟨node, hnode, hkind⟩ := FileTree.exists_get?_of_mem_entries he
      rw [← hkind]
      exact documentsOf_visit_eq h hlead (FileTree.isName_of_mem_entries he) hnode
        fun inner hinner way way' => ih hinner
    have hnew : more.flatMap (fun e => documentsOf
        ((visit way' (dir.join ⟨e.name⟩) e.kind fun way =>
          walkBelow depth way (dir.join ⟨e.name⟩) : Session _) v).1) = [] := by
      rw [List.flatMap_eq_nil_iff]
      intro e he
      obtain ⟨hnone, node, hnode, hkind⟩ := hmore e he
      have hname : isName e.name = true := by
        have hmem : e ∈ v.tree.entries key := by
          rw [hentries]
          exact List.mem_append_right _ he
        exact FileTree.isName_of_mem_entries hmem
      rw [← hkind]
      exact documentsOf_visit_of_new h (h.leadsTo hlead) hname hnone hnode fun hinner way =>
        documentsOf_walkBelow_of_new h hinner
    rw [hold, hnew, List.append_nil]

/-! ## Scans -/

/-- What the walk from a root comes to, when the root can be read. -/
theorem walkRoot_eq_ok_iff {root : Path} {finds : List Find} :
    ((walkRoot root : Operation Session _).run w).1 = .ok finds ↔
      (w.tree.kind root = .ok .file ∧ finds = [.ok root]) ∨
      (w.tree.kind root = .ok .other ∧ finds = []) ∨
      ∃ key, w.tree.resolve .look root = .ok (.directory key) ∧
        finds = ((walkBelow Path.maxBytes [(root, Text.joinWith '/' key)] root :
          Session _) w).1 := by
  have hask : ∀ {α : Type} (f : FileTree → Except FileFault α) {a : α}, f w.tree = .ok a →
      (Operation.ask (fun fault => .walk (.unreadable root fault)) (Session.look f) :
        Operation Session α).run w = (.ok a, w) :=
    fun _ _ h => run_ask_eq_ok_iff.2 (Session.look_eq_iff.2 ⟨h, rfl⟩)
  constructor
  · intro h
    obtain ⟨kind, w₁, hasked, hrun⟩ := run_bind_eq_ok_iff.1 (Prod.ext h rfl)
    obtain ⟨hroot, rfl⟩ := Session.look_eq_iff.1 (run_ask_eq_ok_iff.1 hasked)
    cases kind with
    | file => exact .inl ⟨hroot, (run_pure_eq_ok_iff.1 hrun).1.symm⟩
    | other => exact .inr (.inl ⟨hroot, (run_pure_eq_ok_iff.1 hrun).1.symm⟩)
    | directory =>
      obtain ⟨key, hplace⟩ := FileTree.exists_resolve_of_kind_directory hroot
      obtain ⟨id, w₂, hasked, hrun⟩ := run_bind_eq_ok_iff.1 hrun
      obtain ⟨hid, rfl⟩ := Session.look_eq_iff.1 (run_ask_eq_ok_iff.1 hasked)
      obtain ⟨entries, w₃, hasked, hrun⟩ := run_bind_eq_ok_iff.1 hrun
      obtain ⟨-, rfl⟩ := Session.look_eq_iff.1 (run_ask_eq_ok_iff.1 hasked)
      rw [FileTree.identity_of_directory hplace] at hid
      cases hid
      exact .inr (.inr ⟨key, hplace, (congrArg Prod.fst (run_lift_eq_ok_iff.1 hrun)).symm⟩)
  · rintro (⟨hroot, rfl⟩ | ⟨hroot, rfl⟩ | ⟨key, hplace, rfl⟩)
    · exact congrArg Prod.fst (Operation.run_bind_of_ok (hask (·.kind root) hroot))
    · exact congrArg Prod.fst (Operation.run_bind_of_ok (hask (·.kind root) hroot))
    · have hkind := hask (·.kind root) (FileTree.kind_of_directory hplace)
      have hidentity := hask (·.identity root) (FileTree.identity_of_directory hplace)
      have hchildren := hask (·.children root) (FileTree.children_of_directory hplace)
      have hrun : (walkRoot root : Operation Session _).run w = (.ok _, _) :=
        run_bind_eq_ok_iff.2 ⟨_, w, hkind, run_bind_eq_ok_iff.2 ⟨_, w, hidentity,
          run_bind_eq_ok_iff.2 ⟨_, w, hchildren, run_lift_eq_ok_iff.2 rfl⟩⟩⟩
      exact congrArg Prod.fst hrun

/-- A walk from a root that came to a result comes to one again, with the same documents. -/
theorem exists_walkRoot_again (h : w.tree.Augments v.tree) {root : Path} {finds : List Find}
    (hwalk : ((walkRoot root : Operation Session _).run w).1 = .ok finds) :
    ∃ finds', ((walkRoot root : Operation Session _).run v).1 = .ok finds' ∧
      documentsOf finds' = documentsOf finds := by
  rcases walkRoot_eq_ok_iff.1 hwalk with ⟨hroot, rfl⟩ | ⟨hroot, rfl⟩ | ⟨key, hplace, rfl⟩
  · have hroot' : v.tree.kind root = .ok .file := (h.kind_eq (by simp [hroot])).trans hroot
    exact ⟨_, walkRoot_eq_ok_iff.2 (.inl ⟨hroot', rfl⟩), rfl⟩
  · have hroot' : v.tree.kind root = .ok .other := (h.kind_eq (by simp [hroot])).trans hroot
    exact ⟨_, walkRoot_eq_ok_iff.2 (.inr (.inl ⟨hroot', rfl⟩)), rfl⟩
  · have hplace' := h.resolve_eq_directory hplace
    exact ⟨_, walkRoot_eq_ok_iff.2 (.inr (.inr ⟨key, hplace', rfl⟩)),
      documentsOf_walkBelow_eq h hplace⟩

/-- The roots are walked one after another, each in the files that are there at first. -/
theorem fst_walkRoots_cons {root : Path} {roots : List Path} {finds : List Find}
    (h : ((walkRoot root : Operation Session _).run w).1 = .ok finds) :
    ((walkRoots (root :: roots) : Operation Session _).run w).1 =
      ((walkRoots roots : Operation Session _).run w).1.map fun found =>
        (featuresOf root finds ++ found.1, (skipNotes root finds).length + found.2) := by
  have hlook := Session.isReadingKind_onlyLooks
  obtain ⟨w₁, hroot, htree₁, -⟩ := (hlook.walkRoot root).exists_run_of_fst h rfl
  obtain ⟨w₂, hsay⟩ := Operation.exists_run_sayAll (skipNotes root finds) w₁
  have htree₂ : w₂.tree = w.tree := ((hlook.run_sayAll _).exists_run hsay rfl).1.trans htree₁
  have hrest := (hlook.walkRoots roots).result w₂ w htree₂
  rw [walkRoots, Operation.run_bind_of_ok hroot, Operation.run_bind_of_ok hsay, ← hrest]
  rcases hrun : (walkRoots roots : Operation Session _).run w₂ with ⟨found, w₃⟩
  cases found with
  | error e => rw [Operation.run_bind_of_error hrun]; rfl
  | ok found => rw [Operation.run_bind_of_ok hrun]; rfl

theorem fst_walkRoots_of_error {root : Path} {roots : List Path} {e : Error}
    (h : ((walkRoot root : Operation Session _).run w).1 = .error e) :
    ((walkRoots (root :: roots) : Operation Session _).run w).1 = .error e :=
  congrArg Prod.fst (Operation.run_bind_of_error (Prod.ext h rfl))

theorem fst_walkRoots_cons_eq_ok_iff {root : Path} {roots : List Path}
    {found : List FeatureFile × Nat} :
    ((walkRoots (root :: roots) : Operation Session _).run w).1 = .ok found ↔
      ∃ finds later, ((walkRoot root : Operation Session _).run w).1 = .ok finds ∧
        ((walkRoots roots : Operation Session _).run w).1 = .ok later ∧
          found = (featuresOf root finds ++ later.1, (skipNotes root finds).length + later.2) := by
  cases hroot : ((walkRoot root : Operation Session _).run w).1 with
  | error e => simp [fst_walkRoots_of_error hroot]
  | ok finds =>
    rw [fst_walkRoots_cons hroot]
    cases ((walkRoots roots : Operation Session _).run w).1 with
    | error e => simp [Except.map]
    | ok later => simp [Except.map, eq_comm]

theorem exists_walkRoots_again (h : w.tree.Augments v.tree) {roots : List Path}
    {features : List FeatureFile} {skipped : Nat}
    (hwalk : ((walkRoots roots : Operation Session _).run w).1 = .ok (features, skipped)) :
    ∃ skipped', ((walkRoots roots : Operation Session _).run v).1 = .ok (features, skipped') := by
  induction roots generalizing features skipped with
  | nil =>
    cases hwalk
    exact ⟨0, rfl⟩
  | cons root roots ih =>
    obtain ⟨finds, ⟨later, count⟩, hroot, hrest, heq⟩ := fst_walkRoots_cons_eq_ok_iff.1 hwalk
    cases heq
    obtain ⟨finds', hroot', hsame⟩ := exists_walkRoot_again h hroot
    obtain ⟨count', hrest'⟩ := ih hrest
    have hfeatures : featuresOf root finds' = featuresOf root finds := by
      rw [featuresOf_eq, hsame, ← featuresOf_eq]
    refine ⟨(skipNotes root finds').length + count', ?_⟩
    rw [fst_walkRoots_cons_eq_ok_iff]
    exact ⟨finds', (later, count'), hroot', hrest', by rw [hfeatures]⟩

/-- A scan arranges the documents of the walks. -/
theorem fst_scan (roots : List Path) :
    ((scan roots : Operation Session Discovery).run w).1 =
      ((walkRoots roots : Operation Session _).run w).1.map fun found =>
        ⟨roots, arrange found.1, .ofNat found.2⟩ := by
  rw [scan]
  rcases hrun : (walkRoots roots : Operation Session _).run w with ⟨found, w₁⟩
  cases found with
  | error e => rw [Operation.run_bind_of_error hrun]; rfl
  | ok found => rw [Operation.run_bind_of_ok hrun]; rfl

/-- **Scanning again.** A scan that came to a result finds the same documents when there are more
files, none of them a document. -/
theorem exists_scan_again (h : w.tree.Augments v.tree) {roots : List Path} {d : Discovery}
    (hscan : ((scan roots : Operation Session Discovery).run w).1 = .ok d) :
    ∃ d', ((scan roots : Operation Session Discovery).run v).1 = .ok d' ∧
      d'.features = d.features := by
  obtain ⟨features, skipped, hwalk, rfl⟩ := run_scan_eq_ok_iff.1 (Prod.ext hscan rfl)
  obtain ⟨skipped', hwalk'⟩ := exists_walkRoots_again h (congrArg Prod.fst hwalk)
  refine ⟨⟨roots, arrange features, .ofNat skipped'⟩, ?_, rfl⟩
  rw [fst_scan, hwalk']
  rfl

/-! ## Documents that are there -/

/-- What a walk meets can be read, or is refused for another reason than that it is missing. -/
theorem readFile_of_mem_walkBelow (hlinks : w.tree.HasNoLinks) {q : Path}
    (hplace : w.tree.resolve .look dir = .ok (.directory key))
    (hq : .ok q ∈ ((walkBelow depth way dir : Session _) w).1) :
    w.tree.readFile q ≠ .error .missing := by
  induction depth generalizing way dir key with
  | zero => cases hq
  | succ depth ih =>
    have hlead := FileTree.leadsTo_of_resolve hlinks hplace
    rw [walkBelow_of_ok (FileTree.children_of_directory hplace)] at hq
    obtain ⟨finds, hfinds, hq⟩ := List.mem_flatten.1 hq
    obtain ⟨e, he, rfl⟩ := List.mem_map.1 hfinds
    have hname := FileTree.isName_of_mem_entries he
    obtain ⟨node, hnode, hkind⟩ := FileTree.exists_get?_of_mem_entries he
    rw [← hkind] at hq
    cases node with
    | link target => exact absurd hnode (hlinks _ target)
    | file content =>
      have hfound : FileTree.IsFound (w.tree.resolve .look (dir.join ⟨e.name⟩)) :=
        FileTree.isFound_resolve_join hname hlead hlinks (by simp [hnode])
      cases List.mem_singleton.1 hq
      exact (FileTree.readFile_ne_missing_iff hlinks _).2 hfound
    | directory =>
      rw [Node.entryKind] at hq
      cases hidentity : w.tree.identity (dir.join ⟨e.name⟩) with
      | error fault =>
        rw [visit_of_error hidentity] at hq
        simp at hq
      | ok id =>
        -- the entry was met one level further down
        rw [visit_of_ok hidentity] at hq
        exact ih (FileTree.resolve_of_identity hlinks hname hlead hnode hidentity) hq

theorem readFile_of_mem_walkRoot (hlinks : w.tree.HasNoLinks) {root q : Path} {finds : List Find}
    (hwalk : ((walkRoot root : Operation Session _).run w).1 = .ok finds) (hq : .ok q ∈ finds) :
    w.tree.readFile q ≠ .error .missing := by
  rcases walkRoot_eq_ok_iff.1 hwalk with ⟨hroot, rfl⟩ | ⟨hroot, rfl⟩ | ⟨key, hplace, rfl⟩
  · cases List.mem_singleton.1 hq
    rw [FileTree.readFile_ne_missing_iff hlinks, ← FileTree.kind_ne_missing_iff hlinks, hroot]
    simp
  · cases hq
  · exact readFile_of_mem_walkBelow hlinks hplace hq

theorem readFile_of_walkRoots (hlinks : w.tree.HasNoLinks) {roots : List Path}
    {found : List FeatureFile × Nat}
    (hwalk : ((walkRoots roots : Operation Session _).run w).1 = .ok found) :
    ∀ f ∈ found.1, f.path.extension? = some featureExtension ∧
      w.tree.readFile f.path ≠ .error .missing := by
  induction roots generalizing found with
  | nil =>
    cases hwalk
    exact fun f hf => (List.not_mem_nil hf).elim
  | cons root roots ih =>
    obtain ⟨finds, later, hroot, hrest, rfl⟩ := fst_walkRoots_cons_eq_ok_iff.1 hwalk
    intro f hf
    rcases List.mem_append.1 hf with hf | hf
    · obtain ⟨find, hfind, hf⟩ := List.mem_filterMap.1 hf
      cases find with
      | error fault => cases hf
      | ok q =>
        dsimp only at hf
        rw [FeatureFile.ofPath?] at hf
        split at hf
        · rename_i hext
          obtain ⟨stem, -, rfl⟩ := Option.map_eq_some_iff.1 hf
          exact ⟨hext, readFile_of_mem_walkRoot hlinks hroot hfind⟩
        · cases hf
    · exact ih hrest f hf

/-- The documents of a scan have the extension of documents, and are not missing. -/
theorem readFile_of_scan (hlinks : w.tree.HasNoLinks) {roots : List Path} {d : Discovery}
    (hscan : ((scan roots : Operation Session Discovery).run w).1 = .ok d) :
    ∀ f ∈ d.features, f.path.extension? = some featureExtension ∧
      w.tree.readFile f.path ≠ .error .missing := by
  obtain ⟨features, skipped, hwalk, rfl⟩ := run_scan_eq_ok_iff.1 (Prod.ext hscan rfl)
  exact fun f hf =>
    readFile_of_walkRoots hlinks (congrArg Prod.fst hwalk) f (arrange_subset _ hf)

end Discovery

end FeatureSheets
