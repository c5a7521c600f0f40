import FeatureSheets.Proofs.Discovery.Rescan
import Mathlib.Data.List.Induction
import Mathlib.Tactic.MkIffOfInductiveProp

/-!
# What a walk meets

In a tree without links a walk meets every regular file below its directory, each where names lead
down to it, as long as the directories on the way can be opened. A directory is opened by the path
that the walk spells for it, and refused where that path is too long (`IsOpenable`): it is passed
over once, and what is below it is not met. Nothing else is met (`meetsBelow_iff`), and nothing
twice (`tells_walkBelow`). In what order the nodes of a tree are listed makes no difference to where
paths lead (`resolve_eq_of_perm`), nor to what is met.
-/

namespace FeatureSheets

/-- Whether a file system takes the path of a directory that names lead down to. -/
structure Path.IsOpenable (p : Path) (dirs : List Text) : Prop where
  /-- The path is not too long. -/
  short : (p.descend dirs).isTooLong = false
  /-- Nor is a name in it. -/
  names : ∀ d ∈ dirs, d.byteCount ≤ FileTree.maxNameBytes

namespace Path

variable {p : Path} {name : Text} {dirs : List Text}

/-- A path gets longer with every name. -/
theorem byteCount_lt_join (p : Path) (h : isName name = true) :
    Text.byteCount p.text < Text.byteCount (p.join ⟨name⟩).text := by
  obtain ⟨hne, -, -, hslash, -⟩ := isName_iff.1 h
  rw [join, if_neg (by simp [isAbsolute_of_not_mem hne hslash])]
  split
  · show _ < Text.byteCount (p.text ++ name)
    have hpos := Text.byteCount_pos hne
    rw [Text.byteCount_append]
    omega
  · show _ < Text.byteCount (p.text ++ '/' :: name)
    have hpos := Text.byteCount_pos (List.cons_ne_nil '/' name)
    rw [Text.byteCount_append]
    omega

theorem byteCount_le_descend (p : Path) (h : ∀ n ∈ dirs, isName n = true) :
    Text.byteCount p.text ≤ Text.byteCount (p.descend dirs).text := by
  induction dirs generalizing p with
  | nil => exact Nat.le_refl _
  | cons n dirs ih =>
    rw [List.forall_mem_cons] at h
    exact Nat.le_trans (Nat.le_of_lt (p.byteCount_lt_join h.1)) (ih (p.join ⟨n⟩) h.2)

/-- A name brings no NUL into a path. -/
theorem nul_not_mem_join (hnul : '\x00' ∉ p.text) (h : isName name = true) :
    '\x00' ∉ (p.join ⟨name⟩).text := by
  obtain ⟨hne, -, -, hslash, hname⟩ := isName_iff.1 h
  rw [join, if_neg (by simp [isAbsolute_of_not_mem hne hslash])]
  split
  · exact fun hmem => (List.mem_append.1 hmem).elim hnul hname
  · intro hmem
    rcases List.mem_append.1 hmem with hmem | hmem
    · exact hnul hmem
    · exact hname ((List.mem_cons.1 hmem).resolve_left (by decide))

theorem isOpenable_nil_iff : p.IsOpenable [] ↔ p.isTooLong = false :=
  ⟨fun h => h.short, fun h => ⟨h, by simp⟩⟩

theorem isOpenable_cons_iff :
    p.IsOpenable (name :: dirs) ↔
      name.byteCount ≤ FileTree.maxNameBytes ∧ (p.join ⟨name⟩).IsOpenable dirs := by
  constructor
  · rintro ⟨hshort, hnames⟩
    rw [List.forall_mem_cons] at hnames
    exact ⟨hnames.1, hshort, hnames.2⟩
  · rintro ⟨hname, hshort, hnames⟩
    exact ⟨hshort, List.forall_mem_cons.2 ⟨hname, hnames⟩⟩

theorem isOpenable_singleton_iff :
    p.IsOpenable [name] ↔ name.byteCount ≤ FileTree.maxNameBytes ∧
      (p.join ⟨name⟩).isTooLong = false := by
  rw [isOpenable_cons_iff, isOpenable_nil_iff]

/-- Below a directory that can be opened, only the names that are left count. -/
theorem IsOpenable.append_iff (h : p.IsOpenable dirs) {more : List Text} :
    p.IsOpenable (dirs ++ more) ↔ (p.descend dirs).IsOpenable more := by
  have hdescend : p.descend (dirs ++ more) = (p.descend dirs).descend more := List.foldl_append
  constructor
  · rintro ⟨hshort, hnames⟩
    rw [List.forall_mem_append] at hnames
    exact ⟨hdescend ▸ hshort, hnames.2⟩
  · rintro ⟨hshort, hnames⟩
    exact ⟨hdescend ▸ hshort, List.forall_mem_append.2 ⟨h.names, hnames⟩⟩

/-- A path is no longer than those that go down from it. -/
theorem IsOpenable.isTooLong_eq_false (h : p.IsOpenable dirs)
    (hnames : ∀ d ∈ dirs, isName d = true) : p.isTooLong = false := by
  have hle := p.byteCount_le_descend hnames
  have hshort := h.short
  rw [isTooLong, decide_eq_false_iff_not] at hshort ⊢
  omega

end Path

/-- The path of what a walk meets. -/
def Discovery.pathOf : Find → Path
  | .ok q => q
  | .error (.unreadable q _) => q
  | .error (.loop q _) => q

namespace FileTree

open Discovery (Find pathOf)

variable {t : FileTree} {key : Key} {dir : Path} {name : Text} {find : Find}

/-! ## Files and directories below a directory -/

/-- What is under a name that is listed stands in the directory. -/
theorem mem_entries_of_get? {node : Node} (h : t.get? (key ++ [name]) = some node) :
    ⟨name, node.entryKind⟩ ∈ t.entries key := by
  rw [get?, if_neg (by simp)] at h
  refine List.mem_filterMap.2 ⟨_, mem_of_lookupNode h, ?_⟩
  simp

/-- What stands below a place has directories above it. -/
theorem get?_of_append {more : Key} {node : Node} (h : t.get? (key ++ more) = some node)
    (hmore : more ≠ []) : t.get? key = some .directory := by
  induction more using List.reverseRecOn generalizing node with
  | nil => exact absurd rfl hmore
  | append_singleton more name ih =>
    rw [← List.append_assoc] at h
    have hdir := get?_dropLast h
    rw [List.dropLast_concat] at hdir
    by_cases hnil : more = []
    · rwa [hnil, List.append_nil] at hdir
    · exact ih hdir hnil

/-- What stands below a place stands there under proper names. -/
theorem isName_of_get?_append {more : Key} {node : Node} (h : t.get? (key ++ more) = some node) :
    ∀ n ∈ more, isName n = true := by
  induction more using List.reverseRecOn generalizing node with
  | nil => exact fun n hn => absurd hn List.not_mem_nil
  | append_singleton more name ih =>
    rw [← List.append_assoc] at h
    have hdir := get?_dropLast h
    rw [List.dropLast_concat] at hdir
    rw [List.forall_mem_append, List.forall_mem_singleton]
    exact ⟨ih hdir, isName_of_mem_entries (mem_entries_of_get? h)⟩

/-- Whether `q` is the path of a regular file that names lead down to from a directory, through
directories that can be opened. -/
def HasFileBelow (t : FileTree) (key : Key) (dir q : Path) : Prop :=
  ∃ dirs name content, t.get? (key ++ (dirs ++ [name])) = some (.file content) ∧
    dir.IsOpenable dirs ∧ q = dir.descend (dirs ++ [name])

/-- Whether `q` is the path of a directory that names lead down to from a directory and that cannot
be opened, while the directories on the way can. -/
def HasRefusedBelow (t : FileTree) (key : Key) (dir q : Path) : Prop :=
  ∃ dirs name, t.get? (key ++ (dirs ++ [name])) = some .directory ∧
    dir.IsOpenable dirs ∧ ¬dir.IsOpenable (dirs ++ [name]) ∧ q = dir.descend (dirs ++ [name])

/-! ## What is met in a directory -/

/-- What a walk meets at an entry of a directory: a file, a directory that is refused, or what it
meets at an entry of the directory that it goes on in. -/
@[mk_iff]
inductive MeetsAt (t : FileTree) : Key → Path → Text → Find → Prop
  | file {key : Key} {dir : Path} {name : Text} {content : List UInt8}
    (hget : t.get? (key ++ [name]) = some (.file content)) :
    MeetsAt t key dir name (.ok (dir.join ⟨name⟩))
  | refused {key : Key} {dir : Path} {name : Text}
    (hget : t.get? (key ++ [name]) = some .directory) (hclosed : ¬dir.IsOpenable [name]) :
    MeetsAt t key dir name (.error (.unreadable (dir.join ⟨name⟩) .tooLong))
  | inside {key : Key} {dir : Path} {name inner : Text} {find : Find}
    (hget : t.get? (key ++ [name]) = some .directory) (hopen : dir.IsOpenable [name])
    (h : MeetsAt t (key ++ [name]) (dir.join ⟨name⟩) inner find) : MeetsAt t key dir name find

theorem MeetsAt.exists_get? (h : t.MeetsAt key dir name find) :
    ∃ node, t.get? (key ++ [name]) = some node := by
  cases h with
  | file hget => exact ⟨_, hget⟩
  | refused hget hclosed => exact ⟨_, hget⟩
  | inside hget hopen h => exact ⟨_, hget⟩

/-- What is met at an entry is met on a path that goes on with the name of the entry. -/
theorem MeetsAt.exists_descend (h : t.MeetsAt key dir name find) :
    ∃ names, (∀ n ∈ name :: names, isName n = true) ∧
      pathOf find = dir.descend (name :: names) := by
  induction h with
  | file hget => exact ⟨[], isName_of_get?_append hget, rfl⟩
  | refused hget hclosed => exact ⟨[], isName_of_get?_append hget, rfl⟩
  | inside hget hopen h ih =>
    obtain ⟨names, hnames, hpath⟩ := ih
    have hname := isName_of_get?_append hget _ (List.mem_singleton_self _)
    exact ⟨_ :: names, List.forall_mem_cons.2 ⟨hname, hnames⟩, hpath⟩

/-- What is met at one entry is met at no other. -/
theorem MeetsAt.name_eq {name' : Text} {find' : Find} (h : t.MeetsAt key dir name find)
    (h' : t.MeetsAt key dir name' find') (hpath : pathOf find = pathOf find') : name = name' := by
  obtain ⟨names, hnames, heq⟩ := h.exists_descend
  obtain ⟨names', hnames', heq'⟩ := h'.exists_descend
  rw [heq, heq'] at hpath
  exact (List.cons.inj (Path.eq_of_components_descend dir hnames hnames'
    (congrArg Path.components hpath))).1

/-- Whether a walk of a directory meets something at one of its entries. -/
def MeetsBelow (t : FileTree) (key : Key) (dir : Path) (find : Find) : Prop :=
  ∃ name, t.MeetsAt key dir name find

/-- What is met below directories that can be opened is met. -/
theorem MeetsAt.meetsBelow {dirs : List Text}
    (h : t.MeetsAt (key ++ dirs) (dir.descend dirs) name find) (hopen : dir.IsOpenable dirs) :
    t.MeetsBelow key dir find := by
  induction dirs generalizing key dir with
  | nil => exact ⟨name, List.append_nil key ▸ h⟩
  | cons d dirs ih =>
    obtain ⟨hfits, hrest⟩ := Path.isOpenable_cons_iff.1 hopen
    rw [List.append_cons] at h
    obtain ⟨node, hget⟩ := h.exists_get?
    rw [List.append_assoc] at hget
    have hnames := isName_of_get?_append hget
    rw [List.forall_mem_append] at hnames
    have hd := Path.isOpenable_singleton_iff.2 ⟨hfits, hrest.isTooLong_eq_false hnames.1⟩
    obtain ⟨inner, hinner⟩ := ih h hrest
    exact ⟨d, .inside (get?_of_append hget (by simp)) hd hinner⟩

/-- A walk of a directory meets the files below it, and the directories that are refused. -/
theorem meetsBelow_iff (hshort : dir.isTooLong = false) :
    t.MeetsBelow key dir find ↔
      (∃ q, find = .ok q ∧ t.HasFileBelow key dir q) ∨
        ∃ q, find = .error (.unreadable q .tooLong) ∧ t.HasRefusedBelow key dir q := by
  constructor
  · rintro ⟨name, h⟩
    induction h with
    | file hget => exact .inl ⟨_, rfl, [], _, _, hget, Path.isOpenable_nil_iff.2 hshort, rfl⟩
    | refused hget hclosed =>
      exact .inr ⟨_, rfl, [], _, hget, Path.isOpenable_nil_iff.2 hshort, hclosed, rfl⟩
    | @inside key dir name inner find hget hopen h ih =>
      obtain ⟨hname, hjoin⟩ := Path.isOpenable_singleton_iff.1 hopen
      rcases ih hjoin with ⟨q, rfl, dirs, last, content, hfile, hdirs, rfl⟩ |
        ⟨q, rfl, dirs, last, hdir, hdirs, hclosed, rfl⟩
      · rw [← List.append_cons] at hfile
        exact .inl ⟨_, rfl, name :: dirs, last, content, hfile,
          Path.isOpenable_cons_iff.2 ⟨hname, hdirs⟩, rfl⟩
      · rw [← List.append_cons] at hdir
        refine .inr ⟨_, rfl, name :: dirs, last, hdir, Path.isOpenable_cons_iff.2 ⟨hname, hdirs⟩,
          fun hall => hclosed ?_, rfl⟩
        exact (Path.isOpenable_cons_iff.1 hall).2
  · rintro (⟨q, rfl, dirs, name, content, hget, hopen, rfl⟩ |
      ⟨q, rfl, dirs, name, hget, hopen, hclosed, rfl⟩) <;>
      rw [← List.append_assoc] at hget <;> rw [Path.descend_append_singleton]
    · exact (MeetsAt.file hget).meetsBelow hopen
    · rw [hopen.append_iff] at hclosed
      exact (MeetsAt.refused hget hclosed).meetsBelow hopen

end FileTree

namespace Discovery

variable {w : World} {way : Way} {depth : Nat} {dir : Path} {key : Key} {name : Text}
  {walk : Way → Session (List Find)} {finds : List Find} {find : Find}

/-! ## Walks -/

/-- Whether a walk meets what there is to be met, no path of it twice. -/
structure Tells (met : Find → Prop) (finds : List Find) : Prop where
  /-- All of it is met, and nothing else. -/
  mem_iff : ∀ find, find ∈ finds ↔ met find
  /-- No path is met twice. -/
  nodup : (finds.map pathOf).Nodup

/-- A walk that tells what is met at each entry of a directory tells what is met below it. -/
theorem tells_flatMap {t : FileTree} {visited : DirectoryEntry → List Find}
    (h : ∀ e ∈ t.entries key, Tells (t.MeetsAt key dir e.name) (visited e)) :
    Tells (t.MeetsBelow key dir) ((t.entries key).flatMap visited) := by
  constructor
  · intro find
    rw [List.mem_flatMap]
    constructor
    · rintro ⟨e, he, hfind⟩
      exact ⟨e.name, ((h e he).mem_iff find).1 hfind⟩
    · rintro ⟨name, hmeets⟩
      obtain ⟨node, hget⟩ := hmeets.exists_get?
      have he := FileTree.mem_entries_of_get? hget
      exact ⟨_, he, ((h _ he).mem_iff find).2 hmeets⟩
  · rw [List.map_flatMap, List.nodup_flatMap]
    refine ⟨fun e he => (h e he).nodup, (t.pairwise_entries key).imp_of_mem ?_⟩
    intro e e' he he' hne q hq hq'
    obtain ⟨find, hfind, rfl⟩ := List.mem_map.1 hq
    obtain ⟨find', hfind', hpath⟩ := List.mem_map.1 hq'
    have hmeets := ((h e he).mem_iff find).1 hfind
    have hmeets' := ((h e' he').mem_iff find').1 hfind'
    exact hne (hmeets.name_eq hmeets' hpath.symm)

/-- A directory in a directory is walked if its path can be looked up, and is refused if not. -/
theorem visit_directory_cases (hlinks : w.tree.HasNoLinks)
    (hplace : w.tree.resolve .look dir = .ok (.directory key)) (hname : isName name = true)
    (hget : w.tree.get? (key ++ [name]) = some .directory) :
    (dir.IsOpenable [name] ∧
      w.tree.resolve .look (dir.join ⟨name⟩) = .ok (.directory (key ++ [name])) ∧
      ∃ way', (visit way (dir.join ⟨name⟩) (.kind .directory) walk w).1 = (walk way' w).1) ∨
    (¬dir.IsOpenable [name] ∧
      (visit way (dir.join ⟨name⟩) (.kind .directory) walk w).1 =
        [.error (.unreadable (dir.join ⟨name⟩) .tooLong)]) := by
  have hlead := FileTree.leadsTo_of_resolve hlinks hplace
  have hnul := Path.nul_not_mem_join (FileTree.isTaken_of_resolve hplace).nul hname
  have hjoin : w.tree.resolve .look (dir.join ⟨name⟩) = _ :=
    FileTree.resolve_join_eq hname hlead (hlinks _) hnul
  rw [FileTree.placeOf, hget] at hjoin
  by_cases hopen : dir.IsOpenable [name]
  · left
    obtain ⟨hfits, hshort⟩ := Path.isOpenable_singleton_iff.1 hopen
    rw [if_neg (by simp [hshort, hfits])] at hjoin
    exact ⟨hopen, hjoin, _, visit_of_ok (FileTree.identity_of_directory hjoin)⟩
  · right
    have hlong := mt Path.isOpenable_singleton_iff.2 hopen
    rw [not_and_or, Nat.not_le, Bool.not_eq_false, or_comm] at hlong
    rw [if_pos hlong] at hjoin
    have hidentity : w.tree.identity (dir.join ⟨name⟩) = .error .tooLong := by
      rw [FileTree.identity, hjoin]
      rfl
    exact ⟨hopen, visit_of_error hidentity⟩

/-- A walk that tells what is met below an entry tells what is met at the entry. -/
theorem tells_visit (hlinks : w.tree.HasNoLinks)
    (hplace : w.tree.resolve .look dir = .ok (.directory key)) {node : Node}
    (hget : w.tree.get? (key ++ [name]) = some node)
    (hbelow : w.tree.resolve .look (dir.join ⟨name⟩) = .ok (.directory (key ++ [name])) →
      ∀ way, Tells (w.tree.MeetsBelow (key ++ [name]) (dir.join ⟨name⟩)) (walk way w).1) :
    Tells (w.tree.MeetsAt key dir name)
      (visit way (dir.join ⟨name⟩) node.entryKind walk w).1 := by
  have hname := FileTree.isName_of_get?_append hget _ (List.mem_singleton_self _)
  cases node with
  | link target => exact absurd hget (hlinks _ target)
  | file content =>
    rw [Node.entryKind, visit_file]
    refine ⟨fun find => ?_, List.nodup_singleton _⟩
    rw [FileTree.meetsAt_iff]
    simp [hget]
  | directory =>
    rw [Node.entryKind]
    rcases visit_directory_cases hlinks hplace hname hget with
      ⟨hopen, hjoin, way', hwalk⟩ | ⟨hclosed, hfault⟩
    · rw [hwalk]
      refine ⟨fun find => ?_, (hbelow hjoin way').nodup⟩
      rw [(hbelow hjoin way').mem_iff, FileTree.meetsAt_iff]
      simp [hget, hopen, FileTree.MeetsBelow]
    · rw [hfault]
      refine ⟨fun find => ?_, List.nodup_singleton _⟩
      rw [FileTree.meetsAt_iff]
      simp [hget, hclosed]

/-- A walk that goes down far enough tells what is met below its directory. -/
theorem tells_walkBelow (hlinks : w.tree.HasNoLinks)
    (hplace : w.tree.resolve .look dir = .ok (.directory key))
    (hdepth : Path.maxBytes < depth + Text.byteCount dir.text) :
    Tells (w.tree.MeetsBelow key dir) ((walkBelow depth way dir : Session _) w).1 := by
  induction depth generalizing way dir key with
  | zero =>
    have hshort := (FileTree.isTaken_of_resolve hplace).short
    rw [Path.isTooLong, decide_eq_false_iff_not] at hshort
    omega
  | succ depth ih =>
    rw [walkBelow_of_ok (FileTree.children_of_directory hplace), ← List.flatMap_def]
    apply tells_flatMap
    intro e he
    obtain ⟨node, hget, hkind⟩ := FileTree.exists_get?_of_mem_entries he
    rw [← hkind]
    apply tells_visit hlinks hplace hget
    intro hjoin way'
    -- every name makes the path longer, so the levels that are left are enough below it
    have hlonger := dir.byteCount_lt_join (FileTree.isName_of_mem_entries he)
    exact ih hjoin (by omega)

/-- The paths of what a walk passes over. -/
def passedOver (finds : List Find) : List Path :=
  (finds.filter fun find => !find.isOk).map pathOf

theorem mem_passedOver_iff {q : Path} :
    q ∈ passedOver finds ↔ ∃ fault, .error fault ∈ finds ∧ pathOf (.error fault) = q := by
  rw [passedOver, List.mem_map]
  constructor
  · rintro ⟨find, hfind, rfl⟩
    obtain ⟨hmem, herror⟩ := List.mem_filter.1 hfind
    cases find with
    | ok q => cases herror
    | error fault => exact ⟨fault, hmem, rfl⟩
  · rintro ⟨fault, hmem, rfl⟩
    exact ⟨_, List.mem_filter.2 ⟨hmem, rfl⟩, rfl⟩

theorem Tells.nodup_passedOver {met : Find → Prop} (h : Tells met finds) :
    (passedOver finds).Nodup :=
  h.nodup.sublist (List.filter_sublist.map _)

end Discovery

/-! ## Roots -/

namespace FileTree

open Discovery (Find)

variable {t : FileTree} {root : Path} {find : Find}

/-- Whether `q` is the path of a regular file that a root is, or that is below it. -/
def HasFileAt (t : FileTree) (root q : Path) : Prop :=
  (t.kind root = .ok .file ∧ q = root) ∨
    ∃ key, t.resolve .look root = .ok (.directory key) ∧ t.HasFileBelow key root q

/-- Whether `q` is the path of a directory below a root that cannot be opened, while the directories
on the way can. -/
def HasRefusedAt (t : FileTree) (root q : Path) : Prop :=
  ∃ key, t.resolve .look root = .ok (.directory key) ∧ t.HasRefusedBelow key root q

/-- Whether a walk from a root meets something: the root, if it is a file, or something below it. -/
def MeetsFrom (t : FileTree) (root : Path) (find : Find) : Prop :=
  (t.kind root = .ok .file ∧ find = .ok root) ∨
    ∃ key, t.resolve .look root = .ok (.directory key) ∧ t.MeetsBelow key root find

/-- A walk from a root meets the files at the root, and the directories that are refused. -/
theorem meetsFrom_iff :
    t.MeetsFrom root find ↔ (∃ q, find = .ok q ∧ t.HasFileAt root q) ∨
      ∃ q, find = .error (.unreadable q .tooLong) ∧ t.HasRefusedAt root q := by
  constructor
  · rintro (⟨hkind, rfl⟩ | ⟨key, hplace, hbelow⟩)
    · exact .inl ⟨root, rfl, .inl ⟨hkind, rfl⟩⟩
    · rcases (meetsBelow_iff (isTaken_of_resolve hplace).short).1 hbelow with
        ⟨q, rfl, hfile⟩ | ⟨q, rfl, hrefused⟩
      · exact .inl ⟨q, rfl, .inr ⟨key, hplace, hfile⟩⟩
      · exact .inr ⟨q, rfl, key, hplace, hrefused⟩
  · rintro (⟨q, rfl, ⟨hkind, rfl⟩ | ⟨key, hplace, hfile⟩⟩ | ⟨q, rfl, key, hplace, hrefused⟩)
    · exact .inl ⟨hkind, rfl⟩
    · have hshort := (isTaken_of_resolve hplace).short
      exact .inr ⟨key, hplace, (meetsBelow_iff hshort).2 (.inl ⟨q, rfl, hfile⟩)⟩
    · have hshort := (isTaken_of_resolve hplace).short
      exact .inr ⟨key, hplace, (meetsBelow_iff hshort).2 (.inr ⟨q, rfl, hrefused⟩)⟩

end FileTree

namespace Discovery

variable {w : World} {t : FileTree} {root q : Path} {finds : List Find}

/-- The files that a walk from a root meets are those at the root. -/
theorem Tells.ok_mem_iff (h : Tells (t.MeetsFrom root) finds) :
    .ok q ∈ finds ↔ t.HasFileAt root q := by
  rw [h.mem_iff, FileTree.meetsFrom_iff]
  simp

/-- What a walk from a root passes over are the directories that are refused. -/
theorem Tells.mem_passedOver_iff (h : Tells (t.MeetsFrom root) finds) :
    q ∈ passedOver finds ↔ t.HasRefusedAt root q := by
  simp only [Discovery.mem_passedOver_iff, h.mem_iff, FileTree.meetsFrom_iff]
  constructor
  · rintro ⟨fault, ⟨q, heq, -⟩ | ⟨q, heq, hrefused⟩, rfl⟩
    · cases heq
    · cases heq
      exact hrefused
  · intro hrefused
    exact ⟨_, .inr ⟨q, rfl, hrefused⟩, rfl⟩

/-- A root that is there is walked, and the walk tells what is met from it. -/
theorem exists_walkRoot (hlinks : w.tree.HasNoLinks) {kind : FileKind}
    (hkind : w.tree.kind root = .ok kind) :
    ∃ finds, ((walkRoot root : Operation Session _).run w).1 = .ok finds ∧
      Tells (w.tree.MeetsFrom root) finds := by
  cases kind with
  | other => exact absurd hkind (w.tree.kind_ne_other root)
  | file =>
    have hnot : ∀ key, w.tree.resolve .look root ≠ .ok (.directory key) := by
      intro key hplace
      rw [FileTree.kind_of_directory hplace] at hkind
      cases hkind
    refine ⟨_, walkRoot_eq_ok_iff.2 (.inl ⟨hkind, rfl⟩), fun find => ?_, List.nodup_singleton _⟩
    simp [FileTree.MeetsFrom, hkind, hnot]
  | directory =>
    obtain ⟨key, hplace⟩ := FileTree.exists_resolve_of_kind_directory hkind
    have hpos := Text.byteCount_pos (FileTree.isTaken_of_resolve hplace).ne_nil
    have htells : Tells (w.tree.MeetsBelow key root)
        ((walkBelow Path.maxBytes [(root, Text.joinWith '/' key)] root : Session _) w).1 :=
      tells_walkBelow hlinks hplace (by omega)
    refine ⟨_, walkRoot_eq_ok_iff.2 (.inr (.inr ⟨key, hplace, rfl⟩)), fun find => ?_, htells.nodup⟩
    rw [htells.mem_iff]
    simp [FileTree.MeetsFrom, hkind, hplace]

/-- A root that is not there ends the scan. -/
theorem walkRoot_of_error {fault : FileFault} (h : w.tree.kind root = .error fault) :
    ((walkRoot root : Operation Session _).run w).1 = .error (.walk (.unreadable root fault)) := by
  have hask : (Operation.ask (fun fault => .walk (.unreadable root fault)) (Platform.kind root) :
      Operation Session FileKind).run w = (.error (.walk (.unreadable root fault)), w) :=
    Operation.run_ask_eq_iff.2 ⟨_, Session.look_eq_iff.2 ⟨h, rfl⟩, rfl⟩
  exact congrArg Prod.fst (Operation.run_bind_of_error hask)

end Discovery

/-! ## Nodes in another order -/

namespace FileTree

variable {t t' : FileTree}

theorem get?_eq_of_perm (h : t.nodes.Perm t'.nodes) (key : Key) : t.get? key = t'.get? key := by
  by_cases hkey : key = []
  · rw [hkey]
    rfl
  have hmem : ∀ {t : FileTree} {node : Node}, t.get? key = some node ↔ (key, node) ∈ t.nodes := by
    intro t node
    refine ⟨fun hget => ?_, get?_of_mem⟩
    rw [get?, if_neg hkey] at hget
    exact mem_of_lookupNode hget
  ext node
  rw [hmem, hmem, h.mem_iff]

theorem resolve_eq_of_perm (h : t.nodes.Perm t'.nodes) (purpose : Purpose) (p : Path) :
    t.resolve purpose p = t'.resolve purpose p := by
  have hfollow : ∀ (segments : List Text) (dir : Key),
      t.follow purpose dir segments = t'.follow purpose dir segments := by
    intro segments
    induction segments with
    | nil => exact fun dir => rfl
    | cons s rest ih =>
      intro dir
      rw [follow, follow, get?_eq_of_perm h, ih, ih, ih]
  have hfrom : ∀ (links : Nat) (dir : Key) (segments : List Text),
      t.resolveFrom purpose links dir segments = t'.resolveFrom purpose links dir segments := by
    intro links
    induction links using Nat.strongRecOn with
    | ind links ih =>
      intro dir segments
      rw [resolveFrom.eq_def, resolveFrom.eq_def t']
      simp only [hfollow]
      cases t'.follow purpose dir segments with
      | error fault => rfl
      | ok stretch =>
        cases stretch with
        | ended place => rfl
        | linked dir' segments' =>
          cases links with
          | zero => rfl
          | succ links => exact ih links (Nat.lt_succ_self _) dir' segments'
  rw [resolve, resolve, hfrom]

theorem kind_eq_of_perm (h : t.nodes.Perm t'.nodes) (p : Path) : t.kind p = t'.kind p := by
  rw [kind, kind, resolve_eq_of_perm h]

/-- Only where paths lead and what stands where decides about what is at a root. -/
theorem hasFileAt_iff_of_perm (h : t.nodes.Perm t'.nodes) {root q : Path} :
    t.HasFileAt root q ↔ t'.HasFileAt root q := by
  simp only [HasFileAt, HasFileBelow, kind_eq_of_perm h, resolve_eq_of_perm h, get?_eq_of_perm h]

theorem hasRefusedAt_iff_of_perm (h : t.nodes.Perm t'.nodes) {root q : Path} :
    t.HasRefusedAt root q ↔ t'.HasRefusedAt root q := by
  simp only [HasRefusedAt, HasRefusedBelow, resolve_eq_of_perm h, get?_eq_of_perm h]

end FileTree

end FeatureSheets
