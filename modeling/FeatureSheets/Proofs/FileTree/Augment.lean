import FeatureSheets.Discovery.Scan
import FeatureSheets.Proofs.FileTree.Reach

/-!
# Trees that get more

What comes of a tree without links when directories are made and files are written that are no
documents. Whatever stood in the tree stands there still, a file perhaps with another content
(`Augments`). So a path that led to something leads there still, and one that was refused for
another reason than that nothing was there is refused again (`Augments.resolve_eq`).
-/

namespace FeatureSheets

/-- Whether a name is one that a document may have. -/
def IsDocumentName (name : Text) : Prop :=
  '.' :: featureExtension <:+ name

namespace FileTree

/-! ## Shapes -/

/-- What stands where, without the contents, in the order in which it was made. -/
def shape (t : FileTree) : List (Key × EntryKind) :=
  t.nodes.map fun e => (e.1, e.2.entryKind)

/-- What a node is to the directory `dir`, if it lies there. -/
def entryOf? (dir : Key) (e : Key × EntryKind) : Option DirectoryEntry :=
  e.1.getLast?.bind fun name => if e.1.dropLast = dir then some ⟨name, e.2⟩ else none

variable {t t' : FileTree} {key dir : Key} {name : Text} {purpose : Purpose}

theorem map_entryKind_get? (t : FileTree) (h : key ≠ []) :
    (t.get? key).map Node.entryKind = (t.shape.find? fun e => e.1 == key).map Prod.snd := by
  rw [get?, if_neg h, lookupNode, shape, List.find?_map, Option.map_map, Option.map_map]
  rfl

theorem entries_eq (t : FileTree) (dir : Key) :
    t.entries dir = t.shape.filterMap (entryOf? dir) := by
  rw [entries, shape, List.filterMap_map]
  apply List.filterMap_congr
  intro e _
  rw [Function.comp_apply, entryOf?]
  cases e.1.getLast? with
  | none => rfl
  | some name => rfl

theorem exists_get?_of_mem_shape {kind : EntryKind} (h : (key, kind) ∈ t.shape) :
    ∃ node, t.get? key = some node ∧ node.entryKind = kind := by
  obtain ⟨e, he, heq⟩ := List.mem_map.1 h
  cases heq
  exact ⟨e.2, get?_of_mem he, rfl⟩

/-- What is listed under a name stands there. -/
theorem eq_of_entryOf? {e : DirectoryEntry} {listed : Key × EntryKind}
    (h : entryOf? dir listed = some e) : listed = (dir ++ [e.name], e.kind) := by
  obtain ⟨key, kind⟩ := listed
  obtain ⟨name, hlast, he⟩ := Option.bind_eq_some_iff.1 h
  split at he
  · rename_i hdir
    cases he
    obtain ⟨before, rfl⟩ := List.getLast?_eq_some_iff.1 hlast
    rw [List.dropLast_concat] at hdir
    exact hdir ▸ rfl
  · cases he

theorem exists_mem_shape_of_mem_entries {e : DirectoryEntry} {l : List (Key × EntryKind)}
    (h : e ∈ l.filterMap (entryOf? dir)) : (dir ++ [e.name], e.kind) ∈ l := by
  obtain ⟨listed, hmem, he⟩ := List.mem_filterMap.1 h
  exact eq_of_entryOf? he ▸ hmem

/-- A directory lists no name twice. -/
theorem pairwise_entries (t : FileTree) (dir : Key) :
    (t.entries dir).Pairwise fun e e' => e.name ≠ e'.name := by
  have hkeys : t.shape.Pairwise fun a b => a.1 ≠ b.1 := by
    rw [shape, List.pairwise_map]
    exact List.pairwise_map.1 t.nodup_keys
  rw [entries_eq, List.pairwise_filterMap]
  refine hkeys.imp fun hne e he e' he' hname => hne ?_
  rw [eq_of_entryOf? he, eq_of_entryOf? he', hname]

theorem shape_insert (t : FileTree) (dir : Key) (name : Text) (node : Node) :
    t.shape <+: (t.insert dir name node).shape := by
  by_cases hroom : t.hasRoom dir name = true
  · rw [insert, dif_pos hroom, shape, shape, List.map_append]
    exact List.prefix_append _ _
  · have hsame : t.insert dir name node = t := dif_neg hroom
    exact hsame.symm ▸ List.prefix_rfl

theorem shape_setContent (t : FileTree) (key : Key) (content : List UInt8) :
    (t.setContent key content).shape = t.shape := by
  rw [shape, shape, setContent, List.map_map]
  apply List.map_congr_left
  intro e _
  obtain ⟨key, node⟩ := e
  cases node <;> rfl

/-- What a directory lists stands in it. -/
theorem exists_get?_of_mem_entries {e : DirectoryEntry} (h : e ∈ t.entries dir) :
    ∃ node, t.get? (dir ++ [e.name]) = some node ∧ node.entryKind = e.kind :=
  exists_get?_of_mem_shape (exists_mem_shape_of_mem_entries (entries_eq t dir ▸ h))

/-! ## More directories and files -/

/-- Whether a tree without links is another one with more directories, more files, and other
contents of files, documents apart. -/
structure Augments (t t' : FileTree) : Prop where
  /-- There is no link. -/
  hasNoLinks : t'.HasNoLinks
  /-- Everything is still there. -/
  shape : t.shape <+: t'.shape
  /-- The documents are the same. -/
  document : ∀ dir name, IsDocumentName name → ∀ content,
    t'.get? (dir ++ [name]) = some (.file content) ↔ t.get? (dir ++ [name]) = some (.file content)

theorem Augments.refl (h : t.HasNoLinks) : t.Augments t :=
  ⟨h, List.prefix_rfl, fun _ _ _ _ => Iff.rfl⟩

theorem Augments.trans {t'' : FileTree} (h : t.Augments t') (h' : t'.Augments t'') :
    t.Augments t'' :=
  ⟨h'.hasNoLinks, h.shape.trans h'.shape, fun dir name hname content =>
    (h'.document dir name hname content).trans (h.document dir name hname content)⟩

namespace Augments

variable (h : t.Augments t')

include h

/-- Whatever stands at a place is of the same kind later. -/
theorem exists_get? {node : Node} (hget : t.get? key = some node) :
    ∃ node', t'.get? key = some node' ∧ node'.entryKind = node.entryKind := by
  by_cases hkey : key = []
  · cases hkey
    cases hget
    exact ⟨_, rfl, rfl⟩
  · have hfind := t.map_entryKind_get? hkey
    obtain ⟨more, hshape⟩ := h.shape
    rw [hget, Option.map_some, eq_comm, Option.map_eq_some_iff] at hfind
    obtain ⟨e, hfind, heq⟩ := hfind
    have hfind' := t'.map_entryKind_get? hkey
    rw [← hshape, List.find?_append, hfind, Option.some_or, Option.map_some, heq,
      Option.map_eq_some_iff] at hfind'
    exact hfind'

theorem directory (hget : t.get? key = some .directory) : t'.get? key = some .directory := by
  obtain ⟨node, hnode, hkind⟩ := h.exists_get? hget
  cases node <;> cases hkind
  exact hnode

theorem file {content : List UInt8} (hget : t.get? key = some (.file content)) :
    ∃ content', t'.get? key = some (.file content') := by
  obtain ⟨node, hnode, hkind⟩ := h.exists_get? hget
  cases node with
  | file content' => exact ⟨content', hnode⟩
  | directory => cases hkind
  | link target => cases hkind

theorem hasNoLinks_left : t.HasNoLinks := by
  intro key target hget
  obtain ⟨node, hnode, hkind⟩ := h.exists_get? hget
  cases node <;> cases hkind
  exact h.hasNoLinks key _ hnode

/-- A directory holds what it held, and then what is new. -/
theorem exists_entries (dir : Key) :
    ∃ more, t'.entries dir = t.entries dir ++ more ∧
      ∀ e ∈ more, t.get? (dir ++ [e.name]) = none ∧
        ∃ node, t'.get? (dir ++ [e.name]) = some node ∧ node.entryKind = e.kind := by
  obtain ⟨more, hshape⟩ := h.shape
  refine ⟨more.filterMap (entryOf? dir), ?_, fun e he => ?_⟩
  · rw [entries_eq, entries_eq, ← hshape, List.filterMap_append]
  · have hmem := exists_mem_shape_of_mem_entries he
    constructor
    · by_contra hsome
      obtain ⟨node, hnode⟩ := Option.ne_none_iff_exists'.1 hsome
      -- the place would be listed twice
      have hkey : dir ++ [e.name] ≠ [] := by simp
      rw [get?, if_neg hkey] at hnode
      have hold := mem_of_lookupNode hnode
      have hnodup := t'.nodup_keys
      have hkeys : t'.nodes.map Prod.fst = t.nodes.map Prod.fst ++ more.map Prod.fst := by
        have hfst := congrArg (List.map Prod.fst) hshape
        rw [List.map_append, FileTree.shape, FileTree.shape, List.map_map, List.map_map] at hfst
        exact hfst.symm
      rw [hkeys, List.nodup_append] at hnodup
      exact hnodup.2.2 _ (List.mem_map_of_mem hold) _ (List.mem_map_of_mem hmem) rfl
    · exact exists_get?_of_mem_shape (hshape ▸ List.mem_append_right _ hmem)

end Augments

/-! ## What makes a tree get more -/

theorem augments_of_makeDirectory (hlinks : t.HasNoLinks) {p : Path}
    (h : t.makeDirectory p = .ok t') : t.Augments t' := by
  have hgrows := grows_of_makeDirectory h
  refine ⟨hgrows.hasNoLinks_iff.2 hlinks, ?_, fun dir name _ => hgrows.file (dir ++ [name])⟩
  obtain ⟨parent, last, slash, -, rfl⟩ := makeDirectory_eq_ok_iff.1 h
  exact shape_insert t parent last .directory

theorem augments_of_writeFile (hlinks : t.HasNoLinks) {p : Path} (hname : isName name = true)
    (hdocument : ¬IsDocumentName name) {content : List UInt8}
    (h : t.writeFile (p.join ⟨name⟩) content = .ok t') : t.Augments t' := by
  refine ⟨(extends_of_writeFile h).hasNoLinks_iff.2 hlinks, ?_, fun dir other hother old => ?_⟩
  · rcases writeFile_eq_ok_iff.1 h with ⟨key, old, slash, -, rfl⟩ | ⟨parent, last, slash, -, rfl⟩
    · exact (shape_setContent t key content).symm ▸ List.prefix_rfl
    · exact shape_insert t parent last _
  · obtain ⟨key, hlead⟩ := exists_leadsTo_of_writeFile hname h
    have hlead := (hlead t (.refl t)).1
    rw [get?_of_writeFile hname hlead (hlinks.isLinkFree key name) h, if_neg]
    intro heq
    cases (List.append_inj_right' heq rfl)
    exact hdocument hother

/-! ## Where paths lead later -/

/-- Whether a path leads to something, or is refused for another reason than that nothing is
there. -/
def IsFound : Except FileFault Place → Prop
  | .ok (.vacant ..) => False
  | .ok _ => True
  | .error fault => fault ≠ .missing

/-- What a path leads to in another tree, when it leads to the same place. -/
def seenIn (t : FileTree) : Place → Place
  | .file key content slash =>
    match t.get? key with
    | some (.file seen) => .file key seen slash
    | _ => .file key content slash
  | place => place

theorem exists_seenIn_file (t : FileTree) (key : Key) (content : List UInt8) (slash : Bool) :
    ∃ seen, t.seenIn (.file key content slash) = .file key seen slash := by
  rw [seenIn]
  split
  · exact ⟨_, rfl⟩
  · exact ⟨content, rfl⟩

theorem seenIn_file {content seen : List UInt8} (slash : Bool)
    (h : t.get? key = some (.file seen)) :
    t.seenIn (.file key content slash) = .file key seen slash := by
  rw [seenIn, h]

/-- All that may be found where there is no link. -/
theorem isFound_cases (hlinks : t.HasNoLinks) {p : Path} (h : IsFound (t.resolve .look p)) :
    (∃ fault, fault ≠ .missing ∧ t.resolve .look p = .error fault) ∨
      (∃ key, t.resolve .look p = .ok (.directory key)) ∨
        ∃ key content slash, t.resolve .look p = .ok (.file key content slash) := by
  cases hplace : t.resolve .look p with
  | error fault =>
    rw [hplace] at h
    exact .inl ⟨fault, h, rfl⟩
  | ok place =>
    rw [hplace] at h
    cases place with
    | vacant dir name slash => exact absurd h id
    | directory key => exact .inr (.inl ⟨key, rfl⟩)
    | link key => exact absurd hplace (resolve_ne_link hlinks)
    | file key content slash => exact .inr (.inr ⟨key, content, slash, rfl⟩)

/-- What is asked of the place that a path leads to is answered, or refused for another reason than
that nothing is there, just where the path leads to something. -/
theorem bind_ne_missing_iff {α : Type} (hlinks : t.HasNoLinks) (p : Path)
    {ask : Place → Except FileFault α}
    (hvacant : ∀ dir name slash, ask (.vacant dir name slash) = .error .missing)
    (hdirectory : ∀ key, ask (.directory key) ≠ .error .missing)
    (hfile : ∀ key content slash, ask (.file key content slash) ≠ .error .missing) :
    (t.resolve .look p >>= ask) ≠ .error .missing ↔ IsFound (t.resolve .look p) := by
  cases hplace : t.resolve .look p with
  | error fault => exact not_congr ⟨Except.error.inj, congrArg _⟩
  | ok place =>
    cases place with
    | vacant dir name slash => exact iff_of_false (not_not.2 (hvacant dir name slash)) id
    | directory key => exact iff_of_true (hdirectory key) trivial
    | link key => exact absurd hplace (resolve_ne_link hlinks)
    | file key content slash => exact iff_of_true (hfile key content slash) trivial

theorem kind_ne_missing_iff (hlinks : t.HasNoLinks) (p : Path) :
    t.kind p ≠ .error .missing ↔ IsFound (t.resolve .look p) :=
  bind_ne_missing_iff hlinks p (fun _ _ _ => rfl) (fun _ => by simp)
    fun _ _ slash => by cases slash <;> simp

theorem readFile_ne_missing_iff (hlinks : t.HasNoLinks) (p : Path) :
    t.readFile p ≠ .error .missing ↔ IsFound (t.resolve .look p) :=
  bind_ne_missing_iff hlinks p (fun _ _ _ => rfl) (fun _ => by simp)
    fun _ _ slash => by cases slash <;> simp

namespace Augments

variable (h : t.Augments t')

include h

/-- Segments that are followed to something are followed there later. -/
theorem follow_eq {segments : List Text} {r : Except FileFault Place} (hr : IsFound r)
    (hfollow : t.follow purpose dir segments = r.map .ended) :
    t'.follow purpose dir segments = (r.map t'.seenIn).map .ended := by
  induction segments generalizing dir with
  | nil =>
    cases r with
    | error fault => cases hfollow
    | ok place =>
      cases hfollow
      rfl
  | cons s rest ih =>
    rcases follow_cases purpose s rest with hstay | hup | ⟨fault, hrefused⟩ | hname
    · rw [follow_of_stay hstay] at hfollow ⊢
      exact ih hfollow
    · rw [follow_of_up hup] at hfollow ⊢
      exact ih hfollow
    · rw [hrefused] at hfollow ⊢
      cases r <;> cases hfollow
      rfl
    rw [follow_of_isLookedUp hname] at hfollow ⊢
    cases hget : t.get? (dir ++ [s]) with
    | none =>
      -- nothing is there, which is not what is asked about
      rw [hget, followNode] at hfollow
      split at hfollow
      · cases r <;> cases hfollow
        exact absurd hr id
      · cases r <;> cases hfollow
        exact absurd rfl hr
    | some node =>
      cases node with
      | directory =>
        rw [hget] at hfollow
        rw [h.directory hget]
        exact ih hfollow
      | link target => exact absurd hget (h.hasNoLinks_left _ _)
      | file content =>
        obtain ⟨content', hget'⟩ := h.file hget
        rw [hget, followNode] at hfollow
        rw [hget', followNode]
        split at hfollow
        · rename_i hlast
          rw [if_pos hlast]
          cases r <;> cases hfollow
          rw [Except.map, seenIn_file _ hget']
          rfl
        · rename_i hlast
          rw [if_neg hlast]
          cases r <;> cases hfollow
          rfl

/-- A path that leads to something leads there later. -/
theorem resolve_eq {p : Path} (hfound : IsFound (t.resolve purpose p)) :
    t'.resolve purpose p = (t.resolve purpose p).map t'.seenIn := by
  by_cases htaken : p.IsTaken
  · rw [resolve_of_isTaken htaken] at hfound ⊢
    rw [resolve_of_isTaken htaken]
    have hfollow := map_ended_resolveFrom h.hasNoLinks_left purpose maxLinks [] p.segments
    have hfollow' := map_ended_resolveFrom h.hasNoLinks purpose maxLinks [] p.segments
    rw [h.follow_eq hfound hfollow.symm] at hfollow'
    exact map_ended_injective hfollow'
  · obtain ⟨fault, -, hrefused⟩ := resolve_of_not_isTaken htaken
    rw [hrefused, hrefused]
    rfl

/-- Components that lead to a directory, or are refused for another reason than that nothing is
there, do so later. -/
theorem reach_eq {cs : List Component} (hfound : t.reach dir cs ≠ .error .missing) :
    t'.reach dir cs = t.reach dir cs := by
  induction cs generalizing dir with
  | nil => rfl
  | cons c cs ih =>
    cases c with
    | root => exact ih hfound
    | here => exact ih hfound
    | parent => exact ih hfound
    | name s =>
      rw [reach] at hfound ⊢
      rw [reach]
      split
      · rfl
      · rename_i hlong
        rw [if_neg hlong] at hfound
        cases hget : t.get? (dir ++ [s]) with
        | none =>
          rw [hget] at hfound
          exact absurd rfl hfound
        | some node =>
          rw [hget] at hfound
          cases node with
          | directory =>
            rw [h.directory hget]
            exact ih hfound
          | link target => exact absurd hget (h.hasNoLinks_left _ _)
          | file content =>
            obtain ⟨content', hget'⟩ := h.file hget
            rw [hget']

theorem reach_eq_ok {cs : List Component} (hreach : t.reach dir cs = .ok key) :
    t'.reach dir cs = .ok key := by
  rw [h.reach_eq (by simp [hreach]), hreach]

theorem resolve_eq_directory {p : Path} (hplace : t.resolve purpose p = .ok (.directory key)) :
    t'.resolve purpose p = .ok (.directory key) := by
  have hfound : IsFound (t.resolve purpose p) := by
    rw [hplace]
    trivial
  rw [h.resolve_eq hfound, hplace]
  rfl

/-- A directory that names can be looked up in stays one. -/
theorem leadsTo {p : Path} (hlead : t.LeadsTo p key) : t'.LeadsTo p key := by
  rw [leadsTo_iff_reach h.hasNoLinks_left] at hlead
  exact (leadsTo_iff_reach h.hasNoLinks).2 (h.reach_eq_ok hlead)

theorem kind_eq {p : Path} (hkind : t.kind p ≠ .error .missing) : t'.kind p = t.kind p := by
  rw [kind, kind, h.resolve_eq ((kind_ne_missing_iff h.hasNoLinks_left p).1 hkind)]
  cases t.resolve .look p with
  | error fault => rfl
  | ok place =>
    cases place with
    | file key content slash =>
      obtain ⟨seen, hseen⟩ := t'.exists_seenIn_file key content slash
      rw [Except.map, hseen]
      rfl
    | _ => rfl

/-- A directory that is refused for another reason than that it has no place is refused later. -/
theorem makeDirectory_eq_error {p : Path} {fault : FileFault}
    (hrefused : t.makeDirectory p = .error fault) (hfault : fault ≠ .missing) :
    t'.makeDirectory p = .error fault := by
  rw [makeDirectory] at hrefused ⊢
  cases hplace : t.resolve .make p with
  | error other =>
    rw [hplace] at hrefused
    cases hrefused
    rw [h.resolve_eq (by rw [hplace]; exact hfault), hplace]
    rfl
  | ok place =>
    rw [hplace] at hrefused
    cases place with
    | vacant dir name slash => cases hrefused
    | file key content slash =>
      obtain ⟨seen, hseen⟩ := t'.exists_seenIn_file key content slash
      rw [h.resolve_eq (by rw [hplace]; trivial), hplace, Except.map, hseen]
      exact hrefused
    | _ =>
      rw [h.resolve_eq (by rw [hplace]; trivial), hplace]
      exact hrefused

end Augments

/-! ## Documents -/

/-- The file name of a path is its last segment that is not left out. -/
theorem exists_segments_of_fileName? {p : Path} (h : p.fileName? = some name) :
    ∃ before blanks, p.segments = before ++ name :: blanks ∧
      blanks.filterMap Component.ofSegment? = [] ∧
      Component.ofSegment? name = some (.name name) := by
  obtain ⟨⟨before, last⟩, hparts, rfl⟩ := Option.map_eq_some_iff.1 h
  have hcut := List.takeWhile_append_dropWhile (p := fun s => s == [] || s == ['.'])
    (l := p.segments.reverse)
  rw [Path.nameParts?] at hparts
  split at hparts
  · cases hparts
  · rename_i name rest hdrop
    split at hparts
    · cases hparts
    · rename_i hdots
      cases hparts
      have hhead := List.head?_dropWhile_not (fun s : Text => s == [] || s == ['.'])
        p.segments.reverse
      rw [hdrop, List.head?_cons] at hhead
      rw [hdrop] at hcut
      refine ⟨rest.reverse, (p.segments.reverse.takeWhile fun s => s == [] || s == ['.']).reverse,
        ?_, ?_, ?_⟩
      · have hrev := congrArg List.reverse hcut
        simpa using hrev.symm
      · rw [List.filterMap_eq_nil_iff]
        intro s hs
        have hs := List.mem_takeWhile_imp (List.mem_reverse.1 hs)
        exact if_pos (by simpa using hs)
      · rw [Component.ofSegment?, if_neg (by simpa using hhead), if_neg hdots]

/-- The file of a document has the name of one. -/
theorem exists_place_of_extension? {p : Path} (h : p.extension? = some featureExtension) :
    ∃ dir name, p.place = dir ++ [name] ∧ IsDocumentName name := by
  obtain ⟨name, hname, hsplit⟩ := Option.bind_eq_some_iff.1 h
  obtain ⟨before, blanks, hsegments, hblanks, hlast⟩ := exists_segments_of_fileName? hname
  obtain ⟨hspelled, -, -⟩ := Path.splitName_eq_some_iff.1 (Prod.ext rfl hsplit)
  have hplace : p.place =
      (before.filterMap Component.ofSegment?).foldl Component.enter [] ++ [name] := by
    rw [place_eq_foldl, hsegments, List.filterMap_append, List.filterMap_cons_some hlast, hblanks,
      List.foldl_append]
    rfl
  exact ⟨_, name, hplace, (Path.splitName name).1, hspelled.symm⟩

/-- A file that segments lead to stands at its place. -/
theorem get?_of_follow_file {segments : List Text} {content : List UInt8} {slash : Bool}
    (h : t.follow purpose dir segments = .ok (.ended (.file key content slash))) :
    t.get? key = some (.file content) := by
  induction segments generalizing dir with
  | nil => cases h
  | cons s rest ih =>
    rcases follow_cons_eq_ok_iff.1 h with ⟨next, -, hrest⟩ | hstop
    · exact ih hrest
    · cases hstop with
      | file hname hget hlast => exact hget

theorem get?_of_resolve_file (hlinks : t.HasNoLinks) {p : Path} {content : List UInt8}
    {slash : Bool} (h : t.resolve purpose p = .ok (.file key content slash)) :
    t.get? key = some (.file content) :=
  get?_of_follow_file (follow_of_resolve hlinks h)

/-- A document is read as before. -/
theorem Augments.readFile_eq (h : t.Augments t') {p : Path}
    (hp : p.extension? = some featureExtension) (hfound : t.readFile p ≠ .error .missing) :
    t'.readFile p = t.readFile p := by
  rw [readFile, readFile, h.resolve_eq ((readFile_ne_missing_iff h.hasNoLinks_left p).1 hfound)]
  cases hplace : t.resolve .look p with
  | error fault => rfl
  | ok place =>
    cases place with
    | file key content slash =>
      obtain ⟨dir, name, hkey, hname⟩ := exists_place_of_extension? hp
      have hplaced : key = dir ++ [name] := (key_of_resolve h.hasNoLinks_left hplace).trans hkey
      have hget := get?_of_resolve_file h.hasNoLinks_left hplace
      rw [hplaced, ← h.document dir name hname, ← hplaced] at hget
      rw [Except.map, seenIn_file slash hget]
    | _ => rfl

/-! ## Files that are written again -/

section

variable {p : Path} {content : List UInt8} (hname : isName name = true)
  (hlead : t.LeadsTo p key)

include hname hlead

/-- A name in a directory that is there is not missing on the way. -/
theorem resolve_join_ne_missing (hlinks : t.HasNoLinks) :
    t.resolve purpose (p.join ⟨name⟩) ≠ .error .missing := by
  have hne : name ≠ [] := (isName_iff.1 hname).1
  have hlast : t.follow purpose key [name] = _ := follow_name hname (hlinks _)
  have hrest := resolveFrom_append_singleton hne hlead hlast
  rw [resolve, if_neg (text_join_ne_nil p hname), Path.segments_join_of_isName p hname, hrest]
  split
  · simp
  split
  · simp
  split <;> simp

/-- What stands in a directory is found there. -/
theorem isFound_resolve_join (hlinks : t.HasNoLinks) (hget : t.get? (key ++ [name]) ≠ none) :
    IsFound (t.resolve purpose (p.join ⟨name⟩)) := by
  cases hplace : t.resolve purpose (p.join ⟨name⟩) with
  | error fault =>
    rintro rfl
    exact resolve_join_ne_missing hname hlead hlinks hplace
  | ok place =>
    obtain ⟨-, rfl⟩ := (resolve_join_eq_ok_iff hname hlead (hlinks _)).1 hplace
    rw [placeOf]
    split
    · rename_i hnone
      exact hget hnone
    · trivial
    · trivial
    · trivial

/-- A file that is refused in a directory that is there is refused later, with any content. -/
theorem Augments.writeFile_eq_error (h : t.Augments t') {fault : FileFault}
    (hrefused : t.writeFile (p.join ⟨name⟩) content = .error fault) (other : List UInt8) :
    t'.writeFile (p.join ⟨name⟩) other = .error fault := by
  have hlinks := h.hasNoLinks_left
  rw [writeFile] at hrefused ⊢
  cases hplace : t.resolve .write (p.join ⟨name⟩) with
  | error other =>
    have hfound : IsFound (t.resolve .write (p.join ⟨name⟩)) := by
      rw [hplace]
      rintro rfl
      exact resolve_join_ne_missing hname hlead hlinks hplace
    rw [hplace] at hrefused
    rw [h.resolve_eq hfound, hplace]
    exact hrefused
  | ok place =>
    rw [hplace] at hrefused
    cases place with
    | directory key =>
      rw [h.resolve_eq_directory hplace]
      exact hrefused
    | file key content slash => cases hrefused
    | vacant dir name slash => cases hrefused
    | link key => exact absurd hplace (resolve_ne_link hlinks)

/-- A file that was written can be written later, with any content, and nothing else changes. -/
theorem Augments.exists_writeFile {t'' : FileTree} (hlinks : t.HasNoLinks)
    (hwrite : t.writeFile (p.join ⟨name⟩) content = .ok t') (h : t'.Augments t'')
    (other : List UInt8) :
    ∃ made, t''.writeFile (p.join ⟨name⟩) other = .ok made ∧ ∀ place,
      made.get? place = if place = key ++ [name] then some (.file other) else t''.get? place := by
  have hthere := get?_of_writeFile hname hlead (hlinks _) hwrite (key ++ [name])
  rw [if_pos rfl] at hthere
  obtain ⟨old, hold⟩ := h.file hthere
  have hlead' := h.leadsTo ((extends_of_writeFile hwrite).leadsTo hlead)
  have husable := isUsable_of_writeFile hname hlead (hlinks _) hwrite
  have hplace : t''.resolve .write (p.join ⟨name⟩) = .ok (.file (key ++ [name]) old false) := by
    rw [resolve_join_eq_ok_iff hname hlead' (h.hasNoLinks _), placeOf, hold]
    exact ⟨husable, rfl⟩
  have hmade : t''.writeFile (p.join ⟨name⟩) other = .ok (t''.setContent (key ++ [name]) other) :=
    writeFile_eq_ok_iff.2 (.inl ⟨_, _, _, hplace, rfl⟩)
  exact ⟨_, hmade, get?_of_writeFile hname hlead' (h.hasNoLinks _) hmade⟩

end

end FileTree

end FeatureSheets
