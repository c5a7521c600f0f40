import FeatureSheets.Platform

/-!
# File trees

Directories, files and links below one top directory. A tree lists its nodes by their keys, the
names on the way from the top; the top itself is not listed. A tree is well formed by
construction: no key is listed twice, and every node lies in a directory of the tree under a
proper name. Two operations change a tree: `insert` adds a node where none is, and `setContent`
gives a file another content; both leave every other node as it was (`get?_insert`,
`get?_setContent`).
-/

namespace FeatureSheets

/-- The names on the way from the top to a node. -/
abbrev Key := List Text

/-- What stands at one place of a tree. -/
inductive Node where
  /-- A directory. -/
  | directory
  /-- A file. -/
  | file (content : List UInt8)
  /-- A link to another place. -/
  | link (target : Path)
  deriving DecidableEq, Repr

/-- What a directory says about a node. -/
def Node.entryKind : Node → EntryKind
  | .directory => .kind .directory
  | .file _ => .kind .file
  | .link _ => .link

/-- Whether a text may name a node: neither empty nor dots, without a slash or a NUL. -/
def isName (s : Text) : Bool :=
  s != [] && s != ['.'] && s != ['.', '.'] && !s.contains '/' && !s.contains '\x00'

/-- Whether a key leads from a directory of `nodes`, or from the top, to a proper name. -/
def IsPlaced (nodes : List (Key × Node)) (key : Key) : Prop :=
  ∃ dir name, key = dir ++ [name] ∧ isName name = true ∧
    (dir = [] ∨ (dir, Node.directory) ∈ nodes)

theorem IsPlaced.mono {nodes nodes' : List (Key × Node)} {key : Key} (h : IsPlaced nodes key)
    (hsub : ∀ dir, (dir, Node.directory) ∈ nodes → (dir, Node.directory) ∈ nodes') :
    IsPlaced nodes' key := by
  obtain ⟨dir, name, rfl, hn, hd⟩ := h
  exact ⟨dir, name, rfl, hn, hd.imp_right (hsub dir)⟩

/-- A tree of directories, files and links. -/
structure FileTree where
  /-- The nodes below the top, in the order in which they were made. -/
  nodes : List (Key × Node)
  /-- No place is listed twice. -/
  nodup_keys : (nodes.map Prod.fst).Nodup
  /-- Every node lies in a directory. -/
  placed : ∀ e ∈ nodes, IsPlaced nodes e.1

/-- The node listed for a key. -/
def lookupNode (nodes : List (Key × Node)) (key : Key) : Option Node :=
  (nodes.find? fun e => e.1 == key).map Prod.snd

theorem lookupNode_eq_none_iff {nodes : List (Key × Node)} {key : Key} :
    lookupNode nodes key = none ↔ key ∉ nodes.map Prod.fst := by
  simp only [lookupNode, Option.map_eq_none_iff, List.find?_eq_none, beq_iff_eq, List.mem_map,
    not_exists, not_and]

theorem mem_of_lookupNode {nodes : List (Key × Node)} {key : Key} {node : Node}
    (h : lookupNode nodes key = some node) : (key, node) ∈ nodes := by
  obtain ⟨e, he, rfl⟩ := Option.map_eq_some_iff.1 h
  have hk : e.1 = key := by simpa using List.find?_some he
  exact hk ▸ List.mem_of_find?_eq_some he

namespace FileTree

/-- The tree with nothing below its top. -/
def empty : FileTree :=
  ⟨[], List.nodup_nil, fun _ h => nomatch h⟩

instance : Inhabited FileTree := ⟨empty⟩

/-- What stands at a place; the top is a directory. -/
def get? (t : FileTree) (key : Key) : Option Node :=
  if key = [] then some .directory else lookupNode t.nodes key

/-- Whether a node may be added to a directory under a name. -/
def hasRoom (t : FileTree) (dir : Key) (name : Text) : Bool :=
  t.get? dir == some .directory && isName name && (t.get? (dir ++ [name])).isNone

theorem directory_mem {t : FileTree} {dir : Key} (h : t.get? dir = some .directory) :
    dir = [] ∨ (dir, Node.directory) ∈ t.nodes := by
  by_cases hd : dir = []
  · exact .inl hd
  · exact .inr (mem_of_lookupNode (by simpa [get?, hd] using h))

/-- Adds a node to a directory; nothing changes where there is no room for it. -/
def insert (t : FileTree) (dir : Key) (name : Text) (node : Node) : FileTree :=
  if h : t.hasRoom dir name then
    { nodes := t.nodes ++ [(dir ++ [name], node)]
      nodup_keys := by
        simp only [hasRoom, Bool.and_eq_true, Option.isNone_iff_eq_none] at h
        have hnone : lookupNode t.nodes (dir ++ [name]) = none := by simpa [get?] using h.2
        rw [List.map_append, List.nodup_append]
        refine ⟨t.nodup_keys, by simp, fun a ha b hb => ?_⟩
        have hb' : b = dir ++ [name] := by simpa using hb
        exact fun hab => lookupNode_eq_none_iff.1 hnone (hb' ▸ hab ▸ ha)
      placed := by
        simp only [hasRoom, Bool.and_eq_true, beq_iff_eq, Option.isNone_iff_eq_none] at h
        intro e he
        rcases List.mem_append.1 he with he | he
        · exact (t.placed e he).mono fun d hd => List.mem_append_left _ hd
        · rw [List.mem_singleton.1 he]
          exact ⟨dir, name, rfl, h.1.2, (directory_mem h.1.1).imp_right
            (List.mem_append_left _)⟩ }
  else t

/-- The node with another content, if it is the file at `key`. -/
def replaceContent (key : Key) (content : List UInt8) (e : Key × Node) : Key × Node :=
  match e with
  | (k, .file old) => (k, .file (if k = key then content else old))
  | e => e

theorem fst_replaceContent (key : Key) (content : List UInt8) (e : Key × Node) :
    (replaceContent key content e).1 = e.1 := by
  unfold replaceContent
  split <;> rfl

/-- Gives the file at a place another content; nothing changes where no file is. -/
def setContent (t : FileTree) (key : Key) (content : List UInt8) : FileTree where
  nodes := t.nodes.map (replaceContent key content)
  nodup_keys := by
    have h : (t.nodes.map (replaceContent key content)).map Prod.fst = t.nodes.map Prod.fst := by
      simp [fst_replaceContent]
    exact h ▸ t.nodup_keys
  placed := by
    intro e he
    obtain ⟨e', he', rfl⟩ := List.mem_map.1 he
    rw [fst_replaceContent]
    exact (t.placed e' he').mono fun d hd => List.mem_map.2 ⟨(d, .directory), hd, rfl⟩

/-- The entries of a directory, in the order in which they were made. -/
def entries (t : FileTree) (dir : Key) : List DirectoryEntry :=
  t.nodes.filterMap fun e =>
    match e.1.getLast? with
    | some name => if e.1.dropLast = dir then some ⟨name, e.2.entryKind⟩ else none
    | none => none

/-! ## What stands where after a change -/

/-- A node that is added stands at its place, and all else is as before. -/
theorem get?_insert {t : FileTree} {dir : Key} {name : Text} (node : Node) (key : Key)
    (h : t.hasRoom dir name = true) :
    (t.insert dir name node).get? key =
      if key = dir ++ [name] then some node else t.get? key := by
  have hnone : lookupNode t.nodes (dir ++ [name]) = none := by
    simp only [hasRoom, Bool.and_eq_true, Option.isNone_iff_eq_none] at h
    simpa [get?] using h.2
  simp only [insert, h, dite_true, get?]
  by_cases hk : key = dir ++ [name]
  · subst hk
    simp only [List.append_eq_nil_iff, List.cons_ne_self, and_false, if_false, if_true,
      lookupNode, List.find?_append]
    simp only [lookupNode, Option.map_eq_none_iff] at hnone
    simp [hnone]
  · by_cases he : key = []
    · simp [he]
    · simp only [he, hk, if_false, lookupNode, List.find?_append]
      have : (dir ++ [name] == key) = false := by simpa using fun h => hk h.symm
      simp [this]

/-- Only the content of the file at the place changes. -/
theorem get?_setContent (t : FileTree) (place : Key) (content : List UInt8) (key : Key) :
    (t.setContent place content).get? key =
      match t.get? key with
      | some (.file old) => some (.file (if key = place then content else old))
      | node => node := by
  by_cases he : key = []
  · simp [get?, he]
  · simp only [get?, he, if_false, setContent, lookupNode, List.find?_map]
    have hfun : ((fun e : Key × Node => e.1 == key) ∘ replaceContent place content) =
        fun e => e.1 == key := by
      funext e
      simp [Function.comp, fst_replaceContent]
    rw [hfun]
    cases hf : t.nodes.find? fun e => e.1 == key with
    | none => simp
    | some e =>
      have hk : e.1 = key := by simpa using List.find?_some hf
      obtain ⟨k, node⟩ := e
      simp only at hk
      subst hk
      cases node <;> simp [replaceContent]

end FileTree

end FeatureSheets
