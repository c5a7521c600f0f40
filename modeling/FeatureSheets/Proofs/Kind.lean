import FeatureSheets.Proofs.Session

/-!
# Kinds of actions

Many properties of actions hold of a whole program if they hold of its steps: what it does to the
files is in a relation to what was there (`Session.Keeps`), it only looks (`Session.OnlyLooks`), it
does not ask the time (`Session.IsTimeless`). Such a property is a kind (`Session.IsKind`). What
each part of a program needs of a kind is said once, for every kind.
-/

namespace FeatureSheets

namespace Session

/-- Whether a property of actions holds of those that do nothing, and of one action after another
if it holds of each. -/
structure IsKind (P : (α : Type) → Session α → Prop) : Prop where
  /-- Nothing is done. -/
  pure : ∀ {α : Type} (a : α), P α (pure a)
  /-- One action after another. -/
  bind : ∀ {α β : Type} {x : Session α} {f : α → Session β},
    P α x → (∀ a, P β (f a)) → P β (x >>= f)

/-- Whether a kind has what is done apart from the files: to say something. -/
structure IsNotingKind (P : (α : Type) → Session α → Prop) : Prop extends IsKind P where
  /-- Something is said. -/
  note : ∀ n : Note, P Unit (Platform.note n)

/-- Whether a kind has all that is done to read: to say something, and to look at the files. -/
structure IsReadingKind (P : (α : Type) → Session α → Prop) : Prop extends IsNotingKind P where
  /-- The files are looked at. -/
  look : ∀ {α : Type} (f : FileTree → Except FileFault α), P _ (look f)

namespace IsKind

variable {P : (α : Type) → Session α → Prop} {α β : Type} (hP : IsKind P)

include hP

theorem mapM {f : α → Session β} {l : List α} (h : ∀ a ∈ l, P β (f a)) :
    P (List β) (l.mapM f) := by
  induction l with
  | nil =>
    rw [List.mapM_nil]
    exact hP.pure []
  | cons a l ih =>
    rw [List.forall_mem_cons] at h
    rw [List.mapM_cons]
    exact hP.bind h.1 fun b => hP.bind (ih h.2) fun bs => hP.pure (b :: bs)

/-! ## Operations of a kind -/

theorem run_pure (a : α) : P _ (Pure.pure a : Operation Session α).run :=
  hP.pure (Except.ok a)

theorem run_throw (e : Error) : P _ (throw e : Operation Session α).run :=
  hP.pure (Except.error e)

theorem run_bind {x : Operation Session α} {f : α → Operation Session β} (hx : P _ x.run)
    (hf : ∀ a, P _ (f a).run) : P _ (x >>= f).run := by
  have hrun : (x >>= f).run = x.run >>= ExceptT.bindCont f := rfl
  rw [hrun]
  apply hP.bind hx
  intro r
  cases r with
  | ok a => exact hf a
  | error e => exact hP.pure (Except.error e)

theorem run_ask (fault : FileFault → Error) {x : Session (Except FileFault α)} (h : P _ x) :
    P _ (Operation.ask fault x).run := by
  apply hP.bind h
  intro answer
  cases answer with
  | ok a => exact hP.pure (Except.ok a)
  | error f => exact hP.pure (Except.error (fault f))

theorem run_lift {x : Session α} (h : P _ x) :
    P _ (ExceptT.lift x : Operation Session α).run := by
  have hrun : (ExceptT.lift x : Operation Session α).run = x >>= fun a => Pure.pure (.ok a) := rfl
  rw [hrun]
  exact hP.bind h fun a => hP.pure (Except.ok a)

theorem run_attempt {x : Operation Session α} (h : P _ x.run) : P _ x.attempt.run :=
  hP.run_lift h

end IsKind

namespace IsNotingKind

variable {P : (α : Type) → Session α → Prop} (hP : IsNotingKind P)

include hP

theorem run_say (level : Level) (origin : Origin) (message : Text) :
    P _ (Operation.say level origin message : Operation Session Unit).run :=
  hP.run_lift (hP.note _)

theorem run_sayAll (notes : List Note) :
    P _ (Operation.sayAll notes : Operation Session Unit).run := by
  induction notes with
  | nil => exact hP.run_pure ()
  | cons n notes ih => exact hP.run_bind (hP.run_lift (hP.note n)) fun _ => ih

end IsNotingKind

end Session

/-! ## Relations between the trees before and after -/

/-- Whether a relation between trees holds where nothing is done, and over two steps if it holds
over each. -/
structure FileTree.IsFrame (R : FileTree → FileTree → Prop) : Prop where
  /-- Nothing is done. -/
  refl : ∀ t, R t t
  /-- One step after another. -/
  trans : ∀ {t t' t''}, R t t' → R t' t'' → R t t''

namespace Session

variable {α β : Type}

/-- Whether an action leaves a tree that is in a relation to the tree that it finds. -/
def Keeps (R : FileTree → FileTree → Prop) (x : Session α) : Prop :=
  ∀ w : World, R w.tree (x w).2.tree

variable {R : FileTree → FileTree → Prop}

theorem Keeps.of_eq {x : Session α} (h : x.Keeps R) {w w' : World} {a : α}
    (hrun : x w = (a, w')) : R w.tree w'.tree := by
  have hkeep := h w
  rwa [hrun] at hkeep

theorem tree_note (n : Note) (w : World) :
    ((Platform.note n : Session Unit) w).2.tree = w.tree := by
  show (if _ then _ else w : World).tree = w.tree
  split <;> rfl

theorem isReadingKind_keeps (hR : FileTree.IsFrame R) :
    IsReadingKind fun _ x => x.Keeps R where
  pure a w := hR.refl w.tree
  bind hx hf w := hR.trans (hx w) (hf _ _)
  look f w := hR.refl w.tree
  note n w := by
    rw [tree_note]
    exact hR.refl w.tree

theorem keeps_change (hR : FileTree.IsFrame R) {f : FileTree → Except FileFault FileTree}
    (h : ∀ t t', f t = .ok t' → R t t') : (change f).Keeps R := by
  intro w
  rw [change]
  cases hf : f w.tree with
  | error fault => exact hR.refl w.tree
  | ok tree => exact h _ _ hf

/-! ## Actions that only look -/

/-- Whether an action only looks at the files: what comes of it depends on them alone, and neither
they nor what was shown change. -/
structure OnlyLooks (x : Session α) : Prop where
  /-- Equal files give equal results. -/
  result : ∀ w v : World, w.tree = v.tree → (x w).1 = (x v).1
  /-- The files stay. -/
  tree : ∀ w : World, (x w).2.tree = w.tree
  /-- Nothing is shown. -/
  output : ∀ w : World, (x w).2.output = w.output

theorem isReadingKind_onlyLooks : IsReadingKind fun _ x => x.OnlyLooks where
  pure a := ⟨fun _ _ _ => rfl, fun _ => rfl, fun _ => rfl⟩
  bind {α β x f} hx hf := by
    refine ⟨fun w v h => ?_, fun w => ?_, fun w => ?_⟩
    · have htrees : (x w).2.tree = (x v).2.tree := by rw [hx.tree, hx.tree, h]
      have hsecond := (hf (x w).1).result _ _ htrees
      show (f (x w).1 (x w).2).1 = (f (x v).1 (x v).2).1
      rw [hsecond, hx.result w v h]
    · exact ((hf _).tree _).trans (hx.tree w)
    · exact ((hf _).output _).trans (hx.output w)
  look f := ⟨fun w v h => congrArg f h, fun _ => rfl, fun _ => rfl⟩
  note n := by
    refine ⟨fun _ _ _ => rfl, tree_note n, fun w => ?_⟩
    show (if _ then _ else w : World).output = w.output
    split <;> rfl

/-- What only looks comes to the same in a world with the same files, and leaves them. -/
theorem OnlyLooks.exists_run {x : Session α} (h : x.OnlyLooks) {w w' v : World} {a : α}
    (hrun : x w = (a, w')) (hv : w.tree = v.tree) :
    w'.tree = w.tree ∧ w'.output = w.output ∧
      ∃ v', x v = (a, v') ∧ v'.tree = v.tree ∧ v'.output = v.output := by
  have hresult := h.result w v hv
  have htree := h.tree w
  have houtput := h.output w
  rw [hrun] at hresult htree houtput
  exact ⟨htree, houtput, (x v).2, Prod.ext hresult.symm rfl, h.tree v, h.output v⟩

theorem OnlyLooks.exists_run_of_fst {x : Session α} (h : x.OnlyLooks) {w v : World} {a : α}
    (hw : (x w).1 = a) (hv : v.tree = w.tree) :
    ∃ v', x v = (a, v') ∧ v'.tree = w.tree ∧ v'.output = v.output :=
  ⟨(x v).2, Prod.ext ((h.result v w hv).trans hw) rfl, (h.tree v).trans hv, h.output v⟩

/-- Whether an action, run in a world, says nothing on the way and lets no time pass. -/
def IsQuietIn (w : World) (x : Session α) : Prop :=
  (x w).2.clock = w.clock ∧ (x w).2.verbosity = w.verbosity ∧ (x w).2.errorOutput = w.errorOutput

instance (w : World) (x : Session α) : Decidable (x.IsQuietIn w) :=
  inferInstanceAs (Decidable (_ ∧ _))

/-- What only looks leaves the world as it is, if it is quiet. -/
theorem OnlyLooks.run_eq {x : Session α} (h : x.OnlyLooks) {w : World} {a : α}
    (hfst : (x w).1 = a) (hquiet : x.IsQuietIn w) : x w = (a, w) := by
  obtain ⟨hclock, hverbosity, herror⟩ := hquiet
  have htree := h.tree w
  have houtput := h.output w
  rcases hrun : x w with ⟨b, tree, clock, verbosity, output, errorOutput⟩
  rw [hrun] at hfst hclock hverbosity herror htree houtput
  dsimp only at hfst hclock hverbosity herror htree houtput
  rw [hfst, hclock, hverbosity, herror, htree, houtput]

/-- A traversal that only looks comes to what each of its steps would come to at first. -/
theorem OnlyLooks.mapM_fst {f : α → Session β} {l : List α} (h : ∀ a ∈ l, (f a).OnlyLooks)
    (w : World) : (l.mapM f w).1 = l.map fun a => (f a w).1 := by
  induction l generalizing w with
  | nil => rfl
  | cons a l ih =>
    rw [List.forall_mem_cons] at h
    have hrest : ((l.mapM f) (f a w).2).1 = (l.mapM f w).1 :=
      (isReadingKind_onlyLooks.mapM h.2).result _ _ (h.1.tree w)
    rw [List.mapM_cons, List.map_cons, ← ih h.2, ← hrest]
    rfl

/-! ## Actions that read some files only -/

/-- Whether what comes of an action depends on the contents of some paths alone, and the files
stay. -/
structure ReadsOnly (S : Path → Prop) (x : Session α) : Prop where
  /-- Equal contents give equal results. -/
  result : ∀ w v : World, (∀ p, S p → v.tree.readFile p = w.tree.readFile p) → (x v).1 = (x w).1
  /-- The files stay. -/
  tree : ∀ w : World, (x w).2.tree = w.tree

theorem isNotingKind_readsOnly (S : Path → Prop) : IsNotingKind fun _ x => x.ReadsOnly S where
  pure a := ⟨fun _ _ _ => rfl, fun _ => rfl⟩
  bind {α β x f} hx hf := by
    refine ⟨fun w v h => ?_, fun w => ((hf _).tree _).trans (hx.tree w)⟩
    have hsecond := (hf (x w).1).result (x w).2 (x v).2 (by rwa [hx.tree, hx.tree])
    show (f (x v).1 (x v).2).1 = (f (x w).1 (x w).2).1
    rw [hx.result w v h, hsecond]
  note n := ⟨fun _ _ _ => rfl, tree_note n⟩

theorem readsOnly_readFile {S : Path → Prop} {p : Path} (h : S p) :
    (Platform.readFile p : Session _).ReadsOnly S :=
  ⟨fun _ _ hsame => hsame p h, fun _ => rfl⟩

/-! ## Actions that do not ask the time -/

/-- Whether what comes of an action, what it does to the files and what it shows depends on the
files alone. -/
def IsTimeless (x : Session α) : Prop :=
  ∀ w v : World, w.tree = v.tree →
    (x w).1 = (x v).1 ∧ (x w).2.tree = (x v).2.tree ∧
      ∃ shown, (x w).2.output = w.output ++ shown ∧ (x v).2.output = v.output ++ shown

/-- What does not ask the time comes to the same in a world with the same files. -/
theorem IsTimeless.exists_run {x : Session α} (h : x.IsTimeless) {w w' v : World} {a : α}
    (hrun : x w = (a, w')) (hv : w.tree = v.tree) :
    ∃ v', x v = (a, v') ∧ w'.tree = v'.tree := by
  obtain ⟨hresult, htree, -⟩ := h w v hv
  rw [hrun] at hresult htree
  exact ⟨(x v).2, Prod.ext hresult.symm rfl, htree⟩

/-! ## Actions that show nothing -/

/-- Whether an action writes nothing to the standard output. -/
def IsSilent (x : Session α) : Prop :=
  ∀ w : World, (x w).2.output = w.output

theorem isReadingKind_isSilent : IsReadingKind fun _ x => x.IsSilent where
  pure _ _ := rfl
  bind hx hf w := (hf _ _).trans (hx w)
  look _ _ := rfl
  note n := (isReadingKind_onlyLooks.note n).output

theorem isSilent_change (f : FileTree → Except FileFault FileTree) : (change f).IsSilent := by
  intro w
  rw [change]
  cases f w.tree <;> rfl

theorem IsSilent.of_eq {x : Session α} (h : x.IsSilent) {w w' : World} {a : α}
    (hrun : x w = (a, w')) : w'.output = w.output := by
  have hsilent := h w
  rwa [hrun] at hsilent

end Session

end FeatureSheets
