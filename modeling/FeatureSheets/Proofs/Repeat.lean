import FeatureSheets.Proofs.Export.Chain
import FeatureSheets.Proofs.Export.Moment

/-!
# Actions that are done again

An action is repeated by another when, run in any later state of the files, the second comes to
what the first came to, shows what it showed, and changes nothing but what the first had changed
(`Session.Repeats`). Exports repeat themselves in this sense, but for the time that their manifests
give, if their directories are open (`Session.repeats_writeSheets`).
-/

namespace FeatureSheets

namespace FileTree

/-- Whether a change from `s` to `s'` does again what a change from `t` to `t'` did: at every place,
either both keep what is there, or both leave the same, but for the time that a manifest gives. -/
def Redoes (t t' s s' : FileTree) : Prop :=
  ∀ key, (t'.get? key = t.get? key ∧ s'.get? key = s.get? key) ∨
    SameButMoment (t'.get? key) (s'.get? key)

variable {t t' t'' s s' s'' : FileTree}

theorem Redoes.refl (t s : FileTree) : Redoes t t s s :=
  fun _ => .inl ⟨rfl, rfl⟩

theorem Redoes.trans (h : Redoes t t' s s') (h' : Redoes t' t'' s' s'') : Redoes t t'' s s'' := by
  intro key
  rcases h' key with ⟨hkept, hkept'⟩ | hsame
  · rw [hkept, hkept']
    exact h key
  · exact .inr hsame

/-- A change that is done again where it led to leaves that, but for times. -/
theorem Redoes.sameButMoments (h : Redoes t t' t' s) : t'.SameButMoments s := by
  intro key
  rcases h key with ⟨-, hkept⟩ | hsame
  · rw [hkept]
    exact .same _
  · exact hsame

/-- Directories that were made and are there still need not be made again. -/
theorem Redoes.of_grows (hgrows : t.Grows t') (h : t'.Augments s) : Redoes t t' s s := by
  intro key
  by_cases hkept : t'.get? key = t.get? key
  · exact .inl ⟨hkept, rfl⟩
  · -- what is new is a directory, and still there
    cases hget : t'.get? key with
    | none =>
      cases hold : t.get? key with
      | none => exact absurd (hget.trans hold.symm) hkept
      | some node =>
        cases node with
        | directory => exact absurd (hgrows.directory key hold) (by simp [hget])
        | file content => exact absurd ((hgrows.file key content).2 hold) (by simp [hget])
        | link target => exact absurd ((hgrows.link key target).2 hold) (by simp [hget])
    | some node =>
      cases node with
      | directory =>
        rw [h.directory hget]
        exact .inr (.same _)
      | file content => exact absurd (((hgrows.file key content).1 hget).symm ▸ hget) hkept
      | link target => exact absurd hget (h.hasNoLinks_left key target)

end FileTree

/-- Whether two results are the same error, or values in a relation. -/
inductive Agrees {α β : Type} (R : α → β → Prop) : Except Error α → Except Error β → Prop
  /-- The same error. -/
  | error (e : Error) : Agrees R (.error e) (.error e)
  /-- Values in the relation. -/
  | ok {a : α} {b : β} (h : R a b) : Agrees R (.ok a) (.ok b)

theorem agrees_eq_iff {α : Type} {r r' : Except Error α} : Agrees Eq r r' ↔ r = r' := by
  constructor
  · rintro (e | rfl) <;> rfl
  · rintro rfl
    cases r with
    | error e => exact .error e
    | ok a => exact .ok rfl

namespace Session

variable {α β γ δ : Type} {Q : FileTree → Prop} {t t' : FileTree} {R R' : α → β → Prop}
  {x : Session α} {y : Session β}

/-- Whether the action `y`, after `x` and whatever else made the files of a tree more, does again
what `x` did to them and shows what `x` showed, with a result in relation to that of `x`. Before
and after the first action the files may be relied on to have the property `Q`. -/
structure Repeats (Q : FileTree → Prop) (t : FileTree) (R : α → β → Prop) (x : Session α)
    (y : Session β) : Prop where
  /-- The first action makes the files more, and they keep the property. -/
  first : ∀ w : World, t.Augments w.tree → Q w.tree →
    w.tree.Augments (x w).2.tree ∧ Q (x w).2.tree
  /-- The second does what the first did. -/
  again : ∀ w v : World, t.Augments w.tree → Q w.tree → (x w).2.tree.Augments v.tree →
    R (x w).1 (y v).1 ∧ v.tree.Augments (y v).2.tree ∧
      FileTree.Redoes w.tree (x w).2.tree v.tree (y v).2.tree ∧
        ∃ shown, (x w).2.output = w.output ++ shown ∧ (y v).2.output = v.output ++ shown

namespace Repeats

/-- What is repeated whatever made a tree more is repeated whatever made it more still. -/
theorem later (h : x.Repeats Q t R y) (ht : t.Augments t') : x.Repeats Q t' R y :=
  ⟨fun w hw => h.first w (ht.trans hw), fun w v hw => h.again w v (ht.trans hw)⟩

theorem imp (h : x.Repeats Q t R y) (hR : ∀ a b, R a b → R' a b) : x.Repeats Q t R' y :=
  ⟨h.first, fun w v hw hQ hv => (h.again w v hw hQ hv).imp_left (hR _ _)⟩

/-- Actions that leave the files as they are and show nothing. -/
theorem of_still (hx : ∀ w : World, (x w).2.tree = w.tree ∧ (x w).2.output = w.output)
    (hy : ∀ w : World, (y w).2.tree = w.tree ∧ (y w).2.output = w.output)
    (h : ∀ w v : World, t.Augments w.tree → w.tree.Augments v.tree → R (x w).1 (y v).1) :
    x.Repeats Q t R y := by
  refine ⟨fun w hw hQ => ?_, fun w v hw _ hv => ?_⟩
  · rw [(hx w).1]
    exact ⟨.refl hw.hasNoLinks, hQ⟩
  · rw [(hx w).1] at hv ⊢
    rw [(hy v).1]
    refine ⟨h w v hw hv, .refl hv.hasNoLinks, .refl _ _, [], ?_, ?_⟩
    · rw [(hx w).2, List.append_nil]
    · rw [(hy v).2, List.append_nil]

theorem pure {a : α} {b : β} (h : R a b) :
    (Pure.pure a : Session α).Repeats Q t R (Pure.pure b) :=
  .of_still (fun _ => ⟨rfl, rfl⟩) (fun _ => ⟨rfl, rfl⟩) fun _ _ _ _ => h

/-- One action after another, where the later one may rely on what the earlier one left. -/
theorem bind_of_left {S : γ → δ → Prop} {f : α → Session γ} {g : β → Session δ}
    (h : x.Repeats Q t R y) (hf : ∀ w b, t.Augments w.tree → Q w.tree → R (x w).1 b →
      (f (x w).1).Repeats Q (x w).2.tree S (g b)) : (x >>= f).Repeats Q t S (y >>= g) := by
  have hbind : ∀ w : World, (x >>= f) w = f (x w).1 (x w).2 := fun _ => rfl
  have hbind' : ∀ v : World, (y >>= g) v = g (y v).1 (y v).2 := fun _ => rfl
  have hrest : ∀ w : World, t.Augments w.tree → Q w.tree →
      (x w).2.tree.Augments (f (x w).1 (x w).2).2.tree ∧ Q (f (x w).1 (x w).2).2.tree := by
    intro w hw hQ
    obtain ⟨haug, hleft⟩ := h.first w hw hQ
    have hthere : (x w).2.tree.Augments (x w).2.tree := .refl haug.hasNoLinks
    exact (hf w _ hw hQ (h.again w _ hw hQ hthere).1).first _ hthere hleft
  refine ⟨fun w hw hQ => ?_, fun w v hw hQ hv => ?_⟩
  · obtain ⟨hmore, hlast⟩ := hrest w hw hQ
    exact ⟨(h.first w hw hQ).1.trans hmore, hlast⟩
  · rw [hbind] at hv ⊢
    rw [hbind']
    obtain ⟨haug₁, hleft⟩ := h.first w hw hQ
    obtain ⟨hresult, haug, hredo, shown, hshown, hshown'⟩ :=
      h.again w v hw hQ ((hrest w hw hQ).1.trans hv)
    obtain ⟨hresult', haug', hredo', shown', hlast, hlast'⟩ := (hf w _ hw hQ hresult).again (x w).2
      (y v).2 (.refl haug₁.hasNoLinks) hleft (hv.trans haug)
    refine ⟨hresult', haug.trans haug', hredo.trans hredo', shown ++ shown', ?_, ?_⟩
    · rw [hlast, hshown, List.append_assoc]
    · rw [hlast', hshown', List.append_assoc]

theorem bind {S : γ → δ → Prop} {f : α → Session γ} {g : β → Session δ} (h : x.Repeats Q t R y)
    (hf : ∀ a b, R a b → (f a).Repeats Q t S (g b)) : (x >>= f).Repeats Q t S (y >>= g) :=
  h.bind_of_left fun w b hw hQ hab => (hf _ b hab).later (hw.trans (h.first w hw hQ).1)

end Repeats

/-- Whatever is done apart from the files repeats itself. -/
theorem isNotingKind_repeats (Q : FileTree → Prop) (t : FileTree) :
    IsNotingKind fun _ x => x.Repeats Q t Eq x where
  pure _ := .pure rfl
  bind hx hf := hx.bind fun a _ h => h ▸ hf a
  note n := by
    have hnote := isReadingKind_onlyLooks.note n
    exact .of_still (fun w => ⟨hnote.tree w, hnote.output w⟩)
      (fun w => ⟨hnote.tree w, hnote.output w⟩) fun _ _ _ _ => rfl

theorem repeats_print (s : Text) :
    (Platform.print s : Session Unit).Repeats Q t Eq (Platform.print s) :=
  ⟨fun _ hw hQ => ⟨.refl hw.hasNoLinks, hQ⟩,
    fun _ _ _ _ hv => ⟨rfl, .refl hv.hasNoLinks, .refl _ _, s, rfl, rfl⟩⟩

/-- The time is asked again, and may be another. -/
theorem repeats_now :
    (Platform.now : Session Timestamp).Repeats Q t (fun _ _ => True) Platform.now :=
  .of_still (fun _ => ⟨rfl, rfl⟩) (fun _ => ⟨rfl, rfl⟩) fun _ _ _ _ => trivial

/-- What is seen in every later state repeats itself. -/
theorem repeats_look {f : FileTree → Except FileFault α}
    (h : ∀ t', t.Augments t' → f t' = f t) : (look f).Repeats Q t Eq (look f) :=
  .of_still (fun _ => ⟨rfl, rfl⟩) (fun _ => ⟨rfl, rfl⟩) fun _ _ hw hv =>
    (h _ hw).trans (h _ (hw.trans hv)).symm

/-! ## Operations that are done again -/

namespace Repeats

variable {x : Operation Session α} {y : Operation Session β}

theorem run_pure {a : α} {b : β} (h : R a b) : Repeats Q t (Agrees R)
    (Pure.pure a : Operation Session α).run (Pure.pure b : Operation Session β).run :=
  .pure (.ok h)

theorem run_bind_of_left {S : γ → δ → Prop} {f : α → Operation Session γ}
    {g : β → Operation Session δ} (h : Repeats Q t (Agrees R) x.run y.run)
    (hf : ∀ w w' a b, t.Augments w.tree → Q w.tree → x.run w = (.ok a, w') → R a b →
      Repeats Q w'.tree (Agrees S) (f a).run (g b).run) :
    Repeats Q t (Agrees S) (x >>= f).run (y >>= g).run := by
  have hrun : (x >>= f).run = x.run >>= ExceptT.bindCont f := rfl
  have hrun' : (y >>= g).run = y.run >>= ExceptT.bindCont g := rfl
  rw [hrun, hrun']
  apply h.bind_of_left
  intro w r hw hQ hr
  rcases hx : x.run w with ⟨first, w'⟩
  rw [hx] at hr
  cases hr with
  | error e => exact .pure (.error e)
  | ok hab => exact hf w w' _ _ hw hQ hx hab

theorem run_bind {S : γ → δ → Prop} {f : α → Operation Session γ} {g : β → Operation Session δ}
    (h : Repeats Q t (Agrees R) x.run y.run)
    (hf : ∀ a b, R a b → Repeats Q t (Agrees S) (f a).run (g b).run) :
    Repeats Q t (Agrees S) (x >>= f).run (y >>= g).run := by
  apply h.run_bind_of_left
  intro w w' a b hw hQ hx hab
  have hfirst := (h.first w hw hQ).1
  rw [hx] at hfirst
  exact (hf a b hab).later (hw.trans hfirst)

theorem run_lift {x : Session α} {y : Session β} (h : x.Repeats Q t R y) : Repeats Q t (Agrees R)
    (ExceptT.lift x : Operation Session α).run (ExceptT.lift y : Operation Session β).run := by
  have hrun : (ExceptT.lift x : Operation Session α).run = x >>= fun a => Pure.pure (.ok a) := rfl
  have hrun' : (ExceptT.lift y : Operation Session β).run = y >>= fun b => Pure.pure (.ok b) := rfl
  rw [hrun, hrun']
  exact h.bind fun _ _ hab => .pure (.ok hab)

theorem run_attempt (h : Repeats Q t (Agrees R) x.run y.run) :
    Repeats Q t (Agrees (Agrees R)) x.attempt.run y.attempt.run :=
  run_lift h

theorem run_ask {x y : Session (Except FileFault α)} (h : x.Repeats Q t Eq y)
    (fault : FileFault → Error) :
    Repeats Q t (Agrees Eq) (Operation.ask fault x).run (Operation.ask fault y).run := by
  apply h.bind
  rintro answer _ rfl
  cases answer with
  | error f => exact .pure (.error _)
  | ok a => exact .pure (.ok rfl)

/-- Whatever repeats itself as an action does so as an operation. -/
theorem run_of_eq {x : Operation Session α} (h : Repeats Q t Eq x.run x.run) :
    Repeats Q t (Agrees Eq) x.run x.run :=
  h.imp fun _ _ => agrees_eq_iff.2

end Repeats

/-! ## Exports -/

/-- Whether files that have a property have a directory open, and keep the property when something
is exported to the directory. -/
structure Admits (Q : FileTree → Prop) (dir : Path) : Prop where
  /-- It does not matter when the directory is made. -/
  isOpen : ∀ t, Q t → t.IsOpen dir
  /-- Directories may be made. -/
  grows : ∀ t t' : FileTree, t.Augments t' → t.Grows t' → Q t → Q t'
  /-- Once the directory is there, anything may. -/
  leadsTo : ∀ (t : FileTree) (key : Key), t.HasNoLinks → t.LeadsTo dir key → Q t

/-- The directories of an open path are made once. -/
theorem repeats_makeDirectories {p : Path} (hp : Admits Q p) :
    (makeDirectories p.chain : Session _).Repeats Q t Eq (makeDirectories p.chain) := by
  have hsilent : (makeDirectories p.chain : Session _).IsSilent :=
    isReadingKind_isSilent.makeDirectories fun q _ => isSilent_change (·.makeDirectory q)
  refine ⟨fun w hw hQ => ?_, fun w v hw hQ hv => ?_⟩
  · obtain ⟨r, w', hrun, haug, -⟩ := makeDirectories_settles hw.hasNoLinks (hp.isOpen _ hQ)
    have hgrows := (grows_makeDirectories p.chain).of_eq hrun
    rw [hrun]
    exact ⟨haug, hp.grows _ _ haug hgrows hQ⟩
  · obtain ⟨r, w', hrun, -, hsettled⟩ := makeDirectories_settles hw.hasNoLinks (hp.isOpen _ hQ)
    have hgrows := (grows_makeDirectories p.chain).of_eq hrun
    rw [hrun] at hv ⊢
    rw [makeDirectories_of_isSettled (hsettled.augments hv)]
    exact ⟨rfl, .refl hv.hasNoLinks, .of_grows hgrows hv, [],
      by rw [hsilent.of_eq hrun, List.append_nil], (List.append_nil _).symm⟩

section

variable {p : Path} {key : Key} {name : Text} {content other : List UInt8}

/-- A file that is no document is written again, with a content that differs in a time at most. -/
theorem repeats_writeFile (hp : Admits Q p) (hname : isName name = true)
    (hdocument : ¬IsDocumentName name) (hlead : t.LeadsTo p key)
    (hsame : SameButMoment (some (.file content)) (some (.file other))) :
    (Platform.writeFile (p.join ⟨name⟩) content : Session _).Repeats Q t Eq
      (Platform.writeFile (p.join ⟨name⟩) other) := by
  refine ⟨fun w hw hQ => ?_, fun w v hw _ hv => ?_⟩
  · rcases hrun : (Platform.writeFile (p.join ⟨name⟩) content : Session _) w with ⟨r, w'⟩
    cases r with
    | error fault =>
      obtain ⟨-, rfl⟩ := change_eq_error_iff.1 hrun
      exact ⟨.refl hw.hasNoLinks, hQ⟩
    | ok _ =>
      obtain ⟨tree, hwrite, rfl⟩ := change_eq_ok_iff.1 hrun
      have haug := FileTree.augments_of_writeFile hw.hasNoLinks hname hdocument hwrite
      exact ⟨haug, hp.leadsTo _ key haug.hasNoLinks ((hw.trans haug).leadsTo hlead)⟩
  · rcases hrun : (Platform.writeFile (p.join ⟨name⟩) content : Session _) w with ⟨r, w'⟩
    rw [hrun] at hv
    have hlead := hw.leadsTo hlead
    cases r with
    | error fault =>
      -- what is refused is refused whatever the content
      obtain ⟨hrefused, rfl⟩ := change_eq_error_iff.1 hrun
      have hrefused' := hv.writeFile_eq_error hname hlead hrefused other
      have hrun' : (Platform.writeFile (p.join ⟨name⟩) other : Session _) v = (.error fault, v) :=
        change_eq_error_iff.2 ⟨hrefused', rfl⟩
      rw [hrun']
      exact ⟨rfl, .refl hv.hasNoLinks, .refl _ _, [], by simp⟩
    | ok _ =>
      obtain ⟨tree, hwrite, rfl⟩ := change_eq_ok_iff.1 hrun
      obtain ⟨made, hwrite', hmade⟩ :=
        FileTree.Augments.exists_writeFile hname hlead hw.hasNoLinks hwrite hv other
      have hrun' : (Platform.writeFile (p.join ⟨name⟩) other : Session _) v =
        (.ok (), { v with tree := made }) := change_eq_ok_iff.2 ⟨made, hwrite', rfl⟩
      rw [hrun']
      refine ⟨rfl, FileTree.augments_of_writeFile hv.hasNoLinks hname hdocument hwrite',
        fun place => ?_, [], by simp⟩
      -- the first write left the one content in its place, the second puts the other there
      have hget := FileTree.get?_of_writeFile hname hlead (hw.hasNoLinks _) hwrite place
      by_cases hplace : place = key ++ [name]
      · rw [hget, hmade, if_pos hplace, if_pos hplace]
        exact .inr hsame
      · rw [hget, hmade, if_neg hplace, if_neg hplace]
        exact .inl ⟨rfl, rfl⟩

end

end Session

theorem IsDocumentName.getLast? {name : Text} (h : IsDocumentName name) :
    name.getLast? = some 'e' := by
  obtain ⟨before, rfl⟩ := h
  rw [List.getLast?_append]
  rfl

/-- No file that may be listed is a document. -/
theorem IsListed.not_isDocumentName {format : OutputFormat} {p : Path} (h : IsListed format p) :
    ¬IsDocumentName p.text := by
  intro hdocument
  have hlast := hdocument.getLast?
  cases format with
  | csv =>
    obtain ⟨c, -, rfl⟩ := h
    rw [getLast?_file] at hlast
    cases hlast
  | json =>
    obtain rfl : p = workbookFile := h
    cases hlast

theorem not_isDocumentName_manifestFile : ¬IsDocumentName manifestFile.text := by
  intro hdocument
  cases hdocument.getLast?

namespace Session

variable {Q : FileTree → Prop} {t : FileTree} {dir : Path}

/-- **An export to an open directory repeats itself.** Run in any later state of the files, it comes
to the same error or writes the same files again, and changes nothing else. -/
theorem repeats_writeSheets (hdir : Admits Q dir) (sheets : List Sheet) (format : OutputFormat)
    (source : ExportSource) :
    Repeats Q t (Agrees fun r r' => r.filesWritten = r'.filesWritten)
      (writeSheets sheets dir format source : Operation Session ExportResult).run
      (writeSheets sheets dir format source : Operation Session ExportResult).run := by
  apply ((repeats_makeDirectories hdir).run_ask .fileSystem).run_bind_of_left
  rintro w w' ⟨⟩ ⟨⟩ hw hQ hrun -
  -- the directory is there from here on
  obtain ⟨key, hlead⟩ : ∃ key, w'.tree.LeadsTo dir key := by
    obtain ⟨r, w₁, hmake, haug, hsettled⟩ :=
      makeDirectories_settles hw.hasNoLinks (hdir.isOpen _ hQ)
    rw [Operation.run_ask_eq_ok_iff, hmake] at hrun
    cases hrun
    obtain ⟨key, hreach⟩ := hsettled.exists_reach haug.hasNoLinks
    exact ⟨key, (FileTree.leadsTo_iff_reach haug.hasNoLinks).2 hreach⟩
  have hfiles : Repeats Q w'.tree Eq (writeFiles sheets dir format : Operation Session _).run
      (writeFiles sheets dir format : Operation Session _).run :=
    (isNotingKind_repeats Q w'.tree).writeFiles (fun name hname content =>
      repeats_writeFile hdir hname.isName hname.not_isDocumentName hlead (.same _)) sheets
  apply hfiles.run_of_eq.run_bind
  rintro ⟨files, entries⟩ _ rfl
  apply repeats_now.run_lift.run_bind
  rintro now now' -
  have hmanifest : SameButMoment
      (some (.file (Text.Utf8.encode (Json.write
        (⟨now, source.path, source.feature, format, entries⟩ : Manifest)))))
      (some (.file (Text.Utf8.encode (Json.write
        (⟨now', source.path, source.feature, format, entries⟩ : Manifest))))) :=
    .manifest ⟨now, source.path, source.feature, format, entries⟩ now'
  have hsave := repeats_writeFile hdir isName_manifestFile not_isDocumentName_manifestFile hlead
    hmanifest
  apply (hsave.run_ask .fileSystem).run_bind
  rintro ⟨⟩ ⟨⟩ -
  exact .run_pure rfl

end Session

end FeatureSheets
