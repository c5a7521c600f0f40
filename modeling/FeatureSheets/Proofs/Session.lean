import FeatureSheets.World

/-!
# Runs of operations

What a run on a modelled machine says about the runs of its parts. An operation that comes to a
result has come to one in each of its parts (`Operation.run_bind_eq_ok_iff`), and each world on
the way is the one that the part before it left behind.
-/

namespace FeatureSheets

variable {α β : Type}

/-! ## Actions -/

namespace Session

theorem bind_eq_iff {x : Session α} {f : α → Session β} {w w' : World} {b : β} :
    (x >>= f) w = (b, w') ↔ ∃ a w₁, x w = (a, w₁) ∧ f a w₁ = (b, w') := by
  refine ⟨fun h => ⟨(x w).1, (x w).2, rfl, h⟩, ?_⟩
  rintro ⟨a, w₁, hx, hf⟩
  show f (x w).1 (x w).2 = (b, w')
  rw [hx]
  exact hf

theorem pure_eq_iff {a b : α} {w w' : World} :
    (pure a : Session α) w = (b, w') ↔ a = b ∧ w = w' :=
  ⟨Prod.mk.inj, fun ⟨ha, hw⟩ => Prod.ext ha hw⟩

theorem look_eq_iff {f : FileTree → Except FileFault α} {r : Except FileFault α}
    {w w' : World} : look f w = (r, w') ↔ f w.tree = r ∧ w = w' :=
  ⟨Prod.mk.inj, fun ⟨hr, hw⟩ => Prod.ext hr hw⟩

/-- A change that is made is made to the files alone. -/
theorem change_eq_ok_iff {f : FileTree → Except FileFault FileTree} {w w' : World} :
    change f w = (.ok (), w') ↔ ∃ tree, f w.tree = .ok tree ∧ w' = { w with tree } := by
  rw [change]
  cases f w.tree with
  | error fault =>
    constructor
    · intro h
      cases h
    · rintro ⟨tree, h, -⟩
      cases h
  | ok tree =>
    constructor
    · intro h
      exact ⟨tree, rfl, (congrArg Prod.snd h).symm⟩
    · rintro ⟨made, h, rfl⟩
      cases h
      rfl

/-- A change that is refused changes nothing. -/
theorem change_eq_error_iff {f : FileTree → Except FileFault FileTree} {fault : FileFault}
    {w w' : World} : change f w = (.error fault, w') ↔ f w.tree = .error fault ∧ w' = w := by
  rw [change]
  cases f w.tree with
  | error other =>
    constructor
    · intro h
      cases h
      exact ⟨rfl, rfl⟩
    · rintro ⟨h, rfl⟩
      cases h
      rfl
  | ok tree =>
    constructor
    · intro h
      cases h
    · rintro ⟨h, -⟩
      cases h

/-- What comes out of a traversal came out of one of its steps. -/
theorem exists_of_mem_mapM {f : α → Session β} {l : List α} {bs : List β} {w w' : World}
    (h : l.mapM f w = (bs, w')) {b : β} (hb : b ∈ bs) :
    ∃ a ∈ l, ∃ w₁ w₂, f a w₁ = (b, w₂) := by
  induction l generalizing bs w w' with
  | nil =>
    rw [List.mapM_nil, pure_eq_iff] at h
    rw [← h.1] at hb
    cases hb
  | cons a l ih =>
    rw [List.mapM_cons] at h
    obtain ⟨b₁, w₁, hf, h⟩ := bind_eq_iff.1 h
    obtain ⟨bs₁, w₂, hl, h⟩ := bind_eq_iff.1 h
    rw [← (pure_eq_iff.1 h).1] at hb
    rcases List.mem_cons.1 hb with rfl | hb
    · exact ⟨a, by simp, w, w₁, hf⟩
    · obtain ⟨a', ha', hrun⟩ := ih hl hb
      exact ⟨a', by simp [ha'], hrun⟩

end Session

/-! ## Operations -/

namespace Operation

theorem eq_ok_of_toOption {r : Except Error α} {a : α} (h : r.toOption = some a) : r = .ok a := by
  cases r with
  | error e => cases h
  | ok b =>
    cases h
    rfl

/-- A value that a run has in its result is that of a run that comes to one. -/
theorem exists_run_of_map_toOption {x : Operation Session α} {f : α → β} {w : World} {b : β}
    (h : (x.run w).1.toOption.map f = some b) : ∃ a w', x.run w = (.ok a, w') ∧ f a = b := by
  obtain ⟨a, ha, hf⟩ := Option.map_eq_some_iff.1 h
  exact ⟨a, (x.run w).2, Prod.ext (eq_ok_of_toOption ha) rfl, hf⟩

/-- A sequence ends where its first part comes to an error, or else as its second part does. -/
theorem run_bind_eq_iff {x : Operation Session α} {f : α → Operation Session β}
    {w w' : World} {r : Except Error β} :
    (x >>= f).run w = (r, w') ↔
      (∃ e, x.run w = (.error e, w') ∧ r = .error e) ∨
        ∃ a w₁, x.run w = (.ok a, w₁) ∧ (f a).run w₁ = (r, w') := by
  have hrun : (x >>= f).run w = ExceptT.bindCont f (x.run w).1 (x.run w).2 := rfl
  rw [hrun]
  obtain ⟨first, w₁⟩ := x.run w
  cases first with
  | error e =>
    constructor
    · intro h
      cases h
      exact .inl ⟨e, rfl, rfl⟩
    · rintro (⟨e, h, rfl⟩ | ⟨a, w₂, h, -⟩)
      · cases h
        rfl
      · cases h
  | ok a =>
    constructor
    · intro h
      exact .inr ⟨a, w₁, rfl, h⟩
    · rintro (⟨e, h, -⟩ | ⟨a', w₂, h, hf⟩)
      · cases h
      · cases h
        exact hf

/-- A sequence comes to a result when its parts do, one after the other. -/
theorem run_bind_eq_ok_iff {x : Operation Session α} {f : α → Operation Session β}
    {w w' : World} {b : β} :
    (x >>= f).run w = (.ok b, w') ↔
      ∃ a w₁, x.run w = (.ok a, w₁) ∧ (f a).run w₁ = (.ok b, w') := by
  rw [run_bind_eq_iff]
  simp

theorem run_bind_of_ok {x : Operation Session α} {f : α → Operation Session β} {w w' : World}
    {a : α} (h : x.run w = (.ok a, w')) : (x >>= f).run w = (f a).run w' :=
  run_bind_eq_iff.2 (.inr ⟨a, w', h, rfl⟩)

theorem run_bind_of_error {x : Operation Session α} {f : α → Operation Session β} {w w' : World}
    {e : Error} (h : x.run w = (.error e, w')) : (x >>= f).run w = (.error e, w') :=
  run_bind_eq_iff.2 (.inl ⟨e, h, rfl⟩)

/-- Where nothing more is done after an operation, it leaves what the sequence leaves. -/
theorem exists_of_run_bind {x : Operation Session α} {f : α → Operation Session β}
    (hf : ∀ a w, ((f a).run w).2 = w) {w w' : World} {r : Except Error β}
    (h : (x >>= f).run w = (r, w')) : ∃ r', x.run w = (r', w') := by
  rcases run_bind_eq_iff.1 h with ⟨e, hx, -⟩ | ⟨a, w₁, hx, hlast⟩
  · exact ⟨_, hx⟩
  · obtain rfl : w₁ = w' := (hf a w₁).symm.trans (congrArg Prod.snd hlast)
    exact ⟨_, hx⟩

theorem run_pure_eq_ok_iff {a b : α} {w w' : World} :
    (pure a : Operation Session α).run w = (.ok b, w') ↔ a = b ∧ w = w' := by
  constructor
  · intro h
    cases h
    exact ⟨rfl, rfl⟩
  · rintro ⟨rfl, rfl⟩
    rfl

theorem run_throw_ne_ok {e : Error} {a : α} {w w' : World} :
    (throw e : Operation Session α).run w ≠ (.ok a, w') :=
  fun h => nomatch congrArg Prod.fst h

/-- The machine is asked once, and its refusal is the error. -/
theorem run_ask_eq_iff {fault : FileFault → Error} {x : Session (Except FileFault α)}
    {r : Except Error α} {w w' : World} :
    (ask fault x).run w = (r, w') ↔ ∃ answer, x w = (answer, w') ∧ answer.mapError fault = r := by
  rw [ask, ExceptT.run_mk, Session.bind_eq_iff]
  constructor
  · rintro ⟨answer, w₁, hx, h⟩
    cases answer <;>
    · obtain ⟨rfl, rfl⟩ := Session.pure_eq_iff.1 h
      exact ⟨_, hx, rfl⟩
  · rintro ⟨answer, hx, rfl⟩
    cases answer <;> exact ⟨_, w', hx, rfl⟩

/-- What the machine is asked for is there when it does not refuse. -/
theorem run_ask_eq_ok_iff {fault : FileFault → Error} {x : Session (Except FileFault α)}
    {a : α} {w w' : World} :
    (ask fault x).run w = (.ok a, w') ↔ x w = (.ok a, w') := by
  rw [run_ask_eq_iff]
  constructor
  · rintro ⟨answer, hx, h⟩
    cases answer <;> cases h
    exact hx
  · intro h
    exact ⟨.ok a, h, rfl⟩

theorem run_lift_eq_ok_iff {x : Session α} {a : α} {w w' : World} :
    (ExceptT.lift x : Operation Session α).run w = (.ok a, w') ↔ x w = (a, w') := by
  have hrun : (ExceptT.lift x : Operation Session α).run w =
      (Except.ok (x w).1, (x w).2) := rfl
  rw [hrun]
  obtain ⟨b, w₁⟩ := x w
  constructor
  · intro h
    cases h
    rfl
  · intro h
    cases h
    rfl

/-- A file that is refused is left as it was. -/
theorem writeFile_of_run_ask_error {fault : FileFault → Error} {p : Path} {content : List UInt8}
    {e : Error} {w w' : World}
    (h : (ask fault (Platform.writeFile p content) : Operation Session Unit).run w =
      (.error e, w')) : w' = w ∧ ∃ f, w.tree.writeFile p content = .error f := by
  obtain ⟨answer, hwrite, hrefused⟩ := run_ask_eq_iff.1 h
  cases answer with
  | ok _ => cases hrefused
  | error f =>
    obtain ⟨hwrite, rfl⟩ := Session.change_eq_error_iff.1 hwrite
    exact ⟨rfl, f, hwrite⟩

/-! ### Errors -/

/-- Whether every error that an operation ends with is of a kind. -/
def FailsWith (P : Error → Prop) (x : Operation Session α) : Prop :=
  ∀ w e w', x.run w = (.error e, w') → P e

variable {P : Error → Prop}

theorem failsWith_pure (a : α) : FailsWith P (pure a) :=
  fun _ _ _ h => nomatch congrArg Prod.fst h

theorem failsWith_throw {e : Error} (h : P e) : FailsWith P (throw e : Operation Session α) := by
  intro w e' w' hrun
  cases hrun
  exact h

theorem FailsWith.bind {x : Operation Session α} {f : α → Operation Session β}
    (hx : x.FailsWith P) (hf : ∀ a, (f a).FailsWith P) : (x >>= f).FailsWith P := by
  intro w e w' hrun
  rcases run_bind_eq_iff.1 hrun with ⟨e', hfirst, heq⟩ | ⟨a, w₁, -, hrest⟩
  · cases heq
    exact hx w _ w' hfirst
  · exact hf a w₁ e w' hrest

theorem failsWith_ask {fault : FileFault → Error} (h : ∀ f, P (fault f))
    (x : Session (Except FileFault α)) : FailsWith P (ask fault x) := by
  intro w e w' hrun
  obtain ⟨answer, -, heq⟩ := run_ask_eq_iff.1 hrun
  cases answer with
  | ok a => cases heq
  | error f =>
    cases heq
    exact h f

theorem failsWith_lift (x : Session α) : FailsWith P (ExceptT.lift x) :=
  fun _ _ _ h => nomatch congrArg Prod.fst h

theorem failsWith_sayAll (notes : List Note) :
    (sayAll notes : Operation Session Unit).FailsWith P := by
  induction notes with
  | nil => exact failsWith_pure ()
  | cons n notes ih => exact (failsWith_lift _).bind fun _ => ih

end Operation

end FeatureSheets
