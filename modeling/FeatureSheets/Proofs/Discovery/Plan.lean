import FeatureSheets.Proofs.Discovery.ExportDir

/-!
# Who gets a directory

The plan of a scan goes through the documents once and remembers who was given which directory. A
document that is refused takes nothing, so what is remembered of a directory is the first document
that asks for it (`Claims`), however many follow. `exportPlan_exact` tells the whole plan by
looking back over the documents; it holds of every list of documents, found by a scan or not.
-/

namespace FeatureSheets

/-- Whether two documents ask for the same directory below `base`: the spellings agree in lower
case. -/
def FeatureFile.SameDir (base : Path) (f g : FeatureFile) : Prop :=
  Text.lower (f.exportDir base).text = Text.lower (g.exportDir base).text

namespace Discovery

/-! ## What is remembered -/

/-- The first of some documents that asks for the directory with a key. -/
def claimant? (base : Path) (features : List FeatureFile) (key : Text) : Option FeatureFile :=
  features.find? fun f => claimKey (f.exportDir base) == key

/-- What is remembered after some documents: for each directory the path of the first document
that asks for it. -/
def Claims (base : Path) (earlier : List FeatureFile) (claimed : List (Text × Path)) : Prop :=
  ∀ key, claimed.lookup key = (claimant? base earlier key).map FeatureFile.path

/-- The entry of a document in the plan, after some documents. -/
def entryAfter (base : Path) (earlier : List FeatureFile) (f : FeatureFile) :
    FeatureFile × Except Error Path :=
  match claimant? base earlier (claimKey (f.exportDir base)) with
  | some g => (f, .error (.outputCollision f.path g.path (f.exportDir base)))
  | none => (f, .ok (f.exportDir base))

@[simp] theorem fst_entryAfter (base : Path) (earlier : List FeatureFile) (f : FeatureFile) :
    (entryAfter base earlier f).1 = f := by
  rw [entryAfter]
  cases claimant? base earlier (claimKey (f.exportDir base)) with
  | some g => rfl
  | none => rfl

variable {base : Path} {earlier features : List FeatureFile} {claimed : List (Text × Path)}
  {f g : FeatureFile} {key : Text}

theorem claimant?_append_singleton (base : Path) (earlier : List FeatureFile) (f : FeatureFile)
    (key : Text) :
    claimant? base (earlier ++ [f]) key =
      (claimant? base earlier key).or
        (if claimKey (f.exportDir base) = key then some f else none) := by
  rw [claimant?, List.find?_append, List.find?_singleton, claimant?]
  simp only [beq_iff_eq]

/-- A document that is refused takes nothing. -/
theorem Claims.of_claimed (h : Claims base earlier claimed)
    (hg : claimant? base earlier (claimKey (f.exportDir base)) = some g) :
    Claims base (earlier ++ [f]) claimed := by
  intro key
  rw [h key, claimant?_append_singleton]
  by_cases hkey : claimKey (f.exportDir base) = key
  · rw [← hkey, hg]
    rfl
  · rw [if_neg hkey, Option.or_none]

/-- A document that is given its directory is the first that asks for it. -/
theorem Claims.of_free (h : Claims base earlier claimed)
    (hfree : claimant? base earlier (claimKey (f.exportDir base)) = none) :
    Claims base (earlier ++ [f]) ((claimKey (f.exportDir base), f.path) :: claimed) := by
  intro key
  rw [List.lookup_cons, h key, claimant?_append_singleton]
  by_cases hkey : claimKey (f.exportDir base) = key
  · rw [← hkey, hfree]
    simp
  · have hne : (key == claimKey (f.exportDir base)) = false := by simpa using Ne.symm hkey
    rw [if_neg hkey, Option.or_none, hne]

/-- Each entry of a plan looks back over the documents before it. -/
theorem getElem?_planFrom (h : Claims base earlier claimed) (features : List FeatureFile)
    (i : Nat) :
    (planFrom base claimed features)[i]? =
      features[i]?.map (entryAfter base (earlier ++ features.take i)) := by
  -- each document moves to the earlier ones, and what is remembered keeps up with them
  induction features generalizing earlier claimed i with
  | nil => rfl
  | cons f rest ih =>
    have hlookup := h (claimKey (f.exportDir base))
    rw [planFrom]
    cases hclaim : claimant? base earlier (claimKey (f.exportDir base)) with
    | some g =>
      rw [hclaim, Option.map_some] at hlookup
      simp only [hlookup]
      cases i with
      | zero => simp [entryAfter, hclaim]
      | succ i => simpa using ih (h.of_claimed hclaim) i
    | none =>
      rw [hclaim, Option.map_none] at hlookup
      simp only [hlookup]
      cases i with
      | zero => simp [entryAfter, hclaim]
      | succ i => simpa using ih (h.of_free hclaim) i

theorem getElem?_exportPlan (d : Discovery) (base : Path) (i : Nat) :
    (d.exportPlan base)[i]? = d.features[i]?.map (entryAfter base (d.features.take i)) := by
  have hnone : Claims base [] [] := fun _ => rfl
  simpa [exportPlan] using getElem?_planFrom hnone d.features i

/-- More documents at the end change no entry before them. -/
theorem planFrom_prefix (base : Path) (claimed : List (Text × Path))
    (features more : List FeatureFile) :
    planFrom base claimed features <+: planFrom base claimed (features ++ more) := by
  induction features generalizing claimed with
  | nil => exact List.nil_prefix
  | cons f rest ih =>
    rw [List.cons_append, planFrom, planFrom]
    cases claimed.lookup (claimKey (f.exportDir base)) with
    | some existing => exact List.cons_prefix_cons.2 ⟨rfl, ih claimed⟩
    | none => exact List.cons_prefix_cons.2 ⟨rfl, ih _⟩

/-! ## The plan -/

/-- A plan gives every document its directory, or tells who has it: the first of the documents
before it that asks for the same one, which was given it. -/
structure PlansExactly (base : Path) (features : List FeatureFile)
    (plan : List (FeatureFile × Except Error Path)) : Prop where
  /-- There is one entry for each document, in order. -/
  map_fst : plan.map Prod.fst = features
  /-- A document is given its directory just when no earlier one asks for it. -/
  ok_iff : ∀ i f target, plan[i]? = some (f, target) →
    (target = .ok (f.exportDir base) ↔ ∀ g ∈ features.take i, ¬g.SameDir base f)
  /-- A document that is refused is told the first one that asks for its directory. -/
  collision : ∀ i f target, plan[i]? = some (f, target) → target ≠ .ok (f.exportDir base) →
    ∃ (j : Nat) (g : FeatureFile), j < i ∧ plan[j]? = some (g, .ok (g.exportDir base)) ∧
      g.SameDir base f ∧ (∀ h ∈ features.take j, ¬h.SameDir base f) ∧
      target = .error (.outputCollision f.path g.path (f.exportDir base))
  /-- The directories that are given differ, and not in upper and lower case only. -/
  distinct : plan.Pairwise fun x y => ∀ dir dir', x.2 = .ok dir → y.2 = .ok dir' →
    Text.lower dir.text ≠ Text.lower dir'.text
  /-- Every directory that is asked for is given once. -/
  given : ∀ f ∈ features, ∃! i : Nat, ∃ g : FeatureFile,
    plan[i]? = some (g, .ok (g.exportDir base)) ∧ g.SameDir base f

theorem claimant?_eq_none_iff :
    claimant? base features (claimKey (f.exportDir base)) = none ↔
      ∀ g ∈ features, ¬g.SameDir base f := by
  simp [claimant?, FeatureFile.SameDir, claimKey]

theorem claimant?_eq_some_iff :
    claimant? base features (claimKey (f.exportDir base)) = some g ↔
      g.SameDir base f ∧ ∃ before after, features = before ++ g :: after ∧
        ∀ h ∈ before, ¬h.SameDir base f := by
  simp [claimant?, List.find?_eq_some_iff_append, FeatureFile.SameDir, claimKey]

theorem snd_entryAfter_eq_ok_iff :
    (entryAfter base earlier f).2 = .ok (f.exportDir base) ↔
      ∀ g ∈ earlier, ¬g.SameDir base f := by
  rw [← claimant?_eq_none_iff, entryAfter]
  cases claimant? base earlier (claimKey (f.exportDir base)) with
  | some g => simp
  | none => simp

/-- A document that is refused is told the first one that asks for its directory. -/
theorem exists_of_snd_entryAfter_ne_ok
    (h : (entryAfter base earlier f).2 ≠ .ok (f.exportDir base)) :
    ∃ before g after, earlier = before ++ g :: after ∧ g.SameDir base f ∧
      (∀ h ∈ before, ¬h.SameDir base f) ∧ (entryAfter base earlier f).2 =
        .error (.outputCollision f.path g.path (f.exportDir base)) := by
  rw [Ne, snd_entryAfter_eq_ok_iff, ← claimant?_eq_none_iff] at h
  obtain ⟨g, hclaim⟩ := Option.ne_none_iff_exists'.1 h
  obtain ⟨hg, before, after, hsplit, hfirst⟩ := claimant?_eq_some_iff.1 hclaim
  refine ⟨before, g, after, hsplit, hg, hfirst, ?_⟩
  rw [entryAfter, hclaim]

variable {d : Discovery} {i : Nat} {before after : List FeatureFile}
  {target : Except Error Path}

/-- The plan has one entry for each document, in order. -/
theorem map_fst_exportPlan (d : Discovery) (base : Path) :
    (d.exportPlan base).map Prod.fst = d.features := by
  apply List.ext_getElem?
  intro i
  rw [List.getElem?_map, getElem?_exportPlan, Option.map_map]
  have hfst : Prod.fst ∘ entryAfter base (d.features.take i) = id := by
    funext f
    exact fst_entryAfter base _ f
  rw [hfst, Option.map_id_fun, id]

theorem eq_snd_entryAfter (h : (d.exportPlan base)[i]? = some (f, target)) :
    target = (entryAfter base (d.features.take i) f).2 := by
  rw [getElem?_exportPlan, Option.map_eq_some_iff] at h
  obtain ⟨f', -, hentry⟩ := h
  have hsame : f' = f := by simpa using congrArg Prod.fst hentry
  rw [← hsame, hentry]

/-- The first document that asks for a directory is given it. -/
theorem getElem?_exportPlan_of_first (hsplit : d.features = before ++ g :: after)
    (hg : g.SameDir base f) (hfirst : ∀ h ∈ before, ¬h.SameDir base f) :
    (d.exportPlan base)[before.length]? = some (g, .ok (g.exportDir base)) := by
  have hfree : claimant? base before (claimKey (g.exportDir base)) = none := by
    rw [claimant?_eq_none_iff]
    exact fun h hh hsame => hfirst h hh (hsame.trans hg)
  rw [getElem?_exportPlan, hsplit, List.take_left]
  simp [entryAfter, hfree]

/-- A document that is refused is told one that was given its directory. -/
theorem exists_given_of_refused (h : (d.exportPlan base)[i]? = some (f, target))
    (hrefused : target ≠ .ok (f.exportDir base)) :
    ∃ (j : Nat) (g : FeatureFile), j < i ∧
      (d.exportPlan base)[j]? = some (g, .ok (g.exportDir base)) ∧ g.SameDir base f ∧
      (∀ h ∈ d.features.take j, ¬h.SameDir base f) ∧
      target = .error (.outputCollision f.path g.path (f.exportDir base)) := by
  rw [eq_snd_entryAfter h] at hrefused ⊢
  obtain ⟨before, g, after, hsplit, hg, hfirst, htarget⟩ := exists_of_snd_entryAfter_ne_ok hrefused
  have hall : d.features = before ++ g :: (after ++ d.features.drop i) := by
    rw [← List.cons_append, ← List.append_assoc, ← hsplit, List.take_append_drop]
  have hlt : before.length < i := by
    have htake := congrArg List.length hsplit
    simp only [List.length_take, List.length_append, List.length_cons] at htake
    omega
  have hgiven := getElem?_exportPlan_of_first hall hg hfirst
  refine ⟨before.length, g, hlt, hgiven, hg, ?_, htarget⟩
  rw [hall, List.take_left]
  exact hfirst

/-- Of two documents that ask for one directory, the later one is not given it. -/
theorem not_lt_of_given {j : Nat}
    (hi : (d.exportPlan base)[i]? = some (f, .ok (f.exportDir base)))
    (hj : (d.exportPlan base)[j]? = some (g, .ok (g.exportDir base)))
    (hsame : f.SameDir base g) : ¬i < j := by
  intro hlt
  obtain ⟨hilen, hi⟩ := List.getElem?_eq_some_iff.1 hi
  obtain ⟨hjlen, hj⟩ := List.getElem?_eq_some_iff.1 hj
  have hapart := List.pairwise_iff_getElem.1 (planFrom_pairwise base [] d.features)
  exact hapart i j hilen hjlen hlt _ _ (congrArg Prod.snd hi) (congrArg Prod.snd hj) hsame

/-- Of the documents that ask for one directory exactly one is given it. -/
theorem existsUnique_given (base : Path) (hf : f ∈ d.features) :
    ∃! i : Nat, ∃ g : FeatureFile,
      (d.exportPlan base)[i]? = some (g, .ok (g.exportDir base)) ∧ g.SameDir base f := by
  have hasked : claimant? base d.features (claimKey (f.exportDir base)) ≠ none := by
    rw [Ne, claimant?_eq_none_iff]
    exact fun h => h f hf rfl
  obtain ⟨g, hclaim⟩ := Option.ne_none_iff_exists'.1 hasked
  obtain ⟨hg, before, after, hsplit, hfirst⟩ := claimant?_eq_some_iff.1 hclaim
  have hgiven := getElem?_exportPlan_of_first hsplit hg hfirst
  refine ⟨before.length, ⟨g, hgiven, hg⟩, ?_⟩
  rintro j ⟨g', hgiven', hg'⟩
  have hle := not_lt_of_given hgiven hgiven' (hg.trans hg'.symm)
  have hge := not_lt_of_given hgiven' hgiven (hg'.trans hg.symm)
  omega

/-- **The plan is exact.** Every document of the list is given its directory, or is told the first
one that asked for it; who is given one is told by the documents before it, and documents at the
end change nothing for the others. -/
theorem exportPlan_exact (d : Discovery) (base : Path) :
    PlansExactly base d.features (d.exportPlan base) ∧
      ∀ more, d.exportPlan base <+:
        ({ d with features := d.features ++ more } : Discovery).exportPlan base := by
  refine ⟨?_, fun more => planFrom_prefix base [] d.features more⟩
  constructor
  case map_fst => exact map_fst_exportPlan d base
  case ok_iff =>
    intro i f target h
    rw [eq_snd_entryAfter h]
    exact snd_entryAfter_eq_ok_iff
  case collision => exact fun i f target h hrefused => exists_given_of_refused h hrefused
  case distinct => exact planFrom_pairwise base [] d.features
  case given => exact fun f hf => existsUnique_given base hf

/-- Of three documents that ask for one directory the first is given it, and both others are told
its path. -/
example :
    let first : FeatureFile := ⟨.ofString "r/Maß.feature", "Maß".toList, .ofString "Maß.feature"⟩
    let second : FeatureFile := ⟨.ofString "s/maß.feature", "maß".toList, .ofString "maß.feature"⟩
    let third : FeatureFile := ⟨.ofString "t/MAß.feature", "MAß".toList, .ofString "MAß.feature"⟩
    (Discovery.mk [] [first, second, third] 0).exportPlan (.ofString "out") =
      [(first, .ok (.ofString "out/Maß")),
        (second, .error (.outputCollision second.path first.path (.ofString "out/maß"))),
        (third, .error (.outputCollision third.path first.path (.ofString "out/MAß")))] := by
  rfl

end Discovery

end FeatureSheets
