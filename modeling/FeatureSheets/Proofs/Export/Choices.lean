import FeatureSheets.Proofs.Export.FileName
import FeatureSheets.Proofs.Path.FileName

/-!
# The choice of file names

A stem that is taken is numbered, and the search for its number needs no bound: it ends by itself
after at most one try more than there are stems to avoid (`exists_search`), at the least number that
is free (`isLeastFree_unique`). The stems that are found are fit for a file name on any system
(`IsTidy`), so a file stays in the directory that its name is joined to (`isSafe_of_isTidy`). A run
over all names of an export is put together from these (`fileNames_of_accepted`).
-/

namespace FeatureSheets.FileName

/-! ## The search for a free number -/

/-- The search for a free number from `n` on, with no bound on it: after so many attempts it ends
with the stem that was found. -/
inductive Search (used : List Text) (stem : Text) : (n attempts : Nat) → (found : Text) → Prop
  | free {n : Nat} (h : Text.lower (candidate stem n) ∉ used) :
      Search used stem n 1 (candidate stem n)
  | taken {n attempts : Nat} {found : Text} (h : Text.lower (candidate stem n) ∈ used)
      (rest : Search used stem (n + 1) attempts found) : Search used stem n (attempts + 1) found

namespace Search

variable {used : List Text} {stem : Text}

/-- The search can end in one way only. -/
theorem eq_of_search {n attempts attempts' : Nat} {found found' : Text}
    (h : Search used stem n attempts found) (h' : Search used stem n attempts' found') :
    attempts' = attempts ∧ found' = found := by
  induction h generalizing attempts' with
  | free hfree =>
    cases h' with
    | free => exact ⟨rfl, rfl⟩
    | taken htaken => exact absurd htaken hfree
  | taken htaken _ ih =>
    cases h' with
    | free hfree => exact absurd htaken hfree
    | taken _ rest =>
      obtain ⟨rfl, rfl⟩ := ih rest
      exact ⟨rfl, rfl⟩

/-- The search ends at the first number that is free. -/
theorem of_least {k : Nat} (hfree : Text.lower (candidate stem k) ∉ used) (d : Nat) {n : Nat}
    (hn : n + d = k) (hleast : ∀ m, n ≤ m → m < k → Text.lower (candidate stem m) ∈ used) :
    Search used stem n (d + 1) (candidate stem k) := by
  -- on how many numbers lie before the free one, all of which are taken
  induction d generalizing n with
  | zero =>
    obtain rfl : n = k := by omega
    exact .free hfree
  | succ d ih =>
    have hnext : Search used stem (n + 1) (d + 1) (candidate stem k) :=
      ih (by omega) fun m hm => hleast m (by omega)
    exact .taken (hleast n (Nat.le_refl n) (by omega)) hnext

end Search

/-- The search for the number of a stem ends, after at most one attempt more than there are stems
to avoid, with the stem that is chosen. -/
theorem exists_search {used : List Text} {stem : Text} (h : Text.lower stem ∈ used) :
    ∃ attempts ≤ used.length + 1, Search used stem 2 attempts (unique used stem) := by
  obtain ⟨k, hk, heq, hfree, hleast⟩ := unique_eq_candidate h
  obtain ⟨j, hj, hjlt, hjfree⟩ := exists_free used stem 2
  -- the least free number is among the first that are one more than the stems to avoid
  have hle : k ≤ j := by
    by_contra hlt
    exact hjfree (hleast j hj (by omega))
  rw [heq]
  exact ⟨k - 2 + 1, by omega, Search.of_least hfree (k - 2) (by omega) hleast⟩

/-- What a sheet is given when the stems in `used` are not free: its own stem if that is free, and
otherwise the least number. -/
structure IsLeastFree (used : List Text) (c : Choice) : Prop where
  /-- The stem is kept just when it is free. -/
  keeps_iff : c.chosen = c.wanted ↔ Text.lower c.wanted ∉ used
  /-- A stem that is taken gets the least number from 2 on with which it is free. -/
  least : Text.lower c.wanted ∈ used → ∃ n, 2 ≤ n ∧ c.chosen = candidate c.wanted n ∧
    Text.lower (candidate c.wanted n) ∉ used ∧
    ∀ m, 2 ≤ m → m < n → Text.lower (candidate c.wanted m) ∈ used
  /-- The search for this number ends, with what is chosen and in no other way. -/
  ends : Text.lower c.wanted ∈ used → ∃ attempts ≤ used.length + 1,
    ∀ tries found, Search used c.wanted 2 tries found ↔ tries = attempts ∧ found = c.chosen

theorem candidate_ne (stem : Text) (n : Nat) : candidate stem n ≠ stem := by
  intro h
  have hlen := congrArg List.length h
  rw [candidate, List.length_append, List.length_cons] at hlen
  omega

theorem isLeastFree_unique (used : List Text) (stem : Text) :
    IsLeastFree used ⟨stem, unique used stem⟩ where
  keeps_iff := by
    constructor
    · -- a number would make the stem longer
      intro h htaken
      obtain ⟨k, -, heq, -⟩ := unique_eq_candidate htaken
      exact candidate_ne stem k (heq.symm.trans h)
    · intro hfree
      exact if_neg (by simpa using hfree)
  least := unique_eq_candidate
  ends := by
    intro htaken
    obtain ⟨attempts, hle, hsearch⟩ := exists_search htaken
    refine ⟨attempts, hle, fun tries found => ⟨hsearch.eq_of_search, ?_⟩⟩
    rintro ⟨rfl, rfl⟩
    exact hsearch

/-! ## File names that are fit for any system -/

/-- Whether a character may stand in a file name on any system. -/
def IsAllowed (c : Char) : Prop :=
  c ∉ forbidden ∧ isControl c = false

/-- A stem that is fit for a file name on any system. -/
structure IsTidy (s : Text) : Prop where
  ne_nil : s ≠ []
  allowed : ∀ c ∈ s, IsAllowed c
  getLast? : ∀ c, s.getLast? = some c → c ≠ '.' ∧ c ≠ ' '

theorem isAllowed_of_mem_sanitize {name : Text} {c : Char} (h : c ∈ sanitize name) :
    IsAllowed c := by
  by_cases hc : c = '_'
  · rw [hc, IsAllowed]
    decide
  · by_contra hnot
    refine not_mem_sanitize ?_ hc h
    rw [IsAllowed, not_and_or] at hnot
    simpa using hnot

theorem isAllowed_of_isDigit {c : Char} (h : c.isDigit = true) : IsAllowed c := by
  have hforbidden : forbidden.all (fun d => !d.isDigit) = true := by decide
  refine ⟨fun hmem => ?_, ?_⟩
  · have hdigit := List.all_eq_true.1 hforbidden c hmem
    rw [h] at hdigit
    cases hdigit
  · have hlt := Text.toNat_lt_of_isDigit h
    have hge := (Bool.and_eq_true_iff.1 h).1
    rw [decide_eq_true_eq, ge_iff_le, UInt32.le_iff_toNat_le] at hge
    have hlow : 0x20 ≤ c.toNat := Nat.le_trans (by decide) hge
    simp only [isControl, Bool.or_eq_false_iff, Bool.and_eq_false_iff, decide_eq_false_iff_not]
    omega

/-- What is left of the name of a sheet is fit for a file name. -/
theorem isTidy_of_stem? {name stem : Text} (h : stem? name = some stem) : IsTidy stem := by
  have hstem : stem = Text.trimEndBy (fun c => c == '.' || c == ' ') (sanitize name) := by
    rw [stem?] at h
    split at h
    · cases h
    · exact (Option.some.inj h).symm
  obtain ⟨b, hb, -⟩ := Text.exists_eq_trimEndBy_append (fun c => c == '.' || c == ' ')
    (sanitize name)
  rw [← hstem] at hb
  refine ⟨(isStem_of_stem? h).1, fun c hc => ?_, fun c hc => ?_⟩
  · have hmem : c ∈ sanitize name := hb ▸ List.mem_append_left b hc
    exact isAllowed_of_mem_sanitize hmem
  · rw [hstem] at hc
    simpa using Text.getLast?_trimEndBy hc

/-- A number at the end keeps a stem fit. -/
theorem isTidy_candidate {stem : Text} (h : IsTidy stem) (n : Nat) : IsTidy (candidate stem n) := by
  have htail : ∀ c ∈ '_' :: Text.ofNat n, IsAllowed c ∧ c ≠ '.' ∧ c ≠ ' ' := by
    intro c hc
    rcases List.mem_cons.1 hc with rfl | hc
    · rw [IsAllowed]
      decide
    · have hdigit := Text.isDigit_of_mem_ofNat hc
      refine ⟨isAllowed_of_isDigit hdigit, ?_, ?_⟩ <;>
        · rintro rfl
          cases hdigit
  refine ⟨by simp [candidate], fun c hc => ?_, fun c hc => ?_⟩
  · rcases List.mem_append.1 hc with hc | hc
    · exact h.allowed c hc
    · exact (htail c hc).1
  · -- the last character is that of the number, whatever the stem ends in
    rw [candidate, List.getLast?_append_of_ne_nil _ (List.cons_ne_nil _ _)] at hc
    exact (htail c (List.mem_of_getLast? hc)).2

theorem isTidy_unique {stem : Text} (h : IsTidy stem) (used : List Text) :
    IsTidy (unique used stem) := by
  by_cases htaken : Text.lower stem ∈ used
  · obtain ⟨k, -, heq, -⟩ := unique_eq_candidate htaken
    rw [heq]
    exact isTidy_candidate h k
  · have hkept : unique used stem = stem := (isLeastFree_unique used stem).keeps_iff.2 htaken
    rwa [hkept]

/-- A file name that leads nowhere but into the directory that it is joined to. -/
structure IsSafe (c : Choice) : Prop where
  /-- The name is one component of a path. -/
  components : (⟨c.file⟩ : Path).components = [.name c.file]
  ne_dot : c.file ≠ ['.']
  ne_dots : c.file ≠ ['.', '.']
  /-- No character of the name is one that a system does not take. -/
  allowed : ∀ ch ∈ c.file, IsAllowed ch
  /-- The stem of the name is the one that was chosen. -/
  stem? : (⟨c.file⟩ : Path).stem? = some c.chosen
  /-- This stem is fit for any system. -/
  tidy : IsTidy c.chosen
  /-- The file is in the directory. -/
  join : ∀ dir : Path, (dir.join ⟨c.file⟩).lexical = dir.lexical ++ [.name c.file]

/-- The stem of a file is read off its name. -/
theorem stem?_file {c : Choice} (h : IsStem c.chosen) :
    (⟨c.file⟩ : Path).stem? = some c.chosen := by
  have hname := isName_file h
  obtain ⟨-, -, -, hslash, -⟩ := isName_iff.1 hname
  have hsegments : (⟨c.file⟩ : Path).segments = [] ++ [c.file] := List.splitOn_eq_singleton hslash
  have hsplit : Path.splitName c.file = (c.chosen, some "csv".toList) :=
    Path.splitName_append_dot h.1 (by decide)
  rw [Path.stem?, Path.fileName?_of_segments hsegments hname, Option.map_some, hsplit]

theorem isSafe_of_isTidy {c : Choice} (h : IsTidy c.chosen) : IsSafe c := by
  have hstem : IsStem c.chosen :=
    ⟨h.ne_nil, fun hmem => (h.allowed _ hmem).1 (by decide),
      fun hmem => absurd (h.allowed _ hmem).2 (by decide)⟩
  have hname := isName_file hstem
  have hcomps := Path.components_of_isName hname
  obtain ⟨-, hdot, hdots, -⟩ := isName_iff.1 hname
  refine ⟨hcomps, hdot, hdots, fun ch hch => ?_, stem?_file hstem, h, fun dir => ?_⟩
  · rcases List.mem_append.1 hch with hch | hch
    · exact h.allowed ch hch
    · have hext : ".csv".toList.all (fun d => !forbidden.contains d && !isControl d) = true := by
        decide
      simpa [IsAllowed] using List.all_eq_true.1 hext ch hch
  · rw [Path.lexical_join (Path.isPlain_of_isName hname), hcomps,
      ← List.map_singleton (f := Component.name), Path.foldl_stepFrom_names, List.reverse_append,
      List.reverse_reverse, List.reverse_reverse]

/-! ## All names of an export -/

/-- The stems, in lower case, that are used up by these choices; the latest comes first. -/
def usedBy (cs : List Choice) : List Text :=
  (cs.map fun c => Text.lower c.chosen).reverse

theorem usedBy_cons_append (c : Choice) (cs : List Choice) (used : List Text) :
    usedBy (c :: cs) ++ used = usedBy cs ++ Text.lower c.chosen :: used := by
  simp [usedBy]

theorem length_usedBy (cs : List Choice) : (usedBy cs).length = cs.length := by
  simp [usedBy]

theorem choicesAfter_cons {used names : List Text} {name stem : Text} (h : stem? name = some stem) :
    choicesAfter used (name :: names) =
      .ok ⟨stem, unique used stem⟩ ::
        choicesAfter (Text.lower (unique used stem) :: used) names := by
  simp only [choicesAfter, h]

/-- Choices that were made began with that for the first name. -/
theorem exists_of_choicesAfter_cons {used names : List Text} {name : Text} {cs : List Choice}
    (h : choicesAfter used (name :: names) = cs.map .ok) :
    ∃ stem cs', stem? name = some stem ∧ cs = ⟨stem, unique used stem⟩ :: cs' ∧
      choicesAfter (Text.lower (unique used stem) :: used) names = cs'.map .ok := by
  cases hstem : stem? name with
  | none =>
    simp only [choicesAfter, hstem] at h
    cases cs with
    | nil => cases h
    | cons c cs => cases (List.cons.inj h).1
  | some stem =>
    rw [choicesAfter_cons hstem] at h
    cases cs with
    | nil => cases h
    | cons c cs =>
      obtain ⟨hc, hrest⟩ := List.cons.inj h
      exact ⟨stem, cs, rfl, by rw [Except.ok.inj hc], hrest⟩

/-- When no name is refused, every name gets a choice. -/
theorem exists_choicesAfter_eq (used : List Text) {names : List Text}
    (h : ∀ name ∈ names, stem? name ≠ none) :
    ∃ cs : List Choice, choicesAfter used names = cs.map .ok := by
  induction names generalizing used with
  | nil => exact ⟨[], rfl⟩
  | cons name names ih =>
    rw [List.forall_mem_cons] at h
    obtain ⟨stem, hstem⟩ := Option.ne_none_iff_exists'.1 h.1
    obtain ⟨cs, hcs⟩ := ih (Text.lower (unique used stem) :: used) h.2
    exact ⟨⟨stem, unique used stem⟩ :: cs, by rw [choicesAfter_cons hstem, hcs, List.map_cons]⟩

/-- Names that are accepted hand on to those after them the stems that they use up. -/
theorem choicesAfter_append {used before : List Text} {cs : List Choice}
    (h : choicesAfter used before = cs.map .ok) (after : List Text) :
    choicesAfter used (before ++ after) =
      cs.map .ok ++ choicesAfter (usedBy cs ++ used) after := by
  induction before generalizing used cs with
  | nil =>
    obtain rfl : cs = [] := List.map_eq_nil_iff.1 h.symm
    rfl
  | cons name before ih =>
    obtain ⟨stem, cs, hstem, rfl, hrest⟩ := exists_of_choicesAfter_cons h
    rw [List.cons_append, choicesAfter_cons hstem, ih hrest, usedBy_cons_append]
    rfl

/-- The choice for a name is made beside those for the names before it. -/
theorem getElem?_choicesAfter {used names : List Text} {cs : List Choice}
    (h : choicesAfter used names = cs.map .ok) {i : Nat} {name : Text}
    (hname : names[i]? = some name) :
    ∃ stem, stem? name = some stem ∧
      cs[i]? = some ⟨stem, unique (usedBy (cs.take i) ++ used) stem⟩ := by
  induction names generalizing used cs i with
  | nil => cases hname
  | cons first names ih =>
    obtain ⟨stem, cs, hstem, rfl, hrest⟩ := exists_of_choicesAfter_cons h
    cases i with
    | zero =>
      obtain rfl := Option.some.inj hname
      exact ⟨stem, hstem, rfl⟩
    | succ i =>
      -- the first choice is one of those that the later ones avoid
      rw [List.take_succ_cons, usedBy_cons_append]
      exact ih hrest hname

/-- **The file names of an export.** When every name of a sheet has a stem, the search for a free
one ends for each of them, with the least number that is needed beside the names before it, and
the file is one in the directory of the export. -/
theorem fileNames_of_accepted {names : List Text} (h : ∀ name ∈ names, stem? name ≠ none) :
    ∃ cs : List Choice, choices names = cs.map .ok ∧ cs.length = names.length ∧
      ∀ i name, names[i]? = some name → ∃ c, cs[i]? = some c ∧ stem? name = some c.wanted ∧
        (usedBy (cs.take i)).length = i ∧ IsLeastFree (usedBy (cs.take i)) c ∧ IsSafe c := by
  obtain ⟨cs, hcs⟩ := exists_choicesAfter_eq [] h
  have hlen := length_of_choicesAfter_eq hcs
  refine ⟨cs, hcs, hlen, fun i name hname => ?_⟩
  obtain ⟨stem, hstem, hc⟩ := getElem?_choicesAfter hcs hname
  rw [List.append_nil] at hc
  obtain ⟨hi, -⟩ := List.getElem?_eq_some_iff.1 hc
  refine ⟨_, hc, hstem, ?_, isLeastFree_unique _ stem, ?_⟩
  · rw [length_usedBy, List.length_take]
    omega
  · exact isSafe_of_isTidy (isTidy_unique (isTidy_of_stem? hstem) _)

/-- Three names of one word: the second is the number that the third would get, so the third is
numbered on. -/
theorem fileNames_of_accepted_numbered :
    let names := ["ΟΔΟΣ".toList, "οδος_2".toList, "οδος".toList]
    (∀ name ∈ names, stem? name ≠ none) ∧
    ∃ cs : List Choice, choices names = cs.map .ok ∧
      cs.map Choice.file = ["ΟΔΟΣ.csv".toList, "οδος_2.csv".toList, "οδος_3.csv".toList] ∧
      ∃ c, cs[2]? = some c ∧ IsLeastFree (usedBy (cs.take 2)) c ∧ IsSafe c := by
  intro names
  have haccepted : ∀ name ∈ names, stem? name ≠ none := by decide +kernel
  have hfiles : choices names =
      [.ok ⟨"ΟΔΟΣ".toList, "ΟΔΟΣ".toList⟩, .ok ⟨"οδος_2".toList, "οδος_2".toList⟩,
        .ok ⟨"οδος".toList, "οδος_3".toList⟩] := by decide +kernel
  obtain ⟨cs, hcs, -, hall⟩ := fileNames_of_accepted haccepted
  obtain ⟨c, hc, -, -, hleast, hsafe⟩ := hall 2 _ rfl
  refine ⟨haccepted, cs, hcs, ?_, c, hc, hleast, hsafe⟩
  have hok : cs.map (Except.ok : Choice → Except Error Choice) =
      [⟨"ΟΔΟΣ".toList, "ΟΔΟΣ".toList⟩, ⟨"οδος_2".toList, "οδος_2".toList⟩,
        ⟨"οδος".toList, "οδος_3".toList⟩].map .ok := hcs.symm.trans hfiles
  rw [List.map_injective_iff.2 (fun _ _ => Except.ok.inj) hok]
  decide

end FeatureSheets.FileName
