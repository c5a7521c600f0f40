import FeatureSheets.Proofs.Sheet.Name
import Mathlib.Data.List.Infix
import Mathlib.Data.List.Nodup

/-!
# Names within the limit

What the limit costs. Every name keeps it, and a spreadsheet accepts every name
(`sheetNames_acceptable`), however short the limit and however many rows share a base. Names that
are told apart cost more: the base must leave room for the number of every row, and must not look
like a name with a number already. Where that is so, nothing is cut and all names are different
(`sheetNames_distinct`).
-/

namespace FeatureSheets

/-! ## Texts that end in a number -/

namespace Text

/-- Whether a text ends in `_` and one or more digits. -/
def EndsInNumber (s : Text) : Prop :=
  ∃ digits : Text, digits ≠ [] ∧ (∀ c ∈ digits, c.isDigit = true) ∧ '_' :: digits <:+ s

instance (s : Text) : Decidable s.EndsInNumber :=
  decidable_of_iff
    (∃ t ∈ s.tails, t.head? = some '_' ∧ t.tail ≠ [] ∧ t.tail.all Char.isDigit = true) <| by
    constructor
    · rintro ⟨t, ht, hhead, hne, hdigits⟩
      obtain ⟨digits, rfl⟩ := List.head?_eq_some_iff.1 hhead
      exact ⟨digits, hne, List.all_eq_true.1 hdigits, (List.mem_tails _ s).1 ht⟩
    · rintro ⟨digits, hne, hdigits, hsuffix⟩
      exact ⟨'_' :: digits, (List.mem_tails _ s).2 hsuffix, rfl, hne, List.all_eq_true.2 hdigits⟩

theorem endsInNumber_append (s : Text) (n : Nat) : EndsInNumber (s ++ '_' :: ofNat n) :=
  ⟨ofNat n, ofNat_ne_nil n, fun _ hc => isDigit_of_mem_ofNat hc, List.suffix_append s _⟩

end Text

namespace SheetName

/-! ## Names with room for the number -/

variable {limit m n : Nat} {b b' : Text}

/-- Where there is room for the number, nothing is cut. -/
theorem numbered_eq_append (hn : 2 ≤ n) (hroom : b.length + (suffix n).length ≤ limit) :
    numbered limit n b = b ++ suffix n := by
  rw [numbered_of_two_le hn (by omega), List.take_of_length_le]
  omega

/-- The base and the number of a row can be read off its name. -/
theorem eq_and_eq_of_numbered_eq (hm : 1 ≤ m) (hn : 1 ≤ n)
    (hb : ¬Text.EndsInNumber b) (hb' : ¬Text.EndsInNumber b')
    (hroom : b.length + (suffix m).length ≤ limit)
    (hroom' : b'.length + (suffix n).length ≤ limit)
    (h : numbered limit m b = numbered limit n b') : b = b' ∧ m = n := by
  have hbare : ∀ c : Text, numbered limit 1 c = c := fun c => if_pos (Nat.le_refl 1)
  by_cases hm₁ : m = 1
  · subst hm₁
    by_cases hn₁ : n = 1
    · subst hn₁
      rw [hbare, hbare] at h
      exact ⟨h, rfl⟩
    · -- a bare base would end in the number of the other row
      rw [hbare, numbered_eq_append (by omega) hroom'] at h
      exact absurd (h ▸ Text.endsInNumber_append b' n) hb
  · rw [numbered_eq_append (by omega) hroom] at h
    by_cases hn₁ : n = 1
    · subst hn₁
      rw [hbare] at h
      exact absurd (h ▸ Text.endsInNumber_append b m) hb'
    · -- both end in a number, which is the same one; what stands before it is the base
      rw [numbered_eq_append (by omega) hroom'] at h
      have hend : suffix n <:+ b ++ suffix m := h ▸ List.suffix_append b' _
      have hmn : m = n := Text.eq_of_isSuffix_of_isSuffix (List.suffix_append b _) hend
      rw [hmn] at h
      exact ⟨List.append_cancel_right h, hmn⟩

section

variable {wanted : List Text} {i : Nat}

theorem length_bases (limit : Nat) (wanted : List Text) :
    (bases limit wanted).length = wanted.length :=
  length_basesFrom limit 0 wanted

/-- No row has a number with more digits than the number of rows, so a base that leaves room for
the latter has room for its own. -/
theorem length_add_length_suffix_le
    (hroom : ∀ b ∈ bases limit wanted, b.length + 1 + (Text.ofNat wanted.length).length ≤ limit)
    (hb : (bases limit wanted)[i]? = some b) :
    b.length + (suffix (((bases limit wanted).take i).count b + 1)).length ≤ limit := by
  obtain ⟨hi, -⟩ := List.getElem?_eq_some_iff.1 hb
  have hcount : ((bases limit wanted).take i).count b ≤ i :=
    Nat.le_trans List.count_le_length (List.length_take_le i _)
  have hlen := length_bases limit wanted
  have hle : ((bases limit wanted).take i).count b + 1 ≤ wanted.length := by omega
  have hdigits := Text.length_ofNat_mono hle
  have hbase := hroom b (List.mem_of_getElem? hb)
  rw [suffix, List.length_cons]
  omega

theorem nodup_names
    (hroom : ∀ b ∈ bases limit wanted, b.length + 1 + (Text.ofNat wanted.length).length ≤ limit)
    (hends : ∀ b ∈ bases limit wanted, ¬b.EndsInNumber) : (names limit wanted).Nodup := by
  rw [List.nodup_iff_getElem?_ne_getElem?]
  intro i j hij hj hsame
  rw [length_names, ← length_bases limit wanted] at hj
  have hi := List.getElem?_eq_getElem (hij.trans hj)
  have hj := List.getElem?_eq_getElem hj
  rw [getElem?_names hi, getElem?_names hj] at hsame
  obtain ⟨hbase, hcount⟩ := eq_and_eq_of_numbered_eq (by omega) (by omega)
    (hends _ (List.mem_of_getElem? hi)) (hends _ (List.mem_of_getElem? hj))
    (length_add_length_suffix_le hroom hi) (length_add_length_suffix_le hroom hj)
    (Option.some.inj hsame)
  -- with one base, the later row has counted the earlier one
  have hlt := count_take_lt hij hi
  rw [← hbase] at hcount
  omega

end

/-! ## Names that a spreadsheet accepts -/

/-- Whether a name keeps the limit and holds no character that a spreadsheet rejects, and is there
where the limit allows one. -/
structure IsAcceptable (limit : Nat) (name : Text) : Prop where
  /-- The name is no longer than the limit. -/
  length_le : name.length ≤ limit
  /-- No rejected character is in the name. -/
  not_mem : ∀ c ∈ ['/', '\\', '?', '*', '[', ']', ':'], c ∉ name
  /-- The name is not empty. -/
  ne_nil : 1 ≤ limit → name ≠ []

theorem not_mem_sanitize {c : Char} (hc : c ∈ forbidden) (name : Text) : c ∉ sanitize name := by
  intro hmem
  obtain ⟨d, -, rfl⟩ := List.mem_map.1 hmem
  by_cases hd : d ∈ forbidden
  · rw [if_pos (List.contains_iff_mem.2 hd)] at hc
    exact absurd hc (by decide)
  · rw [if_neg (mt List.contains_iff_mem.1 hd)] at hc
    exact hd hc

theorem not_mem_suffix {c : Char} (hc : c ∈ forbidden) (n : Nat) : c ∉ suffix n := by
  intro hmem
  have hplain : forbidden.all (fun c => c != '_' && !c.isDigit) = true := by decide
  have hc := List.all_eq_true.1 hplain c hc
  rw [Bool.and_eq_true, bne_iff_ne, Bool.not_eq_true'] at hc
  rcases List.mem_cons.1 hmem with heq | hdigit
  · exact hc.1 heq
  · exact Bool.eq_false_iff.1 hc.2 (Text.isDigit_of_mem_ofNat hdigit)

/-- The fallback sees to it that a base is not empty. -/
theorem isAcceptable_base (limit index : Nat) (wanted : Text) :
    IsAcceptable limit (base limit index wanted) where
  length_le := List.length_take_le limit _
  not_mem c hc hmem := not_mem_sanitize hc _ (List.mem_of_mem_take hmem)
  ne_nil hlimit := by
    have hname : (if wanted = [] then fallback index else wanted) ≠ [] := by
      split
      · exact List.cons_ne_nil 'S' _
      · assumption
    have hone : limit ≠ 0 := by omega
    rw [base, sanitize, Ne, List.take_eq_nil_iff, List.map_eq_nil_iff]
    exact not_or.2 ⟨hone, hname⟩

/-- The second cut keeps the limit where the number alone would break it, and the number is there
where it leaves nothing of the base. -/
theorem IsAcceptable.numbered (h : IsAcceptable limit b) (n : Nat) :
    IsAcceptable limit (numbered limit n b) := by
  unfold SheetName.numbered
  split
  · exact h
  · refine ⟨List.length_take_le limit _, fun c hc hmem => ?_, fun hlimit => ?_⟩
    · rcases List.mem_append.1 (List.mem_of_mem_take hmem) with hbase | hnumber
      · exact h.not_mem c hc (List.mem_of_mem_take hbase)
      · exact not_mem_suffix hc n hnumber
    · have hone : limit ≠ 0 := by omega
      rw [Ne, List.take_eq_nil_iff, List.append_eq_nil_iff]
      exact not_or.2 ⟨hone, fun hnil => List.cons_ne_nil '_' _ hnil.2⟩

theorem isAcceptable_of_mem_names {wanted : List Text} {name : Text}
    (h : name ∈ names limit wanted) : IsAcceptable limit name := by
  obtain ⟨i, hi, rfl⟩ := List.getElem_of_mem h
  have hlen : i < (bases limit wanted).length := by
    rwa [length_bases, ← length_names limit wanted]
  have hname := getElem?_names (List.getElem?_eq_getElem hlen)
  rw [List.getElem?_eq_getElem hi, Option.some.injEq] at hname
  obtain ⟨w, -, hbase⟩ := List.mem_map.1 (List.getElem_mem hlen)
  rw [hname, ← hbase]
  exact (isAcceptable_base limit w.2 w.1).numbered _

end SheetName

/-! ## Names of sheets -/

/-- **Names differ where suffixes cannot interfere.** If every base leaves room for `_` and as
many digits as the number of rows has, and none ends in a number, all sheets have different names:
the first row with a base keeps it, and every later one has it with its number. -/
theorem sheetNames_distinct {config : SheetConfig} {rows : List ExportRow}
    (hroom : ∀ b ∈ baseNames config rows,
      b.length + 1 + (Text.ofNat rows.length).length ≤ config.nameLimit)
    (hends : ∀ b ∈ baseNames config rows, ¬b.EndsInNumber) :
    ((buildSheets config rows).map Sheet.name).Nodup ∧
      ∀ i b, (baseNames config rows)[i]? = some b →
        (b ∉ (baseNames config rows).take i →
          ((buildSheets config rows).map Sheet.name)[i]? = some b) ∧
        ∀ k, 2 ≤ k → ((baseNames config rows).take (i + 1)).count b = k →
          ((buildSheets config rows).map Sheet.name)[i]? = some (b ++ '_' :: Text.ofNat k) := by
  rw [map_name_buildSheets]
  unfold baseNames at hroom hends ⊢
  rw [← List.length_map ExportRow.sheetName] at hroom
  refine ⟨SheetName.nodup_names hroom hends, fun i b hb => ?_⟩
  have hfit := SheetName.length_add_length_suffix_le hroom hb
  rw [SheetName.getElem?_names hb]
  constructor
  · intro hfirst
    rw [List.count_eq_zero.2 hfirst]
    rfl
  · intro k hk hcount
    rw [← SheetName.count_take_succ hb, hcount] at hfit ⊢
    rw [SheetName.numbered_eq_append hk hfit]
    rfl

/-- Two rows that meet in the name of the second one, and two that meet in a base. -/
theorem sheetNames_distinct_fallback :
    let row (name : String) : ExportRow := ⟨[], [], [], none, name.toList⟩
    let rows := [row "Sheet2", row "", row "a/b", row "a?b"]
    (∀ b ∈ baseNames .standard rows,
      b.length + 1 + (Text.ofNat rows.length).length ≤ SheetConfig.standard.nameLimit) ∧
    (∀ b ∈ baseNames .standard rows, ¬b.EndsInNumber) ∧
    ((buildSheets .standard rows).map Sheet.name).Nodup ∧
    ((buildSheets .standard rows).map Sheet.name)[1]? = some "Sheet2_2".toList ∧
    ((buildSheets .standard rows).map Sheet.name)[3]? = some "a_b_2".toList := by
  intro row rows
  have hroom : ∀ b ∈ baseNames .standard rows,
      b.length + 1 + (Text.ofNat rows.length).length ≤ SheetConfig.standard.nameLimit := by
    decide +kernel
  have hends : ∀ b ∈ baseNames .standard rows, ¬b.EndsInNumber := by
    decide +kernel
  obtain ⟨hnodup, hnames⟩ := sheetNames_distinct hroom hends
  refine ⟨hroom, hends, hnodup, ?_, ?_⟩
  · exact (hnames 1 "Sheet2".toList (by decide +kernel)).2 2 (by omega) (by decide +kernel)
  · exact (hnames 3 "a_b".toList (by decide +kernel)).2 2 (by omega) (by decide +kernel)

/-- **Every name is acceptable**, whatever the limit. -/
theorem sheetNames_acceptable (config : SheetConfig) (rows : List ExportRow) :
    ∀ sheet ∈ buildSheets config rows,
      SheetName.IsAcceptable config.nameLimit sheet.name := by
  intro sheet hsheet
  have hname : sheet.name ∈ (buildSheets config rows).map Sheet.name :=
    List.mem_map_of_mem hsheet
  rw [map_name_buildSheets] at hname
  exact SheetName.isAcceptable_of_mem_names hname

/-- A limit that is shorter than the number: the second name keeps it, and is the first one
again. -/
theorem sheetNames_acceptable_one :
    let config : SheetConfig := { SheetConfig.standard with maxSheetNameLen := 1 }
    let row : ExportRow := ⟨[], [], [], none, "?".toList⟩
    ∃ first second : Sheet, buildSheets config [row, row] = [first, second] ∧
      SheetName.IsAcceptable 1 first.name ∧ SheetName.IsAcceptable 1 second.name ∧
      first.name = "_".toList ∧ second.name = "_".toList := by
  intro config row
  have hacceptable := sheetNames_acceptable config [row, row]
  refine ⟨_, _, rfl, hacceptable _ ?_, hacceptable _ ?_, by decide, by decide⟩
  · exact List.mem_cons_self
  · exact List.mem_cons_of_mem _ List.mem_cons_self

end FeatureSheets
