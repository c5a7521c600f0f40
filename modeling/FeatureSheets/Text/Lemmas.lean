import FeatureSheets.Text.Basic

/-!
# Trimmed texts

What trimming takes away and what it leaves. A text is its trimmed form between two margins
(`exists_eq_append_trimBy`), a trimmed text begins and ends outside the margin
(`head?_trimBy`, `getLast?_trimBy`), and more margin makes no difference
(`trimBy_append_append`).
-/

namespace FeatureSheets.Text

variable {p : Char → Bool}

/-! ## What is taken away -/

theorem exists_eq_append_trimStartBy (p : Char → Bool) (s : Text) :
    ∃ a, s = a ++ trimStartBy p s ∧ ∀ c ∈ a, p c = true :=
  ⟨s.takeWhile p, List.takeWhile_append_dropWhile.symm,
    fun c hc => List.all_eq_true.1 List.all_takeWhile c hc⟩

theorem exists_eq_trimEndBy_append (p : Char → Bool) (s : Text) :
    ∃ b, s = trimEndBy p s ++ b ∧ ∀ c ∈ b, p c = true := by
  obtain ⟨a, ha, hp⟩ := exists_eq_append_trimStartBy p s.reverse
  refine ⟨a.reverse, ?_, fun c hc => hp c (List.mem_reverse.1 hc)⟩
  have h : s.reverse.reverse = (trimStartBy p s.reverse).reverse ++ a.reverse := by
    rw [← List.reverse_append, ← ha]
  simpa [trimEndBy, trimStartBy] using h

/-- A text is its trimmed form between two margins. -/
theorem exists_eq_append_trimBy (p : Char → Bool) (s : Text) :
    ∃ a b, s = a ++ trimBy p s ++ b ∧ (∀ c ∈ a, p c = true) ∧ ∀ c ∈ b, p c = true := by
  obtain ⟨a, ha, hpa⟩ := exists_eq_append_trimStartBy p s
  obtain ⟨b, hb, hpb⟩ := exists_eq_trimEndBy_append p (trimStartBy p s)
  exact ⟨a, b, by rw [trimBy, List.append_assoc, ← hb, ← ha], hpa, hpb⟩

/-! ## What is left -/

theorem head?_trimStartBy {s : Text} {c : Char} (h : (trimStartBy p s).head? = some c) :
    p c = false := by
  have hd := List.head?_dropWhile_not p s
  rw [trimStartBy] at h
  simpa [h] using hd

/-- The last character of a trimmed text is outside the margin. -/
theorem getLast?_trimEndBy {s : Text} {c : Char} (h : (trimEndBy p s).getLast? = some c) :
    p c = false :=
  head?_trimStartBy (s := s.reverse) (by simpa [trimEndBy, trimStartBy] using h)

theorem getLast?_trimBy {s : Text} {c : Char} (h : (trimBy p s).getLast? = some c) :
    p c = false :=
  getLast?_trimEndBy h

/-- The first character of a trimmed text is outside the margin. -/
theorem head?_trimBy {s : Text} {c : Char} (h : (trimBy p s).head? = some c) : p c = false := by
  obtain ⟨b, hb, -⟩ := exists_eq_trimEndBy_append p (trimStartBy p s)
  refine head?_trimStartBy (s := s) ?_
  rw [hb, List.head?_append]
  simpa [trimBy] using Or.inl h

/-! ## More margin -/

theorem trimStartBy_append {a : Text} (s : Text) (h : ∀ c ∈ a, p c = true) :
    trimStartBy p (a ++ s) = trimStartBy p s :=
  List.dropWhile_append_of_pos h

theorem trimEndBy_append {b : Text} (s : Text) (h : ∀ c ∈ b, p c = true) :
    trimEndBy p (s ++ b) = trimEndBy p s := by
  rw [trimEndBy, List.reverse_append,
    List.dropWhile_append_of_pos fun c hc => h c (List.mem_reverse.1 hc), ← trimEndBy]

/-- Nothing is left of a text that is all margin, and of no other. -/
theorem trimEndBy_eq_nil_iff {s : Text} : trimEndBy p s = [] ↔ ∀ c ∈ s, p c = true := by
  constructor
  · intro h
    obtain ⟨b, hb, hp⟩ := exists_eq_trimEndBy_append p s
    rw [h, List.nil_append] at hb
    rwa [hb]
  · exact trimEndBy_append []

/-- Margins that are added are trimmed. -/
theorem trimBy_append_append {a b : Text} (s : Text) (ha : ∀ c ∈ a, p c = true)
    (hb : ∀ c ∈ b, p c = true) : trimBy p (a ++ s ++ b) = trimBy p s := by
  rw [trimBy, List.append_assoc, trimStartBy_append (s ++ b) ha]
  by_cases hs : trimStartBy p s = []
  · have h : trimStartBy p (s ++ b) = [] := by
      rw [trimStartBy] at hs
      rw [trimStartBy, List.dropWhile_append, hs]
      simpa [trimStartBy] using trimStartBy_append [] hb
    rw [trimBy, h, hs]
  · have h : trimStartBy p (s ++ b) = trimStartBy p s ++ b := by
      rw [trimStartBy] at hs
      simp [trimStartBy, List.dropWhile_append, hs]
    rw [trimBy, h, trimEndBy_append _ hb]

end FeatureSheets.Text
