import FeatureSheets.Text.Lemmas

/-!
# Fields

Cutting a text at a separating character and joining it again. A field never holds the character
it was cut at (`not_mem_of_mem_splitOn`), so joining fields loses nothing
(`splitOn_joinWith`), and the lines of two texts with a line feed between them are the lines of
the one and then of the other (`lines_append_cons`).
-/

namespace FeatureSheets.Text

/-! ## Cutting -/

/-- No field holds the character that the text is cut at. -/
theorem not_mem_of_mem_splitOn {sep : Char} {s field : Text} (h : field ∈ s.splitOn sep) :
    sep ∉ field := by
  induction s generalizing field with
  | nil =>
    rw [List.splitOn_nil, List.mem_singleton] at h
    simp [h]
  | cons c s ih =>
    rw [List.splitOn_cons_eq_if_modifyHead] at h
    split at h
    · rcases List.mem_cons.1 h with rfl | h
      · simp
      · exact ih h
    · rename_i hc
      -- the first field of the rest takes up the character
      obtain ⟨first, rest, hs⟩ := List.exists_cons_of_ne_nil (List.splitOn_ne_nil sep s)
      rw [hs, List.modifyHead_cons] at h
      rcases List.mem_cons.1 h with rfl | h
      · have hfirst : sep ∉ first := ih (by simp [hs])
        have hne : sep ≠ c := fun e => hc (by simp [e])
        simp [hne, hfirst]
      · exact ih (by simp [hs, h])

/-- There is one field more than there are separators. -/
theorem length_splitOn (sep : Char) (s : Text) : (s.splitOn sep).length = s.count sep + 1 := by
  induction s with
  | nil => rfl
  | cons c s ih =>
    rw [List.splitOn_cons_eq_if_modifyHead, List.count_cons]
    split
    · rw [List.length_cons, ih]
    · rw [List.length_modifyHead, ih, Nat.add_zero]

/-- A line holds no line feed. -/
theorem not_mem_of_mem_lines {s line : Text} (h : line ∈ lines s) : '\n' ∉ line :=
  not_mem_of_mem_splitOn h

/-- The lines of two texts with a line feed between them. -/
theorem lines_append_cons (a b : Text) : lines (a ++ '\n' :: b) = lines a ++ lines b :=
  List.splitOn_append_cons_self a b

/-- A line feed at the end opens one more line, an empty one. -/
theorem lines_append_newline (a : Text) : lines (a ++ ['\n']) = lines a ++ [[]] :=
  lines_append_cons a []

/-! ## Joining -/

/-- Joining undoes cutting the other way round, where no field holds the separator. -/
theorem splitOn_joinWith {sep : Char} {parts : List Text} (hne : parts ≠ [])
    (h : ∀ part ∈ parts, sep ∉ part) : (joinWith sep parts).splitOn sep = parts :=
  List.splitOn_intercalate sep h hne

/-- The lines of a text that is joined from lines. -/
theorem lines_joinWith {ls : List Text} (hne : ls ≠ []) (h : ∀ line ∈ ls, '\n' ∉ line) :
    lines (joinWith '\n' ls) = ls :=
  splitOn_joinWith hne h

@[simp]
theorem joinWith_nil (sep : Char) : joinWith sep [] = [] :=
  rfl

@[simp]
theorem joinWith_singleton (sep : Char) (part : Text) : joinWith sep [part] = part := by
  simp [joinWith, List.intercalate]

theorem joinWith_cons_cons (sep : Char) (a b : Text) (parts : List Text) :
    joinWith sep (a :: b :: parts) = a ++ sep :: joinWith sep (b :: parts) := by
  simp [joinWith, List.intercalate, List.intersperse]

/-- One more part at the end. -/
theorem joinWith_append_singleton {sep : Char} {parts : List Text} (hne : parts ≠ [])
    (last : Text) : joinWith sep (parts ++ [last]) = joinWith sep parts ++ sep :: last := by
  induction parts with
  | nil => exact absurd rfl hne
  | cons a rest ih =>
    cases rest with
    | nil => simp [joinWith_cons_cons]
    | cons b rest =>
      rw [List.cons_append, List.cons_append, joinWith_cons_cons, joinWith_cons_cons,
        ← List.cons_append, ih (by simp), List.append_assoc, List.cons_append]

/-- What is joined is empty when nothing is joined, or one empty part. -/
theorem joinWith_eq_nil_iff {sep : Char} {parts : List Text} :
    joinWith sep parts = [] ↔ parts = [] ∨ parts = [[]] := by
  cases parts with
  | nil => simp
  | cons a rest =>
    cases rest with
    | nil => simp
    | cons b rest => simp [joinWith_cons_cons]

/-! ## Characters of a joined text -/

/-- Joining brings in the separator and no other character. -/
theorem eq_or_exists_of_mem_joinWith {sep c : Char} {parts : List Text}
    (h : c ∈ joinWith sep parts) : c = sep ∨ ∃ part ∈ parts, c ∈ part := by
  induction parts with
  | nil => cases h
  | cons a parts ih =>
    cases parts with
    | nil =>
      rw [joinWith_singleton] at h
      exact Or.inr ⟨a, by simp, h⟩
    | cons b parts =>
      rw [joinWith_cons_cons, List.mem_append, List.mem_cons] at h
      rcases h with h | h | h
      · exact Or.inr ⟨a, by simp, h⟩
      · exact Or.inl h
      · apply (ih h).imp_right
        intro ⟨part, hpart, h⟩
        exact ⟨part, List.mem_cons_of_mem a hpart, h⟩

/-- Joining keeps every character. -/
theorem subset_joinWith (sep : Char) {parts : List Text} {part : Text} (h : part ∈ parts) :
    part ⊆ joinWith sep parts := by
  induction parts with
  | nil => cases h
  | cons a parts ih =>
    cases parts with
    | nil =>
      rw [joinWith_singleton, List.mem_singleton.1 h]
      exact List.Subset.refl _
    | cons b parts =>
      rw [joinWith_cons_cons]
      rcases List.mem_cons.1 h with rfl | h
      · exact List.subset_append_left _ _
      · intro c hc
        have hrest := ih h hc
        simp [hrest]

/-- A field has its characters from the text that is cut. -/
theorem subset_of_mem_splitOn {sep : Char} {s field : Text} (h : field ∈ s.splitOn sep) :
    field ⊆ s := by
  have hjoin : joinWith sep (s.splitOn sep) = s := List.intercalate_splitOn sep
  rw [← hjoin]
  exact subset_joinWith sep h

/-! ## Characters of a trimmed text -/

/-- A text that begins with another character is not trimmed at the start. -/
theorem trimStart_eq_self {s : Text} {c : Char} (hs : s.head? = some c) (hc : isBlank c = false) :
    trimStart s = s := by
  cases s with
  | nil => cases hs
  | cons d s =>
    obtain rfl : d = c := Option.some.inj hs
    rw [trimStart, trimStartBy, List.dropWhile_cons_of_neg (by simp [hc])]

/-- Trimming brings in no character. -/
theorem mem_of_mem_trimBy {p : Char → Bool} {s : Text} {c : Char} (h : c ∈ trimBy p s) :
    c ∈ s := by
  obtain ⟨a, b, hs, -, -⟩ := exists_eq_append_trimBy p s
  rw [hs]
  simp [h]

/-- Nothing is left only of a text that is all margin. -/
theorem forall_of_trimBy_eq_nil {p : Char → Bool} {s : Text} (h : trimBy p s = []) :
    ∀ c ∈ s, p c = true := by
  obtain ⟨a, b, hs, ha, hb⟩ := exists_eq_append_trimBy p s
  rw [h, List.append_nil] at hs
  rw [hs, List.forall_mem_append]
  exact ⟨ha, hb⟩

/-- A text that neither begins nor ends in the margin is trimmed. -/
theorem trimBy_eq_self {p : Char → Bool} {s : Text} (hfirst : ∀ c ∈ s.head?, p c = false)
    (hlast : ∀ c ∈ s.getLast?, p c = false) : trimBy p s = s := by
  have hkept : ∀ t : Text, (∀ c ∈ t.head?, p c = false) → t.dropWhile p = t := by
    intro t ht
    cases t with
    | nil => rfl
    | cons c t =>
      rw [List.dropWhile_cons_of_neg]
      simp [ht c rfl]
  rw [trimBy, trimStartBy, hkept s hfirst, trimEndBy, hkept s.reverse (by simpa using hlast),
    List.reverse_reverse]

/-- Trimming a second time changes nothing. -/
theorem trimBy_trimBy (p : Char → Bool) (s : Text) : trimBy p (trimBy p s) = trimBy p s := by
  obtain ⟨a, b, hs, ha, hb⟩ := exists_eq_append_trimBy p s
  have h := trimBy_append_append (trimBy p s) ha hb
  rw [← hs] at h
  exact h.symm

end FeatureSheets.Text
