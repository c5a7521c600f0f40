import Mathlib.Data.List.Forall2

/-!
# Lists

Searching a list for a value, leaving out what a list has already, the positions at which things
stand, and lists that are related element by element: what the modules on documents and sheets
need beyond the library.
-/

namespace FeatureSheets

/-! ## Search -/

/-- A function that is `none` or one value all over a list, and that value somewhere, finds that
value. -/
theorem findSome?_eq_some_of_forall {α β : Type} {f : α → Option β} {l : List α} {a : α} {b : β}
    (ha : a ∈ l) (hfa : f a = some b) (h : ∀ x ∈ l, f x = none ∨ f x = some b) :
    l.findSome? f = some b := by
  cases hl : l.findSome? f with
  | none =>
    rw [List.findSome?_eq_none_iff.1 hl a ha] at hfa
    cases hfa
  | some b' =>
    obtain ⟨x, hx, hfx⟩ := List.exists_of_findSome?_eq_some hl
    rcases h x hx with h' | h' <;> rw [hfx] at h'
    · cases h'
    · exact h'

/-! ## Order of first appearance -/

/-- What appeared before may be left out. -/
theorem eraseDups_append_of_subset {α : Type} [BEq α] [LawfulBEq α] {xs ys : List α}
    (h : ∀ y ∈ ys, y ∈ xs) (zs : List α) : (xs ++ ys ++ zs).eraseDups = (xs ++ zs).eraseDups := by
  have hys : (ys ++ zs).removeAll xs = zs.removeAll xs := by
    rw [List.removeAll, List.filter_append, List.filter_eq_nil_iff.2, List.nil_append,
      List.removeAll]
    intro y hy
    simp [h y hy]
  rw [List.append_assoc, List.eraseDups_append, hys, List.eraseDups_append]

/-- No element is left twice. -/
theorem nodup_eraseDups {α : Type} [BEq α] [LawfulBEq α] (l : List α) : l.eraseDups.Nodup := by
  -- the rest of the list loses the copies of its first element, so the induction is on the length
  induction h : l.length using Nat.strongRecOn generalizing l with
  | ind n ih =>
    cases l with
    | nil => exact List.Pairwise.nil
    | cons a l =>
      have hlt : (l.filter fun b => !b == a).length < n := by
        have hle := List.length_filter_le (fun b => !b == a) l
        rw [List.length_cons] at h
        omega
      rw [List.eraseDups_cons, List.nodup_cons]
      refine ⟨fun hmem => ?_, ih _ hlt _ rfl⟩
      have hmem := (List.mem_filter.1 (List.mem_eraseDups.1 hmem)).2
      simp at hmem

/-- Where no element stands twice, nothing is left out. -/
theorem eraseDups_of_nodup {α : Type} [BEq α] [LawfulBEq α] {l : List α} (h : l.Nodup) :
    l.eraseDups = l := by
  induction l with
  | nil => rfl
  | cons a l ih =>
    obtain ⟨ha, hl⟩ := List.nodup_cons.1 h
    have hothers : l.filter (fun b => !b == a) = l := by
      rw [List.filter_eq_self]
      intro b hb
      have hne : b ≠ a := fun e => ha (e ▸ hb)
      simp [hne]
    rw [List.eraseDups_cons, hothers, ih hl]

/-- Where no element stands twice, an element stands at one position. -/
theorem filter_zipIdx_of_nodup {α : Type} [BEq α] [LawfulBEq α] {l : List α} (h : l.Nodup)
    {i : Nat} {a : α} (hi : l[i]? = some a) (first : Nat) :
    (l.zipIdx first).filter (fun x => x.1 == a) = [(a, first + i)] := by
  induction l generalizing i first with
  | nil => cases hi
  | cons b l ih =>
    obtain ⟨hb, hl⟩ := List.nodup_cons.1 h
    rw [List.zipIdx_cons]
    cases i with
    | zero =>
      obtain rfl : b = a := Option.some.inj hi
      have hnone : (l.zipIdx (first + 1)).filter (fun x => x.1 == b) = [] := by
        rw [List.filter_eq_nil_iff]
        intro x hx he
        have hmem : x.1 ∈ l := List.fst_mem_of_mem_zipIdx hx
        exact hb (by simpa using (beq_iff_eq.1 he) ▸ hmem)
      rw [List.filter_cons_of_pos (by simp), hnone]
      rfl
    | succ i =>
      have hmem : a ∈ l := List.mem_of_getElem? hi
      have hne : b ≠ a := fun e => hb (e ▸ hmem)
      rw [List.filter_cons_of_neg (by simpa using hne), ih hl hi, Nat.add_right_comm, Nat.add_assoc]

/-! ## Positions -/

/-- An element at a position of the longest front that satisfies `p` satisfies it, and so does
everything before it. -/
theorem getElem?_takeWhile_eq_some_iff {α : Type} {p : α → Bool} {l : List α} {n : Nat} {a : α} :
    (l.takeWhile p)[n]? = some a ↔
      l[n]? = some a ∧ p a = true ∧ ∀ m b, m < n → l[m]? = some b → p b = true := by
  induction l generalizing n with
  | nil => simp
  | cons c l ih =>
    cases hc : p c with
    | false =>
      -- the front is empty, and the first element would have to satisfy `p`
      rw [List.takeWhile_cons_of_neg (by simp [hc])]
      refine iff_of_false (by simp) ?_
      rintro ⟨ha, hpa, hbefore⟩
      have hpc : p c = true := by
        cases n with
        | zero =>
          obtain rfl : c = a := Option.some.inj ha
          exact hpa
        | succ n => exact hbefore 0 c (Nat.succ_pos n) rfl
      rw [hc] at hpc
      cases hpc
    | true =>
      rw [List.takeWhile_cons_of_pos hc]
      cases n with
      | zero =>
        refine (and_iff_left_of_imp fun ha => ⟨?_, fun m b hm => by omega⟩).symm
        obtain rfl : c = a := Option.some.inj ha
        exact hc
      | succ n =>
        rw [List.getElem?_cons_succ, List.getElem?_cons_succ, ih]
        refine and_congr_right fun _ => and_congr_right fun _ =>
          ⟨fun h m b hm hb => ?_, fun h m b hm hb => h (m + 1) b (by omega) hb⟩
        cases m with
        | zero =>
          obtain rfl : c = b := Option.some.inj hb
          exact hc
        | succ m => exact h m b (by omega) hb

/-- The same for a front of what is left from `start` on, by the positions in the whole list. -/
theorem getElem?_takeWhile_drop_eq_some_iff {α : Type} {p : α → Bool} {l : List α}
    {start i : Nat} (h : start ≤ i) {a : α} :
    ((l.drop start).takeWhile p)[i - start]? = some a ↔
      l[i]? = some a ∧ p a = true ∧
        ∀ n b, start ≤ n → n < i → l[n]? = some b → p b = true := by
  rw [getElem?_takeWhile_eq_some_iff, List.getElem?_drop, Nat.add_sub_cancel' h]
  refine and_congr_right fun _ => and_congr_right fun _ =>
    ⟨fun hall n b hn hni hb => ?_, fun hall m b hm hb => ?_⟩
  · refine hall (n - start) b (by omega) ?_
    rw [List.getElem?_drop, Nat.add_sub_cancel' hn]
    exact hb
  · rw [List.getElem?_drop] at hb
    exact hall (start + m) b (by omega) (by omega) hb

theorem mem_findIdxs_iff {α : Type} {p : α → Bool} {l : List α} {start i : Nat} :
    i ∈ l.findIdxs p start ↔ start ≤ i ∧ ∃ a, l[i - start]? = some a ∧ p a = true := by
  rw [List.mem_findIdxs_iff_getElem_sub_pos]
  refine and_congr_right fun _ => ⟨fun ⟨hlt, hp⟩ => ⟨_, List.getElem?_eq_getElem hlt, hp⟩, ?_⟩
  rintro ⟨a, ha, hp⟩
  obtain ⟨hlt, rfl⟩ := List.getElem?_eq_some_iff.1 ha
  exact ⟨hlt, hp⟩

/-- What a function makes of a list comes from the positions at which it gives something. -/
theorem forall₂_findIdxs_filterMap {α β : Type} (f : α → Option β) (l : List α) (start : Nat) :
    List.Forall₂ (fun i b => start ≤ i ∧ ∃ a, l[i - start]? = some a ∧ f a = some b)
      (l.findIdxs (fun a => (f a).isSome) start) (l.filterMap f) := by
  induction l generalizing start with
  | nil => exact .nil
  | cons a l ih =>
    have hrest : List.Forall₂
        (fun i b => start ≤ i ∧ ∃ a', (a :: l)[i - start]? = some a' ∧ f a' = some b)
        (l.findIdxs (fun a => (f a).isSome) (start + 1)) (l.filterMap f) := by
      refine (ih (start + 1)).imp ?_
      rintro i b ⟨hi, a', ha', hb⟩
      refine ⟨by omega, a', ?_, hb⟩
      rw [show i - start = i - (start + 1) + 1 by omega, List.getElem?_cons_succ]
      exact ha'
    cases h : f a with
    | none =>
      rw [List.findIdxs_cons, h, List.filterMap_cons_none h]
      exact hrest
    | some b =>
      rw [List.findIdxs_cons, h, List.filterMap_cons_some h]
      exact .cons ⟨Nat.le_refl start, a, by simp, h⟩ hrest

/-! ## Lists related element by element -/

/-- What is related to a list that is related to a third one is related to the third one, by what
the two relations come to together. -/
theorem forall₂_trans {α β γ : Type} {R : α → β → Prop} {S : β → γ → Prop} {T : α → γ → Prop}
    {as : List α} {bs : List β} {cs : List γ} (hR : List.Forall₂ R as bs)
    (hS : List.Forall₂ S bs cs) (h : ∀ a b c, R a b → S b c → T a c) : List.Forall₂ T as cs := by
  induction hR generalizing cs with
  | nil =>
    cases hS
    exact .nil
  | @cons a b as bs hab _ ih =>
    cases hS with
    | cons hbc hS => exact .cons (h a b _ hab hbc) (ih hS)

/-- Zipping with a list of the same length is related to the second list element by element, if
the function relates an element to what it makes of it. -/
theorem forall₂_zipWith_right {α β γ : Type} {R : β → γ → Prop} {f : α → β → γ} {as : List α}
    {bs : List β} (hlen : as.length = bs.length) (h : ∀ b ∈ bs, ∀ a, R b (f a b)) :
    List.Forall₂ R bs (as.zipWith f bs) := by
  induction bs generalizing as with
  | nil =>
    rw [List.zipWith_nil_right]
    exact .nil
  | cons b bs ih =>
    obtain ⟨a, as, rfl⟩ := List.exists_cons_of_length_eq_add_one hlen
    rw [List.zipWith_cons_cons]
    exact .cons (h b (by simp) a) (ih (Nat.succ.inj hlen) fun b' hb' => h b' (by simp [hb']))

/-- Every element of the second list has one of the first to which it is related. -/
theorem exists_of_mem_right {α β : Type} {R : α → β → Prop} {as : List α} {bs : List β}
    (h : List.Forall₂ R as bs) {b : β} (hb : b ∈ bs) : ∃ a ∈ as, R a b := by
  induction h with
  | nil => cases hb
  | @cons a b' as bs hab _ ih =>
    rcases List.mem_cons.1 hb with rfl | hb
    · exact ⟨a, by simp, hab⟩
    · obtain ⟨a', ha', hR⟩ := ih hb
      exact ⟨a', by simp [ha'], hR⟩

/-- Lists that are related element by element may be told together where a third list is related
to one of them. -/
theorem forall₂_zip_left {α β γ : Type} {R : α → β → Prop} {S : α × β → γ → Prop} {as : List α}
    {bs : List β} {cs : List γ} (hR : List.Forall₂ R as bs)
    (h : List.Forall₂ (fun b c => ∀ a, R a b → S (a, b) c) bs cs) :
    List.Forall₂ S (as.zip bs) cs := by
  induction hR generalizing cs with
  | nil =>
    cases h
    exact .nil
  | @cons a b as bs hab _ ih =>
    cases h with
    | cons hbc h => exact .cons (hbc a hab) (ih h)

end FeatureSheets
