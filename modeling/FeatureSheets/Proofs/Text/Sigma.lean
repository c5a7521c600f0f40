import FeatureSheets.Text.Lower
import Mathlib.Data.List.Basic

/-!
# Where the two lower-case forms differ

A text in lower case has the same characters at the same places whether its characters are mapped
together or each on its own, but for capital sigmas at the end of a word
(`getElem?_lowerFrom_cases`). So two texts that agree with each character on its own, and not in
lower case, have such a sigma in one where the other has a small one or one that ends no word
(`sigmaApart_of_lowerEach_eq`).
-/

namespace FeatureSheets.Text

/-- The lower-case form of a text, each character on its own. -/
def lowerEach (s : Text) : Text :=
  s.flatMap lowerChar

/-- Whether a word ends between the two texts, where a letter without case of its own stands. -/
def EndsWord (before after : Text) : Prop :=
  startsCased before.reverse = true ∧ startsCased after = false

/-- Whether a capital sigma ends a word of `s` where `t` has a small sigma, or a capital one that
ends no word. -/
def SigmaApart (s t : Text) : Prop :=
  ∃ s₁ s₂ t₁ c t₂, s = s₁ ++ 'Σ' :: s₂ ∧ t = t₁ ++ c :: t₂ ∧ lowerEach s₁ = lowerEach t₁ ∧
    EndsWord s₁ s₂ ∧ (c = 'σ' ∨ c = 'Σ' ∧ ¬EndsWord t₁ t₂)

/-! ## Each character on its own -/

theorem lowerEach_cons (c : Char) (s : Text) : lowerEach (c :: s) = lowerChar c ++ lowerEach s :=
  List.flatMap_cons

theorem lowerEach_append (s t : Text) : lowerEach (s ++ t) = lowerEach s ++ lowerEach t :=
  List.flatMap_append

theorem lowerChar_sigma : lowerChar 'Σ' = ['σ'] := by
  decide +kernel

theorem toNat_ofNat_eq {n : Nat} {c : Char} (h : Char.ofNat n = c) (hc : c ≠ '\x00') :
    n = c.toNat := by
  by_cases hvalid : n.isValidChar
  · rw [← h, Char.ofNat, dif_pos hvalid]
    rfl
  · rw [Char.ofNat, dif_neg hvalid] at h
    exact absurd h.symm hc

/-- A small sigma comes of itself and of a capital one, and stands alone. -/
theorem lowerChar_of_mem {c : Char} (h : 'σ' ∈ lowerChar c) :
    lowerChar c = ['σ'] ∧ (c = 'σ' ∨ c = 'Σ') := by
  -- the only character of any run whose form is a small sigma is the capital one
  have hruns : ∀ run ∈ lowerRuns, run.covers ('σ'.toNat - run.shift).toNat = true →
      ('σ'.toNat - run.shift).toNat = 'Σ'.toNat := by decide +kernel
  have hvalue : 'σ'.toNat = 0x3C3 := rfl
  rw [lowerChar] at h ⊢
  split at h
  · exact absurd h (by decide)
  · rename_i hdotted
    rw [if_neg hdotted]
    split at h
    · rename_i run hfind
      have hsigma := toNat_ofNat_eq (List.mem_singleton.1 h).symm (by decide)
      have hcovers := List.find?_some hfind
      have hc : ('σ'.toNat - run.shift).toNat = c.toNat := by omega
      have hcapital := hruns run (List.mem_of_find?_eq_some hfind) (hc ▸ hcovers)
      refine ⟨?_, .inr (Char.toNat_inj.1 (hc.symm.trans hcapital))⟩
      rw [List.mem_singleton.1 h]
    · rename_i hfind
      rw [List.mem_singleton.1 h]
      exact ⟨rfl, .inl rfl⟩

/-- Where the form of a text has a small sigma, the text has a small or a capital one. -/
theorem exists_of_getElem?_lowerEach {s : Text} {p : Nat} (h : (lowerEach s)[p]? = some 'σ') :
    ∃ s₁ c s₂, s = s₁ ++ c :: s₂ ∧ (lowerEach s₁).length = p ∧ (c = 'σ' ∨ c = 'Σ') := by
  induction s generalizing p with
  | nil => cases h
  | cons c s ih =>
    rw [lowerEach_cons] at h
    -- the place is in the form of the first character, or behind it
    by_cases hp : p < (lowerChar c).length
    · rw [List.getElem?_append_left hp] at h
      obtain ⟨hone, hc⟩ := lowerChar_of_mem (List.mem_of_getElem? h)
      rw [hone, List.length_singleton] at hp
      exact ⟨[], c, s, rfl, by simp [lowerEach]; omega, hc⟩
    · obtain ⟨q, rfl⟩ := Nat.exists_eq_add_of_le (Nat.le_of_not_lt hp)
      rw [List.getElem?_append_right (Nat.le_add_right _ q), Nat.add_sub_cancel_left] at h
      obtain ⟨s₁, d, s₂, rfl, hlen, hd⟩ := ih h
      refine ⟨c :: s₁, d, s₂, rfl, ?_, hd⟩
      rw [lowerEach_cons, List.length_append, hlen]

/-! ## Characters together -/

theorem length_lowerBetween (before : Text) (c : Char) (rest : Text) :
    (lowerBetween before c rest).length = (lowerChar c).length := by
  rw [lowerBetween]
  split
  · rename_i hc
    rw [hc, lowerChar_sigma]
    split <;> rfl
  · rfl

theorem lowerBetween_of_ne {before : Text} {c : Char} {rest : Text} (h : c ≠ 'Σ') :
    lowerBetween before c rest = lowerChar c :=
  if_neg h

theorem lowerBetween_of_endsWord {before rest : Text} (h : EndsWord before.reverse rest) :
    lowerBetween before 'Σ' rest = ['ς'] := by
  obtain ⟨hbefore, hafter⟩ := h
  rw [List.reverse_reverse] at hbefore
  rw [lowerBetween, if_pos rfl, hbefore, hafter]
  rfl

theorem lowerBetween_of_not_endsWord {before rest : Text} (h : ¬EndsWord before.reverse rest) :
    lowerBetween before 'Σ' rest = ['σ'] := by
  rw [EndsWord, List.reverse_reverse] at h
  rw [lowerBetween, if_pos rfl, if_neg]
  simpa using h

/-- What stands at a place of the lower-case form is what stands there with each character on its
own, but at a capital sigma that ends a word. -/
theorem getElem?_lowerFrom_cases (before s : Text) (p : Nat) :
    (lowerFrom before s)[p]? = (lowerEach s)[p]? ∨
      ∃ s₁ s₂, s = s₁ ++ 'Σ' :: s₂ ∧ (lowerEach s₁).length = p ∧
        EndsWord (before.reverse ++ s₁) s₂ ∧ (lowerFrom before s)[p]? = some 'ς' ∧
        (lowerEach s)[p]? = some 'σ' := by
  induction s generalizing before p with
  | nil => exact .inl rfl
  | cons c s ih =>
    rw [lowerFrom, lowerEach_cons]
    -- the forms of the first character have one length, so places behind them stay in step
    by_cases hp : p < (lowerChar c).length
    · rw [List.getElem?_append_left hp, List.getElem?_append_left (length_lowerBetween .. ▸ hp)]
      by_cases hc : c = 'Σ'
      · subst hc
        by_cases hends : EndsWord before.reverse s
        · rw [lowerChar_sigma, List.length_singleton] at hp
          obtain rfl : p = 0 := by omega
          rw [lowerBetween_of_endsWord hends, lowerChar_sigma]
          exact .inr ⟨[], s, rfl, rfl, by rwa [List.append_nil], rfl, rfl⟩
        · rw [lowerBetween_of_not_endsWord hends, lowerChar_sigma]
          exact .inl rfl
      · rw [lowerBetween_of_ne hc]
        exact .inl rfl
    · obtain ⟨q, rfl⟩ := Nat.exists_eq_add_of_le (Nat.le_of_not_lt hp)
      rw [List.getElem?_append_right (Nat.le_add_right _ q), Nat.add_sub_cancel_left,
        List.getElem?_append_right (length_lowerBetween before c s ▸ Nat.le_add_right _ q),
        length_lowerBetween, Nat.add_sub_cancel_left]
      rcases ih (c :: before) q with hsame | ⟨s₁, s₂, rfl, hlen, hends, hfinal, hsigma⟩
      · exact .inl hsame
      · refine .inr ⟨c :: s₁, s₂, rfl, ?_, ?_, hfinal, hsigma⟩
        · rw [lowerEach_cons, List.length_append, hlen]
        · simpa using hends

/-- A capital sigma that ends a word is a final one in lower case. -/
theorem getElem?_lowerFrom_of_endsWord {before s₁ s₂ : Text}
    (h : EndsWord (before.reverse ++ s₁) s₂) :
    (lowerFrom before (s₁ ++ 'Σ' :: s₂))[(lowerEach s₁).length]? = some 'ς' := by
  induction s₁ generalizing before with
  | nil =>
    rw [List.append_nil] at h
    rw [List.nil_append, lowerFrom, lowerBetween_of_endsWord h]
    rfl
  | cons c s₁ ih =>
    have hlen : (lowerEach (c :: s₁)).length =
        (lowerBetween before c (s₁ ++ 'Σ' :: s₂)).length + (lowerEach s₁).length := by
      rw [length_lowerBetween, lowerEach_cons, List.length_append]
    rw [List.cons_append, lowerFrom, hlen, List.getElem?_append_right (Nat.le_add_right _ _),
      Nat.add_sub_cancel_left]
    exact ih (by simpa using h)

/-! ## Two texts -/

/-- A final sigma of one text, where the other has none in lower case. -/
theorem sigmaApart_of_getElem? {s t s₁ s₂ : Text} (hsame : lowerEach s = lowerEach t)
    (hs : s = s₁ ++ 'Σ' :: s₂) (hends : EndsWord s₁ s₂)
    (ht : (lower t)[(lowerEach s₁).length]? ≠ some 'ς') : SigmaApart s t := by
  have hsigma : (lowerEach t)[(lowerEach s₁).length]? = some 'σ' := by
    rw [← hsame, hs, lowerEach_append, lowerEach_cons, lowerChar_sigma,
      List.getElem?_append_right (Nat.le_refl _), Nat.sub_self]
    rfl
  obtain ⟨t₁, c, t₂, rfl, hlen, hc⟩ := exists_of_getElem?_lowerEach hsigma
  -- what stands before the two sigmas is of one length, so it agrees
  have hfront : lowerEach s₁ = lowerEach t₁ := by
    rw [hs, lowerEach_append, lowerEach_append] at hsame
    exact List.append_inj_left hsame hlen.symm
  refine ⟨s₁, s₂, t₁, c, t₂, hs, rfl, hfront, hends, hc.imp_right fun hcapital => ?_⟩
  subst hcapital
  exact ⟨rfl, fun hword => ht (hlen ▸ getElem?_lowerFrom_of_endsWord hword)⟩

/-- Texts that agree with each character on its own, and not in lower case, have a sigma that ends
a word in one of them alone. -/
theorem sigmaApart_of_lowerEach_eq {s t : Text} (hsame : lowerEach s = lowerEach t)
    (hlower : lower s ≠ lower t) : SigmaApart s t ∨ SigmaApart t s := by
  obtain ⟨p, hp⟩ : ∃ p, (lower s)[p]? ≠ (lower t)[p]? := by
    by_contra hall
    exact hlower (List.ext_getElem? fun p => by_contra fun hp => hall ⟨p, hp⟩)
  rcases getElem?_lowerFrom_cases [] s p with hs | ⟨s₁, s₂, hs, rfl, hends, hfinal, -⟩
  · rcases getElem?_lowerFrom_cases [] t p with ht | ⟨t₁, t₂, ht, rfl, hends, hfinal, -⟩
    · exact absurd (hs.trans (hsame ▸ ht.symm)) hp
    · exact .inr (sigmaApart_of_getElem? hsame.symm ht hends fun h => hp (h.trans hfinal.symm))
  · exact .inl (sigmaApart_of_getElem? hsame hs hends fun h => hp (hfinal.trans h.symm))

end FeatureSheets.Text
