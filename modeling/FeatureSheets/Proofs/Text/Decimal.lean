import FeatureSheets.Text.Basic
import Mathlib.Algebra.GroupWithZero.Nat

/-!
# Numbers in decimal

A number is told by its decimal digits (`ofNat_injective`), and a number below a power of ten has
no more digits than the exponent says (`length_ofNat_le`). A text that ends in `_` and digits
ends in one number only (`eq_of_isSuffix_of_isSuffix`).
-/

namespace FeatureSheets.Text

/-- Different numbers are written differently. -/
theorem ofNat_injective {m n : Nat} (h : ofNat m = ofNat n) : m = n := by
  have hm : Nat.ofDigitChars 10 (ofNat m) 0 = m := Nat.ofDigitChars_ten_toDigits
  have hn : Nat.ofDigitChars 10 (ofNat n) 0 = n := Nat.ofDigitChars_ten_toDigits
  rw [← hm, ← hn, h]

/-- A number is written with digits alone. -/
theorem isDigit_of_mem_ofNat {n : Nat} {c : Char} (h : c ∈ ofNat n) : c.isDigit = true :=
  Nat.isDigit_of_mem_toDigits (by omega) (Nat.le_refl 10) h

theorem le_of_mem_ofNat {n : Nat} {c : Char} (h : c ∈ ofNat n) : ' ' ≤ c := by
  have hdigit := isDigit_of_mem_ofNat h
  rw [Char.isDigit, Bool.and_eq_true, decide_eq_true_eq] at hdigit
  have hblank : ' ' ≤ '0' := by decide
  exact Char.le_trans hblank hdigit.1

theorem ofNat_ne_nil (n : Nat) : ofNat n ≠ [] :=
  Nat.toDigits_ne_nil

/-- A number begins with a digit. -/
theorem exists_cons_ofNat (n : Nat) : ∃ c digits, ofNat n = c :: digits ∧ c.isDigit = true := by
  obtain ⟨c, digits, hc⟩ := List.exists_cons_of_ne_nil (ofNat_ne_nil n)
  exact ⟨c, digits, hc, isDigit_of_mem_ofNat (n := n) (by simp [hc])⟩

/-- A number below a power of ten has at most as many digits as the exponent says. -/
theorem length_ofNat_le {n k : Nat} (hk : 0 < k) (h : n < 10 ^ k) : (ofNat n).length ≤ k :=
  (Nat.length_toDigits_le_iff (by omega) hk).2 h

/-- A smaller number has no more digits. -/
theorem length_ofNat_mono {m n : Nat} (h : m ≤ n) : (ofNat m).length ≤ (ofNat n).length := by
  have hpos : 0 < (ofNat n).length := List.length_pos_iff.2 (ofNat_ne_nil n)
  have hlt : n < 10 ^ (ofNat n).length :=
    (Nat.length_toDigits_le_iff (by omega) hpos).1 (Nat.le_refl _)
  exact length_ofNat_le hpos (by omega)

/-- The digits of a number spell the number. -/
theorem foldl_ofNat (n : Nat) :
    (ofNat n).foldl (fun n c => n * 10 + (c.toNat - '0'.toNat)) 0 = n := by
  have hfold : ∀ (l : Text) (init : Nat),
      l.foldl (fun n c => n * 10 + (c.toNat - '0'.toNat)) init = Nat.ofDigitChars 10 l init := by
    intro l init
    induction l generalizing init with
    | nil => rw [List.foldl_nil, Nat.ofDigitChars_nil]
    | cons c l ih => rw [List.foldl_cons, ih, Nat.ofDigitChars_cons, Nat.mul_comm init 10]
  rw [hfold]
  exact Nat.ofDigitChars_ten_toDigits

/-! ## Padded numbers -/

theorem isDigit_of_mem_ofNatPadded {width n : Nat} {c : Char} (h : c ∈ ofNatPadded width n) :
    c.isDigit = true := by
  rcases List.mem_append.1 h with h | h
  · rw [List.eq_of_mem_replicate h]
    rfl
  · exact isDigit_of_mem_ofNat h

theorem ofNatPadded_ne_nil (width n : Nat) : ofNatPadded width n ≠ [] := by
  rw [ofNatPadded, Ne, List.append_eq_nil_iff]
  exact fun h => ofNat_ne_nil n h.2

/-- A number below a power of ten is padded to as many digits as the exponent says. -/
theorem length_ofNatPadded {n width : Nat} (hwidth : 0 < width) (h : n < 10 ^ width) :
    (ofNatPadded width n).length = width := by
  have hle := length_ofNat_le hwidth h
  rw [ofNatPadded, List.length_append, List.length_replicate]
  omega

/-- Padding does not change the number that is spelled. -/
theorem foldl_ofNatPadded (width n : Nat) :
    (ofNatPadded width n).foldl (fun n c => n * 10 + (c.toNat - '0'.toNat)) 0 = n := by
  have hzeros : ∀ k, (List.replicate k '0').foldl
      (fun n c => n * 10 + (c.toNat - '0'.toNat)) 0 = 0 := by
    intro k
    induction k with
    | zero => rfl
    | succ k ih => exact ih
  rw [ofNatPadded, List.foldl_append, hzeros, foldl_ofNat]

/-! ## Numbers at the end of a text -/

/-- Of two numbers after a `_` at the end of one text, the longer one would hold the `_` of the
other, so they are the same. -/
theorem eq_of_isSuffix {m n : Nat} (h : '_' :: ofNat m <:+ '_' :: ofNat n) : m = n := by
  rcases List.suffix_cons_iff.1 h with heq | hdigits
  · exact ofNat_injective (List.cons.inj heq).2
  · have hmem : '_' ∈ ofNat n := hdigits.subset (by simp)
    exact absurd (isDigit_of_mem_ofNat hmem) (by decide)

/-- A text ends in `_` and a number in at most one way. -/
theorem eq_of_isSuffix_of_isSuffix {s : Text} {m n : Nat} (hm : '_' :: ofNat m <:+ s)
    (hn : '_' :: ofNat n <:+ s) : m = n := by
  rcases List.suffix_or_suffix_of_suffix hm hn with h | h
  · exact eq_of_isSuffix h
  · exact (eq_of_isSuffix h).symm

end FeatureSheets.Text
