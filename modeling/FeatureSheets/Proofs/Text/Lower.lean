import FeatureSheets.Text.Lower

/-!
# Lower case before an underscore

An underscore has no case and is not ignored by case, so what stands before it is lowered in the
same way whatever stands after it, and digits stay as they are (`lower_append_underscore`).
-/

namespace FeatureSheets.Text

/-- The characters before the capital letters have no case. -/
theorem lowerChar_of_lt {c : Char} (h : c.toNat < 0x41) : lowerChar c = [c] := by
  have hruns : ∀ run ∈ lowerRuns, 0x41 ≤ run.first := by decide +kernel
  have hfind : lowerRuns.find? (·.covers c.toNat) = none := by
    rw [List.find?_eq_none]
    intro run hrun hcovers
    have hfirst := hruns run hrun
    simp only [CaseRun.covers, Bool.and_eq_true, decide_eq_true_eq] at hcovers
    omega
  have hdotted : ¬c = '\u0130' := by
    rintro rfl
    revert h
    decide
  rw [lowerChar, if_neg hdotted, hfind]

theorem toNat_lt_of_isDigit {c : Char} (h : c.isDigit = true) : c.toNat < 0x41 := by
  simp only [Char.isDigit, Bool.and_eq_true, decide_eq_true_eq, UInt32.le_iff_toNat_le] at h
  exact Nat.lt_of_le_of_lt h.2 (by decide)

/-- Digits stay as they are. -/
theorem lowerFrom_of_isDigit {before s : Text} (h : ∀ c ∈ s, c.isDigit = true) :
    lowerFrom before s = s := by
  induction s generalizing before with
  | nil => rfl
  | cons c s ih =>
    have hc := h c (by simp)
    have hsigma : ¬c = 'Σ' := by
      rintro rfl
      cases hc
    rw [lowerFrom, lowerBetween, if_neg hsigma, lowerChar_of_lt (toNat_lt_of_isDigit hc),
      ih fun d hd => h d (by simp [hd])]
    rfl

theorem lowerFrom_underscore (before s : Text) :
    lowerFrom before ('_' :: s) = '_' :: lowerFrom ('_' :: before) s := by
  have hchar : lowerBetween before '_' s = ['_'] := by
    rw [lowerBetween, if_neg (by decide)]
    decide +kernel
  rw [lowerFrom, hchar]
  rfl

/-- What follows an underscore says nothing about the letters before it. -/
theorem startsCased_append_underscore (s t : Text) :
    startsCased (s ++ '_' :: t) = startsCased (s ++ ['_']) := by
  have hkept : ¬caseIgnorableClass.mem '_' = true := by decide +kernel
  have hcased : casedClass.mem '_' = false := by decide +kernel
  rw [startsCased, startsCased, List.dropWhile_append, List.dropWhile_append,
    List.dropWhile_cons_of_neg hkept, List.dropWhile_cons_of_neg hkept]
  cases s.dropWhile caseIgnorableClass.mem with
  | nil => simp [hcased]
  | cons c r => rfl

/-- A text, an underscore and digits in lower case: what becomes of the text does not depend on
the digits, and the digits stay. -/
theorem lower_append_underscore (s : Text) {digits : Text} (h : ∀ c ∈ digits, c.isDigit = true) :
    lower (s ++ '_' :: digits) = lower (s ++ ['_']) ++ digits := by
  have hfrom : ∀ before, lowerFrom before (s ++ '_' :: digits) =
      lowerFrom before (s ++ ['_']) ++ digits := by
    induction s with
    | nil =>
      intro before
      rw [List.nil_append, List.nil_append, lowerFrom_underscore, lowerFrom_underscore,
        lowerFrom_of_isDigit h]
      rfl
    | cons c s ih =>
      intro before
      have hc : lowerBetween before c (s ++ '_' :: digits) =
          lowerBetween before c (s ++ ['_']) := by
        rw [lowerBetween, lowerBetween, startsCased_append_underscore]
      rw [List.cons_append, List.cons_append, lowerFrom, lowerFrom, hc, ih, List.append_assoc]
  exact hfrom []

end FeatureSheets.Text
