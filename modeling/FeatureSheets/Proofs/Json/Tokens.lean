import FeatureSheets.Json.Printer
import FeatureSheets.Json.Reader
import FeatureSheets.Proofs.Text.Decimal
import Mathlib.Data.List.TakeWhile

/-!
# Strings and numbers in JSON and back

A text that is written as a string reads as the text (`string?_escape`), and a natural number reads
as the number (`number?_ofNat`), whatever follows the string, and where nothing follows the number
that would go on with it.
-/

namespace FeatureSheets.Json

/-! ## Strings -/

theorem hexDigit?_digitChar {n : Nat} (h : n < 16) : hexDigit? (Nat.digitChar n) = some n := by
  revert n
  decide

theorem pieces?_unit {a b c d : Char} {n : Nat} (h : hexUnit? a b c d = some n) (s : Text) :
    pieces? ('\\' :: 'u' :: a :: b :: c :: d :: s) =
      (pieces? s).map fun r => (.unit n :: r.1, r.2) := by
  rw [pieces?, h]
  cases pieces? s <;> rfl

theorem pieces?_short {e c : Char} (h : shortEscape? e = some c) (s : Text) :
    pieces? ('\\' :: e :: s) = (pieces? s).map fun r => (.char c :: r.1, r.2) := by
  have hu : e ≠ 'u' := by
    rintro rfl
    cases h
  rw [pieces?, h]
  · cases pieces? s <;> rfl
  · exact fun _ _ _ _ _ he _ => hu he

theorem pieces?_char {c : Char} (hquote : c ≠ '"') (hback : c ≠ '\\') (hlow : ¬c.toNat < 0x20)
    (s : Text) : pieces? (c :: s) = (pieces? s).map fun r => (.char c :: r.1, r.2) := by
  rw [pieces?, if_neg (by simp [hback, hlow])]
  · exact hquote
  · exact fun _ _ _ _ _ hc _ => hback hc
  · exact fun _ _ hc _ => hback hc

theorem spell?_char (c : Char) (ps : List Piece) :
    spell? (.char c :: ps) = (spell? ps).map (c :: ·) := by
  rw [spell?]

/-- A unit below the surrogates spells a character by itself. -/
theorem spell?_unit {c : Char} (h : c.toNat < 0x20) (ps : List Piece) :
    spell? (.unit c.toNat :: ps) = (spell? ps).map (c :: ·) := by
  have hhigh : isHighHalf c.toNat = false := by
    rw [isHighHalf, Bool.and_eq_false_iff]
    exact .inl (decide_eq_false (by omega))
  have hlow : isLowHalf c.toNat = false := by
    rw [isLowHalf, Bool.and_eq_false_iff]
    exact .inl (decide_eq_false (by omega))
  rw [spell?.eq_def]
  simp only [hhigh, hlow, Char.ofNat_toNat, Bool.false_eq_true, if_false]

/-- A written character reads as one piece, which spells the character. -/
theorem exists_pieces?_escapeChar (c : Char) :
    ∃ p : Piece,
      (∀ s, pieces? (escapeChar c ++ s) = (pieces? s).map fun r => (p :: r.1, r.2)) ∧
      ∀ ps, spell? (p :: ps) = (spell? ps).map (c :: ·) := by
  unfold escapeChar
  split
  -- the seven short escapes
  iterate 7 exact ⟨_, fun s => pieces?_short rfl s, spell?_char _⟩
  rename_i hquote hback _ _ _ _ _
  by_cases hlow : c.toNat < 0x20
  · have hunit : hexUnit? '0' '0' (Nat.digitChar (c.toNat / 16)) (Nat.digitChar (c.toNat % 16)) =
        some c.toNat := by
      rw [hexUnit?, hexDigit?_digitChar (by omega), hexDigit?_digitChar (by omega)]
      show some ((((0 * 16 + 0) * 16 + c.toNat / 16) * 16) + c.toNat % 16) = some c.toNat
      congr 1
      omega
    rw [if_pos hlow]
    exact ⟨_, fun s => pieces?_unit hunit s, spell?_unit hlow⟩
  · rw [if_neg hlow]
    exact ⟨_, fun s => pieces?_char hquote hback hlow s, spell?_char _⟩

/-- A text that is written as a string reads as the text. -/
theorem string?_escape (text s : Text) :
    string? (text.flatMap escapeChar ++ '"' :: s) = some (some text, s) := by
  have hpieces : ∃ ps, pieces? (text.flatMap escapeChar ++ '"' :: s) = some (ps, s) ∧
      spell? ps = some text := by
    induction text with
    | nil => exact ⟨[], by rw [List.flatMap_nil, List.nil_append, pieces?], rfl⟩
    | cons c text ih =>
      obtain ⟨ps, hps, hspell⟩ := ih
      obtain ⟨p, hp, hc⟩ := exists_pieces?_escapeChar c
      refine ⟨p :: ps, ?_, ?_⟩
      · rw [List.flatMap_cons, List.append_assoc, hp, hps]
        rfl
      · rw [hc, hspell]
        rfl
  obtain ⟨ps, hps, hspell⟩ := hpieces
  rw [string?, hps, Option.map_some, hspell]

/-! ## Numbers -/

/-- No number but zero is written with a zero at its front. -/
theorem ofNat_of_head?_zero {n : Nat} (h : (Text.ofNat n).head? = some '0') :
    Text.ofNat n = ['0'] := by
  induction n using Nat.strongRecOn with
  | ind n ih =>
    by_cases hn : n < 10
    · rw [Text.ofNat, Nat.toDigits_of_lt_base hn] at h ⊢
      rw [List.head?_cons, Option.some_inj] at h
      rw [h]
    · have hdigits : Text.ofNat n = Text.ofNat (n / 10) ++ [Nat.digitChar (n % 10)] :=
        Nat.toDigits_of_base_le (by omega) (by omega)
      obtain ⟨c, front, hfront⟩ := List.exists_cons_of_ne_nil (Text.ofNat_ne_nil (n / 10))
      have hzero : Text.ofNat (n / 10) = Text.ofNat 0 := by
        apply ih (n / 10) (by omega)
        rw [hdigits, hfront] at h
        rw [hfront]
        exact h
      have hdiv := Text.ofNat_injective hzero
      omega

theorem ofDigits_ofNat (n : Nat) : ofDigits (Text.ofNat n) = n :=
  Text.foldl_ofNat n

/-- Whether a text does not go on with a number before it. -/
def EndsNumber (s : Text) : Prop :=
  ∀ c ∈ s.head?, c.isDigit = false ∧ c ≠ '.' ∧ c ≠ 'e' ∧ c ≠ 'E'

theorem fraction?_of_endsNumber {s : Text} (hs : EndsNumber s) : fraction? s = some s := by
  cases s with
  | nil => rfl
  | cons c s =>
    obtain ⟨-, hpoint, -⟩ := hs c rfl
    rw [fraction?]
    exact fun _ h => hpoint (List.cons.inj h).1

theorem exponent?_of_endsNumber {s : Text} (hs : EndsNumber s) : exponent? s = some s := by
  cases s with
  | nil => rfl
  | cons c s =>
    obtain ⟨-, -, hlower, hupper⟩ := hs c rfl
    have hmark : ¬(c = 'e' ∨ c = 'E') := not_or.2 ⟨hlower, hupper⟩
    rw [exponent?.eq_def]
    simp only [if_neg hmark]

/-- The digits of a number are taken from a text, and no more. -/
theorem span_ofNat (n : Nat) {s : Text} (hs : EndsNumber s) :
    (Text.ofNat n ++ s).takeWhile Char.isDigit = Text.ofNat n ∧
      (Text.ofNat n ++ s).dropWhile Char.isDigit = s := by
  have hdigit : ∀ c ∈ Text.ofNat n, c.isDigit = true := fun c => Text.isDigit_of_mem_ofNat
  rw [List.takeWhile_append_of_pos hdigit, List.dropWhile_append_of_pos hdigit]
  cases s with
  | nil => simp
  | cons c s =>
    obtain ⟨hc, -⟩ := hs c rfl
    simp [hc]

/-- A number that is written in decimal reads as the number. -/
theorem number?_ofNat (n : Nat) {s : Text} (hs : EndsNumber s) :
    number? (Text.ofNat n ++ s) = some (.natural n, s) := by
  obtain ⟨htake, hdrop⟩ := span_ofNat n hs
  have hzero : ¬(Text.ofNat n = [] ∨
      ((Text.ofNat n).head? = some '0' ∧ Text.ofNat n ≠ ['0'])) := by
    rintro (hnil | ⟨hhead, hne⟩)
    · exact Text.ofNat_ne_nil n hnil
    · exact hne (ofNat_of_head?_zero hhead)
  have hunsigned : unsigned? (Text.ofNat n ++ s) = some (.natural n, s) := by
    simp only [unsigned?, htake, hdrop, if_neg hzero, fraction?_of_endsNumber hs,
      exponent?_of_endsNumber hs, Option.bind_eq_bind, Option.bind_some, if_true, ofDigits_ofNat]
    rfl
  rw [number?, hunsigned]
  -- a sign is no digit
  intro rest h
  obtain ⟨c, digits, hc, hdigit⟩ := Text.exists_cons_ofNat n
  rw [hc, List.cons_append] at h
  rw [(List.cons.inj h).1] at hdigit
  cases hdigit

end FeatureSheets.Json
