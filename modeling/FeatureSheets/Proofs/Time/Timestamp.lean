import FeatureSheets.Proofs.Text.Decimal
import FeatureSheets.Proofs.Text.Fields
import FeatureSheets.Time.Timestamp

/-!
# Timestamps read back

A moment is read back from its written form (`read?_write`). The form is read part by part: each
part is a number of digits with a mark behind it that is no digit.
-/

namespace FeatureSheets.Timestamp

open Text

variable {rest : Text}

/-! ## Numbers and marks -/

/-- No digit is white space. -/
theorem isBlank_of_isDigit {c : Char} (h : c.isDigit = true) : isBlank c = false := by
  rw [Char.isDigit, Bool.and_eq_true, decide_eq_true_eq, decide_eq_true_eq] at h
  have hlow : 48 ≤ c.toNat := h.1
  have hhigh : c.toNat ≤ 57 := h.2
  simp [isBlank, blankClass, CharClass.mem]
  omega

/-- Whether a text goes on with something other than a digit. -/
def EndsDigits (s : Text) : Prop :=
  ∀ c ∈ s.head?, c.isDigit = false

theorem endsDigits_cons {c : Char} (h : c.isDigit = false) (s : Text) : EndsDigits (c :: s) := by
  intro d hd
  exact Option.some.inj hd ▸ h

theorem takeWhile_isDigit_append {digits : Text} (h : ∀ c ∈ digits, c.isDigit = true)
    (hrest : EndsDigits rest) : (digits ++ rest).takeWhile Char.isDigit = digits := by
  rw [List.takeWhile_append_of_pos h]
  cases rest with
  | nil => simp
  | cons c rest => simp [hrest c rfl]

/-- Digits are read as their number, and no more is read. -/
theorem number?_append {width : Option Nat} {digits : Text} (hne : digits ≠ [])
    (h : ∀ c ∈ digits, c.isDigit = true) (hwidth : ∀ n ∈ width, digits.length ≤ n)
    (hrest : EndsDigits rest) :
    number? width (digits ++ rest) = some (numberOf digits, rest) := by
  have hall : width.elim digits digits.take = digits := by
    cases width with
    | none => rfl
    | some n => exact List.take_of_length_le (hwidth n rfl)
  rw [number?, takeWhile_isDigit_append h hrest, hall, if_neg hne, List.drop_left]

theorem number?_ofNatPadded {width : Option Nat} {n k : Nat}
    (hwidth : ∀ m ∈ width, (ofNatPadded k n).length ≤ m) (hrest : EndsDigits rest) :
    number? width (ofNatPadded k n ++ rest) = some (n, rest) := by
  rw [number?_append (ofNatPadded_ne_nil k n) (fun _ => isDigit_of_mem_ofNatPadded) hwidth hrest,
    numberOf, foldl_ofNatPadded]

theorem exists_cons_ofNatPadded (k n : Nat) (rest : Text) :
    ∃ c s, ofNatPadded k n ++ rest = c :: s ∧ c.isDigit = true := by
  obtain ⟨c, s, hc⟩ := List.exists_cons_of_ne_nil (ofNatPadded_ne_nil k n)
  have hmem : c ∈ ofNatPadded k n := by simp [hc]
  exact ⟨c, s ++ rest, by rw [hc]; rfl, isDigit_of_mem_ofNatPadded hmem⟩

theorem trimStart_ofNatPadded (k n : Nat) (rest : Text) :
    trimStart (ofNatPadded k n ++ rest) = ofNatPadded k n ++ rest := by
  obtain ⟨c, s, hc, hdigit⟩ := exists_cons_ofNatPadded k n rest
  exact trimStart_eq_self (c := c) (by rw [hc]; rfl) (isBlank_of_isDigit hdigit)

/-- A number of two digits is read as a field. -/
theorem field?_ofNatPadded {n : Nat} (h : n < 100) (hrest : EndsDigits rest) :
    field? (ofNatPadded 2 n ++ rest) = some (n, rest) := by
  rw [field?, trimStart_ofNatPadded]
  apply number?_ofNatPadded _ hrest
  intro m hm
  obtain rfl : 2 = m := Option.some.inj hm
  exact Nat.le_of_eq (length_ofNatPadded (by omega) h)

theorem mark?_cons {c : Char} (h : isBlank c = false) (s : Text) : mark? c (c :: s) = some s := by
  rw [mark?, trimStart_eq_self rfl h]
  exact after?_eq_some_iff.2 rfl

/-! ## The parts of a moment -/

theorem year?_of_isDigit {c : Char} {s : Text} (h : c.isDigit = true) :
    year? (c :: s) = (number? (some 4) (c :: s)).map fun r => ((r.1 : Int), r.2) := by
  rw [year?, trimStart_eq_self rfl (isBlank_of_isDigit h)]
  split
  · rename_i hsign
    rw [(List.cons.inj hsign).1] at h
    cases h
  · rename_i hsign
    rw [(List.cons.inj hsign).1] at h
    cases h
  · rfl

theorem year?_writeYear (year : Int) (hrest : EndsDigits rest) :
    year? (writeYear year ++ rest) = some (year, rest) := by
  rw [writeYear]
  split
  · -- a year of four digits has no sign
    rename_i hbounds
    have hlt : year.toNat < 10 ^ 4 := by omega
    obtain ⟨c, s, hc, hdigit⟩ := exists_cons_ofNatPadded 4 year.toNat rest
    rw [hc, year?_of_isDigit hdigit, ← hc, number?_ofNatPadded _ hrest, Option.map_some]
    · rw [Int.toNat_of_nonneg hbounds.1]
    · intro m hm
      obtain rfl : 4 = m := Option.some.inj hm
      exact Nat.le_of_eq (length_ofNatPadded (by omega) hlt)
  · -- behind a sign the number of digits does not matter
    rename_i hbounds
    have hread : number? none (ofNatPadded 4 year.natAbs ++ rest) = some (year.natAbs, rest) :=
      number?_ofNatPadded nofun hrest
    by_cases hsign : year < 0
    · rw [if_pos hsign, List.cons_append, year?, trimStart_eq_self rfl (by decide)]
      simp only [hread, Option.map_some]
      rw [show -(year.natAbs : Int) = year by omega]
    · rw [if_neg hsign, List.cons_append, year?, trimStart_eq_self rfl (by decide)]
      simp only [hread, Option.map_some]
      rw [show (year.natAbs : Int) = year by omega]

theorem daysInMonth_le (year : Int) (month : Nat) : daysInMonth year month ≤ 31 := by
  unfold daysInMonth
  split
  · split <;> decide
  all_goals decide

/-- Two fields with a mark in front are read one after the other. -/
theorem date?_append (d : Date) (hrest : EndsDigits rest) :
    date? (writeYear d.year ++ '-' :: (ofNatPadded 2 d.month ++
      '-' :: (ofNatPadded 2 d.day ++ rest))) = some (d, rest) := by
  have hday : d.day < 100 := by
    have hle := Nat.le_trans d.day_bounds.2 (daysInMonth_le d.year d.month)
    omega
  have hmonth : d.month < 100 := Nat.lt_of_le_of_lt d.month_bounds.2 (by omega)
  have hmark : ∀ s, mark? '-' ('-' :: s) = some s := mark?_cons (by decide)
  have hends : ∀ s, EndsDigits ('-' :: s) := endsDigits_cons rfl
  simp only [date?, year?_writeYear d.year (hends _), hmark, field?_ofNatPadded hmonth (hends _),
    field?_ofNatPadded hday hrest, Option.bind_eq_bind, Option.bind_some, Date.of?_self]
  rfl

/-- A fraction is read from as many digits as are written. -/
theorem fraction?_ofNatPadded {k n : Nat} (hpos : 0 < k) (hk : k ≤ 9) (h : n < 10 ^ k)
    (hrest : EndsDigits rest) :
    fraction? ('.' :: (ofNatPadded k n ++ rest)) = some (n * 10 ^ (9 - k), rest) := by
  have hread : number? none (ofNatPadded k n ++ rest) = some (n, rest) :=
    number?_ofNatPadded nofun hrest
  have hdigits : ((ofNatPadded k n ++ rest).takeWhile Char.isDigit).take 9 = ofNatPadded k n := by
    rw [takeWhile_isDigit_append (fun _ => isDigit_of_mem_ofNatPadded) hrest]
    apply List.take_of_length_le
    rw [length_ofNatPadded hpos h]
    exact hk
  have hnumber : numberOf (ofNatPadded k n) = n := foldl_ofNatPadded k n
  simp only [fraction?, hread, Option.map_some, hdigits, hnumber, length_ofNatPadded hpos h]
  rfl

theorem fraction?_writeFraction {nano : Nat} (h : nano < 1000000000) :
    fraction? (writeFraction nano ++ ['Z']) = some (nano, ['Z']) := by
  have hrest : EndsDigits ['Z'] := endsDigits_cons rfl _
  rw [writeFraction]
  split
  · rename_i hzero
    rw [hzero]
    rfl
  split
  · rename_i hmilli
    rw [List.cons_append, fraction?_ofNatPadded (by omega) (by omega) (by omega) hrest]
    have hnano : nano / 1000000 * 10 ^ (9 - 3) = nano := by omega
    rw [hnano]
  split
  · rename_i hmicro
    rw [List.cons_append, fraction?_ofNatPadded (by omega) (by omega) (by omega) hrest]
    have hnano : nano / 1000 * 10 ^ (9 - 6) = nano := by omega
    rw [hnano]
  · rw [List.cons_append, fraction?_ofNatPadded (by omega) (by omega) (by omega) hrest]
    have hnano : nano * 10 ^ (9 - 9) = nano := by omega
    rw [hnano]

theorem of?_self (t : Timestamp) : of? t.date t.hour t.minute t.second t.nano = some t :=
  dif_pos t.clock_bounds

/-- Universal Time is its own offset. -/
theorem fromOffset?_zero (t : Timestamp) : t.fromOffset? 0 = some t := by
  obtain ⟨hhour, hminute, -, -⟩ := t.clock_bounds
  have hminutes : ((t.hour * 60 + t.minute : Nat) : Int) - 0 =
      ((t.hour * 60 + t.minute : Nat) : Int) := by omega
  simp only [fromOffset?, hminutes]
  rw [if_neg (by omega), if_pos (by omega)]
  have hh : (t.hour * 60 + t.minute) / 60 = t.hour := by omega
  have hm : (t.hour * 60 + t.minute) % 60 = t.minute := by omega
  simp only [Int.toNat_natCast, hh, hm]
  exact of?_self t

/-- A moment is read back from its written form. -/
theorem read?_write (t : Timestamp) : read? t.write = some t := by
  obtain ⟨hhour, hminute, hsecond, hnano⟩ := t.clock_bounds
  have hshape : t.write = writeYear t.date.year ++ '-' :: (ofNatPadded 2 t.date.month ++
      '-' :: (ofNatPadded 2 t.date.day ++ 'T' :: (ofNatPadded 2 t.hour ++
      ':' :: (ofNatPadded 2 t.minute ++ ':' :: (ofNatPadded 2 t.second ++
      (writeFraction t.nano ++ ['Z'])))))) := by
    simp [write]
  -- behind each number stands a mark that is no digit
  have hfraction : EndsDigits (writeFraction t.nano ++ ['Z']) := by
    rw [writeFraction]
    repeat' split
    all_goals exact endsDigits_cons rfl _
  have hmark : ∀ s, mark? ':' (':' :: s) = some s := mark?_cons (by decide)
  have hcolon : ∀ s, EndsDigits (':' :: s) := endsDigits_cons rfl
  have hdate := date?_append t.date (endsDigits_cons (c := 'T') rfl (ofNatPadded 2 t.hour ++
      ':' :: (ofNatPadded 2 t.minute ++ ':' :: (ofNatPadded 2 t.second ++
      (writeFraction t.nano ++ ['Z'])))))
  rw [hshape]
  simp only [read?, hdate, Option.bind_eq_bind, Option.bind_some, List.head?_cons, List.tail_cons,
    field?_ofNatPadded (show t.hour < 100 by omega) (hcolon _), hmark,
    field?_ofNatPadded (show t.minute < 100 by omega) (hcolon _),
    field?_ofNatPadded (show t.second < 100 by omega) hfraction, fraction?_writeFraction hnano]
  have hoffset : offset? (trimStart ['Z']) = some (0, []) := by decide
  have hblank : isBlankText [] = true := rfl
  simp only [hoffset, Option.bind_some, of?_self, hblank, if_true, fromOffset?_zero]
  rfl

end FeatureSheets.Timestamp
