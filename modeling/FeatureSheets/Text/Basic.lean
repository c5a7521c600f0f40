/-!
# Texts

A text is a list of characters. This module has the operations on texts that the whole library
shares: blank characters and trimming, leading keywords, lines and fields, numbers written in
decimal.

A class of characters is a list of inclusive ranges of code points. The tables of the Unicode
properties that this library consults are values of `CharClass`, each in the module of the rule
that reads it; `mem_iff` is what a table means.

Blank characters are those of the Unicode property White_Space; `trim` removes them at both ends
and never looks inside.
-/

namespace FeatureSheets

/-- A set of characters, given by inclusive ranges of code points. -/
structure CharClass where
  /-- First and last code point of each range. -/
  ranges : List (Nat × Nat)

namespace CharClass

/-- Whether `c` lies in one of the ranges. -/
def mem (k : CharClass) (c : Char) : Bool :=
  k.ranges.any fun r => decide (r.1 ≤ c.toNat) && decide (c.toNat ≤ r.2)

/-- A character is in a class exactly when some range holds its code point. -/
theorem mem_iff {k : CharClass} {c : Char} :
    k.mem c = true ↔ ∃ r ∈ k.ranges, r.1 ≤ c.toNat ∧ c.toNat ≤ r.2 := by
  simp [mem]

end CharClass

/-- A text is the list of its characters. -/
abbrev Text := List Char

namespace Text

/-! ## Blank characters and trimming -/

/-- The characters with the property White_Space. -/
def blankClass : CharClass where
  ranges := [(0x0009, 0x000D), (0x0020, 0x0020), (0x0085, 0x0085), (0x00A0, 0x00A0),
    (0x1680, 0x1680), (0x2000, 0x200A), (0x2028, 0x2029), (0x202F, 0x202F), (0x205F, 0x205F),
    (0x3000, 0x3000)]

/-- Whether a character is white space. -/
def isBlank (c : Char) : Bool :=
  blankClass.mem c

/-- The byte-order mark, which may stand at either end of a line. -/
def byteOrderMark : Char := '\uFEFF'

/-- Removes the characters of `p` at the start. -/
def trimStartBy (p : Char → Bool) (s : Text) : Text :=
  s.dropWhile p

/-- Removes the characters of `p` at the end. -/
def trimEndBy (p : Char → Bool) (s : Text) : Text :=
  (s.reverse.dropWhile p).reverse

/-- Removes the characters of `p` at both ends. -/
def trimBy (p : Char → Bool) (s : Text) : Text :=
  trimEndBy p (trimStartBy p s)

/-- Removes white space at the start. -/
def trimStart (s : Text) : Text :=
  trimStartBy isBlank s

/-- Removes white space at both ends. -/
def trim (s : Text) : Text :=
  trimBy isBlank s

/-- What is trimmed from a line of a document: white space and byte-order marks. -/
def isMargin (c : Char) : Bool :=
  isBlank c || c == byteOrderMark

/-- A line of a document without its margins. -/
def trimLine (s : Text) : Text :=
  trimBy isMargin s

/-- A text of white space alone, or of nothing. -/
def isBlankText (s : Text) : Bool :=
  s.all isBlank

/-! ## Leading keywords -/

/-- The rest of `s` after the keyword `p`, if `s` begins with `p`. -/
def after? : (p s : Text) → Option Text
  | [], s => some s
  | _ :: _, [] => none
  | p :: ps, c :: s => if p = c then after? ps s else none

/-- `after?` takes off exactly the keyword. -/
theorem after?_eq_some_iff {p s r : Text} : after? p s = some r ↔ s = p ++ r := by
  induction p generalizing s with
  | nil => simp [after?]
  | cons a p ih =>
    cases s with
    | nil => simp [after?]
    | cons c s =>
      by_cases h : a = c
      · simp [after?, h, ih]
      · simp [after?, h, Ne.symm h]

/-- The rest of the first text that follows one of the keywords `ps`. -/
def afterAny? (ps : List Text) (s : Text) : Option Text :=
  ps.findSome? (after? · s)

/-! ## Lines and fields -/

/-- The lines of a text: what stands between its line feeds. -/
def lines (s : Text) : List Text :=
  s.splitOn '\n'

/-- Texts joined by one separating character. -/
def joinWith (sep : Char) (parts : List Text) : Text :=
  [sep].intercalate parts

/-- The number of bytes of a text in UTF-8. -/
def byteCount (s : Text) : Nat :=
  s.foldl (fun n c => n + c.utf8Size) 0

/-! ## Numbers -/

/-- A number in decimal. -/
def ofNat (n : Nat) : Text :=
  Nat.toDigits 10 n

/-- A number in decimal, padded with zeros to at least `width` digits. -/
def ofNatPadded (width n : Nat) : Text :=
  let digits := ofNat n
  List.replicate (width - digits.length) '0' ++ digits

/-- A number in lower-case hexadecimal. -/
def ofNatHex (n : Nat) : Text :=
  Nat.toDigits 16 n

end Text

end FeatureSheets
