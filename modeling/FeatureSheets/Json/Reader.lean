import FeatureSheets.Json.Basic

/-!
# Reading JSON

The grammar of JSON, exactly: the four blanks between tokens, no comma after the last item, no
leading zeros, no characters below the blank inside a string. `parse?` reads a whole text.
-/

namespace FeatureSheets.Json

/-- The blanks between tokens. -/
def isSpace (c : Char) : Bool :=
  c == ' ' || c == '\n' || c == '\t' || c == '\r'

/-- The text from the next token on. -/
def skip (s : Text) : Text :=
  s.dropWhile isSpace

/-! ## Strings -/

/-- A part of a string: a character, or a 16-bit unit given by an escape. -/
inductive Piece where
  /-- A character by itself. -/
  | char (c : Char)
  /-- A unit of UTF-16. -/
  | unit (n : Nat)
  deriving DecidableEq, Repr

/-- The value of a hexadecimal digit. -/
def hexDigit? (c : Char) : Option Nat :=
  if '0' ≤ c ∧ c ≤ '9' then some (c.toNat - '0'.toNat)
  else if 'a' ≤ c ∧ c ≤ 'f' then some (c.toNat - 'a'.toNat + 10)
  else if 'A' ≤ c ∧ c ≤ 'F' then some (c.toNat - 'A'.toNat + 10)
  else none

/-- The unit of four hexadecimal digits. -/
def hexUnit? (a b c d : Char) : Option Nat := do
  return (((← hexDigit? a) * 16 + (← hexDigit? b)) * 16 + (← hexDigit? c)) * 16 + (← hexDigit? d)

/-- The character of a short escape. -/
def shortEscape? : Char → Option Char
  | '"' => some '"'
  | '\\' => some '\\'
  | '/' => some '/'
  | 'b' => some '\x08'
  | 'f' => some '\x0c'
  | 'n' => some '\n'
  | 'r' => some '\r'
  | 't' => some '\t'
  | _ => none

/-- Reads the parts of a string after its opening quote, and the text after its closing one. -/
def pieces? : Text → Option (List Piece × Text)
  | [] => none
  | '"' :: rest => some ([], rest)
  | '\\' :: 'u' :: a :: b :: c :: d :: rest =>
    match hexUnit? a b c d, pieces? rest with
    | some n, some (ps, rest) => some (.unit n :: ps, rest)
    | _, _ => none
  | '\\' :: e :: rest =>
    match shortEscape? e, pieces? rest with
    | some c, some (ps, rest) => some (.char c :: ps, rest)
    | _, _ => none
  | c :: rest =>
    if c = '\\' ∨ c.toNat < 0x20 then none
    else (pieces? rest).map fun r => (.char c :: r.1, r.2)

/-- Whether a unit is the first half of a surrogate pair. -/
def isHighHalf (n : Nat) : Bool :=
  0xD800 ≤ n && n ≤ 0xDBFF

/-- Whether a unit is the second half of a surrogate pair. -/
def isLowHalf (n : Nat) : Bool :=
  0xDC00 ≤ n && n ≤ 0xDFFF

/-- The text that the parts spell, unless half of a surrogate pair stands alone. -/
def spell? : List Piece → Option Text
  | [] => some []
  | .char c :: rest => (spell? rest).map (c :: ·)
  | .unit n :: rest =>
    if isHighHalf n then
      match rest with
      | .unit m :: rest =>
        if isLowHalf m then
          (spell? rest).map (Char.ofNat (0x10000 + (n - 0xD800) * 0x400 + (m - 0xDC00)) :: ·)
        else none
      | _ => none
    else if isLowHalf n then none
    else (spell? rest).map (Char.ofNat n :: ·)

/-- Reads a string after its opening quote: its text, if it spells one, and what follows. -/
def string? (s : Text) : Option (Option Text × Text) :=
  (pieces? s).map fun r => (spell? r.1, r.2)

/-! ## Numbers -/

/-- The number that decimal digits spell. -/
def ofDigits (digits : Text) : Nat :=
  digits.foldl (fun n c => n * 10 + (c.toNat - '0'.toNat)) 0

/-- Passes over one digit or more. -/
def digits? (s : Text) : Option Text :=
  match s with
  | c :: rest => if c.isDigit then some (rest.dropWhile Char.isDigit) else none
  | [] => none

/-- Passes over a fraction, if there is one. -/
def fraction? : Text → Option Text
  | '.' :: rest => digits? rest
  | s => some s

/-- Passes over an exponent, if there is one. -/
def exponent? : Text → Option Text
  | c :: rest =>
    if c = 'e' ∨ c = 'E' then
      match rest with
      | d :: rest => if d = '+' ∨ d = '-' then digits? rest else digits? (d :: rest)
      | [] => none
    else some (c :: rest)
  | [] => some []

/-- Reads a number without its sign: its digits before the point, and what follows. -/
def unsigned? (s : Text) : Option (Json × Text) := do
  let whole := s.takeWhile Char.isDigit
  let rest := s.dropWhile Char.isDigit
  if whole = [] ∨ (whole.head? = some '0' ∧ whole ≠ ['0']) then none
  else
    let after ← exponent? (← fraction? rest)
    return (if after.length = rest.length then .natural (ofDigits whole) else .otherNumber, after)

/-- Reads a number. -/
def number? : Text → Option (Json × Text)
  | '-' :: rest => (unsigned? rest).map fun r => (.otherNumber, r.2)
  | s => unsigned? s

/-! ## Values -/

mutual

/-- Reads a value that begins with the first character of the text. Each step into a value or on
to the next item uses up one unit of `fuel`. -/
def value? : (fuel : Nat) → Text → Option (Json × Text)
  | 0, _ => none
  | fuel + 1, s =>
    match s with
    | [] => none
    | 'n' :: 'u' :: 'l' :: 'l' :: rest => some (.null, rest)
    | 't' :: 'r' :: 'u' :: 'e' :: rest => some (.bool true, rest)
    | 'f' :: 'a' :: 'l' :: 's' :: 'e' :: rest => some (.bool false, rest)
    | '"' :: rest => (string? rest).map fun r => (r.1.elim .brokenText .text, r.2)
    | '[' :: rest =>
      match skip rest with
      | ']' :: rest => some (.array [], rest)
      | s => (items? fuel s).map fun r => (.array r.1, r.2)
    | '\x7b' :: rest =>
      match skip rest with
      | '\x7d' :: rest => some (.object [], rest)
      | s => (members? fuel s).map fun r => (.object r.1, r.2)
    | s => number? s

/-- Reads one item or more, up to the end of their array. -/
def items? : (fuel : Nat) → Text → Option (List Json × Text)
  | 0, _ => none
  | fuel + 1, s =>
    match value? fuel s with
    | none => none
    | some (v, rest) =>
      match skip rest with
      | ',' :: rest => (items? fuel (skip rest)).map fun r => (v :: r.1, r.2)
      | ']' :: rest => some ([v], rest)
      | _ => none

/-- Reads one member or more, up to the end of their object. -/
def members? : (fuel : Nat) → Text → Option (List (Option Text × Json) × Text)
  | 0, _ => none
  | fuel + 1, s =>
    match s with
    | '"' :: rest =>
      match string? rest with
      | none => none
      | some (key, rest) =>
        match skip rest with
        | ':' :: rest =>
          match value? fuel (skip rest) with
          | none => none
          | some (v, rest) =>
            match skip rest with
            | ',' :: rest => (members? fuel (skip rest)).map fun r => ((key, v) :: r.1, r.2)
            | '\x7d' :: rest => some ([(key, v)], rest)
            | _ => none
        | _ => none
    | _ => none

end

/-- Reads a text that is one value with blanks around it. Every unit of fuel but one in a row is
used up with a character, so twice the length is enough. -/
def parse? (s : Text) : Option Json :=
  match value? (2 * s.length + 2) (skip s) with
  | some (v, rest) => if skip rest = [] then some v else none
  | none => none

end FeatureSheets.Json
