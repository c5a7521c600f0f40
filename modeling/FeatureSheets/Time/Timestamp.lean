import FeatureSheets.Text.Basic
import FeatureSheets.Time.Date

/-!
# Timestamps

A moment as a date and a time of day in Universal Time, to the nanosecond. A minute may have a
second 60. A timestamp is written in one way, `2024-05-06T07:08:09.5Z` with the shortest of the
fractions of three, six and nine digits that is exact; it is read from any offset and with some
freedom in the blanks between its parts.
-/

namespace FeatureSheets

/-- A moment in Universal Time. -/
structure Timestamp where
  /-- The day. -/
  date : Date
  /-- The hour of the day. -/
  hour : Nat
  /-- The minute of the hour. -/
  minute : Nat
  /-- The second of the minute; 60 is a leap second. -/
  second : Nat
  /-- The nanosecond of the second. -/
  nano : Nat
  /-- The clock shows such a time. -/
  clock_bounds : hour < 24 ∧ minute < 60 ∧ second ≤ 60 ∧ nano < 1000000000
  deriving DecidableEq

namespace Timestamp

/-- The moment with this date and time of day, if there is one. -/
def of? (date : Date) (hour minute second nano : Nat) : Option Timestamp :=
  if h : hour < 24 ∧ minute < 60 ∧ second ≤ 60 ∧ nano < 1000000000 then
    some ⟨date, hour, minute, second, nano, h⟩
  else none

/-- The beginning of the year 1970. -/
def epoch : Timestamp :=
  ⟨⟨1970, 1, 1, by decide, by decide, by decide⟩, 0, 0, 0, 0, by decide⟩

/-- The moment so many seconds and nanoseconds after the beginning of 1970. -/
def ofSeconds? (seconds : Int) (nano : Nat) : Option Timestamp := do
  let date ← Date.ofDayNumber? (seconds / 86400)
  let second := (seconds % 86400).toNat
  of? date (second / 3600) (second / 60 % 60) (second % 60) nano

/-- The moment in Universal Time at which a clock, `offset` minutes ahead of it, shows `t`. -/
def fromOffset? (t : Timestamp) (offset : Int) : Option Timestamp :=
  let minutes := ((t.hour * 60 + t.minute : Nat) : Int) - offset
  let within (date : Date) (minutes : Int) : Option Timestamp :=
    of? date (minutes.toNat / 60) (minutes.toNat % 60) t.second t.nano
  if minutes < 0 then t.date.prev?.bind (within · (minutes + 1440))
  else if minutes < 1440 then within t.date minutes
  else t.date.next?.bind (within · (minutes - 1440))

/-! ## Writing -/

/-- A year: four digits, or a sign and at least four digits outside of 0 to 9999. -/
def writeYear (year : Int) : Text :=
  if 0 ≤ year ∧ year ≤ 9999 then Text.ofNatPadded 4 year.toNat
  else (if year < 0 then '-' else '+') :: Text.ofNatPadded 4 year.natAbs

/-- The shortest exact fraction of three, six or nine digits; nothing for a whole second. -/
def writeFraction (nano : Nat) : Text :=
  if nano = 0 then []
  else if nano % 1000000 = 0 then '.' :: Text.ofNatPadded 3 (nano / 1000000)
  else if nano % 1000 = 0 then '.' :: Text.ofNatPadded 6 (nano / 1000)
  else '.' :: Text.ofNatPadded 9 nano

/-- The written form of a moment. -/
def write (t : Timestamp) : Text :=
  writeYear t.date.year ++ '-' :: Text.ofNatPadded 2 t.date.month ++
    '-' :: Text.ofNatPadded 2 t.date.day ++ 'T' :: Text.ofNatPadded 2 t.hour ++
    ':' :: Text.ofNatPadded 2 t.minute ++ ':' :: Text.ofNatPadded 2 t.second ++
    writeFraction t.nano ++ ['Z']

/-! ## Reading -/

/-- The number that decimal digits spell. -/
def numberOf (digits : Text) : Nat :=
  digits.foldl (fun n c => n * 10 + (c.toNat - '0'.toNat)) 0

/-- Reads a number of at least one digit and, with a width, of at most so many. -/
def number? (width : Option Nat) (s : Text) : Option (Nat × Text) :=
  let all := s.takeWhile Char.isDigit
  let digits := width.elim all all.take
  if digits = [] then none else some (numberOf digits, s.drop digits.length)

/-- Reads a number of at most two digits, past blanks. -/
def field? (s : Text) : Option (Nat × Text) :=
  number? (some 2) (Text.trimStart s)

/-- Reads a character, past blanks. -/
def mark? (c : Char) (s : Text) : Option Text :=
  Text.after? [c] (Text.trimStart s)

/-- Reads a year past blanks: at most four digits, or any number of digits after a sign. -/
def year? (s : Text) : Option (Int × Text) :=
  match Text.trimStart s with
  | '-' :: rest => (number? none rest).map fun r => (-(r.1 : Int), r.2)
  | '+' :: rest => (number? none rest).map fun r => ((r.1 : Int), r.2)
  | s => (number? (some 4) s).map fun r => ((r.1 : Int), r.2)

/-- Reads a date. -/
def date? (s : Text) : Option (Date × Text) := do
  let (year, s) ← year? s
  let (month, s) ← field? (← mark? '-' s)
  let (day, s) ← field? (← mark? '-' s)
  return (← Date.of? year month day, s)

/-- Reads the fraction of a second in nanoseconds; digits after the ninth do not count. -/
def fraction? : Text → Option (Nat × Text)
  | '.' :: rest =>
    (number? none rest).map fun r =>
      let digits := (rest.takeWhile Char.isDigit).take 9
      (numberOf digits * Nat.pow 10 (9 - digits.length), r.2)
  | s => some (0, s)

/-- Reads the two digits of an hour or a minute of an offset. -/
def twoDigits? : Text → Option (Nat × Text)
  | a :: b :: rest =>
    if a.isDigit && b.isDigit then some (numberOf [a, b], rest) else none
  | _ => none

/-- Reads an offset in minutes: `Z`, `UTC`, or a sign, hours and minutes. -/
def offset? (s : Text) : Option (Int × Text) :=
  match s with
  | a :: b :: c :: rest =>
    if [a.toUpper, b.toUpper, c.toUpper] = "UTC".toList then some (0, rest)
    else signed? s
  | s => signed? s
where
  /-- Reads an offset that is not spelled `UTC`. -/
  signed? : Text → Option (Int × Text)
    | 'Z' :: rest | 'z' :: rest => some (0, rest)
    | '+' :: rest => (minutes? rest).map fun r => ((r.1 : Int), r.2)
    | '-' :: rest | '−' :: rest => (minutes? rest).map fun r => (-(r.1 : Int), r.2)
    | _ => none
  /-- Reads hours and minutes with colons or blanks between them. -/
  minutes? (s : Text) : Option (Nat × Text) := do
    let (hours, s) ← twoDigits? s
    let (minutes, s) ← twoDigits? (s.dropWhile fun c => c == ':' || Text.isBlank c)
    if hours < 24 && minutes < 60 then some (hours * 60 + minutes, s) else none

/-- The moment that a text spells. -/
def read? (s : Text) : Option Timestamp := do
  let (date, s) ← date? s
  let c ← s.head?
  if c != 'T' && c != 't' && c != ' ' then none
  let (hour, s) ← field? s.tail
  let (minute, s) ← field? (← mark? ':' s)
  let (second, s) ← field? (← mark? ':' s)
  let (nano, s) ← fraction? s
  let (offset, s) ← offset? (Text.trimStart s)
  let t ← of? date hour minute second nano
  if Text.isBlankText s then t.fromOffset? offset else none

end Timestamp

end FeatureSheets
