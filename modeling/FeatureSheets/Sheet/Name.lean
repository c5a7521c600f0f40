import FeatureSheets.Text.Basic

/-!
# Sheet names

A row asks for a sheet name and gets one that a spreadsheet accepts: characters that are
forbidden there become `_`, and the name is cut to a limit. The result is the base name; the rows
that share a base are numbered in order, and every one but the first carries its number. The
limit holds even where it leaves no room for the number.
-/

namespace FeatureSheets.SheetName

/-- The characters that a sheet name may not hold. -/
def forbidden : List Char :=
  ['/', '\\', '?', '*', '[', ']', ':']

/-- The name with `_` for each forbidden character. -/
def sanitize (name : Text) : Text :=
  name.map fun c => if forbidden.contains c then '_' else c

/-- The name of the row at `index` when it asks for none. -/
def fallback (index : Nat) : Text :=
  "Sheet".toList ++ Text.ofNat (index + 1)

/-- The base name of the row at `index`. -/
def base (limit index : Nat) (wanted : Text) : Text :=
  (sanitize (if wanted = [] then fallback index else wanted)).take limit

/-- What tells the `n`-th row with a base from the others. -/
def suffix (n : Nat) : Text :=
  '_' :: Text.ofNat n

/-- The name of the `n`-th row with a base. The base gives way to the suffix. -/
def numbered (limit n : Nat) (base : Text) : Text :=
  if n ≤ 1 then base
  else (base.take (limit - (suffix n).length) ++ suffix n).take limit

/-- The base name of a row, and its number among the rows with that base. -/
structure Slot where
  /-- The base name. -/
  base : Text
  /-- 1 for the first row with this base. -/
  number : Nat
  deriving DecidableEq, Repr

/-- The name of a row. -/
def Slot.name (limit : Nat) (s : Slot) : Text :=
  numbered limit s.number s.base

/-- The slots of rows that come after rows with the bases `earlier`. -/
def slotsAfter (limit : Nat) (earlier : List Text) : List Text → List Slot
  | [] => []
  | wanted :: rest =>
    let b := base limit earlier.length wanted
    ⟨b, earlier.count b + 1⟩ :: slotsAfter limit (earlier ++ [b]) rest

/-- The slots of all rows, by the names they ask for. -/
def slots (limit : Nat) (wanted : List Text) : List Slot :=
  slotsAfter limit [] wanted

/-- The names of all rows, by the names they ask for. -/
def names (limit : Nat) (wanted : List Text) : List Text :=
  (slots limit wanted).map (Slot.name limit)

theorem length_slotsAfter (limit : Nat) (earlier wanted : List Text) :
    (slotsAfter limit earlier wanted).length = wanted.length := by
  induction wanted generalizing earlier with
  | nil => rfl
  | cons w rest ih => simp [slotsAfter, ih]

/-- Every row gets a name. -/
theorem length_names (limit : Nat) (wanted : List Text) :
    (names limit wanted).length = wanted.length := by
  simp [names, slots, length_slotsAfter]

end FeatureSheets.SheetName
