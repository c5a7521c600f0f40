import FeatureSheets.Text.Basic

/-!
# JSON values

A JSON value, as far as this library looks at one. Numbers are kept when they are written as
plain natural numbers; any other number is known to be one and no more. A string whose escapes
leave half of a surrogate pair spells no text, which matters only where the text is wanted.
-/

namespace FeatureSheets

/-- A JSON value. -/
inductive Json where
  /-- `null`. -/
  | null
  /-- `true` or `false`. -/
  | bool (b : Bool)
  /-- A number written with digits alone. -/
  | natural (n : Nat)
  /-- A number with a sign, a fraction or an exponent. -/
  | otherNumber
  /-- A string that spells a text. -/
  | text (s : Text)
  /-- A string with half of a surrogate pair. -/
  | brokenText
  /-- An array. -/
  | array (items : List Json)
  /-- An object, its members in order; a key that spells no text is `none`. -/
  | object (members : List (Option Text × Json))

namespace Json

/-- An object with these members. -/
def record (members : List (Text × Json)) : Json :=
  .object (members.map fun m => (some m.1, m.2))

end Json

end FeatureSheets
