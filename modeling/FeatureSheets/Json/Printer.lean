import FeatureSheets.Json.Basic

/-!
# Writing JSON

A value is written on one line, or over many with two more blanks per level. In a string the
quote, the backslash and the characters below the blank are escaped, and no others.
-/

namespace FeatureSheets.Json

/-- How a value is laid out. -/
inductive Layout where
  /-- On one line, without a blank. -/
  | compact
  /-- One line per item, indented by level. -/
  | indented
  deriving DecidableEq, Repr

/-- A character as it stands in a string. -/
def escapeChar (c : Char) : Text :=
  match c with
  | '"' => ['\\', '"']
  | '\\' => ['\\', '\\']
  | '\x08' => ['\\', 'b']
  | '\x0c' => ['\\', 'f']
  | '\n' => ['\\', 'n']
  | '\r' => ['\\', 'r']
  | '\t' => ['\\', 't']
  | c =>
    if c.toNat < 0x20 then
      ['\\', 'u', '0', '0', Nat.digitChar (c.toNat / 16), Nat.digitChar (c.toNat % 16)]
    else [c]

/-- A text as a string. -/
def quote (s : Text) : Text :=
  '"' :: s.flatMap escapeChar ++ ['"']

/-- The blanks before an item on a level. -/
def indent (depth : Nat) : Text :=
  List.replicate (2 * depth) ' '

/-- Written items between an opening and a closing mark on a level. -/
def enclose (layout : Layout) (depth : Nat) (first last : Char) (items : List Text) : Text :=
  match layout, items with
  | _, [] => [first, last]
  | .compact, items => first :: Text.joinWith ',' items ++ [last]
  | .indented, items =>
    first :: '\n' :: [',', '\n'].intercalate (items.map (indent (depth + 1) ++ ·)) ++
      '\n' :: indent depth ++ [last]

/-- What stands between a key and its value. -/
def colon : Layout → Text
  | .compact => [':']
  | .indented => [':', ' ']

/-- A key as it is written; one that spells no text is written as an empty one. -/
def writeKey (layout : Layout) (key : Option Text) : Text :=
  quote (key.getD []) ++ colon layout

mutual

/-- A value on a level. A number and a string whose spelling is not kept are written as `null`. -/
def writeAt (layout : Layout) (depth : Nat) : Json → Text
  | .null | .otherNumber | .brokenText => "null".toList
  | .bool true => "true".toList
  | .bool false => "false".toList
  | .natural n => Text.ofNat n
  | .text s => quote s
  | .array items => enclose layout depth '[' ']' (writeItems layout (depth + 1) items)
  | .object members => enclose layout depth '\x7b' '\x7d' (writeMembers layout (depth + 1) members)

/-- The items of an array on a level. -/
def writeItems (layout : Layout) (depth : Nat) : List Json → List Text
  | [] => []
  | v :: rest => writeAt layout depth v :: writeItems layout depth rest

/-- The members of an object on a level. -/
def writeMembers (layout : Layout) (depth : Nat) : List (Option Text × Json) → List Text
  | [] => []
  | (key, v) :: rest =>
    (writeKey layout key ++ writeAt layout depth v) :: writeMembers layout depth rest

end

/-- A value on one line. -/
def compact (v : Json) : Text :=
  writeAt .compact 0 v

/-- A value over many lines. -/
def pretty (v : Json) : Text :=
  writeAt .indented 0 v

end FeatureSheets.Json
