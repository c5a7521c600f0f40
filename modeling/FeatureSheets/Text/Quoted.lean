import FeatureSheets.Text.HiddenTable

/-!
# Quoted texts

A text between double quotes, for a reader's eye: double quotes and backslashes are escaped, and so
is every character that has no shape of its own. A single quote needs no escape there.
-/

namespace FeatureSheets.Text

/-- A character by its code point, as `\u{...}`. -/
def escapeCode (c : Char) : Text :=
  ['\\', 'u', '\x7b'] ++ ofNatHex c.toNat ++ ['\x7d']

/-- Whether a character has no shape of its own. -/
def isShapeless (c : Char) : Bool :=
  joiningClass.mem c || fillerClass.mem c || unprintableClass.mem c

/-- A character as it stands between quotes. -/
def quoteChar (c : Char) : Text :=
  match c with
  | '\x00' => ['\\', '0']
  | '\t' => ['\\', 't']
  | '\r' => ['\\', 'r']
  | '\n' => ['\\', 'n']
  | '\\' => ['\\', '\\']
  | '"' => ['\\', '"']
  | c => if isShapeless c then escapeCode c else [c]

/-- A text between quotes. -/
def quoted (s : Text) : Text :=
  '"' :: s.flatMap quoteChar ++ ['"']

/-- Quoted texts in brackets, with commas between them. -/
def quotedList (parts : List Text) : Text :=
  '[' :: (", ".toList).intercalate (parts.map quoted) ++ [']']

end FeatureSheets.Text
