import FeatureSheets.Text.Basic

/-!
# Step keywords

The five words that open a step line. A document spells them in exactly one way: `given` is no
keyword. `split?` recognises a step line, `ofWord?` a word on its own.
-/

namespace FeatureSheets

/-- A word that opens a step line. -/
inductive Keyword where
  /-- `Given`: a state of affairs to start from. -/
  | givenWord
  /-- `When`: an action. -/
  | whenWord
  /-- `Then`: an outcome to check. -/
  | thenWord
  /-- `And`: more of the same. -/
  | andWord
  /-- `But`: more of the same, with a contrast. -/
  | butWord
  deriving DecidableEq, Repr

namespace Keyword

/-- Every keyword. -/
def all : List Keyword :=
  [.givenWord, .whenWord, .thenWord, .andWord, .butWord]

/-- The keyword as a document writes it. -/
def word : Keyword → Text
  | .givenWord => "Given".toList
  | .whenWord => "When".toList
  | .thenWord => "Then".toList
  | .andWord => "And".toList
  | .butWord => "But".toList

/-- The keyword with exactly this spelling. -/
def ofWord? (w : Text) : Option Keyword :=
  all.find? fun k => k.word == w

/-- `Given`, `When` and `Then` open a group of steps; `And` and `But` continue one. -/
def opensGroup : Keyword → Bool
  | .givenWord | .whenWord | .thenWord => true
  | .andWord | .butWord => false

/-- The text of a step that `k` opens: at least one white space must follow the keyword. -/
def textAfter? (k : Keyword) (line : Text) : Option Text :=
  match Text.after? k.word line with
  | some (c :: rest) => if Text.isBlank c then some (Text.trimStart rest) else none
  | _ => none

/-- Splits a step line into its keyword and its text. -/
def split? (line : Text) : Option (Keyword × Text) :=
  all.findSome? fun k => (k.textAfter? line).map (k, ·)

end Keyword

end FeatureSheets
