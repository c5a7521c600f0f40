import FeatureSheets.Keyword
import FeatureSheets.Entries

/-!
# Steps of a sheet

What a sheet says about one step line. A line is keyed when, in any letter case, it opens with a
keyword and white space. Whether its text is an action or an expectation depends on the exact
keywords: `Then` expects, and so does `And` as long as the last of `Given`, `When` and `Then` was
a `Then`. Any other spelling neither expects nor is remembered.
-/

namespace FeatureSheets.Step

/-- What is expected of a step that checks nothing. -/
def noExpectation : Text :=
  "No expected result required for this step".toList

/-- The label of a line that is not keyed. -/
def unkeyedLabel : Text :=
  "Step".toList

/-- The rest of `s` after the keyword `p` in any letter case. -/
def afterFolded? : (p s : Text) → Option Text
  | [], s => some s
  | _ :: _, [] => none
  | p :: ps, c :: s => if p.toLower = c.toLower then afterFolded? ps s else none

/-- Splits a keyed line, without its indentation, at the keyword `k`: the keyword as written and
the text after the white space, up to a line feed. -/
def keyedBy? (line : Text) (k : Keyword) : Option (Text × Text) :=
  match afterFolded? k.word line with
  | some (c :: rest) =>
    if Text.isBlank c then
      some (line.take k.word.length, (Text.trimStart rest).takeWhile (· != '\n'))
    else none
  | _ => none

/-- Splits a keyed line into its keyword as written and its text. -/
def keyed? (line : Text) : Option (Text × Text) :=
  Keyword.all.findSome? (keyedBy? (Text.trimStart line))

/-- What a sheet says about a step. -/
structure Cells where
  /-- The keyword as written. -/
  label : Text
  /-- The text of a step that does something. -/
  description : Text
  /-- The text of a step that checks something. -/
  expected : Text
  deriving DecidableEq, Repr

/-- The group that is open after a line: the last exact `Given`, `When` or `Then`. -/
def groupAfter (group : Option Keyword) (line : Text) : Option Keyword :=
  match (keyed? line).bind (Keyword.ofWord? ·.1) with
  | some k => if k.opensGroup then some k else group
  | none => group

/-- Whether a keyword expects its text, when it continues the group `group`. -/
def expects (group : Option Keyword) : Option Keyword → Bool
  | some .thenWord => true
  | some .andWord => group == some .thenWord
  | _ => false

/-- The cells of a line that follows the group `group`. -/
def cells (group : Option Keyword) (line : Text) : Cells :=
  match keyed? line with
  | none => ⟨unkeyedLabel, Text.trim line, []⟩
  | some (label, text) =>
    if expects group (Keyword.ofWord? label) then ⟨label, [], text⟩
    else ⟨label, text, noExpectation⟩

/-! ## Test input -/

/-- The first placeholder of a line: what stands between a `<` and the next `>`, unless that is
nothing. -/
def placeholder? : Text → Option Text
  | [] => none
  | c :: rest =>
    if c = '<' then
      match rest.takeWhile (· != '>'), rest.dropWhile (· != '>') with
      | d :: name, _ :: _ => some (d :: name)
      | _, _ => placeholder? rest
    else placeholder? rest

/-- The values of a step's first placeholder, each once, in order of first appearance. -/
def testInput (line : Text) (parameters : Option Entries) : Text :=
  match (placeholder? line).bind fun name => parameters.bind (·.get? name) with
  | none => []
  | some value => Text.joinWith '|' (value.splitOn '|').eraseDups

end FeatureSheets.Step
