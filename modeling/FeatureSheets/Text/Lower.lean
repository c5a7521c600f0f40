import FeatureSheets.Text.CaseTable

/-!
# Lower case

The full Unicode lower-casing of a text. Every character maps on its own, with one exception: a
capital sigma at the end of a word becomes `ς` and anywhere else `σ`. A word ends at the sigma
when, past the characters that case ignores, a cased letter stands before it and none after it.
-/

namespace FeatureSheets.Text

/-- Whether a run lists the character with code point `n`. -/
def CaseRun.covers (run : CaseRun) (n : Nat) : Bool :=
  run.first ≤ n && n ≤ run.last && (n - run.first) % run.stride == 0

/-- The lower-case form of a character on its own. -/
def lowerChar (c : Char) : Text :=
  if c = '\u0130' then ['i', '\u0307']
  else
    match lowerRuns.find? (·.covers c.toNat) with
    | some run => [Char.ofNat (c.toNat + run.shift).toNat]
    | none => [c]

/-- Whether the first character of `s` that case does not ignore has case. -/
def startsCased (s : Text) : Bool :=
  match s.dropWhile caseIgnorableClass.mem with
  | c :: _ => casedClass.mem c
  | [] => false

/-- The lower-case form of `c` between the text `before`, given in reverse, and `rest`. -/
def lowerBetween (before : Text) (c : Char) (rest : Text) : Text :=
  if c = 'Σ' then (if startsCased before && !startsCased rest then ['ς'] else ['σ'])
  else lowerChar c

/-- The lower-case form of a text that follows `before`, given in reverse. -/
def lowerFrom (before : Text) : Text → Text
  | [] => []
  | c :: rest => lowerBetween before c rest ++ lowerFrom (c :: before) rest

/-- The lower-case form of a text. -/
def lower (s : Text) : Text :=
  lowerFrom [] s

end FeatureSheets.Text
