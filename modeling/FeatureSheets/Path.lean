import FeatureSheets.Text.Basic

/-!
# Paths

A path is a text that is kept exactly as given. Its components are what stands between the
slashes, without empty ones and without inner dots; two paths are the same place in an order or
in a list when their components agree (`sortKey`), however they are spelled.

By its letters a path leads where it leads without its dots (`lexical`): each pair of dots takes
back the name before it, whatever that name may stand for on a machine. Above the root there is
nothing, so pairs of dots at the root stay there; at the start of any other path they stay as they
are.

A file name splits at its last dot into a stem and an extension; a dot at the very start belongs
to the stem.
-/

namespace FeatureSheets

/-- A path as given. -/
structure Path where
  /-- The spelling of the path. -/
  text : Text
  deriving DecidableEq, Repr, Inhabited

/-- One step of a path. -/
inductive Component where
  /-- The slash at the start. -/
  | root
  /-- A dot at the start. -/
  | here
  /-- Two dots. -/
  | parent
  /-- A name. -/
  | name (text : Text)
  deriving DecidableEq, Repr

namespace Component

/-- The spelling of a component. -/
def text : Component → Text
  | .root => ['/']
  | .here => ['.']
  | .parent => ['.', '.']
  | .name s => s

/-- The component that a segment between slashes stands for; empty segments and dots are none. -/
def ofSegment? (s : Text) : Option Component :=
  if s = [] ∨ s = ['.'] then none
  else if s = ['.', '.'] then some .parent
  else some (.name s)

/-- Components in order: the root, a dot, two dots, then names by their characters. -/
def sortKey : Component → List Nat
  | .root => [0]
  | .here => [1]
  | .parent => [2]
  | .name s => 3 :: s.map Char.toNat

/-- One more component at the end of a way that is given from its end. -/
def stepFrom : List Component → Component → List Component
  | way, .here => way
  | .name _ :: way, .parent => way
  | [.root], .parent => [.root]
  | way, c => c :: way

end Component

namespace Path

/-- The path with this spelling. -/
def ofString (s : String) : Path :=
  ⟨s.toList⟩

/-- The greatest number of bytes of a path that a file system takes. -/
def maxBytes : Nat := 4095

/-- Whether a file system refuses the path for its length. -/
def isTooLong (p : Path) : Bool :=
  decide (maxBytes < p.text.byteCount)

/-- What stands between the slashes. -/
def segments (p : Path) : List Text :=
  p.text.splitOn '/'

/-- Whether the path begins at the root. -/
def isAbsolute (p : Path) : Bool :=
  p.text.head? == some '/'

/-- The components of a path. A dot counts only at the start. -/
def components (p : Path) : List Component :=
  let rest := p.segments.filterMap Component.ofSegment?
  if p.isAbsolute then .root :: rest
  else if p.segments.head? == some ['.'] then .here :: rest
  else rest

/-- The key by which paths are ordered and compared. -/
def sortKey (p : Path) : List (List Nat) :=
  p.components.map Component.sortKey

/-- Whether `p` comes before `q` or at the same place. -/
def le (p q : Path) : Bool :=
  !q.sortKey.lex p.sortKey fun a b => a.lex b

/-- Whether two paths agree component by component. -/
def same (p q : Path) : Bool :=
  p.sortKey == q.sortKey

/-- The path with these components. -/
def ofComponents : List Component → Path
  | [] => ⟨[]⟩
  | .root :: rest => ⟨'/' :: Text.joinWith '/' (rest.map Component.text)⟩
  | parts => ⟨Text.joinWith '/' (parts.map Component.text)⟩

/-- `q` below `p`. An absolute `q` stands by itself; a slash is set only where one is missing. -/
def join (p q : Path) : Path :=
  if q.isAbsolute then q
  else if p.text = [] ∨ p.text.getLast? = some '/' then ⟨p.text ++ q.text⟩
  else ⟨p.text ++ '/' :: q.text⟩

/-- The rest of a path after the components of `base`, if it begins with them. -/
def below? (base p : Path) : Option Path :=
  (base.components.isPrefixOf? p.components).map ofComponents

/-! ## Where a path leads by its letters -/

/-- The components of a path, the dots among them resolved. -/
def lexical (p : Path) : List Component :=
  (p.components.foldl Component.stepFrom []).reverse

/-- Whether `p` is `base` or lies below it: from the place of `base` on there are names alone, and
no pair of dots that would lead out again. -/
def IsWithin (base p : Path) : Prop :=
  ∃ names : List Text, p.lexical = base.lexical ++ names.map Component.name

/-! ## File names -/

/-- The segments before the file name, and the file name: the last segment that names
something. -/
def nameParts? (p : Path) : Option (List Text × Text) :=
  match p.segments.reverse.dropWhile (fun s => s == [] || s == ['.']) with
  | [] => none
  | name :: before => if name = ['.', '.'] then none else some (before.reverse, name)

/-- The file name. -/
def fileName? (p : Path) : Option Text :=
  p.nameParts?.map Prod.snd

/-- Splits a file name at its last dot, unless nothing stands before that dot. -/
def splitName (name : Text) : Text × Option Text :=
  match name.reverse.dropWhile (· != '.') with
  | _ :: c :: before =>
    ((c :: before).reverse, some (name.reverse.takeWhile (· != '.')).reverse)
  | _ => (name, none)

/-- The file name without its extension. -/
def stem? (p : Path) : Option Text :=
  p.fileName?.map fun name => (splitName name).1

/-- What follows the last dot of the file name. -/
def extension? (p : Path) : Option Text :=
  p.fileName?.bind fun name => (splitName name).2

/-- Cuts a path off after the stem of its file name. -/
def cutAfterStem (p : Path) : Path :=
  match p.nameParts? with
  | none => p
  | some (before, name) => ⟨Text.joinWith '/' (before ++ [(splitName name).1])⟩

/-- The path without its extension. As many characters as the extension has are cut off at the
end, and what is left ends after the stem of its file name, if it still has one. -/
def withoutExtension (p : Path) : Path :=
  match p.extension? with
  | none => p.cutAfterStem
  | some e => cutAfterStem ⟨p.text.take (p.text.length - e.length)⟩

end Path

end FeatureSheets
